import Oneliner.Program.Evaluation
import Oneliner.Proofs.Action

namespace Oneliner
namespace Program

/-!
Single steps of programs on a machine of which enough is known, and loops that take
such steps.
-/

/-! ## Values for scalars -/

namespace Value

/-- The value for a scalar, if so many results have not been numbers so far. -/
def marked (marks : Nat) : Scalar -> Value
  | .float .nan => .nan marks
  | value => .scalar value

/-- The number of results that are not numbers, after one for a scalar. -/
def marksAfter (marks : Nat) : Scalar -> Nat
  | .float .nan => marks + 1
  | _ => marks

/-- The values for scalars, one after the other. -/
def row (marks : Nat) : List Scalar -> List Value
  | [] => []
  | first :: rest => marked marks first :: row (marksAfter marks first) rest

theorem row_append (marks : Nat) (front back : List Scalar) :
    row marks (front ++ back) = row marks front ++ row (front.foldl marksAfter marks) back := by
  induction front generalizing marks with
  | nil => rfl
  | cons first rest restRow => exact congrArg (marked marks first :: ·) (restRow _)

theorem row_str (marks : Nat) (texts : List Text) :
    row marks (texts.map .str) = texts.map .str ∧ (texts.map .str).foldl marksAfter marks = marks := by
  induction texts with
  | nil => exact ⟨rfl, rfl⟩
  | cons first rest restRow => exact ⟨congrArg (Value.str first :: ·) restRow.1, restRow.2⟩

theorem scalar?_marked (marks : Nat) (scalar : Scalar) :
    (marked marks scalar).scalar? = some scalar := by
  rw [marked.eq_def]
  split <;> rfl

theorem map_scalar?_row (marks : Nat) (scalars : List Scalar) :
    (row marks scalars).map scalar? = scalars.map some := by
  induction scalars generalizing marks with
  | nil => rfl
  | cons first rest restRow => rw [row, List.map_cons, List.map_cons, scalar?_marked, restRow]

theorem exists_of_mem_row {marks : Nat} {scalars : List Scalar} {value : Value}
    (member : value ∈ row marks scalars) :
    Exists fun scalar => scalar ∈ scalars ∧ value.scalar? = some scalar := by
  have mapped := List.mem_map_of_mem (f := scalar?) member
  rw [map_scalar?_row] at mapped
  rcases List.mem_map.mp mapped with ⟨scalar, inScalars, stands⟩
  exact ⟨scalar, inScalars, stands.symm⟩

theorem filterMap_scalar?_row (marks : Nat) (scalars : List Scalar) :
    (row marks scalars).filterMap scalar? = scalars := by
  have mapped := congrArg (List.filterMap id) (map_scalar?_row marks scalars)
  rwa [List.filterMap_map, List.filterMap_map, Function.id_comp, Function.id_comp,
    List.filterMap_some] at mapped

end Value

namespace Run

theorem runOn_ofScalar (scalar : Scalar) (machine : Machine) :
    (ofScalar scalar).runOn machine =
      (.ok (.marked machine.marks scalar),
        { machine with marks := Value.marksAfter machine.marks scalar }) := by
  cases scalar with
  | float number => cases number <;> rfl
  | _ => rfl

/-- What can be written of a scalar is its text. -/
theorem runOn_textOf {value : Value} {scalar : Scalar} (stands : value.scalar? = some scalar)
    (writable : scalar.writable = true) (machine : Machine) :
    (textOf value).runOn machine = (.ok scalar.text, machine) := by
  have view : machine.view value = some (.scalar scalar) := by
    rw [Machine.view, Machine.viewWithin.eq_def]
    cases value with
    | scalar => exact congrArg (·.map Datum.scalar) stands
    | nan => exact congrArg (·.map Datum.scalar) stands
    | _ => cases stands
  have viewed : (viewOf value).runOn machine = (.ok (.scalar scalar), machine) := by
    rw [viewOf, Action.runOn_bind_ok (Action.runOn_get machine), view]
    simp only [Datum.writable, writable, if_true]
    rfl
  rw [textOf, Action.runOn_bind_ok viewed]
  rfl

/-! ## Names -/

theorem runOn_find_global {machine : Machine} {name : Text} {value : Value}
    (found : machine.globals.lookup name = some value) :
    (find name).runOn machine = (.ok value, machine) := by
  rw [find, Action.runOn_bind_ok (Action.runOn_get machine), found]
  rfl

theorem runOn_find_inPlace {machine : Machine} {name : Text} {value : Value}
    (missing : machine.globals.lookup name = none) (inPlace : Builtin.inPlace? name = some value) :
    (find name).runOn machine = (.ok value, machine) := by
  rw [find, Action.runOn_bind_ok (Action.runOn_get machine), missing, inPlace]
  rfl

end Run

namespace Scope

variable {scope : Scope} {machine : Machine} {name : Text} {value : Value}

theorem runOn_find_running (found : scope.running.lookup name = some value) :
    (scope.find name).runOn machine = (.ok value, machine) := by
  rw [find, found]
  rfl

theorem runOn_find_local (idle : scope.running.lookup name = none)
    (owned : scope.isVariable name = true) (found : machine.locals.lookup name = some value) :
    (scope.find name).runOn machine = (.ok value, machine) := by
  rw [find, idle]
  simp only [owned, if_true]
  rw [Action.runOn_bind_ok (Action.runOn_get machine), found]
  rfl

theorem runOn_find_global (idle : scope.running.lookup name = none)
    (free : scope.isVariable name = false) (found : machine.globals.lookup name = some value) :
    (scope.find name).runOn machine = (.ok value, machine) := by
  rw [find, idle]
  simp only [free, Bool.false_eq_true, if_false]
  exact Run.runOn_find_global found

end Scope

namespace Run

/-! ## Conversions -/

theorem inPlace?_int : Builtin.inPlace? "int".toList = some (.builtin .int) := by decide

theorem inPlace?_float : Builtin.inPlace? "float".toList = some (.builtin .float) := by
  decide

/-- A conversion ends in the number that the text writes, or else in the text, as long
as the kinds of numbers are found in place. -/
theorem call_int (depth : Nat) (text : Text) :
    (Dispatch.within (depth + 1)).call (.builtin .int) [.str text] =
      (match Numeral.integer? (Numeral.body text) with
        | some integer => pure integer
        | none => fail (.notInteger text) : Run Int) >>= fun integer => pure (.int integer) := rfl

theorem call_float (depth : Nat) (text : Text) :
    (Dispatch.within (depth + 1)).call (.builtin .float) [.str text] =
      (match Numeral.double? (Numeral.body text) with
        | some number => ofScalar (.float number)
        | none => fail (.notNumber text) : Run Value) := rfl

theorem runOn_convert {machine : Machine} (int : machine.globals.lookup "int".toList = none)
    (float : machine.globals.lookup "float".toList = none) (depth : Nat) (text : Text) :
    (convert (.within (depth + 1)) (.str text)).runOn machine =
      (ofScalar (Scalar.str text).convert).runOn machine := by
  rw [convert, Action.runOn_tryCatch,
    Action.runOn_bind_ok (runOn_find_inPlace int inPlace?_int), call_int]
  cases integer : Numeral.integer? (Numeral.body text) with
  | some value =>
      have read : (Scalar.str text).convert = .int value := by
        rw [Scalar.convert, Numeral.read?, integer]
        rfl
      rw [read]
      rfl
  | none =>
      have converted : (Scalar.str text).convert =
          ((Numeral.double? (Numeral.body text)).map Scalar.float).getD (.str text) := by
        rw [Scalar.convert, Numeral.read?, integer]
      change (tryCatch _ _ : Run Value).runOn machine = _
      rw [converted, Action.runOn_tryCatch,
        Action.runOn_bind_ok (runOn_find_inPlace float inPlace?_float), call_float]
      cases Numeral.double? (Numeral.body text) with
      | some number => cases number <;> rfl
      | none => rfl

/-! ## Functions -/

/-- A function runs its body with its argument as the only variable. -/
theorem runOn_callFunction {dispatch : Dispatch} {machine : Machine} {index : Nat}
    {function : Function} (found : machine.functions[index]? = some function) (argument : Value) :
    (callFunction dispatch index [argument]).runOn machine =
      (do
        withLocals [(function.parameter, argument)]
          (function.body.exec dispatch (.ofFunction function))
        return .nothing : Run Value).runOn machine := by
  rw [callFunction, Action.runOn_bind_ok (Action.runOn_get machine), found]

/-! ## Loops -/

/-- What holds at first and after each action holds in the end. -/
theorem exists_runOn_forM {Item : Type} {act : Item -> Run Unit} {items : List Item}
    {holds : List Item -> Machine -> Prop}
    (step : forall done item rest machine, items = done ++ item :: rest -> holds done machine ->
      Exists fun later => (act item).runOn machine = (.ok (), later) ∧ holds (done ++ [item]) later)
    {machine : Machine} (start : holds [] machine) :
    Exists fun later => (items.forM act).runOn machine = (.ok (), later) ∧ holds items later := by
  suffices further : forall rest done machine, items = done ++ rest -> holds done machine ->
      Exists fun later => (rest.forM act).runOn machine = (.ok (), later) ∧ holds items later from
    further items [] machine rfl start
  intro rest
  induction rest with
  | nil =>
      intro done machine whole holding
      rw [List.append_nil] at whole
      exact ⟨machine, rfl, whole ▸ holding⟩
  | cons item rest loop =>
      intro done machine whole holding
      rcases step done item rest machine whole holding with ⟨middle, acted, held⟩
      rcases loop (done ++ [item]) middle (by rw [whole, List.append_assoc]; rfl) held with
        ⟨later, looped, last⟩
      exact ⟨later, (Action.runOn_bind_ok acted).trans looped, last⟩

section Items

variable {Item : Type} {index : Nat} {act : Value -> Run Unit} {items : List Item}
  {value : Item -> Value} {holds : List Item -> Machine -> Prop}
  (held : forall {done machine}, holds done machine ->
    machine.items index = (items.map value).toArray)
  (step : forall done item rest machine, items = done ++ item :: rest -> holds done machine ->
    Exists fun later =>
      (act (value item)).runOn machine = (.ok (), later) ∧ holds (done ++ [item]) later)

include held step

theorem exists_runOn_forItems {machine : Machine} (start : holds [] machine) {count : Nat}
    (enough : items.length ≤ count) :
    Exists fun later => (forItems index act count 0).runOn machine = (.ok (), later) ∧
      holds items later := by
  suffices further : forall rest done machine count, items = done ++ rest -> holds done machine ->
      rest.length ≤ count -> Exists fun later =>
        (forItems index act count done.length).runOn machine = (.ok (), later) ∧
          holds items later from
    further items [] machine count rfl start enough
  intro rest
  induction rest with
  | nil =>
      intro done machine count whole holding _
      have found : (machine.items index)[done.length]? = none := by
        rw [held holding, whole]
        simp
      rw [List.append_nil] at whole
      refine ⟨machine, ?_, whole ▸ holding⟩
      cases count with
      | zero => rfl
      | succ count =>
          rw [forItems, Action.runOn_bind_ok (Action.runOn_get machine), found]
          rfl
  | cons item rest loop =>
      intro done machine count whole holding enough
      cases count with
      | zero => cases enough
      | succ count =>
          have found : (machine.items index)[done.length]? = some (value item) := by
            rw [held holding, whole]
            simp
          rcases step done item rest machine whole holding with ⟨middle, acted, kept⟩
          rcases loop (done ++ [item]) middle count (by rw [whole, List.append_assoc]; rfl) kept
            (Nat.le_of_succ_le_succ enough) with ⟨later, looped, last⟩
          refine ⟨later, ?_, last⟩
          rw [List.length_append] at looped
          rw [forItems, Action.runOn_bind_ok (Action.runOn_get machine), found]
          exact (Action.runOn_bind_ok acted).trans looped

/-- The same for the items of a list, as long as it is not changed meanwhile. -/
theorem exists_runOn_forEach {machine : Machine} (start : holds [] machine) :
    Exists fun later => (forEach (.list index) act).runOn machine = (.ok (), later) ∧
      holds items later := by
  have size : (machine.items index).size = items.length := by
    rw [held start, List.size_toArray, List.length_map]
  rw [forEach, Action.runOn_bind_ok (Action.runOn_get machine), size]
  -- The bound on the number of items is made a variable, since nothing may compute it.
  generalize maxItems = most
  exact exists_runOn_forItems held step start (Nat.le_add_right _ _)

end Items

end Run
end Program
end Oneliner
