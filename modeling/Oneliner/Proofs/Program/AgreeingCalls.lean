import Oneliner.Proofs.Program.Agreement

namespace Oneliner
namespace Program
namespace Run

/-!
Operators and functions in place.

Whatever a program calls that keeps to its access does the same whatever lies outside, and
what it gives back keeps to the access as well.  This is said once for every access.
-/

variable {access : Access} {globals : Bindings -> Prop} {hidden : List Text}

/-! ## Operators and comparisons -/

theorem alone_combine (symbol : String) (integers : Int -> Int -> Int)
    (doubles : Double -> Double -> Double) (left right : Value) :
    Alone access globals hidden (Inside access) (combine symbol integers doubles left right) := by
  rw [combine]
  split
  · split
    · exact (Agree.ofExcept fun _ _ => trivial).bind fun value _ => alone_ofScalar value
    · exact Agree.fail _
  · exact Agree.fail _

theorem alone_add (left right : Value) :
    Alone access globals hidden (Inside access) (add left right) := by
  rw [add.eq_def]
  split
  · exact Agree.pure rfl
  · exact Agree.pure rfl
  · refine Agree.get fun machine other sound like => ?_
    rw [like.items_eq]
    refine alone_makeArray fun value member => ?_
    exact (Array.mem_append.mp member).elim sound.items sound.items
  · exact alone_combine _ _ _ _ _

/-- Copies of items are among the items. -/
theorem mem_of_copies {Item : Type} {fault : Fault} {items copies : List Item} {count : Int}
    (copied : Repetition.copies fault items count = .ok copies) {item : Item}
    (member : item ∈ copies) : item ∈ items := by
  rw [Repetition.copies] at copied
  split at copied
  · cases copied
  · cases copied
    split at member
    · cases member
    · rcases List.mem_flatten.mp member with ⟨copy, inCopies, inCopy⟩
      exact List.eq_of_mem_replicate inCopies ▸ inCopy

theorem alone_repeated? {sequence : Value} {count : Int} {product : Run Value}
    (found : repeated? sequence count = some product) :
    Alone access globals hidden (Inside access) product := by
  rw [repeated?.eq_def] at found
  split at found
  · cases found
    exact (Agree.ofExcept fun _ _ => trivial).bind fun _ _ => Agree.pure rfl
  · cases found
    exact (Agree.ofExcept fun _ _ => trivial).bind fun _ _ => Agree.pure rfl
  · rename_i index
    cases found
    refine Agree.get fun machine other sound like => ?_
    rw [like.items_eq]
    have inside : forall copies, Repetition.copies .outOfMemory (machine.items index).toList count =
        .ok copies -> AllInside access copies := fun copies copied value member =>
      sound.items (Array.mem_toList_iff.mp (mem_of_copies copied member))
    exact (Agree.ofExcept inside).bind fun copies hold => alone_makeList hold
  · cases found

theorem alone_times (left right : Value) :
    Alone access globals hidden (Inside access) (times left right) := by
  have product : forall {sequence value : Value} {product : Run Value},
      value.integer?.bind (repeated? sequence) = some product ->
        Alone access globals hidden (Inside access) product := by
    intro sequence value product found
    rcases Option.bind_eq_some_iff.mp found with ⟨count, _, repeated⟩
    exact alone_repeated? repeated
  rw [times]
  cases first : right.integer?.bind (repeated? left) with
  | some _ => exact product first
  | none =>
      cases second : left.integer?.bind (repeated? right) with
      | some _ => exact product second
      | none => exact alone_combine _ _ _ _ _

theorem alone_signed (sign : Sign) {value : Value} (inside : Inside access value) :
    Alone access globals hidden (Inside access) (signed sign value) := by
  rw [signed.eq_def]
  split
  · exact Agree.pure inside
  · exact alone_ofScalar _
  · exact Agree.pure rfl
  · exact Agree.pure rfl
  · exact Agree.fail _
  · exact Agree.fail _

theorem alone_same (left right : Value) :
    Alone access globals hidden (fun _ => True) (same left right) := by
  refine Agree.get fun machine other _ like => ?_
  rw [like.same?_eq]
  cases machine.same? left right with
  | none => exact Agree.fail _
  | some answer => exact Agree.pure trivial

theorem alone_isAmong (value : Value) (values : List Value) :
    Alone access globals hidden (fun _ => True) (isAmong value values) := by
  induction values with
  | nil => exact Agree.pure trivial
  | cons first rest among =>
      rw [isAmong]
      split
      · exact Agree.pure trivial
      · refine (alone_same first value).bind fun same _ => ?_
        split
        · exact Agree.pure trivial
        · exact among

theorem alone_findLine (open' : access.input = true) (value : Value) :
    Alone access globals hidden (fun _ => True) (findLine value) := by
  let behind (lines : List Text) : List Text := lines.dropWhile (.str · ≠ value)
  have reading : findLine value = (modifyGet fun machine : Machine =>
      (!(behind machine.input).isEmpty, { machine with input := (behind machine.input).tail }) :
        Run Bool) := by
    rw [findLine]
    congr 1
    funext machine
    simp only [behind]
    split <;> rename_i found <;> rw [found] <;> rfl
  rw [reading]
  exact Agree.read (fun lines => (!(behind lines).isEmpty, (behind lines).tail)) open'
    (fun lines => (List.tail_suffix _).trans (List.dropWhile_suffix _)) fun _ => trivial

theorem alone_isIn (value : Value) {source : Value} (inside : Inside access source) :
    Alone access globals hidden (fun _ => True) (isIn value source) := by
  rw [isIn.eq_def]
  split
  · split
    · exact Agree.pure trivial
    · exact Agree.fail _
  · split
    · exact Agree.pure trivial
    · split
      · exact Agree.pure trivial
      · exact Agree.fail _
    · exact Agree.fail _
  · exact alone_findLine inside value
  · exact (alone_elements inside).bind fun values _ => alone_isAmong value values

theorem alone_addAll {first : Value} (inside : Inside access first) (values : List Value) :
    Alone access globals hidden (Inside access) (addAll first values) := by
  induction values generalizing first with
  | nil => exact Agree.pure inside
  | cons next rest restAdded => exact (alone_add first next).bind fun sum holds => restAdded holds

theorem alone_increase {value more : Value} (inside : Inside access value)
    (inside' : Inside access more) :
    Alone access globals hidden (Inside access) (increase value more) := by
  rw [increase.eq_def]
  split
  · refine (alone_elements inside').bind fun values hold => ?_
    exact (Agree.forM fun item member => alone_append _ (hold item member)).bind fun _ _ =>
      Agree.pure rfl
  · exact alone_add _ _

theorem alone_lengthOf (value : Value) :
    Alone access globals hidden (Inside access) (lengthOf value) := by
  rw [lengthOf.eq_def]
  split
  · exact Agree.pure rfl
  · exact Agree.pure rfl
  · refine Agree.get fun machine other _ like => ?_
    rw [like.items_eq]
    exact Agree.pure rfl
  · exact Agree.pure rfl
  · exact Agree.fail _

theorem alone_less (left right : Value) :
    Alone access globals hidden (fun _ => True) (less left right) := by
  rw [less]
  split
  · split
    · exact Agree.pure trivial
    · exact Agree.fail _
  · exact Agree.fail _

theorem alone_insertSorted {value : Value} (inside : Inside access value) {values : List Value}
    (hold : AllInside access values) :
    Alone access globals hidden (AllInside access)
      (insertSorted value values) := by
  induction values with
  | nil => exact Agree.pure (List.forall_mem_singleton.mpr inside)
  | cons first rest restSorted =>
      rcases List.forall_mem_cons.mp hold with ⟨firstInside, restInside⟩
      refine (alone_less value first).bind fun before _ => ?_
      split
      · exact Agree.pure (List.forall_mem_cons.mpr ⟨inside, hold⟩)
      · exact (restSorted restInside).bind fun sorted hold =>
          Agree.pure (List.forall_mem_cons.mpr ⟨firstInside, hold⟩)

theorem alone_sort {values : List Value} (hold : AllInside access values) :
    Alone access globals hidden (AllInside access) (sort values) := by
  have from' : forall sorted : List Value, AllInside access sorted ->
      Alone access globals hidden (AllInside access)
        (values.foldlM (fun sorted value => insertSorted value sorted) sorted) := by
    induction values with
    | nil => exact fun sorted sortedInside => Agree.pure sortedInside
    | cons first rest restSorted =>
        intro sorted sortedInside
        rcases List.forall_mem_cons.mp hold with ⟨firstInside, restInside⟩
        rw [List.foldlM_cons]
        exact (alone_insertSorted firstInside sortedInside).bind fun more hold =>
          restSorted restInside more hold
  exact from' [] nofun

theorem alone_best {beats : Value -> Value -> Run Bool}
    (compares : forall left right, Alone access globals hidden (fun _ => True) (beats left right))
    {first : Value} (inside : Inside access first) {values : List Value}
    (hold : AllInside access values) :
    Alone access globals hidden (Inside access) (best beats first values) := by
  induction values generalizing first with
  | nil => exact Agree.pure inside
  | cons next rest restBest =>
      rcases List.forall_mem_cons.mp hold with ⟨nextInside, restInside⟩
      refine (compares next first).bind fun better _ => restBest ?_ restInside
      split
      · exact nextInside
      · exact inside

/-! ## Functions in place -/

theorem alone_integerOrFail (found : Option Int) (fault : Fault) :
    Alone access globals hidden (fun _ => True)
      (match found with
        | some integer => pure integer
        | none => fail fault : Run Int) := by
  cases found with
  | none => exact Agree.fail fault
  | some integer => exact Agree.pure trivial

theorem alone_integerOf (value : Value) :
    Alone access globals hidden (fun _ => True) (integerOf value) := by
  rw [integerOf.eq_def]
  split
  · exact alone_integerOrFail _ _
  · exact alone_integerOrFail _ _
  · exact Agree.fail _
  · exact alone_integerOrFail _ _
  · exact alone_integerOrFail _ _

theorem alone_numberOrFail (text : Text) :
    Alone access globals hidden (Inside access)
      (match Numeral.double? (Numeral.body text) with
        | some number => ofScalar (.float number)
        | none => fail (.notNumber text) : Run Value) := by
  cases Numeral.double? (Numeral.body text) with
  | none => exact Agree.fail _
  | some number => exact alone_ofScalar _

theorem alone_floatOf {value : Value} (inside : Inside access value) :
    Alone access globals hidden (Inside access) (floatOf value) := by
  rw [floatOf.eq_def]
  simp only []
  split
  · exact alone_numberOrFail _
  · exact alone_numberOrFail _
  · exact Agree.pure inside
  · split
    · exact (Agree.ofExcept fun _ _ => trivial).bind fun _ _ => alone_ofScalar _
    · exact Agree.fail _

theorem alone_exit (value : Value) :
    Alone access globals hidden (Inside access) (do
      match (<- get).view value with
      | some status => throw (.exit status)
      | none => fail .tooDeep) := by
  refine Agree.get fun machine other _ like => ?_
  rw [like.view_eq]
  cases machine.view value with
  | none => exact Agree.fail _
  | some status => exact Agree.throw _

theorem memberOf_system (stream : Stream) :
    memberOf (.module "sys".toList) stream.memberName = pure (.output stream) := by
  cases stream <;> rfl

/-- Only the system has the input, the command line and the streams among its members. -/
theorem alone_memberOf {subject : Value} (inside : Inside access subject) {name : Text}
    (plain : subject = .module "sys".toList -> access.members name = true) :
    Alone access globals hidden (Inside access) (memberOf subject name) := by
  rw [memberOf.eq_def]
  simp only []
  split
  · exact Agree.pure rfl
  · exact Agree.pure (Value.allowed_method inside _)
  · split
    · rename_i system
      rcases Bool.and_eq_true_iff.mp (plain (congrArg Value.module system)) with ⟨front, streams⟩
      rcases Bool.and_eq_true_iff.mp front with ⟨input, arguments⟩
      have stream : name ∈ streamMembers -> access.streams = true := by
        intro member
        simpa [member] using streams
      split
      · rename_i same
        have open' : access.input = true := by
          rw [same] at input
          simpa [inputMember] using input
        exact Agree.pure open'
      · split
        · rename_i same
          exact Agree.pure (stream (same ▸ by decide))
        · split
          · rename_i same
            exact Agree.pure (stream (same ▸ by decide))
          · split
            · exact Agree.pure rfl
            · split
              · rename_i same
                rw [same] at arguments
                exact alone_commandList (by simpa [argumentsMember] using arguments)
              · exact Agree.fail _
    · split
      · exact Agree.pure rfl
      · exact Agree.fail _
  · split
    · exact Agree.pure rfl
    · exact Agree.fail _
  · exact Agree.fail _

theorem alone_readLine (open' : access.input = true) :
    Alone access globals hidden (Inside access) readLine := by
  refine (alone_nextLine? open').bind fun found _ => ?_
  cases found with
  | none => exact Agree.fail _
  | some line => exact Agree.pure rfl

theorem alone_ordinalOf (value : Value) :
    Alone access globals hidden (Inside access) (ordinalOf value) := by
  -- The cases are made by hand: telling all characters apart is more than can be decided.
  cases value with
  | scalar value =>
      cases value with
      | str text =>
          rcases text with _ | ⟨char, _ | _⟩
          · exact Agree.fail _
          · exact Agree.pure rfl
          · exact Agree.fail _
      | _ => exact Agree.fail _
  | bytes value =>
      rcases value with _ | ⟨byte, _ | _⟩
      · exact Agree.fail _
      · exact Agree.pure rfl
      · exact Agree.fail _
  | _ => exact Agree.fail _

theorem alone_splitAt (text mark : Text) :
    Alone access globals hidden (Inside access) (splitAt text mark) := by
  rw [splitAt.eq_def]
  split
  · exact alone_makeList (allInside_map _ fun _ => rfl)
  · exact Agree.fail _

theorem alone_close : Alone access globals hidden (fun _ => True)
    (modify fun machine : Machine => { machine with fileOpen := false }) :=
  Agree.modified (fun _ _ _ _ => rfl) (fun _ => ⟨.rfl, rfl⟩) fun _ sound =>
    ⟨sound.globals, sound.lists, sound.functions, sound.unasked⟩

theorem alone_callMethod {subject : Value} {method : Method}
    (inside : Inside access (.method subject method)) {arguments : List Value}
    (hold : AllInside access arguments) :
    Alone access globals hidden (Inside access) (callMethod subject method arguments) := by
  rw [callMethod.eq_def]
  simp only []
  split
  · exact Agree.pure rfl
  · exact Agree.pure rfl
  · exact Agree.pure rfl
  · exact Agree.pure rfl
  · exact Agree.pure rfl
  · exact Agree.pure rfl
  · exact Agree.pure rfl
  · exact Agree.fail _
  · exact Agree.fail _
  · refine (Agree.mapM fun value _ => alone_textOf value).bind fun texts _ => ?_
    split
    · exact Agree.pure rfl
    · exact Agree.fail _
  · split
    · exact Agree.pure rfl
    · exact Agree.fail _
  · exact alone_splitAt _ _
  · exact (alone_append _ (hold _ List.mem_cons_self)).bind fun _ _ => Agree.pure rfl
  · exact (alone_remainingLines inside).bind fun lines _ =>
      alone_makeList (allInside_map _ fun _ => rfl)
  · exact (alone_write _ _).bind fun _ _ => Agree.pure rfl
  · exact (alone_shut inside _).bind fun _ _ => Agree.pure rfl
  · exact alone_close.bind fun _ _ => Agree.pure rfl
  · exact Agree.fail _

theorem alone_callUnbound (owner : Builtin) (method : Method) {arguments : List Value}
    (hold : AllInside access arguments) :
    Alone access globals hidden (Inside access) (callUnbound owner method arguments) := by
  cases arguments with
  | nil => exact Agree.fail _
  | cons subject rest =>
      rcases List.forall_mem_cons.mp hold with ⟨inside, restInside⟩
      rw [callUnbound]
      split
      · exact alone_callMethod (Value.allowed_method inside method) restInside
      · exact Agree.fail _

/-- No kind has the name of a function that gives access. -/
theorem typeName_not_mem_outsideNames (value : Value) : value.typeName ∉ outsideNames := by
  have kinds : ∀ name ∈ ["NoneType", "bool", "int", "float", "str", "bytes", "list", "range", "type",
      "function", "builtin_function_or_method", "_io.TextIOWrapper", "module", "Values", "object"],
      name.toList ∉ outsideNames := by decide
  cases value with
  | scalar value =>
      cases value with
      | null => exact kinds "NoneType" (by decide)
      | bool => exact kinds "bool" (by decide)
      | int => exact kinds "int" (by decide)
      | float => exact kinds "float" (by decide)
      | str => exact kinds "str" (by decide)
  | nan => exact kinds "float" (by decide)
  | bytes => exact kinds "bytes" (by decide)
  | list => exact kinds "list" (by decide)
  | range => exact kinds "range" (by decide)
  | builtin function =>
      rw [Value.typeName.eq_def]
      simp only []
      split
      · exact kinds "function" (by decide)
      · exact kinds "function" (by decide)
      · exact kinds "function" (by decide)
      · exact kinds "function" (by decide)
      · exact kinds "function" (by decide)
      · split
        · exact kinds "type" (by decide)
        · exact kinds "builtin_function_or_method" (by decide)
  | method => exact kinds "builtin_function_or_method" (by decide)
  | function => exact kinds "function" (by decide)
  | input | output | file => exact kinds "_io.TextIOWrapper" (by decide)
  | module => exact kinds "module" (by decide)
  | record => exact kinds "Values" (by decide)
  | object => exact kinds "object" (by decide)

theorem inside_kindOf (value : Value) : Inside access (kindOf value) := by
  rw [kindOf]
  split
  · rename_i kind found
    exact Builtin.allowed_of_inPlace?
      (access.names_of_not_mem (typeName_not_mem_outsideNames value)) found
  · rfl

section Calls

variable {dispatch : Dispatch} (quiet : dispatch.Sound access globals)

include quiet

/-- The function that writes on a stream gives no access to the stream. -/
theorem alone_emit (stream : Stream) {value : Value} :
    Alone access globals hidden (Inside access) (emit dispatch stream.memberName value) := by
  have written : forall {function : Value}, Inside access function ->
      Alone access globals hidden (Inside access) (do
        let text <- textOf value
        let _ <- dispatch.call function [.str (text ++ ['\n'])]
        return .nothing) := by
    intro function inside
    refine (alone_textOf value).bind fun text _ => ?_
    exact (quiet.call inside (List.forall_mem_singleton.mpr rfl)).bind fun _ _ => Agree.pure rfl
  refine (alone_find quiet.found (access.names_of_not_mem (by decide))).bind
    fun system systemInside => ?_
  by_cases same : system = .module "sys".toList
  · have member : memberOf (.output stream) "write".toList =
        pure (.method (.output stream) .write) := rfl
    rw [same, memberOf_system, pure_bind, member, pure_bind]
    exact written rfl
  · refine (alone_memberOf systemInside fun known => absurd known same).bind
      fun found foundInside => ?_
    exact (alone_memberOf foundInside fun _ => access.members_of_not_mem (by decide)).bind
      fun _ => written

theorem alone_callFound {name : Text} (plain : name ∉ outsideNames) {value : Value}
    (inside : Inside access value) :
    Alone access globals hidden (Inside access) (do dispatch.call (<- find name) [value]) :=
  (alone_find quiet.found (access.names_of_not_mem plain)).bind fun _ found =>
    quiet.call found (List.forall_mem_singleton.mpr inside)

theorem alone_convert {value : Value} (inside : Inside access value) :
    Alone access globals hidden (Inside access) (convert dispatch value) :=
  Agree.tryCatch (alone_callFound quiet (by decide) inside) fun _ =>
    Agree.tryCatch (alone_callFound quiet (by decide) inside) fun _ =>
      Agree.pure inside

theorem alone_callBuiltin {function : Builtin} (allowed : function.allowed access = true)
    {arguments : List Value} (hold : AllInside access arguments) :
    Alone access globals hidden (Inside access) (callBuiltin dispatch function arguments) := by
  rw [callBuiltin.eq_def]
  extract_lets withInteger choose
  have ofInteger : forall (value : Value) {act : Int -> Run Value},
      (forall integer, Alone access globals hidden (Inside access) (act integer)) ->
        Alone access globals hidden (Inside access) (withInteger value act) := by
    intro value act alone
    simp only [withInteger]
    split
    · exact alone _
    · exact Agree.fail _
  have ofChoice : forall {beats : Value -> Value -> Run Bool} {values : List Value},
      (forall left right, Alone access globals hidden (fun _ => True) (beats left right)) ->
        AllInside access values ->
          Alone access globals hidden (Inside access) (choose beats values) := by
    intro beats values compares inside
    simp only [choose]
    split
    · exact Agree.fail _
    · rename_i first rest
      rcases List.forall_mem_cons.mp inside with ⟨firstInside, restInside⟩
      exact alone_best compares firstInside restInside
  have all : forall {value : Value} {decide : List Value -> (Value -> Bool) -> Bool},
      Inside access value ->
      Alone access globals hidden (Inside access) (do
        let values <- elements value
        return .bool (decide values (<- get).holds)) := by
    intro value decide inside
    refine (alone_elements inside).bind fun values _ => ?_
    refine Agree.get fun machine other _ like => ?_
    rw [like.holds_eq]
    exact Agree.pure rfl
  split
  · exact alone_emit quiet .out
  · exact alone_emit quiet .err
  · exact alone_callFound quiet (by decide) (hold _ List.mem_cons_self)
  · refine (alone_find quiet.found (access.names_of_not_mem (by decide))).bind fun _ found => ?_
    exact (quiet.call found hold).bind fun _ _ => Agree.pure rfl
  · exact alone_convert quiet (hold _ List.mem_cons_self)
  · split
    · exact alone_ofScalar _
    · exact ofInteger _ fun _ => Agree.pure rfl
  · exact all (hold _ List.mem_cons_self)
  · exact all (hold _ List.mem_cons_self)
  · exact ofInteger _ fun _ => Agree.pure rfl
  · exact ofInteger _ fun _ => Agree.pure rfl
  · exact ofInteger _ fun _ => Agree.pure rfl
  · exact Agree.pure rfl
  · refine ofInteger _ fun integer => ?_
    split
    · exact Agree.pure rfl
    · exact Agree.fail _
  · cases allowed
  · cases allowed
  · exact Agree.throw _
  · exact Agree.throw _
  · exact alone_exit _
  · exact alone_exit _
  · exact (alone_textOf _).bind fun _ _ => Agree.pure rfl
  · exact (alone_elements (hold _ List.mem_cons_self)).bind fun _ =>
      ofChoice fun left right => alone_less right left
  · exact ofChoice (fun left right => alone_less right left) hold
  · exact (alone_elements (hold _ List.mem_cons_self)).bind fun _ => ofChoice alone_less
  · exact ofChoice alone_less hold
  · exact alone_lengthOf _
  · exact alone_ordinalOf _
  · refine (Agree.mapM fun value _ => alone_textOf value).bind fun texts _ => ?_
    exact (alone_write _ _).bind fun _ _ => Agree.pure rfl
  · exact (alone_viewOf _).bind fun _ _ => Agree.pure rfl
  · exact (alone_viewOf _).bind fun _ _ => Agree.pure rfl
  · exact alone_readLine allowed
  · exact (alone_textOf _).bind fun _ _ => (alone_write _ _).bind fun _ _ => alone_readLine allowed
  · refine (alone_elements (hold _ List.mem_cons_self)).bind fun values inside => ?_
    exact (alone_sort inside).bind fun sorted sortedInside => alone_makeList sortedInside
  · exact (alone_elements (hold _ List.mem_cons_self)).bind fun values _ => alone_addAll rfl values
  · refine (alone_elements (hold _ List.mem_cons_self)).bind fun values _ => ?_
    split
    · exact Agree.fail _
    · exact Agree.fail _
    · exact alone_addAll (hold _ (List.mem_cons_of_mem _ List.mem_cons_self)) values
  · exact Agree.pure rfl
  · refine Agree.get fun machine other _ like => ?_
    rw [like.holds_eq]
    exact Agree.pure rfl
  · exact Agree.pure rfl
  · refine (alone_elements (hold _ List.mem_cons_self)).bind fun values _ => ?_
    split
    · exact Agree.pure rfl
    · exact Agree.fail _
  · exact alone_ofScalar _
  · exact alone_floatOf (hold _ List.mem_cons_self)
  · exact Agree.pure rfl
  · exact (alone_integerOf _).bind fun _ _ => Agree.pure rfl
  · exact alone_makeList nofun
  · exact (alone_elements (hold _ List.mem_cons_self)).bind fun values inside =>
      alone_makeList inside
  · exact ofInteger _ fun _ => Agree.pure rfl
  · exact ofInteger _ fun _ => ofInteger _ fun _ => Agree.pure rfl
  · exact Agree.pure rfl
  · exact Agree.pure rfl
  · exact Agree.fail _
  · exact Agree.pure rfl
  · exact (alone_textOf _).bind fun _ _ => Agree.pure rfl
  · exact Agree.pure (inside_kindOf _)
  · exact alone_callUnbound _ _ hold
  · exact Agree.fail _
  · exact Agree.fail _

end Calls

end Run
end Program
end Oneliner
