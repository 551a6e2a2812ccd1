import Oneliner.Proofs.Script.Collecting
import Oneliner.Proofs.Session.Calling

namespace Oneliner

open Program

/-!
Sessions that run their code once, on the list of all lines.

The statement in front of the code takes all lines from the input.  It makes the same
readings of them as a loop does, but all at once.
-/

/-! ## Memory -/

namespace Program.Machine

theorem modify_push_size {Item : Type} (front : Array Item) (last : Item)
    (change : Item -> Item) :
    (front.push last).modify front.size change = front.push (change last) := by
  apply Array.ext
  · rw [Array.size_modify, Array.size_push, Array.size_push]
  · intro index _ inside
    rw [Array.size_push] at inside
    rw [Array.getElem_modify, Array.getElem_push, Array.getElem_push]
    split <;> split <;> first | rfl | omega

theorem items_push_of_lt (machine : Machine) (more : Array Value) {index : Nat}
    (old : index < machine.lists.size) :
    { machine with lists := machine.lists.push more }.items index = machine.items index := by
  simp [items, Array.getElem?_push, Nat.ne_of_lt old]

theorem items_push_size (machine : Machine) (more : Array Value) :
    { machine with lists := machine.lists.push more }.items machine.lists.size = more := by
  simp [items]

/-- The machine after a list has been made of scalars, one by one. -/
def withRow (machine : Machine) (scalars : List Scalar) : Machine :=
  { machine with
    lists := machine.lists.push (Value.row machine.marks scalars).toArray
    marks := scalars.foldl Value.marksAfter machine.marks }

/-- The list grows by one scalar after the other. -/
theorem runOn_push_withRow (machine : Machine) (scalars : List Scalar) (next : Scalar) :
    (do Run.push machine.lists.size (<- Run.ofScalar next) : Run Unit).runOn
        (machine.withRow scalars) = (.ok (), machine.withRow (scalars ++ [next])) := by
  have row : (Value.row machine.marks (scalars ++ [next])).toArray =
      (Value.row machine.marks scalars).toArray.push
        (.marked (scalars.foldl Value.marksAfter machine.marks) next) := by
    rw [Value.row_append, List.push_toArray]
    rfl
  have grown : machine.withRow (scalars ++ [next]) =
      { machine with
        lists := (machine.withRow scalars).lists.modify machine.lists.size
          (·.push (.marked (machine.withRow scalars).marks next))
        marks := Value.marksAfter (machine.withRow scalars).marks next } := by
    rw [withRow, row, List.foldl_append, withRow, modify_push_size]
    rfl
  rw [Action.runOn_bind_ok (Run.runOn_ofScalar next _), grown]
  rfl

end Program.Machine

/-! ## The list of all readings -/

namespace Script

open Sections (subject)

section Reading

variable {scope : Scope} (prepares : Prepares scope) {machine : Machine} {depth : Nat}

include prepares

theorem runOn_linesExpr (free : scope.isVariable "sys".toList = false)
    (system : machine.globals.lookup "sys".toList = some (.module "sys".toList)) :
    (linesExpr.eval (.within (depth + 1)) scope).runOn machine =
      (.ok (.list machine.lists.size), { machine with
        input := []
        lists := machine.lists.push (machine.input.map .str).toArray }) := by
  have found := Scope.runOn_find_global (by rw [prepares.running]; rfl) free system
  have function : ((Expr.member (.member (.name "sys".toList) "stdin".toList)
      "readlines".toList).eval (.within (depth + 1)) scope).runOn machine =
        (.ok (.method .input .readLines), machine) := by
    rw [Expr.eval, Expr.eval, Expr.eval, Action.runOn_bind, Action.runOn_bind_ok found]
    rfl
  rw [linesExpr, Expr.eval, Action.runOn_bind_ok function]
  rfl

omit prepares in
theorem runOn_trimmedExpr {line : Text} (isLine : line.IsInputLine) :
    (trimmedExpr.eval (.within (depth + 1)) (scope.run ['a'] (.str line))).runOn machine =
      (.ok (.str line.unended), machine) := by
  have found : ((scope.run ['a'] (.str line)).find ['a']).runOn machine = (.ok (.str line), machine) :=
    Scope.runOn_find_running rfl
  have function : ((Expr.member (.name ['a']) "rstrip".toList).eval (.within (depth + 1))
      (scope.run ['a'] (.str line))).runOn machine = (.ok (.method (.str line) .trimEnd), machine) := by
    rw [Expr.eval, Expr.eval, Action.runOn_bind_ok found]
    rfl
  rw [trimmedExpr, Expr.eval, Action.runOn_bind_ok function, ← isLine.dropEnding]
  rfl

/-- One line becomes its reading. -/
theorem runOn_itemExpr (converts : Converts machine.globals) {script : Script}
    (trim : script.trim = true)
    (apart : script.convert = true -> scope.isVariable convertName = false) {line : Text}
    (isLine : line.IsInputLine) :
    (script.itemExpr.eval (.within (depth + 2)) (scope.run ['a'] (.str line))).runOn machine =
      (.ok (.marked machine.marks (script.reading line)),
        { machine with marks := Value.marksAfter machine.marks (script.reading line) }) := by
  rw [itemExpr, reading, trim]
  cases convert : script.convert with
  | false => exact runOn_trimmedExpr isLine
  | true =>
      have idle : (scope.run ['a'] (.str line)).running.lookup convertName = none := by
        rw [Scope.run, prepares.running]
        rfl
      have function := Scope.runOn_find_global idle (apart convert) converts.convert
      have arguments : (Expr.evalItems (.within (depth + 2)) (scope.run ['a'] (.str line))
          [trimmedExpr]).runOn machine = (.ok [.str line.unended], machine) := by
        rw [Expr.evalItems, Action.runOn_bind_ok (runOn_trimmedExpr isLine)]
        rfl
      change ((Expr.call (.name convertName) [trimmedExpr]).eval _ _).runOn machine = _
      rw [Expr.eval, Expr.eval, Action.runOn_bind_ok function, Action.runOn_bind_ok arguments]
      change _ = (Except.ok (Value.marked machine.marks (Scalar.str line.unended).convert),
        { machine with marks := Value.marksAfter machine.marks (Scalar.str line.unended).convert })
      rw [← Run.runOn_ofScalar, ← Run.runOn_convert converts.int converts.float depth]
      rfl

/-- The readings of all lines are put into a new list. -/
theorem exists_runOn_collectExpr (free : scope.isVariable "sys".toList = false)
    (system : machine.globals.lookup "sys".toList = some (.module "sys".toList))
    (converts : Converts machine.globals) (script : Script)
    (apart : script.trim = true -> script.convert = true -> scope.isVariable convertName = false)
    (areLines : ∀ line ∈ machine.input, line.IsInputLine) :
    Exists fun earlier : Array (Array Value) =>
      (script.collectExpr.eval (.within (depth + 2)) scope).runOn machine =
        (.ok (.list earlier.size), Machine.withRow { machine with input := [], lists := earlier }
          (machine.input.map script.reading)) := by
  have source := @runOn_linesExpr _ prepares _ (depth + 1) free system
  cases trim : script.trim with
  | false =>
      have reading : script.reading = .str := by
        funext line
        rw [Script.reading, trim]
        rfl
      refine ⟨machine.lists, ?_⟩
      rw [collectExpr, trim, reading, Machine.withRow, (Value.row_str _ _).1, (Value.row_str _ _).2]
      exact source
  | true =>
      let base : Machine := { machine with
        input := []
        lists := machine.lists.push (machine.input.map .str).toArray }
      let act (item : Value) : Run Unit := do
        Run.push base.lists.size
          (<- script.itemExpr.eval (.within (depth + 2)) (scope.run ['a'] item))
      let holds (done : List Text) (found : Machine) : Prop :=
        found = base.withRow (done.map script.reading)
      have held : forall {done found}, holds done found ->
          found.items machine.lists.size = (machine.input.map .str).toArray := by
        rintro done found rfl
        have old : machine.lists.size < base.lists.size := by
          rw [Array.size_push]
          exact Nat.lt_succ_self _
        exact (Machine.items_push_of_lt base _ old).trans (Machine.items_push_size _ _)
      have step : forall done line rest found, machine.input = done ++ line :: rest ->
          holds done found -> Exists fun later =>
            (act (.str line)).runOn found = (.ok (), later) ∧ holds (done ++ [line]) later := by
        rintro done line rest found whole rfl
        have isLine := areLines line (whole ▸ List.mem_append_right done List.mem_cons_self)
        refine ⟨base.withRow ((done ++ [line]).map script.reading), ?_, rfl⟩
        rw [List.map_append, List.map_cons, List.map_nil, ← Machine.runOn_push_withRow,
          Action.runOn_bind_ok (Run.runOn_ofScalar _ _)]
        exact Action.runOn_bind_ok (@runOn_itemExpr _ prepares
          (base.withRow (done.map script.reading)) depth converts _ trim (apart trim) _ isLine)
      have stored : (Run.storeList #[]).runOn base = (.ok base.lists.size, base.withRow []) := rfl
      rcases @Run.exists_runOn_forEach _ _ act _ _ holds held step (base.withRow []) rfl with
        ⟨later, looped, rfl⟩
      refine ⟨base.lists, ?_⟩
      rw [collectExpr, trim]
      change ((Expr.comprehension script.itemExpr ['a'] linesExpr).eval _ scope).runOn machine = _
      rw [Expr.eval, Action.runOn_bind_ok source, Action.runOn_bind_ok stored,
        Action.runOn_bind_ok looped]
      rfl

end Reading

end Script

/-! ## The session -/

namespace Execution

open Workspace

/-- The function that a script makes of code for the list of all lines. -/
def collector (script : Script) (main : Stmt) : Function :=
  ⟨inputMember, .seq script.collectStmt main⟩

/-- The machine on which the code is run, if there have been other lists before. -/
def gathered (options : Command.Options) (main : Stmt) (arguments : List Text)
    (earlier : Array (Array Value)) (readings : List Scalar) : Machine :=
  Machine.withRow
    { called options (collector (.ofOptions options) main) arguments [] with
      locals := Bindings.set [(inputMember, .input)] Sections.subject (.list earlier.size)
      lists := earlier }
    readings

theorem isVariable_collector (script : Script) (main : Stmt) (name : Text) :
    (Scope.ofFunction (collector script main)).isVariable name =
      (inputMember :: Sections.subject :: main.assigned).contains name := rfl

theorem prepares_collector (script : Script) (main : Stmt) :
    Script.Prepares (.ofFunction (collector script main)) := by
  refine ⟨rfl, ?_, rfl⟩
  rw [isVariable_collector]
  simp

/-- Names that the code does not assign are no variables of the function. -/
theorem isVariable_collector_of_not_mem (script : Script) {main : Stmt} {name : Text}
    (apart : name ∉ inputMember :: Sections.subject :: main.assigned) :
    (Scope.ofFunction (collector script main)).isVariable name = false := by
  rwa [isVariable_collector, List.contains_eq_mem, decide_eq_false_iff_not]

/-- The subject of the code is the list. -/
theorem runOn_find_gathered (options : Command.Options) (main : Stmt) (arguments : List Text)
    (earlier : Array (Array Value)) (readings : List Scalar) :
    ((Scope.ofFunction (collector (.ofOptions options) main)).find Sections.subject).runOn
        (gathered options main arguments earlier readings) =
      (.ok (.list earlier.size), gathered options main arguments earlier readings) := by
  refine Scope.runOn_find_local rfl ?_ ?_
  · rw [isVariable_collector]
    simp
  · change (Bindings.set _ Sections.subject _).lookup Sections.subject = _
    rw [Bindings.lookup_set, if_pos rfl]

section Collecting

variable {options : Command.Options} {main : Stmt}
  (system : "sys".toList ∉ main.assigned) (convert : Script.convertName ∉ main.assigned)

include system convert

/-- The function makes the list and runs the code with it. -/
theorem exists_runOn_collector (arguments : List Text) (input : Text) :
    Exists fun earlier : Array (Array Value) =>
      ((collector (.ofOptions options) main).body.exec (.within innerDepth)
        (.ofFunction (collector (.ofOptions options) main))).runOn
          { called options (collector (.ofOptions options) main) arguments input.inputLines with
            locals := [(inputMember, .input)] } =
        (main.exec (.within innerDepth) (.ofFunction (collector (.ofOptions options) main))).runOn
          (gathered options main arguments earlier
            (input.inputLines.map (Script.ofOptions options).reading)) := by
  have prepares := prepares_collector (.ofOptions options) main
  have outside : forall {name}, name ∉ [inputMember, Sections.subject] -> name ∉ main.assigned ->
      (Scope.ofFunction (collector (.ofOptions options) main)).isVariable name = false := by
    intro name apart unassigned
    exact isVariable_collector_of_not_mem _ fun member =>
      (List.mem_append.mp (show name ∈ [inputMember, Sections.subject] ++ main.assigned from member)).elim
        apart unassigned
  rcases @Script.exists_runOn_collectExpr _ prepares
    { called options (collector (.ofOptions options) main) arguments input.inputLines with
      locals := [(inputMember, .input)] }
    (innerDepth - 2) (outside (by decide) system) (lists_calledGlobals options).system
    (supplied_calledGlobals options).toConverts (.ofOptions options)
    (fun _ _ => outside (by decide) convert) (fun _ => Text.isInputLine_of_mem) with ⟨earlier, collected⟩
  refine ⟨earlier, ?_⟩
  have assigned := Script.runOn_assignSubject prepares collected
  exact Action.runOn_bind_ok assigned

variable (collects : (Script.ofOptions options).Collects) (fitting : options.conflicting = false)
  (placed : Placed 1 (Script.ofOptions options).main.trimRight main) {arguments : List Text}
  (chosen : Command.Options.ofArguments arguments = .ok options)

include collects fitting placed chosen

/-- A session that runs its code on the list of all lines ends as the code does. -/
theorem exists_ofSession_eq (width : Int) (input : Text) :
    Exists fun earlier : Array (Array Value) => forall {later : Machine},
      (main.exec (.within innerDepth) (.ofFunction (collector (.ofOptions options) main))).runOn
          (gathered options main arguments earlier
            (input.inputLines.map (Script.ofOptions options).reading)) =
        (.ok (), later) ->
      ofSession none width arguments input = (.ok (), { later with locals := [] }) := by
  rcases exists_runOn_collector system convert arguments input with ⟨earlier, collected⟩
  refine ⟨earlier, fun {later} run => ?_⟩
  have read : Stmt.ofText (Script.ofOptions options).text =
      .ok (.seq (.define functionName (collector (.ofOptions options) main).parameter
        (collector (.ofOptions options) main).body) .pass) := collects.ofText_text placed
  have found : (called options (collector (.ofOptions options) main) arguments
      input.inputLines).functions[0]? = some (collector (.ofOptions options) main) := rfl
  have parameter : (collector (.ofOptions options) main).parameter = inputMember := rfl
  rw [ofSession_eq_perform width chosen fitting input]
  refine runOn_perform_ok collects.debug (runOn_define_ready read arguments input) ?_
  rw [runOn_call_called, Action.runOn_bind, Run.runOn_callFunction found, parameter,
    Action.runOn_bind, Run.runOn_withLocals, collected, run]
  rfl

end Collecting

end Execution
end Oneliner
