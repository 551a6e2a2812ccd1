import Oneliner.Proofs.Session.CollectMode
import Oneliner.Proofs.Session.LoopMode

namespace Oneliner
namespace Execution

open Program

/-!
Code sees the same input line by line and all at once.

Two pieces of code show what the subject is.  One makes a list that holds it, so that
it can be found in memory; the other writes it.
-/

/-! ## Statements that show a value -/

/-- The statement that makes a list of one value. -/
def keepStmt (name : Text) : Stmt :=
  .evaluate (.display [.name name])

/-- The statement that writes a value. -/
def outStmt (name : Text) : Stmt :=
  .evaluate (.call (.name "out".toList) [.name name])

theorem runOn_keepStmt {dispatch : Dispatch} {scope : Scope} {machine : Machine} {name : Text}
    {value : Value} (found : (scope.find name).runOn machine = (.ok value, machine)) :
    ((keepStmt name).exec dispatch scope).runOn machine =
      (.ok (), { machine with lists := machine.lists.push #[value] }) := by
  have items : (Expr.evalItems dispatch scope [.name name]).runOn machine = (.ok [value], machine) := by
    rw [Expr.evalItems, Expr.eval, Action.runOn_bind_ok found]
    rfl
  rw [keepStmt, Stmt.exec, Action.runOn_bind, Expr.eval, Action.runOn_bind_ok items]
  rfl

/-- What is written for scalars, one on each line. -/
def printed (scalars : List Scalar) : Text :=
  scalars.flatMap fun scalar => scalar.text ++ ['\n']

theorem printed_snoc (scalars : List Scalar) (last : Scalar) :
    printed (scalars ++ [last]) = printed scalars ++ (last.text ++ ['\n']) := by
  rw [printed, List.flatMap_append, List.flatMap_singleton, printed]

/-- A machine that still knows its global names and has written nothing but scalars. -/
structure Prints (options : Command.Options) (scalars : List Scalar) (machine : Machine) : Prop where
  globals : machine.globals = calledGlobals options
  out : machine.transcript.on .out = printed scalars
  err : machine.transcript.on .err = []
  isOpen : Stream.out ∉ machine.shut

theorem lookup_out (options : Command.Options) :
    (calledGlobals options).lookup "out".toList = some (.builtin .out) := by
  have inPlace : placed.lookup "out".toList = some (.builtin .out) := by decide
  rw [lookup_calledGlobals options (by decide), inPlace]

/-- One more scalar is written. -/
theorem Prints.exists_runOn_outStmt {options : Command.Options} {scalars : List Scalar}
    {machine : Machine} (prints : Prints options scalars machine) {scope : Scope}
    (idle : scope.running = []) (free : scope.isVariable "out".toList = false) {name : Text}
    {value : Value} (found : (scope.find name).runOn machine = (.ok value, machine))
    {scalar : Scalar} (stands : value.scalar? = some scalar) (writable : scalar.writable = true)
    (depth : Nat) :
    ((outStmt name).exec (.within (depth + 2)) scope).runOn machine =
        (.ok (), machine.written .out (scalar.text ++ ['\n'])) ∧
      Prints options (scalars ++ [scalar]) (machine.written .out (scalar.text ++ ['\n'])) := by
  have function : (scope.find "out".toList).runOn machine = (.ok (.builtin .out), machine) :=
    Scope.runOn_find_global (by rw [idle]; rfl) free (prints.globals ▸ lookup_out options)
  have arguments : (Expr.evalItems (.within (depth + 2)) scope [.name name]).runOn machine =
      (.ok [value], machine) := by
    rw [Expr.evalItems, Expr.eval, Action.runOn_bind_ok found]
    rfl
  have system : machine.globals.lookup "sys".toList = some (.module "sys".toList) :=
    prints.globals ▸ (lists_calledGlobals options).system
  have emitted : ((Dispatch.within (depth + 2)).call (.builtin .out) [value]).runOn machine = _ :=
    Run.runOn_emit system depth (Run.runOn_textOf stands writable machine) prints.isOpen
  refine ⟨?_, prints.globals, ?_, ?_, prints.isOpen⟩
  · rw [outStmt, Stmt.exec, Action.runOn_bind, Expr.eval, Expr.eval, Action.runOn_bind_ok function,
      Action.runOn_bind_ok arguments, emitted]
    rfl
  · rw [Machine.written, Transcript.on_write, prints.out, if_pos rfl, printed_snoc]
  · rw [Machine.written, Transcript.on_write, prints.err, if_neg (by decide)]
    rfl

/-! ## Options -/

/-- The flags for what is done with each line. -/
def flags (trim convert : Bool) : List Text :=
  (if trim then [] else ["--no-trim".toList]) ++ (if convert then [] else ["--no-convert".toList])

/-- Options for code that is all main code. -/
def plainOptions (trim convert collect : Bool) (code : Text) : Command.Options :=
  { Command.Options.default with
    trim := trim
    convert := convert
    collect := collect
    code := [code] }

/-- A session that runs code on each line. -/
def eachSession (trim convert : Bool) (width : Int) (code : String) (input : Text) :
    Except (Halt Fault) Unit × Machine :=
  ofSession none width (flags trim convert ++ [code.toList]) input

/-- A session that runs code once, on the list of all lines. -/
def allSession (trim convert : Bool) (width : Int) (code : String) (input : Text) :
    Except (Halt Fault) Unit × Machine :=
  ofSession none width ("-c".toList :: flags trim convert ++ [code.toList]) input

theorem placed_nil : Placed 1 [] .pass :=
  ⟨rfl, rfl, rfl, by decide, by decide, by decide, rfl⟩

/-- Sections of which only the main one does anything. -/
def only (main : Stmt) : Sections :=
  ⟨.pass, .seq main .pass, .pass⟩

section Codes

theorem ofText_keep : Stmt.ofText "[_]".toList = .ok (.seq (keepStmt ['_']) .pass) := by
  have lines : Lines.ofText (Text.normalizeNewlines "[_]".toList) =
      ⟨[⟨.zero, [.symbol .openSquare, .name ['_'], .symbol .closeSquare]⟩], false⟩ := by
    decide +kernel
  rw [Stmt.ofText, lines]
  rfl

theorem ofText_out : Stmt.ofText "out(_)".toList = .ok (.seq (outStmt ['_']) .pass) := by
  have lines : Lines.ofText (Text.normalizeNewlines "out(_)".toList) =
      ⟨[⟨.zero, [.name "out".toList, .symbol .openParen, .name ['_'], .symbol .closeParen]⟩],
        false⟩ := by
    decide +kernel
  rw [Stmt.ofText, lines]
  rfl

/-- The statement that writes all items of a list. -/
def outAllStmt : Stmt :=
  .seq (.loop ['x'] (.name ['_']) (.seq (outStmt ['x']) .pass)) .pass

theorem ofText_outAll :
    Stmt.ofText "for x in _ :\n    out(x)".toList = .ok (.seq outAllStmt .pass) := by
  have lines : Lines.ofText (Text.normalizeNewlines "for x in _ :\n    out(x)".toList) =
      ⟨[⟨.zero, [.keyword .loop, .name ['x'], .keyword .within, .name ['_'], .symbol .colon]⟩,
        ⟨⟨4, 4⟩, [.name "out".toList, .symbol .openParen, .name ['x'], .symbol .closeParen]⟩],
        false⟩ := by
    decide +kernel
  rw [Stmt.ofText, lines]
  rfl

theorem placed_keep : Placed 2 "[_]".toList (.seq (keepStmt ['_']) .pass) ∧
    Placed 1 "[_]".toList (.seq (keepStmt ['_']) .pass) := by
  have steady : Scanner.start.steadyOn (Text.normalizeNewlines "[_]".toList) = true := by
    decide
  exact ⟨⟨ofText_keep, rfl, steady, by decide, by decide +kernel, by decide, rfl⟩,
    ⟨ofText_keep, rfl, steady, by decide, by decide +kernel, by decide, rfl⟩⟩

theorem placed_out : Placed 2 "out(_)".toList (.seq (outStmt ['_']) .pass) :=
  ⟨ofText_out, rfl, by decide, by decide, by decide +kernel, by decide, rfl⟩

theorem placed_outAll : Placed 1 "for x in _ :\n    out(x)".toList (.seq outAllStmt .pass) :=
  ⟨ofText_outAll, rfl, by decide +kernel, by decide, by decide +kernel, by decide, rfl⟩

end Codes

/-! ## Line by line -/

section Each

variable {trim convert : Bool} {code : Text} {main : Stmt}
  (placed : Placed 2 (Braces.expand (Script.joinCode [code])).trimRight (.seq main .pass))

include placed

theorem told_only : (only main).Told (.ofOptions (plainOptions trim convert false code)) :=
  ⟨placed_nil, placed, placed_nil, .inr nofun⟩

/-- If the loop over the readings does not fail, the session leaves the machine as it does. -/
theorem exists_ofSession_only (width : Int) {arguments : List Text}
    (chosen : Command.Options.ofArguments arguments =
      .ok (plainOptions trim convert false code))
    (supported : (only main).Supported) (input : Text) {later : Machine}
    (looped : (List.forM (input.inputLines.map
        (Script.ofOptions (plainOptions trim convert false code)).reading)
        ((only main).step (.within innerDepth) (only main).scope)).runOn
      ((only main).start (plainOptions trim convert false code) [] []) = (.ok (), later)) :
    ∃ rest left : List Text, ofSession none width arguments input =
      (.ok (), { later with locals := [], input := rest, arguments := left }) := by
  have outcome : (only main).outcome (plainOptions trim convert false code) input =
      (.ok (), { later with locals := [] }) := by
    have run : (do
        (Stmt.pass.exec (.within innerDepth) (only main).scope)
        (input.inputLines.map (Script.ofOptions (plainOptions trim convert false code)).reading).forM
          ((only main).step (.within innerDepth) (only main).scope)
        (Stmt.pass.exec (.within innerDepth) (only main).scope) : Run Unit).runOn
          ((only main).start (plainOptions trim convert false code) [] []) = (.ok (), later) :=
      Action.runOn_bind_ok looped
    rw [Sections.outcome, Sections.run, Run.runOn_withLocals]
    exact congrArg (fun outcome => (outcome.1, { outcome.2 with locals := [] })) run
  exact exists_ofSession_eq_of_ok ⟨rfl, rfl, rfl⟩ (told_only placed) supported width chosen input
    outcome

end Each

/-- The readings of an input. -/
def readings (trim convert : Bool) (input : Text) : List Scalar :=
  input.inputLines.map (Script.ofOptions (plainOptions trim convert false [])).reading

theorem writable_of_mem_readings {trim convert : Bool} {input : Text} {scalar : Scalar}
    (member : scalar ∈ readings trim convert input) : scalar.writable = true := by
  rcases List.mem_map.mp member with ⟨line, _, rfl⟩
  cases trim with
  | false => rfl
  | true =>
      cases convert with
      | false => rfl
      | true => exact Scalar.writable_convert_str _

/-- Run on each line, the code makes one list for each reading. -/
theorem exists_ofSession_keepEach (trim convert : Bool) (width : Int) (input : Text) :
    Exists fun later =>
      eachSession trim convert width "[_]" input = (.ok (), later) ∧
        later.lists = charLists ["[_]".toList] ++
          ((Value.row 0 (readings trim convert input)).map (#[·])).toArray := by
  have code : (Braces.expand (Script.joinCode ["[_]".toList])).trimRight = "[_]".toList := by
    decide
  have chosen : Command.Options.ofArguments (flags trim convert ++ ["[_]".toList]) =
      .ok (plainOptions trim convert false "[_]".toList) := by
    cases trim <;> cases convert <;> decide
  have prepares : Script.Prepares (only (keepStmt ['_'])).scope := ⟨rfl, rfl, rfl⟩
  let holds (done : List Scalar) (machine : Machine) : Prop :=
    machine.marks = done.foldl Value.marksAfter 0 ∧
      machine.lists = charLists ["[_]".toList] ++ ((Value.row 0 done).map (#[·])).toArray
  have step : forall done reading rest machine,
      readings trim convert input = done ++ reading :: rest -> holds done machine ->
        Exists fun later => ((only (keepStmt ['_'])).step (.within innerDepth)
          (only (keepStmt ['_'])).scope reading).runOn machine = (.ok (), later) ∧
            holds (done ++ [reading]) later := by
    rintro done reading rest machine - ⟨marks, lists⟩
    refine ⟨{ Script.facing machine reading with
      lists := machine.lists.push #[.marked machine.marks reading] }, ?_, ?_, ?_⟩
    · rw [Script.runOn_step prepares]
      exact Action.runOn_bind_ok (runOn_keepStmt (Script.runOn_find_facing prepares reading))
    · rw [List.foldl_append, ← marks]
      rfl
    · rw [Value.row_append, List.map_append, ← marks]
      simp [lists, Value.row]
  have start : holds [] ((only (keepStmt ['_'])).start
      (plainOptions trim convert false "[_]".toList) [] []) := ⟨rfl, Array.append_empty.symm⟩
  rcases Run.exists_runOn_forM step start with ⟨later, looped, held⟩
  rcases exists_ofSession_only (code ▸ placed_keep.1) width chosen (by decide) input looped with
    ⟨rest, left, run⟩
  exact ⟨_, run, held.2⟩

/-- Run on each line, the code writes each reading. -/
theorem exists_ofSession_outEach (trim convert : Bool) (width : Int) (input : Text) :
    Exists fun later =>
      eachSession trim convert width "out(_)" input = (.ok (), later) ∧
        Prints (plainOptions trim convert false "out(_)".toList) (readings trim convert input)
          later := by
  have code : (Braces.expand (Script.joinCode ["out(_)".toList])).trimRight = "out(_)".toList := by
    decide
  have chosen : Command.Options.ofArguments (flags trim convert ++ ["out(_)".toList]) =
      .ok (plainOptions trim convert false "out(_)".toList) := by
    cases trim <;> cases convert <;> decide
  have prepares : Script.Prepares (only (outStmt ['_'])).scope := ⟨rfl, rfl, rfl⟩
  have step : forall done reading rest machine,
      readings trim convert input = done ++ reading :: rest ->
      Prints (plainOptions trim convert false "out(_)".toList) done machine ->
        Exists fun later => ((only (outStmt ['_'])).step (.within innerDepth)
          (only (outStmt ['_'])).scope reading).runOn machine = (.ok (), later) ∧
            Prints (plainOptions trim convert false "out(_)".toList) (done ++ [reading]) later := by
    intro done reading rest machine whole prints
    have member : reading ∈ readings trim convert input :=
      whole ▸ List.mem_append_right done List.mem_cons_self
    have facing : Prints (plainOptions trim convert false "out(_)".toList) done
        (Script.facing machine reading) := ⟨prints.globals, prints.out, prints.err, prints.isOpen⟩
    have written := facing.exists_runOn_outStmt rfl (by decide)
      (Script.runOn_find_facing prepares reading) (Value.scalar?_marked _ _)
      (writable_of_mem_readings member) (innerDepth - 2)
    refine ⟨_, ?_, written.2⟩
    rw [Script.runOn_step prepares]
    exact Action.runOn_bind_ok written.1
  have start : Prints (plainOptions trim convert false "out(_)".toList) []
      ((only (outStmt ['_'])).start (plainOptions trim convert false "out(_)".toList) [] []) :=
    ⟨rfl, rfl, rfl, List.not_mem_nil⟩
  rcases Run.exists_runOn_forM step start with ⟨later, looped, prints⟩
  rcases exists_ofSession_only (code ▸ placed_out) width chosen (by decide) input looped with
    ⟨rest, left, run⟩
  exact ⟨_, run, prints.globals, prints.out, prints.err, prints.isOpen⟩

/-! ## All at once -/

/-- Run on the list of all lines, the code makes one list that holds it. -/
theorem exists_ofSession_keepAll (trim convert : Bool) (width : Int) (input : Text) :
    Exists fun later => Exists fun index =>
      allSession trim convert width "[_]" input = (.ok (), later) ∧
        later.lists.back? = some #[.list index] ∧
        later.lists[index]? = some (Value.row 0 (readings trim convert input)).toArray := by
  have code : (Braces.expand (Script.joinCode ["[_]".toList])).trimRight = "[_]".toList := by
    decide
  have chosen : Command.Options.ofArguments
      ("-c".toList :: flags trim convert ++ ["[_]".toList]) =
        .ok (plainOptions trim convert true "[_]".toList) := by
    cases trim <;> cases convert <;> decide
  rcases exists_ofSession_eq (by decide) (by decide) ⟨rfl, rfl, rfl⟩ rfl
    (code ▸ placed_keep.2) chosen width input with ⟨earlier, session⟩
  have kept := session (Action.runOn_bind_ok (runOn_keepStmt (runOn_find_gathered _ _ _ _ _)))
  refine ⟨_, earlier.size, kept, Array.back?_push, ?_⟩
  change ((earlier.push _).push _)[earlier.size]? = _
  rw [Array.getElem?_push, Array.size_push, if_neg (Nat.ne_of_lt (Nat.lt_succ_self _)),
    Array.getElem?_push_size]
  rfl

/-- The items of the list are written in order. -/
theorem exists_runOn_outAllStmt (options : Command.Options) (arguments : List Text)
    (earlier : Array (Array Value)) {readings : List Scalar} (writable : ∀ scalar ∈ readings, scalar.writable = true) :
    Exists fun later =>
      (outAllStmt.exec (.within innerDepth)
          (.ofFunction (collector (.ofOptions options) (.seq outAllStmt .pass)))).runOn
            (gathered options (.seq outAllStmt .pass) arguments earlier readings) =
          (.ok (), later) ∧
        Prints options readings later := by
  let scope : Scope := .ofFunction (collector (.ofOptions options) (.seq outAllStmt .pass))
  let act (item : Value) : Run Unit := do
    scope.assign item ['x']
    (Stmt.seq (outStmt ['x']) .pass).exec (.within innerDepth) scope
  let holds (done : List Value) (machine : Machine) : Prop :=
    Prints options (done.filterMap Value.scalar?) machine ∧
      machine.items earlier.size = (Value.row 0 readings).toArray
  have step : forall done value rest machine,
      Value.row 0 readings = done ++ value :: rest -> holds done machine -> Exists fun later =>
        (act value).runOn machine = (.ok (), later) ∧ holds (done ++ [value]) later := by
    rintro done value rest machine whole ⟨prints, items⟩
    have member : value ∈ Value.row 0 readings :=
      whole ▸ List.mem_append_right done List.mem_cons_self
    rcases Value.exists_of_mem_row member with ⟨scalar, inReadings, stands⟩
    let bound : Machine := { machine with locals := machine.locals.set ['x'] value }
    have assigned : (scope.assign value ['x']).runOn machine = (.ok (), bound) := rfl
    have found : (scope.find ['x']).runOn bound = (.ok value, bound) :=
      Scope.runOn_find_local rfl rfl (by rw [Bindings.lookup_set, if_pos rfl])
    have ready : Prints options (done.filterMap Value.scalar?) bound :=
      ⟨prints.globals, prints.out, prints.err, prints.isOpen⟩
    have written := ready.exists_runOn_outStmt rfl (by rfl) found stands
      (writable scalar inReadings) (innerDepth - 2)
    refine ⟨_, (Action.runOn_bind_ok assigned).trans (Action.runOn_bind_ok written.1), ?_, items⟩
    rw [List.filterMap_append, List.filterMap_cons_some stands, List.filterMap_nil]
    exact written.2
  have start : holds [] (gathered options (.seq outAllStmt .pass) arguments earlier readings) :=
    ⟨⟨rfl, rfl, rfl, List.not_mem_nil⟩, Machine.items_push_size _ _⟩
  have held : forall {done machine}, holds done machine ->
      machine.items earlier.size = ((Value.row 0 readings).map id).toArray := by
    intro done machine holding
    rw [List.map_id]
    exact holding.2
  rcases @Run.exists_runOn_forEach _ _ act _ _ holds held step _ start with ⟨later, looped, holding⟩
  have prints := holding.1
  rw [Value.filterMap_scalar?_row] at prints
  refine ⟨later, ?_, prints⟩
  have loop : ((Stmt.loop ['x'] (.name ['_']) (.seq (outStmt ['x']) .pass)).exec (.within innerDepth)
      scope).runOn (gathered options (.seq outAllStmt .pass) arguments earlier readings) = (.ok (), later) := by
    rw [Stmt.exec, Expr.eval]
    exact (Action.runOn_bind_ok (runOn_find_gathered _ _ _ _ _)).trans looped
  exact Action.runOn_bind_ok loop

/-- Run on the list of all lines, the code writes each item of it. -/
theorem exists_ofSession_outAll (trim convert : Bool) (width : Int) (input : Text) :
    Exists fun later =>
      allSession trim convert width "for x in _ \x7b out(x) \x7d" input = (.ok (), later) ∧
      Prints (plainOptions trim convert true "for x in _ \x7b out(x) \x7d".toList)
        (readings trim convert input) later := by
  have code : (Braces.expand (Script.joinCode ["for x in _ \x7b out(x) \x7d".toList])).trimRight =
      "for x in _ :\n    out(x)".toList := by
    decide
  have chosen : Command.Options.ofArguments
      ("-c".toList :: flags trim convert ++ ["for x in _ \x7b out(x) \x7d".toList]) =
        .ok (plainOptions trim convert true "for x in _ \x7b out(x) \x7d".toList) := by
    cases trim <;> cases convert <;> decide
  rcases exists_ofSession_eq (by decide) (by decide) ⟨rfl, rfl, rfl⟩ rfl
    (code ▸ placed_outAll) chosen width input with ⟨earlier, session⟩
  rcases exists_runOn_outAllStmt
    (plainOptions trim convert true "for x in _ \x7b out(x) \x7d".toList) _ earlier
    (fun scalar => @writable_of_mem_readings trim convert input scalar) with ⟨later, run, prints⟩
  exact ⟨_, session (Action.runOn_bind_ok run), prints.globals, prints.out, prints.err, prints.isOpen⟩

/-! ## The same input -/

theorem printed_readings_trimmed (input : Text) :
    printed (readings true false input) =
      input ++ if input ≠ [] ∧ input.getLast? ≠ some '\n' then ['\n'] else [] := by
  rw [printed, readings, List.flatMap_map, ← Text.flatMap_unended_inputLines]
  rfl

/-- The list that code finds as its subject holds the readings of the lines, and they are
what code finds as its subject on one line after the other.  Writing them in either way
gives the same text, and this is the input itself, with a newline at its end, if the
lines are trimmed and not converted. -/
theorem collected_eq_looped (trim convert : Bool) (width : Int) (input : Text) :
    (Exists fun values : List Value => Exists fun index =>
      values.map Value.scalar? = (readings trim convert input).map some ∧
      (eachSession trim convert width "[_]" input).1 = .ok () ∧
      (eachSession trim convert width "[_]" input).2.lists =
        (eachSession trim convert width "[_]" []).2.lists ++ (values.map (#[·])).toArray ∧
      (allSession trim convert width "[_]" input).1 = .ok () ∧
      (allSession trim convert width "[_]" input).2.lists.back? = some #[.list index] ∧
      (allSession trim convert width "[_]" input).2.lists[index]? = some values.toArray) ∧
    (eachSession trim convert width "out(_)" input).1 = .ok () ∧
    (allSession trim convert width "for x in _ \x7b out(x) \x7d" input).1 = .ok () ∧
    (eachSession trim convert width "out(_)" input).2.transcript.on .out =
      (allSession trim convert width "for x in _ \x7b out(x) \x7d" input).2.transcript.on .out ∧
    (eachSession trim convert width "out(_)" input).2.transcript.on .err = [] ∧
    (allSession trim convert width "for x in _ \x7b out(x) \x7d" input).2.transcript.on .err = [] ∧
    (eachSession true false width "out(_)" input).2.transcript.on .out =
      input ++ if input ≠ [] ∧ input.getLast? ≠ some '\n' then ['\n'] else [] := by
  rcases exists_ofSession_keepEach trim convert width input with ⟨kept, keptRun, keptLists⟩
  rcases exists_ofSession_keepEach trim convert width [] with ⟨idle, idleRun, idleLists⟩
  rcases exists_ofSession_keepAll trim convert width input with ⟨all, index, allRun, last, list⟩
  rcases exists_ofSession_outEach trim convert width input with ⟨out, outRun, outPrints⟩
  rcases exists_ofSession_outAll trim convert width input with ⟨outAll, outAllRun, outAllPrints⟩
  rcases exists_ofSession_outEach true false width input with ⟨plain, plainRun, plainPrints⟩
  have empty : Value.row 0 (readings trim convert []) = [] := rfl
  rw [keptRun, idleRun, allRun, outRun, outAllRun, plainRun, keptLists, idleLists, empty,
    List.map_nil, Array.append_empty]
  exact ⟨⟨_, index, Value.map_scalar?_row _ _, rfl, rfl, rfl, last, list⟩, rfl, rfl,
    outPrints.out.trans outAllPrints.out.symm, outPrints.err, outAllPrints.err,
    plainPrints.out.trans (printed_readings_trimmed input)⟩

end Execution
end Oneliner
