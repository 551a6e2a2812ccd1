import Oneliner.Proofs.Session.Prelude
import Oneliner.Proofs.Session.Sections

namespace Oneliner
namespace Execution

open Program
open Workspace

/-!
Running a script: its text defines a function, and the function is called on the input,
both through global names.
-/

/-! ## Defining and calling -/

theorem inPlace?_exec : Builtin.inPlace? "exec".toList = some (.builtin .execute) := by
  decide

theorem call_execute (program : Text) :
    Dispatch.outermost.call (.builtin .execute) [.str program] = (do
      (do (<- Run.ofExcept (Stmt.ofText program)).exec (.within (innerDepth - 1)) .global :
        Run Unit)
      return .nothing) := rfl

/-- A text that defines a function leaves it behind under its name. -/
theorem runOn_define {machine : Machine} (free : machine.globals.lookup "exec".toList = none)
    {program : Text} (found : machine.globals.lookup programName = some (.str program))
    {name : Text} {function : Function}
    (read : Stmt.ofText program = .ok (.seq (.define name function.parameter function.body) .pass)) :
    define.runOn machine =
      (.ok (), { machine with
        globals := machine.globals.set name (.function machine.functions.size)
        functions := machine.functions.push function }) := by
  rw [define, Action.runOn_bind_ok (Run.runOn_find_inPlace free inPlace?_exec),
    Action.runOn_bind_ok (Run.runOn_find_global found), call_execute, read]
  rfl

/-- A text that cannot be read defines nothing. -/
theorem runOn_define_error {machine : Machine} (free : machine.globals.lookup "exec".toList = none)
    {program : Text} (found : machine.globals.lookup programName = some (.str program))
    {fault : Fault} (unread : Stmt.ofText program = .error fault) :
    define.runOn machine = (.error (.fault fault), machine) := by
  rw [define, Action.runOn_bind_ok (Run.runOn_find_inPlace free inPlace?_exec),
    Action.runOn_bind_ok (Run.runOn_find_global found), call_execute, unread]
  rfl

/-- The function is called on the input. -/
theorem runOn_call {machine : Machine} {index : Nat}
    (function : machine.globals.lookup functionName = some (.function index))
    (system : machine.globals.lookup "sys".toList = some (.module "sys".toList)) :
    call.runOn machine =
      (do
        let _ <- Run.callFunction (.within innerDepth) index [.input]
        return () : Run Unit).runOn machine := by
  have source : Run.memberOf (.module "sys".toList) "stdin".toList = pure .input := rfl
  rw [call, Action.runOn_bind_ok (Run.runOn_find_global function),
    Action.runOn_bind_ok (Run.runOn_find_global system), source, pure_bind]
  rfl

/-! ## Names that the function finds -/

/-- The global names when the function is called. -/
def calledGlobals (options : Command.Options) : Bindings :=
  (runGlobals options).set functionName (.function 0)

theorem lookup_calledGlobals (options : Command.Options) {name : Text}
    (apart : name ∉ optionsName :: scriptNames) :
    (calledGlobals options).lookup name = placed.lookup name := by
  have other : name ≠ functionName := fun same => apart (same ▸ by decide)
  rw [calledGlobals, Bindings.lookup_set, if_neg other, lookup_runGlobals options apart]

theorem supplied_calledGlobals (options : Command.Options) :
    Script.Supplied (calledGlobals options) := by
  have inPlace : placed.lookup Script.convertName = some (.builtin .convert) ∧
      placed.lookup "int".toList = none ∧ placed.lookup "float".toList = none := by
    decide
  refine ⟨⟨?_, ?_, ?_⟩, (allowed_runGlobals options).set _ rfl⟩
  · rw [lookup_calledGlobals options (by decide), inPlace.1]
  · rw [lookup_calledGlobals options (by decide), inPlace.2.1]
  · rw [lookup_calledGlobals options (by decide), inPlace.2.2]

theorem lists_calledGlobals (options : Command.Options) : Lists .err (calledGlobals options) := by
  have inPlace : ∀ entry ∈ Writer.err.needs,
      entry.1 ∉ optionsName :: scriptNames ∧ placed.lookup entry.1 = entry.2 := by
    decide
  intro entry member
  rw [lookup_calledGlobals options (inPlace entry member).1, (inPlace entry member).2]

/-! ## Both together -/

/-- The machine on which a script calls its function. -/
def called (options : Command.Options) (function : Function) (arguments input : List Text) :
    Machine :=
  { ready options arguments [] with
    globals := calledGlobals options
    functions := #[function]
    input := input }

theorem runOn_define_ready {options : Command.Options} {function : Function}
    (read : Stmt.ofText (Script.ofOptions options).text =
      .ok (.seq (.define functionName function.parameter function.body) .pass))
    (arguments : List Text) (input : Text) :
    define.runOn (ready options arguments input) =
      (.ok (), called options function arguments input.inputLines) := by
  have free : (ready options arguments input).globals.lookup "exec".toList = none := by
    have inPlace : placed.lookup "exec".toList = none := by decide
    change (runGlobals options).lookup _ = none
    rw [lookup_runGlobals options (by decide), inPlace]
  exact runOn_define free (lookup_programName _ _) read

theorem runOn_call_called (options : Command.Options) (function : Function)
    (arguments input : List Text) :
    call.runOn (called options function arguments input) =
      (do
        let _ <- Run.callFunction (.within innerDepth) 0 [.input]
        return () : Run Unit).runOn (called options function arguments input) := by
  refine runOn_call ?_ (lists_calledGlobals options).system
  change (calledGlobals options).lookup functionName = some (.function 0)
  rw [calledGlobals, Bindings.lookup_set, if_pos rfl]

/-- Without a trace, the text is listed only if the function cannot be defined or its call
fails. -/
theorem runOn_perform_eq {script : Script} (debug : script.debug = false) (machine : Machine) :
    (engine.perform script).runOn machine =
      (tryCatch (do define; call) fun halt => do regret; throw halt : Run Unit).runOn machine := by
  rw [Engine.perform, debug]
  rfl

theorem runOn_perform_ok {script : Script} (debug : script.debug = false)
    {machine defined later : Machine} (definition : define.runOn machine = (.ok (), defined))
    (called : call.runOn defined = (.ok (), later)) :
    (engine.perform script).runOn machine = (.ok (), later) := by
  rw [runOn_perform_eq debug, Action.runOn_tryCatch, Action.runOn_bind_ok definition, called]

end Execution
end Oneliner
