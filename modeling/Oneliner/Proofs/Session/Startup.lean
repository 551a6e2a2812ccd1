import Oneliner.Proofs.Session.Calling
import Oneliner.Proofs.Session.Tracing

namespace Oneliner
namespace Execution

open Program
open Workspace

/-!
Sessions with a startup file.

The startup file is run on a machine on which it is open itself, under a name of its
own.  It is closed afterwards, and its name is taken away.  Then the session goes on with
whatever names the file has bound, up to the call of the function.
-/

/-! ## Running the startup file -/

/-- The machine on which the startup file is run. -/
def opened (arguments : List Text) (input : Text) : Machine :=
  { start arguments input with globals := initial.set fileName .file, fileOpen := true }

/-- The machine after the startup file has been closed. -/
def closed (machine : Machine) : Machine :=
  { machine with globals := machine.globals.remove fileName, fileOpen := false }

section Loading

variable {execute : Text -> Run Unit} {text input : Text} {arguments : List Text} {later : Machine}

theorem runOn_load
    (run : (execute text).runOn (opened arguments input) = (.ok (), later))
    (file : later.globals.lookup fileName = some .file) :
    (load execute text).runOn (start arguments input) = (.ok (), closed later) := by
  have opening : (modify fun machine : Machine =>
      { machine with globals := machine.globals.set fileName .file, fileOpen := true } :
        Run Unit).runOn (start arguments input) = (.ok (), opened arguments input) := rfl
  have closing : (callMember .file "close" []).runOn later =
      (.ok .nothing, { later with fileOpen := false }) := rfl
  rw [load, Action.runOn_bind_ok opening, Action.runOn_bind_ok run,
    Action.runOn_bind_ok (Run.runOn_find_global file), Action.runOn_bind_ok closing]
  rfl

/-- A session whose startup file runs through goes on with its command line. -/
theorem runOn_approach_some
    (run : (execute text.normalizeNewlines).runOn (opened arguments input) = (.ok (), later))
    (file : later.globals.lookup fileName = some .file) (define call : Run Unit) (width : Int) :
    ((engineWith execute define call).approach (some text) width).runOn (start arguments input) =
      ((engineWith execute define call).obey width).runOn (closed later) :=
  Action.runOn_bind_ok (runOn_load run file)

end Loading

theorem lookup_closed (machine : Machine) {name : Text} (apart : name ≠ fileName) :
    (closed machine).globals.lookup name = machine.globals.lookup name := by
  change (machine.globals.remove fileName).lookup name = _
  rw [Bindings.lookup_remove, if_neg apart]

/-! ## Up to the call -/

/-- The end of a session: the function is called, and if that fails the text is listed,
unless it was listed before. -/
def conclude (index : Nat) : Run Unit :=
  tryCatch
    (do
      let _ <- Run.callFunction (.within innerDepth) index [.input]
      return ())
    fun halt => do
      regret
      throw halt

/-- The machine on which a function has been defined. -/
def defined (machine : Machine) (function : Function) : Machine :=
  { machine with
    globals := machine.globals.set functionName (.function machine.functions.size)
    functions := machine.functions.push function }

theorem functions_defined (machine : Machine) (function : Function) :
    (defined machine function).functions[machine.functions.size]? = some function := by
  rw [defined, Array.getElem?_push_size]

/-- A text that defines the function is followed by its call. -/
theorem runOn_define_call {machine : Machine} (intact : Intact machine.globals) {program : Text}
    (found : machine.globals.lookup programName = some (.str program)) {function : Function}
    (read : Stmt.ofText program =
      .ok (.seq (.define functionName function.parameter function.body) .pass)) :
    (tryCatch (do define; call) fun halt => do regret; throw halt : Run Unit).runOn machine =
      (conclude machine.functions.size).runOn (defined machine function) := by
  have firsts : initial.lookup "exec".toList = none ∧
      initial.lookup "sys".toList = some (.module "sys".toList) := by
    decide
  have free := (intact "exec".toList (by decide)).trans firsts.1
  have system : (defined machine function).globals.lookup "sys".toList =
      some (.module "sys".toList) := by
    change (machine.globals.set _ _).lookup _ = _
    rw [Bindings.lookup_set, if_neg (by decide), intact "sys".toList (by decide), firsts.2]
  have named : (defined machine function).globals.lookup functionName =
      some (.function machine.functions.size) := by
    change (machine.globals.set _ _).lookup _ = _
    rw [Bindings.lookup_set, if_pos rfl]
  have definition : define.runOn machine = (.ok (), defined machine function) :=
    runOn_define free found read
  rw [conclude, Action.runOn_tryCatch, Action.runOn_tryCatch, Action.runOn_bind_ok definition,
    runOn_call named system]

/-- What a listing in advance leaves behind, if there is one. -/
def Announced (script : Script) (machine later : Machine) : Prop :=
  if script.debug then Listed .out machine (Script.listing script.text) later else later = machine

namespace Announced

variable {script : Script} {machine later : Machine} (announced : Announced script machine later)

include announced

theorem names {name : Text} (apart : script.debug = true -> name ∉ listingNames) :
    later.globals.lookup name = machine.globals.lookup name := by
  rw [Announced] at announced
  split at announced
  · rename_i debug
    exact announced.names name (apart debug)
  · rw [announced]

theorem rest : later = { machine with
    globals := later.globals, lists := later.lists, transcript := later.transcript } := by
  rw [Announced] at announced
  split at announced
  · exact announced.rest
  · rw [announced]

theorem tame (tame : machine.Tame Bindings.Tame) : later.Tame Bindings.Tame := by
  rw [Announced] at announced
  split at announced
  · exact announced.tame tame
  · rwa [announced]

theorem intact (intact : Intact machine.globals) : Intact later.globals := by
  have apart : ∀ name ∈ sessionNames, name ∉ listingNames := by decide
  intro name member
  rw [announced.names fun _ => apart name member, intact name member]

end Announced

/-- Texts can be listed on the first stream where the session's names are left alone. -/
theorem Intact.lists_print {globals : Bindings} (intact : Intact globals) : Lists .print globals := by
  have firsts : ∀ entry ∈ Writer.print.needs,
      entry.1 ∈ sessionNames ∧ initial.lookup entry.1 = entry.2 := by
    decide
  exact fun entry member => (intact _ (firsts entry member).1).trans (firsts entry member).2

/-- In debug mode the text is listed before it is run. -/
theorem exists_announced {script : Script} {machine : Machine} (intact : Intact machine.globals)
    (found : machine.globals.lookup programName = some (.str script.text))
    (isOpen : script.debug = true -> Stream.out ∉ machine.shut)
    (short : script.debug = true -> script.text.lines.length < Scalar.integerBound) :
    Exists fun later => Announced script machine later ∧
      (if script.debug then list "print" else pure ()).runOn machine = (.ok (), later) := by
  cases debug : script.debug with
  | false =>
      refine ⟨machine, ?_, rfl⟩
      rw [Announced, debug]
      rfl
  | true =>
      rcases @runOn_list .print machine intact.lists_print _ (isOpen debug) found (short debug) with
        ⟨later, run, listed⟩
      refine ⟨later, ?_, run⟩
      rw [Announced, debug]
      exact listed

/-- Getting ready for a script leaves the names alone on which a session depends. -/
theorem Intact.readied {machine : Machine} (intact : Intact machine.globals)
    (options : Command.Options) : Intact (readied options machine).globals := by
  have apart : ∀ name ∈ sessionNames, name ∉ optionsName :: helpers.map Prod.fst := by decide
  have names : ∀ name ∈ sessionNames, name ∉ scriptNames ∧ name ∉ removed := by decide
  intro name member
  rw [lookup_readied machine (apart name member), intact name member]
  intro taken
  rcases List.mem_append.mp taken with bound | gone
  · rcases List.mem_map.mp bound with ⟨entry, inScript, rfl⟩
    exact (names _ member).1 (mem_scriptBindings inScript).1
  · exact (names name member).2 gone

theorem lookup_programName_readied (options : Command.Options) (machine : Machine) :
    (readied options machine).globals.lookup programName =
      some (.str (Script.ofOptions options).text) :=
  lookup_programName _ _

/-- A session whose text defines the function goes on with calling it. -/
theorem exists_runOn_obey {machine : Machine} (intact : Intact machine.globals)
    {arguments : List Text} (told : commandWords machine = .ok arguments) (width : Int)
    {options : Command.Options} (chosen : Command.Options.ofArguments arguments = .ok options)
    (fitting : options.conflicting = false) {function : Function}
    (read : Stmt.ofText (Script.ofOptions options).text =
      .ok (.seq (.define functionName function.parameter function.body) .pass))
    (isOpen : options.debug = true -> Stream.out ∉ machine.shut)
    (short : options.debug = true ->
      (Script.ofOptions options).text.lines.length < Scalar.integerBound) :
    Exists fun later => Announced (.ofOptions options) (readied options machine) later ∧
      (engine.obey width >>= engine.finish).runOn machine =
        (conclude machine.functions.size).runOn (defined later function) := by
  have ready := intact.readied options
  rcases exists_announced ready (lookup_programName_readied options machine) isOpen short with
    ⟨later, announced, run⟩
  have found : later.globals.lookup programName = some (.str (Script.ofOptions options).text) := by
    rw [announced.names fun _ => by decide, lookup_programName_readied]
  have size : later.functions.size = machine.functions.size := by
    rw [announced.rest]
    rfl
  refine ⟨later, announced, ?_⟩
  rw [Action.runOn_bind_ok (runOn_obey intact told width chosen fitting), Engine.finish,
    engine.runOn_perform run]
  exact (runOn_define_call (announced.intact ready) found read).trans (by rw [size])

end Execution
end Oneliner
