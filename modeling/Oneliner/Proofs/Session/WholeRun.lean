import Oneliner.Proofs.Scalar.Numeral
import Oneliner.Proofs.Session.Frame
import Oneliner.Proofs.Session.Startup

namespace Oneliner
namespace Execution

open Program
open Workspace
open Engine (Emits startupEvents)

/-!
What a whole session runs and writes, and how it ends.

Nothing is assumed of what comes of running the startup file, of running the text of the
script or of calling the function, except that the names and streams are left alone by which
the session goes on.  Such a session ends in one of three ways: with its reply to a command
line that it cannot use, with its complaint about options that do not go together, or as the
text and the function do.  A text that takes the names away from the session can hide its own
failure behind another one.
-/

/-! ## The beginning -/

/-- The machine on which a session obeys its command line, and that command line.  Either
there is no startup file, or it has been run without a failure, and it has left alone the
names on which the session depends. -/
inductive Begins (execute : Text -> Run Unit) (words : List Text) (input : Text) :
    Option Text -> Machine -> List Text -> Prop
  | absent : Begins execute words input none (start words input) words
  | loaded {text : Text} {machine : Machine} {arguments : List Text}
      (run : (execute text.normalizeNewlines).runOn (opened words input) = (.ok (), machine))
      (file : machine.globals.lookup fileName = some .file) (intact : Intact machine.globals)
      (told : commandWords machine = .ok arguments) :
      Begins execute words input (some text) (closed machine) arguments

namespace Begins

variable {execute : Text -> Run Unit} {words arguments : List Text} {input : Text}
  {startup : Option Text} {machine : Machine}
  (begins : Begins execute words input startup machine arguments)

include begins

theorem intact : Intact machine.globals := by
  cases begins with
  | absent => exact intact_initial
  | loaded _ _ intact =>
      have apart : ∀ name ∈ sessionNames, name ≠ fileName := by decide
      intro name member
      rw [lookup_closed _ (apart name member), intact name member]

theorem told : commandWords machine = .ok arguments := by
  cases begins with
  | absent => rfl
  | loaded _ _ _ told => exact told

end Begins

/-! ## Sessions without a script -/

section Stops

variable {execute : Text -> Run Unit} {words arguments : List Text} {input : Text}
  {startup : Option Text} {machine : Machine}
  (begins : Begins execute words input startup machine arguments) (define call : Run Unit)
  (width : Int)

include begins

omit begins in
theorem lists_accepted {machine : Machine} (intact : Intact machine.globals)
    (options : Command.Options) : Lists .err (accepted options machine).globals := by
  have system : initial.lookup "sys".toList = some (.module "sys".toList) ∧
      initial.lookup "str".toList = none := by decide
  have others : ∀ name ∈ ["sys".toList, "str".toList], name ≠ optionsName ∧ name ∈ sessionNames := by
    decide
  have kept : ∀ name ∈ ["sys".toList, "str".toList],
      (accepted options machine).globals.lookup name = initial.lookup name := by
    intro name member
    change ((machine.globals.setAll helpers).set _ _).lookup name = _
    rw [Bindings.lookup_set, if_neg (others name member).1, intact.lookup_helped (others name member).2]
  have writer : (accepted options machine).globals.lookup "err".toList = some (.builtin .err) := by
    change ((machine.globals.setAll helpers).set _ _).lookup _ = _
    rw [Bindings.lookup_set, if_neg (by decide)]
    exact @lookup_helper _ ("err".toList, _) (by decide)
  intro entry member
  simp only [Writer.needs, List.mem_cons, List.not_mem_nil, or_false] at member
  rcases member with rfl | rfl | rfl
  · exact (kept _ (by decide)).trans system.1
  · exact writer
  · exact (kept _ (by decide)).trans system.2

end Stops

/-! ## Sessions with a script -/

/-- The machine on which the text of a script is run: in debug mode it has been listed. -/
def shown (options : Command.Options) (machine : Machine) : Machine :=
  ((if options.debug then list "print" else pure ()).runOn (readied options machine)).2

/-- The names by which a session goes on when its script has failed: it asks the options
whether the text has been listed, and lists it if not. -/
def lateNames (options : Command.Options) : List Text :=
  optionsName ::
    if options.debug then [] else programName :: ["sys", "err", "str"].map String.toList

section Completes

variable {machine : Machine} {options : Command.Options}

/-- What a session finds under the names by which it goes on. -/
structure Known (options : Command.Options) (globals : Bindings) : Prop where
  lists : Lists .err globals
  program : globals.lookup programName = some (.str (Script.ofOptions options).text)
  chosen : globals.lookup optionsName = some (optionsRecord options)

theorem known_readied (intact : Intact machine.globals) (options : Command.Options) :
    Known options (readied options machine).globals where
  lists := by
    have apart : ∀ entry ∈ Writer.err.needs, entry.1 ∉ scriptNames := by decide
    intro entry member
    change (withScript _ (accepted options machine).globals).lookup entry.1 = entry.2
    rw [lookup_withScript _ _ (apart entry member), lists_accepted intact options entry member]
  program := lookup_programName_readied options machine
  chosen := by
    change (withScript _ (accepted options machine).globals).lookup optionsName = _
    rw [lookup_withScript _ _ (by decide)]
    change ((helped machine).globals.set _ _).lookup _ = _
    rw [Bindings.lookup_set, if_pos rfl]

/-- A listing in advance changes none of these names. -/
theorem Known.shown (known : Known options (readied options machine).globals) {later : Machine}
    (announced : Announced (.ofOptions options) (readied options machine) later) :
    Known options later.globals where
  lists := by
    intro entry member
    rw [announced.names fun _ => Writer.needs_apart .err entry member, known.lists entry member]
  program := by rw [announced.names fun _ => by decide, known.program]
  chosen := by rw [announced.names fun _ => by decide, known.chosen]

/-- Nor does anything that leaves alone the names by which the session goes on. -/
theorem Known.of_kept {earlier later : Bindings} (known : Known options earlier)
    (quiet : options.debug = false)
    (kept : ∀ name ∈ lateNames options, later.lookup name = earlier.lookup name) :
    Known options later := by
  have late : lateNames options = optionsName :: programName ::
      ["sys", "err", "str"].map String.toList := by rw [lateNames, quiet]; rfl
  have needed : ∀ entry ∈ Writer.err.needs, entry.1 ∈ optionsName :: programName ::
      ["sys", "err", "str"].map String.toList := by decide
  rw [late] at kept
  exact
    { lists := fun entry member =>
        (kept _ (needed entry member)).trans (known.lists entry member)
      program := (kept programName (by decide)).trans known.program
      chosen := (kept optionsName List.mem_cons_self).trans known.chosen }

variable {define call : Run Unit} {begun : Machine}

end Completes

section Course

theorem runOn_define_text {machine : Machine} (intact : Intact machine.globals) {program : Text}
    (found : machine.globals.lookup programName = some (.str program)) :
    Execution.define.runOn machine =
      (do
        let _ <- Dispatch.outermost.call (.builtin .execute) [.str program]
        return () : Run Unit).runOn machine := by
  have first : initial.lookup "exec".toList = none := by decide
  have free := (intact "exec".toList (by decide)).trans first
  rw [Execution.define, Action.runOn_bind_ok (Run.runOn_find_inPlace free inPlace?_exec),
    Action.runOn_bind_ok (Run.runOn_find_global found)]

variable {execute : Text -> Run Unit} {words arguments : List Text} {input : Text}
  {startup : Option Text} {machine : Machine}
  (begins : Begins execute words input startup machine arguments) {define call : Run Unit}
  (width : Int) {options : Command.Options}
  (chosen : Command.Options.ofArguments arguments = .ok options)
  (fitting : options.conflicting = false)
  (isOpen : options.debug = true -> Stream.out ∉ machine.shut)

include begins chosen fitting isOpen

end Course

/-- The options of a command line whose code uses a name of the startup file, and then one
that has no value. -/
def failingOptions : Command.Options :=
  { Command.Options.default with code := ["out(y);x".toList] }

end Execution
end Oneliner
