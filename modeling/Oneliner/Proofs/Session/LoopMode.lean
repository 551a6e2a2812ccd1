import Oneliner.Proofs.Scalar.Numeral
import Oneliner.Proofs.Session.Calling

namespace Oneliner

/-!
Sessions that run their code on each line.

The text of the function is defined and called through global names.  If that fails,
the text is listed, and the failure goes on.
-/

namespace Sections

open Program Execution

/-- The sections are what the code of a script says in each place: one block deep
before and behind the loop, and two blocks deep inside it.  Code at the end of the
text counts without white space at its end. -/
structure Told (script : Script) (sections : Sections) : Prop where
  before : Placed 1 script.beforeCode sections.before
  main : Placed 2 script.mainCode sections.main
  after : Placed 1 script.afterCode sections.after
  /-- The loop has something to do. -/
  some : script.trim = true ∨ sections.main ≠ .pass

/-- The sections that the code of a script writes. -/
def ofScript (script : Script) : Sections where
  before := .ofTextD script.beforeCode
  main := .ofTextD script.mainCode
  after := .ofTextD script.afterCode

instance (script : Script) : Decidable ((ofScript script).Told script) :=
  decidable_of_iff
    (Placed 1 script.beforeCode (.ofTextD script.beforeCode) ∧
      Placed 2 script.mainCode (.ofTextD script.mainCode) ∧
      Placed 1 script.afterCode (.ofTextD script.afterCode) ∧
      (script.trim = true ∨ Stmt.ofTextD script.mainCode ≠ .pass))
    ⟨fun ⟨before, main, after, filled⟩ => ⟨before, main, after, filled⟩,
      fun told => ⟨told.before, told.main, told.after, told.some⟩⟩

instance (sections : Sections) : Decidable sections.Supported :=
  decidable_of_iff
    (sections.before.usesOnly sections.words = true ∧
      sections.main.usesOnly sections.words = true ∧
      sections.after.usesOnly sections.words = true)
    ⟨fun ⟨before, main, after⟩ => ⟨before, main, after⟩,
      fun supported => ⟨supported.before, supported.main, supported.after⟩⟩

/-- The names of sections: the variables belong to all of them, and so do the functions that
they define. -/
def vocabulary (sections : Sections) : Vocabulary where
  found := foundFirst
  texts := true
  reserved := hiddenNames
  owned := subject :: (sections.before.assigned ++ sections.main.assigned ++
    sections.after.assigned)
  defined := Workspace.functionName ::
    (sections.before.defined ++ sections.main.defined ++ sections.after.defined)
  around := []

/-- Sections within the part of the language that is there in full.  They mention neither
the input nor what makes numbers of its lines. -/
structure Covered (sections : Sections) : Prop where
  before : sections.before.covered sections.vocabulary = true
  main : sections.main.covered sections.vocabulary = true
  after : sections.after.covered sections.vocabulary = true

instance (sections : Sections) : Decidable sections.Covered :=
  decidable_of_iff
    (sections.before.covered sections.vocabulary = true ∧
      sections.main.covered sections.vocabulary = true ∧
      sections.after.covered sections.vocabulary = true)
    ⟨fun ⟨before, main, after⟩ => ⟨before, main, after⟩,
      fun covered => ⟨covered.before, covered.main, covered.after⟩⟩

theorem fits_vocabulary (sections : Sections) : sections.vocabulary.Fits sections.words where
  own := fun visible own =>
    Bool.and_eq_true_iff.mpr ⟨visible, Bool.or_eq_true_iff.mpr (.inl own)⟩
  found := by
    intro name visible usable
    have inside : Access.isolated.names name = true := names_of_isUsable rfl usable
    exact ⟨Bool.and_eq_true_iff.mpr ⟨visible, Bool.or_eq_true_iff.mpr (.inr inside)⟩, inside⟩
  given := id
  members := members_of_complete

theorem Covered.supported {sections : Sections} (covered : sections.Covered) :
    sections.Supported where
  before := Stmt.usesOnly_of_covered sections.fits_vocabulary covered.before
  main := Stmt.usesOnly_of_covered sections.fits_vocabulary covered.main
  after := Stmt.usesOnly_of_covered sections.fits_vocabulary covered.after

/-- The machine on which sections are run: it knows all that the session knows. -/
def start (sections : Sections) (options : Command.Options) (arguments input : List Text) :
    Machine :=
  called options (sections.function (.ofOptions options)) arguments input

theorem sound_start {sections : Sections} (supported : sections.Supported)
    (options : Command.Options) (arguments input : List Text) :
    (sections.start options arguments input).Sound .isolated (· = calledGlobals options) := by
  refine ⟨rfl, ?_, ?_, fun _ => rfl⟩
  · intro items member value inItems
    rcases List.mem_map.mp (List.mem_toArray.mp member) with ⟨code, _, rfl⟩
    rcases List.mem_map.mp (List.mem_toArray.mp inItems) with ⟨char, _, rfl⟩
    rfl
  · intro function member
    rw [List.mem_singleton.mp (List.mem_toArray.mp member)]
    exact keepsTo_function supported _

/-- What comes of running the sections on the readings of an input.  There is no input
beside them, and no command line. -/
def outcome (sections : Sections) (options : Command.Options) (input : Text) :
    Except (Halt Fault) Unit × Machine :=
  (sections.run (.within innerDepth) (input.inputLines.map (Script.ofOptions options).reading)).runOn
    (sections.start options [] [])

end Sections

namespace Execution

open Program
open Workspace

theorem fitting_of_loops {options : Command.Options} (loops : (Script.ofOptions options).Loops) :
    options.conflicting = false := by
  have collect : options.collect = false := loops.collect
  rw [Command.Options.conflicting, collect, Bool.false_and]

section Performance

variable {options : Command.Options} {sections : Sections}
  (loops : (Script.ofOptions options).Loops) (told : sections.Told (.ofOptions options))

include loops told in
theorem runOn_defineTold (arguments : List Text) (input : Text) :
    define.runOn (ready options arguments input) =
      (.ok (), sections.start options arguments input.inputLines) := by
  have read : Stmt.ofText (Script.ofOptions options).text =
      .ok (.seq (.define functionName (sections.function (.ofOptions options)).parameter
        (sections.function (.ofOptions options)).body) .pass) :=
    Script.Loops.ofText_text told.before told.main told.after loops told.some
  exact runOn_define_ready read arguments input

variable (supported : sections.Supported)

include supported in
theorem runOn_callTold (arguments : List Text) (input : Text) :
    ∃ rest left : List Text,
      call.runOn (sections.start options arguments input.inputLines) =
          ((sections.outcome options input).1,
            { (sections.outcome options input).2 with input := rest, arguments := left }) ∧
        (sections.outcome options input).2.globals = calledGlobals options ∧
        (sections.outcome options input).2.shut = [] := by
  have sound := Sections.sound_start supported options arguments input.inputLines
  have found : (sections.start options arguments input.inputLines).functions[0]? =
      some (sections.function (.ofOptions options)) := rfl
  rcases Sections.runOn_callFunction (supplied_calledGlobals options) supported (innerDepth - 2)
    (.ofOptions options) sound (fun _ => Text.isInputLine_of_mem) found with
    ⟨result, last, rest, left, outcome, run, globals, shut⟩
  have outcome : sections.outcome options input = (result, last) := outcome
  rw [outcome]
  refine ⟨rest, left, ?_, globals, shut⟩
  rw [Sections.start, runOn_call_called, ← Sections.start]
  refine (Action.runOn_bind _ _ _).trans ?_
  have run : (Run.callFunction (.within innerDepth) 0 [.input]).runOn
      (sections.start options arguments input.inputLines) = _ := run
  rw [run]
  cases result <;> rfl

include loops told supported

/-- If the sections do not fail, the session leaves the machine as they do. -/
theorem exists_ofSession_eq_of_ok (width : Int) {arguments : List Text}
    (chosen : Command.Options.ofArguments arguments = .ok options) (input : Text)
    {later : Machine} (done : sections.outcome options input = (.ok (), later)) :
    ∃ rest left : List Text,
      ofSession none width arguments input =
        (.ok (), { later with input := rest, arguments := left }) := by
  rcases runOn_callTold supported arguments input with ⟨rest, left, called, _⟩
  rw [done] at called
  refine ⟨rest, left, ?_⟩
  rw [ofSession_eq_perform width chosen (fitting_of_loops loops) input]
  exact runOn_perform_ok loops.debug (runOn_defineTold loops told arguments input) called

/-- A script that runs its code on each line does what its sections do, and lists its
text if they fail. -/
theorem runOn_perform
    (short : (Script.ofOptions options).text.lines.length < Scalar.integerBound)
    (arguments : List Text) (input : Text) :
    Exists fun later =>
      (engine.perform (.ofOptions options)).runOn (ready options arguments input) =
          ((sections.outcome options input).1, later) ∧
        later.transcript.on .out = (sections.outcome options input).2.transcript.on .out ∧
        later.transcript.on .err = (sections.outcome options input).2.transcript.on .err ++
          match (sections.outcome options input).1 with
          | .ok _ => []
          | .error _ => Script.listing (Script.ofOptions options).text := by
  rcases runOn_callTold supported arguments input with ⟨rest, left, called, globals, shut⟩
  rw [runOn_perform_eq loops.debug, Action.runOn_tryCatch,
    Action.runOn_bind_ok (runOn_defineTold loops told arguments input), called]
  cases (sections.outcome options input).1 with
  | ok => exact ⟨_, rfl, rfl, (List.append_nil _).symm⟩
  | error halt =>
      have program : (calledGlobals options).lookup programName =
          some (.str (Script.ofOptions options).text) := by
        rw [calledGlobals, Bindings.lookup_set, if_neg (by decide)]
        exact lookup_programName _ _
      have chosen : (calledGlobals options).lookup optionsName = some (optionsRecord options) := by
        rw [calledGlobals, Bindings.lookup_set, if_neg (by decide), lookup_optionsName]
      have isOpen : Stream.err ∉ (sections.outcome options input).2.shut := by
        rw [shut]
        exact List.not_mem_nil
      rcases @runOn_regret
        { (sections.outcome options input).2 with input := rest, arguments := left }
        (globals ▸ lists_calledGlobals options) _ (globals ▸ program) options (globals ▸ chosen)
        loops.debug isOpen short with ⟨later, run, listed⟩
      refine ⟨later, ?_, listed.other .out (by decide), listed.written⟩
      exact Action.runOn_bind_ok run

end Performance

/-- A session that runs its code on each line ends as its sections do, and writes the
same, followed by the listing of its text if they fail. -/
theorem ofSession_eq_outcome (width : Int) {arguments : List Text} {options : Command.Options}
    (chosen : Command.Options.ofArguments arguments = .ok options)
    (loops : (Script.ofOptions options).Loops) {sections : Sections}
    (told : sections.Told (.ofOptions options)) (covered : sections.Covered)
    (short : (Script.ofOptions options).text.lines.length < Scalar.integerBound) (input : Text) :
    (ofSession none width arguments input).1 = (sections.outcome options input).1 ∧
      (ofSession none width arguments input).2.transcript.on .out =
        (sections.outcome options input).2.transcript.on .out ∧
      (ofSession none width arguments input).2.transcript.on .err =
        (sections.outcome options input).2.transcript.on .err ++
          match (sections.outcome options input).1 with
          | .ok _ => []
          | .error _ => Script.listing (Script.ofOptions options).text := by
  rcases runOn_perform loops told covered.supported short arguments input with
    ⟨later, run, out, err⟩
  rw [ofSession_eq_perform width chosen (fitting_of_loops loops) input, run]
  exact ⟨rfl, out, err⟩

/-- The options of a command line that adds up the lines of the input, and has a function
for writing the sum. -/
def totalOptions : Command.Options :=
  { Command.Options.default with
    before := some "n=0;def show(x)\x7bout(x)\x7d".toList
    after := some "show(n)".toList
    code := ["n+=_".toList] }

theorem ofSession_eq_outcome_total :
    (Sections.ofScript (.ofOptions totalOptions)).Told (.ofOptions totalOptions) ∧
      (Sections.ofScript (.ofOptions totalOptions)).Covered ∧
      (ofSession none 80
          (["-b", "n=0;def show(x)\x7bout(x)\x7d", "-a", "show(n)", "n+=_"].map String.toList)
          "1\n2".toList).2.transcript.on .out =
        ((Sections.ofScript (.ofOptions totalOptions)).outcome totalOptions
          "1\n2".toList).2.transcript.on .out := by
  have checked : (Script.ofOptions totalOptions).text.lines.length < 10 ^ 2 ∧
      (Sections.ofScript (.ofOptions totalOptions)).Told (.ofOptions totalOptions) ∧
      (Sections.ofScript (.ofOptions totalOptions)).Covered := by
    decide +kernel
  rcases checked with ⟨few, told, covered⟩
  have short : (Script.ofOptions totalOptions).text.lines.length < Scalar.integerBound :=
    Nat.lt_of_lt_of_le few (Scalar.pow_le_integerBound (by decide))
  exact ⟨told, covered, (ofSession_eq_outcome 80 (by decide +kernel) ⟨rfl, rfl, rfl⟩ told covered
    short "1\n2".toList).2.1⟩

/-- The options of a command line whose code has a form feed in front of a statement. -/
def feedOptions : Command.Options :=
  { Command.Options.default with code := ["out(_)\n\x0cout('m')".toList] }

set_option maxRecDepth 40000 in
/-- A form feed sets the column back to zero also behind the blanks of a block: code that
is sound by itself then ends the function, and its last statement runs first. -/
theorem ofSession_ne_outcome_formFeed :
    (Script.ofOptions feedOptions).Loops ∧
      (Sections.ofScript (.ofOptions feedOptions)).Covered ∧
      (Stmt.ofText (Script.ofOptions feedOptions).mainCode).isOk = true ∧
      ((Sections.ofScript (.ofOptions feedOptions)).outcome feedOptions
        "1\n".toList).2.transcript.on .out = "1\nm\n".toList ∧
      (ofSession none 80 ["out(_)\n\x0cout('m')".toList] "1\n".toList).2.transcript.on .out =
        "m\n1\n".toList :=
  ⟨⟨rfl, rfl, rfl⟩, by decide +kernel⟩

end Execution
end Oneliner
