import Oneliner.Proofs.Command.Interleaving
import Oneliner.Proofs.Session.Independence

namespace Oneliner

/-!
Sessions and the order of their command lines.

A session reads its command line once.  If the same is made of two command lines, two
sessions have the same course, unless a program looks at the command line itself, as it can:
for such a program the place of the code among the switches is something to be seen.
-/

namespace Execution

open Program
open Engine (Emits)

/-- Two sessions with the same course. -/
structure SameSession (engine : Engine Machine Fault) (startup : Option Text) (width : Int)
    (machine other : Machine) : Prop where
  /-- The same texts are run in the same order, and the function is called in both or in
  none. -/
  events : Exists fun events =>
    Emits (engine.traced.session startup width) (engine.session startup width) machine events ∧
      Emits (engine.traced.session startup width) (engine.session startup width) other events
  ending : ((engine.session startup width).runOn other).1 =
    ((engine.session startup width).runOn machine).1
  written : ((engine.session startup width).runOn other).2.transcript =
    ((engine.session startup width).runOn machine).2.transcript

/-- The text of a script and its function have nothing to do with the command line. -/
inductive Heedless (startup : Option Text) (define call : Run Unit) (script : Script) : Prop
  | covered {program : Stmt} (own : define = Execution.define ∧ call = Execution.call)
      (covered : CoveredText (startupFunctions startup) script.text program)
  /-- Any other text, if running it and calling the function are known to be like that. -/
  | apart (apart : RunsApart .heedless define call script)

theorem Heedless.toRunsApart {startup : Option Text} {define call : Run Unit} {script : Script}
    (heedless : Heedless startup define call script) : RunsApart .heedless define call script := by
  cases heedless with
  | covered own covered =>
      rcases own with ⟨rfl, rfl⟩
      exact runsApart_of_covered rfl covered
  | apart apart => exact apart

/-- Command lines of which the same is made lead to the same session. -/
theorem sameSession_of_ofArguments_eq {arguments other : List Text}
    (same : Command.Options.ofArguments arguments = Command.Options.ofArguments other)
    {execute : Text -> Run Unit} {define call : Run Unit} {startup : Option Text} {width : Int}
    {input : Text}
    (starts : ∀ text ∈ startup, StartsApart .heedless execute text.normalizeNewlines)
    (heedless : ∀ script ∈ scriptMade (engineWith execute define call) startup width
      (start arguments input), Heedless startup define call script) :
    SameSession (engineWith execute define call) startup width (start arguments input)
      (start other input) := by
  have like : (start arguments input).Like .heedless [] (start other input) :=
    ⟨rfl, fun _ => rfl, nofun, fun _ => rfl, nofun⟩
  have approaches := approaches_approach (sound_start arguments input) like (fun _ => same.symm)
    (fun text member => (starts text member).toAlone) define call width
  rcases sameCourse_session approaches fun script made => (heedless script made).toRunsApart with
    ⟨course, events⟩
  have emits := (engineWith execute define call).emits_session startup width
  refine ⟨⟨_, emits (start arguments input), ?_⟩, course.result, course.like.transcript_eq⟩
  rw [← events]
  exact emits (start other input)

end Execution

namespace Command

open Execution

/-- The order of groups and pieces is all that matters to the reading and, as far as its
programs do not look at the command line, to the whole session. -/
theorem Interleaving.outcome_eq {groups : List (List Text)} {pieces arguments other : List Text}
    (switches : forall group, group ∈ groups -> IsGroup group)
    (code : forall piece, piece ∈ pieces -> IsPiece piece)
    (first : Interleaving groups pieces arguments) (second : Interleaving groups pieces other) :
    Options.ofArguments arguments = Options.ofArguments other ∧
      (forall options, Options.ofArguments arguments = .ok options -> options.code = pieces) ∧
      forall (execute : Text -> Program.Run Unit) (define call : Program.Run Unit)
        (startup : Option Text) (width : Int) (input : Text),
        (∀ text ∈ startup, StartsApart .heedless execute text.normalizeNewlines) ->
        (∀ script ∈ scriptMade (engineWith execute define call) startup width
          (start arguments input), Heedless startup define call script) ->
          SameSession (engineWith execute define call) startup width (start arguments input)
            (start other input) := by
  have outcome := first.ofArguments_eq switches code
  have same : Options.ofArguments arguments = Options.ofArguments other :=
    outcome.trans (second.ofArguments_eq switches code).symm
  refine ⟨same, ?_, fun execute define call startup width input =>
    sameSession_of_ofArguments_eq same⟩
  intro options read
  rw [outcome] at read
  cases alone : Options.ofArguments groups.flatten with
  | error ending =>
      rw [alone] at read
      cases read
  | ok switched =>
      rw [alone] at read
      cases read
      rfl

/-- Pieces of code among switches, one of them a single hyphen. -/
def mixedArguments : List Text :=
  ["out(_", "-b", "n=0", "-", "--de", "k)"].map String.toList

/-- The same switches and pieces, with the switches in front. -/
def sortedArguments : List Text :=
  ["-b", "n=0", "--de", "out(_", "-", "k)"].map String.toList

theorem Interleaving.outcome_eq_mixed :
    (exists options, Options.ofArguments mixedArguments = .ok options ∧
        options.code = ["out(_", "-", "k)"].map String.toList) ∧
      SameSession engine (some "k=10\n".toList) 80 (start mixedArguments "1\nx\n".toList)
        (start sortedArguments "1\nx\n".toList) := by
  have switches : forall group, group ∈ [["-b".toList, "n=0".toList], ["--de".toList]] ->
      IsGroup group := by
    rw [List.forall_mem_cons, List.forall_mem_singleton]
    exact ⟨.valued "n=0".toList (by decide) (by decide), .alone (by decide) (by decide)⟩
  have code : forall piece, piece ∈ ["out(_".toList, "-".toList, "k)".toList] -> IsPiece piece := by
    rw [List.forall_mem_cons, List.forall_mem_cons, List.forall_mem_singleton]
    exact ⟨by decide, by decide, by decide⟩
  have checked : CoveredText [Workspace.fileName] (Text.normalizeNewlines "k=10\n".toList)
        (.ofTextD (Text.normalizeNewlines "k=10\n".toList)) ∧
      ∀ script ∈ scriptMade engine (some "k=10\n".toList) 80
          (start mixedArguments "1\nx\n".toList),
        CoveredText (startupFunctions (some "k=10\n".toList)) script.text (.ofTextD script.text) := by
    decide +kernel
  have outcome := Interleaving.outcome_eq switches code
    (.piece _ (.group _ (.piece _ (.group _ (.piece _ .nil)))))
    (.group _ (.group _ (.piece _ (.piece _ (.piece _ .nil)))))
  refine ⟨⟨_, rfl, outcome.2.1 _ rfl⟩, ?_⟩
  apply outcome.2.2 Program.Dispatch.outermost.execute define call
  · rintro _ ⟨⟩
    exact .covered rfl checked.1
  · exact fun script made => .covered ⟨rfl, rfl⟩ (checked.2 script made)

/-- A command line whose code looks at the last argument. -/
def lookingArguments : List Text :=
  ["--no-trim", "for a in sys.argv\x7bx = a\x7d\nout(x == '--no-trim')"].map String.toList

/-- A program that looks at the command line tells one order from another. -/
theorem Interleaving.outcome_ne_looking :
    Options.ofArguments lookingArguments = Options.ofArguments lookingArguments.reverse ∧
      (ofSession none 80 lookingArguments "1\n".toList).2.transcript.on .out = "False\n".toList ∧
      (ofSession none 80 lookingArguments.reverse "1\n".toList).2.transcript.on .out =
        "True\n".toList := by
  decide +kernel

end Command
end Oneliner
