import Oneliner.Proofs.Script.Containment
import Oneliner.Proofs.Session.Independence
import Oneliner.Proofs.Session.Startup
import Oneliner.Proofs.Text.Input

namespace Oneliner
namespace Execution

open Program
open Workspace

/-!
Sessions that go along with their input.

A session that runs its code on each line writes what it has to write on a line before it
reads the next one.  So if its input is a beginning of another one, what it writes is a
beginning of what it writes there, or it has failed and fails there at the same point.

That takes a startup file and code without access to the input.  Whether they look at the
command line or close a stream, whether something else is bound to the names by which the
function is defined and called, and whether there is a trace does not matter.
-/

/-! ## Defining and calling -/

/-- Runs that have nothing to do with the input. -/
theorem SameCourse.streamed {more : List Text} {machine other : Machine}
    {outcome outcome' : Except (Halt Fault) Unit × Machine}
    (course : SameCourse .unread machine other outcome outcome')
    (ahead : machine.Ahead [] more other) :
    Streamed (Bindings.Allowed .unread) [] more outcome outcome' := by
  rcases outcome with ⟨result, later⟩
  rcases outcome' with ⟨result', later'⟩
  rcases course with ⟨same, sound, like, leads, leads'⟩
  change result' = result at same
  subst same
  exact .of_ahead sound (ahead.unread leads leads' like)

/-- If the system is bound to another name, the function is not called on the input. -/
theorem alone_call_elsewhere {globals : Bindings} (allowed : globals.Allowed .unread)
    (elsewhere : globals.lookup "sys".toList ≠ some (.module "sys".toList)) :
    Alone .unread (· = globals) [] (fun _ => True) call := by
  have known : forall {bindings}, bindings = globals -> bindings.Allowed .unread :=
    allowed.of_eq
  refine (alone_findNamed known (by decide)).bind fun function inside => ?_
  refine (alone_find_known globals _).bind fun system found => ?_
  rw [inPlace?_calling _ (by decide), Option.or_none] at found
  refine (Run.alone_memberOf (allowed found) ?_).bind fun source sourceInside => ?_
  · rintro rfl
    exact absurd found elsewhere
  · exact ((sound_outermost known).call inside (List.forall_mem_singleton.mpr sourceInside)).bind
      fun _ _ => Agree.pure trivial

section Runs

variable {more : List Text} {machine other : Machine} (ahead : machine.Ahead [] more other)

include ahead

theorem ahead_defined (function : Function) :
    (defined machine function).Ahead [] more (defined other function) := by
  refine ⟨⟨?_, ahead.same, ahead.allowed, nofun, ahead.arguments⟩, ahead.further⟩
  rw [ahead.rest]
  rfl

theorem streamed_call {function : Function} {front step : Stmt} {name : Text}
    (loops : function.LoopsOver front name step)
    (sound : machine.Sound .unread (Bindings.Allowed .unread)) :
    Streamed (Bindings.Allowed .unread) [] more (call.runOn (defined machine function))
      (call.runOn (defined other function)) := by
  have ahead := ahead_defined ahead function
  have names : (defined machine function).globals.Allowed .unread := sound.globals.set _ rfl
  have known : forall {bindings}, bindings = (defined machine function).globals ->
      bindings.Allowed .unread := names.of_eq
  have sound : (defined machine function).Sound .unread
      (· = (defined machine function).globals) := by
    refine ⟨rfl, sound.lists, fun member => ?_, sound.unasked⟩
    rcases Array.mem_push.mp member with old | rfl
    · exact sound.functions old
    · exact loops.keeps
  by_cases system : (defined machine function).globals.lookup "sys".toList =
      some (.module "sys".toList)
  · have bound : (defined machine function).globals.lookup functionName =
        some (.function machine.functions.size) := by
      rw [defined, Bindings.lookup_set, if_pos rfl]
    have quiet := Dispatch.sound_within known innerDepth
    have streamed := loops.streamed_call quiet sound ahead (functions_defined machine function)
    rw [runOn_call bound system, runOn_call (ahead.globals_eq ▸ bound) (ahead.globals_eq ▸ system)]
    exact (streamed.bind_pure ()).mono known
  · exact ((alone_call_elsewhere names system).streamed sound ahead).mono known

/-- The text defines a function that loops over the input, if it is run by what is in place
for that. -/
theorem streamed_run {script : Script} (sound : machine.Sound .unread (Settled .unread script))
    (loops : script.collect = false ∧ script.after = none) {functions : List Text}
    {program : Stmt} (covered : CoveredText functions script.text program)
    (contained : script.Contained) :
    Streamed (Bindings.Allowed .unread) [] more ((do define; call : Run Unit).runOn machine)
      ((do define; call : Run Unit).runOn other) := by
  have settled := sound.globals
  cases bound : machine.globals.lookup "exec".toList with
  | some runner =>
      have streamed := (alone_run_bound settled bound).streamed sound.own ahead
      exact streamed.mono settled.allowed.of_eq
  | none =>
      have handler : script.handler = none := by
        cases present : script.handler with
        | none => rfl
        | some code => exact absurd covered.read (Script.ofText_text_ne_ok present program)
      have streaming : script.Streaming := ⟨loops.1, handler, loops.2⟩
      rcases streaming.exists_loopsOver contained covered.read (covered.usesOnly .unread) with
        ⟨function, front, step, rfl, loops⟩
      have run : define.runOn machine = (.ok (), defined machine function) :=
        runOn_define bound settled.program covered.read
      have run' : define.runOn other = (.ok (), defined other function) :=
        runOn_define (ahead.globals_eq ▸ bound) (ahead.globals_eq ▸ settled.program) covered.read
      rw [Action.runOn_bind_ok run, Action.runOn_bind_ok run']
      exact streamed_call ahead loops (sound.mono Settled.allowed)

end Runs

/-! ## Whole sessions -/

/-- What a script has to do with the input: it runs its code on each line and nothing behind
the loop, and the code stays in its place, or it has nothing to do with the input. -/
inductive Takes (startup : Option Text) (define call : Run Unit) (script : Script) : Prop
  | lines {program : Stmt} (own : define = Execution.define ∧ call = Execution.call)
      (loops : script.collect = false ∧ script.after = none)
      (covered : CoveredText (startupFunctions startup) script.text program)
      (contained : script.Contained)
  /-- Any other text, if running it and calling the function are known to be like that. -/
  | nothing (apart : RunsApart .unread define call script)

/-- A session that takes its input line by line, and has no access to it beside that. -/
structure Streams (execute : Text -> Run Unit) (define call : Run Unit) (startup : Option Text)
    (width : Int) (arguments : List Text) : Prop where
  starts : ∀ text ∈ startup, StartsApart .unread execute text.normalizeNewlines
  takes : ∀ script ∈ scriptMade (engineWith execute define call) startup width (start arguments []),
    Takes startup define call script

/-- A run on the beginning of an input, and a run on all of it. -/
structure GoesOn (first whole : Except (Halt Fault) Unit × Machine) : Prop where
  /-- What the second one writes begins with what the first one writes. -/
  begins : forall stream, first.2.transcript.on stream <+: whole.2.transcript.on stream
  /-- If the first one fails, the second one ends at the same point. -/
  same : forall halt, first.1 = .error halt -> whole.1 = .error halt ∧
    forall stream, whole.2.transcript.on stream = first.2.transcript.on stream

/-- A run that has failed does not go on. -/
theorem not_goesOn {first whole : Except (Halt Fault) Unit × Machine}
    (failed : first.1.isOk = false) (done : whole.1.isOk = true) : ¬ GoesOn first whole := by
  intro goesOn
  cases result : first.1 with
  | ok =>
      rw [result] at failed
      cases failed
  | error halt =>
      rw [(goesOn.same halt result).1] at done
      cases done

theorem goesOn_of_streamed {globals : Bindings -> Prop} {more : List Text}
    {first whole : Except (Halt Fault) Unit × Machine}
    (streamed : Streamed globals [] more first whole) : GoesOn first whole := by
  cases streamed with
  | @ended _ later later' sound ahead =>
      have same : forall stream, later'.transcript.on stream = later.transcript.on stream :=
        fun stream => congrArg (Transcript.on · stream) ahead.transcript_eq
      refine ⟨fun stream => ⟨[], (List.append_nil _).trans (same stream).symm⟩, ?_⟩
      rintro _ ⟨⟩
      exact ⟨rfl, same⟩
  | passed begins => exact ⟨begins.on_prefix, nofun⟩

section Sessions

variable {execute : Text -> Run Unit} {define call : Run Unit} {startup : Option Text}
  {more : List Text} {machine other : Machine} (ahead : machine.Ahead [] more other)

include ahead

theorem streamed_perform {script : Script} (takes : Takes startup define call script)
    (sound : machine.Sound .unread (Settled .unread script)) :
    Streamed (Bindings.Allowed .unread) [] more
      (((engineWith execute define call).perform script).runOn machine)
      (((engineWith execute define call).perform script).runOn other) := by
  rw [perform_eq]
  refine alone_announce.streamed_bind Settled.allowed sound ahead ?_
  intro _ later later' _ sound ahead _ _
  refine Streamed.tryCatch ?_ alone_regretThrow
  cases takes with
  | lines own loops covered contained =>
      rcases own with ⟨rfl, rfl⟩
      exact streamed_run ahead sound loops covered contained
  | nothing apart => exact (apart.runs sound ahead.toLike).streamed ahead

theorem streamed_session {width : Int} {arguments : List Text}
    (streams : Streams execute define call startup width arguments)
    (sound : machine.Sound .unread (Bindings.Allowed .unread))
    (first : (start arguments []).Like .unread [] machine) :
    Streamed (Bindings.Allowed .unread) [] more
      (((engineWith execute define call).session startup width).runOn machine)
      (((engineWith execute define call).session startup width).runOn other) := by
  have starts : ∀ text ∈ startup,
      AloneStep .unread (fun _ => True) (execute text.normalizeNewlines) :=
    fun text member => (streams.starts text member).toAlone
  rcases approaches_approach sound ahead.toLike nofun starts define call width with
    ⟨result, later, later', run, run', done⟩
  rcases approaches_approach (sound_start arguments []) first nofun starts define call width with
    ⟨_, _, _, made, run₂, _⟩
  have ahead := ahead.unread done.leads done.leads' done.like
  cases run.symm.trans run₂
  have takes := streams.takes
  rw [scriptMade, made] at takes
  cases result with
  | error halt =>
      rw [Engine.session, Action.runOn_bind_error run, Action.runOn_bind_error run']
      exact .of_ahead done.sound ahead
  | ok script =>
      rw [Engine.session, Action.runOn_bind_ok run, Action.runOn_bind_ok run']
      cases script with
      | none => exact .of_ahead done.sound ahead
      | some script =>
          exact streamed_perform ahead (takes script rfl)
            ⟨done.settled script rfl, done.sound.lists, done.sound.functions, done.sound.unasked⟩

end Sessions

/-- What a session writes for a line does not depend on later lines. -/
theorem session_goesOn {execute : Text -> Run Unit} {define call : Run Unit} {width : Int}
    {arguments : List Text} {startup : Option Text}
    (streams : Streams execute define call startup width arguments) {front : Text}
    (ended : front = [] ∨ front.getLast? = some '\n') (back : Text) :
    GoesOn
      (((engineWith execute define call).session startup width).runOn (start arguments front))
      (((engineWith execute define call).session startup width).runOn
        (start arguments (front ++ back))) := by
  have ahead : (start arguments front).Ahead [] back.inputLines (start arguments (front ++ back)) :=
    ⟨⟨rfl, fun _ => rfl, nofun, nofun, fun _ => rfl⟩, Text.inputLines_append ended back⟩
  have first : (start arguments []).Like .unread [] (start arguments front) :=
    ⟨rfl, fun _ => rfl, nofun, nofun, fun _ => rfl⟩
  exact goesOn_of_streamed (streamed_session ahead streams (sound_start arguments front) first)

/-- A startup file with a value and a function. -/
def showingStartup : Text :=
  "k=10\ndef show(x):\n    out(x+k)\n".toList

/-- A command line that shows sums of lines by the function of the startup file. -/
def showingArguments : List Text :=
  ["-b", "n=0", "n+=_;show(n)"].map String.toList

/-- A command line with a handler, whose text cannot be read. -/
def handlingArguments : List Text :=
  ["-e", "pass", "out(_)"].map String.toList

theorem session_goesOn_sums :
    (Streams Dispatch.outermost.execute define call (some showingStartup) 80 showingArguments ∧
      GoesOn (ofSession (some showingStartup) 80 showingArguments "1\nx\n".toList)
        (ofSession (some showingStartup) 80 showingArguments
          ("1\nx\n".toList ++ "2\n".toList))) ∧
      Streams Dispatch.outermost.execute define call none 80 handlingArguments ∧
      GoesOn (ofSession none 80 handlingArguments [])
        (ofSession none 80 handlingArguments "1\n".toList) := by
  have checked : CoveredText [fileName] showingStartup.normalizeNewlines
        (.ofTextD showingStartup.normalizeNewlines) ∧
      (∀ script ∈ scriptMade engine (some showingStartup) 80 (start showingArguments []),
        (script.collect = false ∧ script.after = none) ∧
          CoveredText (startupFunctions (some showingStartup)) script.text (.ofTextD script.text) ∧
          script.Contained) ∧
      ∀ script ∈ scriptMade engine none 80 (start handlingArguments []),
        (Stmt.ofText script.text).isOk = false := by
    decide +kernel
  have streams : Streams Dispatch.outermost.execute define call (some showingStartup) 80
      showingArguments := by
    constructor
    · rintro _ ⟨⟩
      exact .covered rfl checked.1
    · intro script made
      rcases checked.2.1 script made with ⟨loops, covered, contained⟩
      exact .lines ⟨rfl, rfl⟩ loops covered contained
  have unread : Streams Dispatch.outermost.execute define call none 80 handlingArguments :=
    ⟨nofun, fun script made => .nothing (runsApart_of_unread (checked.2.2 script made))⟩
  exact ⟨⟨streams, session_goesOn streams (.inr rfl) _⟩, unread,
    session_goesOn unread (.inl rfl) "1\n".toList⟩

/-- A startup file can bind the function that reads a line to another name, and code that
does not mention the input then reads the next line.  A form feed can put the end of the
code behind the loop. -/
theorem ofSession_not_goesOn :
    ¬ GoesOn
        (ofSession (some "sum=input\n".toList) 80 ["out(sum(_))".toList] "1\n".toList)
        (ofSession (some "sum=input\n".toList) 80 ["out(sum(_))".toList] "1\n2\n".toList) ∧
      ¬ GoesOn
        (ofSession none 80 ["if 1:\n    pass\n\x0c    out(1+_)".toList] "x\n".toList)
        (ofSession none 80 ["if 1:\n    pass\n\x0c    out(1+_)".toList] "x\n2\n".toList) := by
  have endings :
      ((ofSession (some "sum=input\n".toList) 80 ["out(sum(_))".toList] "1\n".toList).1.isOk = false ∧
        (ofSession (some "sum=input\n".toList) 80 ["out(sum(_))".toList]
          "1\n2\n".toList).1.isOk = true) ∧
      (ofSession none 80 ["if 1:\n    pass\n\x0c    out(1+_)".toList] "x\n".toList).1.isOk = false ∧
        (ofSession none 80 ["if 1:\n    pass\n\x0c    out(1+_)".toList]
          "x\n2\n".toList).1.isOk = true := by
    decide +kernel
  exact ⟨not_goesOn endings.1.1 endings.1.2, not_goesOn endings.2.1 endings.2.2⟩

end Execution
end Oneliner
