import Oneliner.Proofs.Session.Calling
import Oneliner.Proofs.Session.Isolation
import Oneliner.Proofs.Session.Tracing

namespace Oneliner
namespace Execution

open Program
open Workspace

/-!
Sessions whose programs have nothing to do with what lies outside.

A session runs the text of its startup file and that of its script, and calls a function.
It is left open what comes of that.  If it is the same whatever lies outside, so is the
course of the whole session: the texts that are run, all that is written, and the end.

For texts within the part of the language that is there in full it need not be left open.
Of other texts nothing is concluded, not even if they cannot be read here: in a larger
language they may have a meaning, and then it is running them in that language of which
something is asked.
-/

/-! ## Texts within the language -/

/-- The names of a program outside functions, with the texts that are the same in every
run. -/
def programVocabulary (defined : List Text) : Vocabulary where
  found := foundFirst
  texts := false
  reserved := []
  owned := []
  defined := defined
  around := []

/-- The functions that a startup file defines. -/
def startupFunctions (startup : Option Text) : List Text :=
  startup.toList.flatMap fun text => (Stmt.ofTextD text.normalizeNewlines).defined

/-- A text that can be read, and whose program is within the part of the language that is
there in full.  Functions of other texts may be called. -/
structure CoveredText (defined : List Text) (text : Text) (program : Stmt) : Prop where
  read : Stmt.ofText text = .ok program
  covered : program.covered (programVocabulary (defined ++ program.defined)) = true

instance (defined : List Text) (text : Text) :
    Decidable (CoveredText defined text (.ofTextD text)) :=
  decidable_of_iff
    ((Stmt.ofText text).isOk = true ∧
      (Stmt.ofTextD text).covered
        (programVocabulary (defined ++ (Stmt.ofTextD text).defined)) = true)
    ⟨fun ⟨read, covered⟩ => ⟨(Stmt.ofText_eq_ofTextD_iff text).mpr read, covered⟩,
      fun covered => ⟨by rw [covered.read]; rfl, covered.covered⟩⟩

theorem CoveredText.usesOnly {defined : List Text} {text : Text} {program : Stmt}
    (covered : CoveredText defined text program) (access : Access) :
    program.usesOnly access.words = true := by
  refine Stmt.usesOnly_of_covered ⟨fun _ own => ?_, fun _ usable => ?_, fun _ => rfl, ?_⟩
    covered.covered
  · cases own
  · have inside : access.names _ = true := names_of_isUsable rfl usable
    exact ⟨inside, inside⟩
  · exact members_of_complete

/-- Running the text of a startup file, in whatever language that is done, has nothing to do
with what lies outside. -/
inductive StartsApart (access : Access) (execute : Text -> Run Unit) (text : Text) : Prop
  | covered {program : Stmt} (own : execute text = Dispatch.outermost.execute text)
      (covered : CoveredText [fileName] text program)
  /-- Any other text, if what runs it is known to be like that. -/
  | alone (alone : AloneStep access (fun _ => True) (execute text))

theorem StartsApart.toAlone {access : Access} {execute : Text -> Run Unit} {text : Text}
    (apart : StartsApart access execute text) :
    AloneStep access (fun _ => True) (execute text) := by
  cases apart with
  | covered own covered =>
      rw [own]
      exact alone_execute covered.read (covered.usesOnly access) innerDepth
  | alone alone => exact alone

/-! ## Two runs with the same course -/

/-- What has come of two runs on machines that agree: the same, and the machines agree
again. -/
structure SameCourse (access : Access) (machine other : Machine)
    (outcome outcome' : Except (Halt Fault) Unit × Machine) : Prop where
  result : outcome'.1 = outcome.1
  sound : outcome.2.Sound access (Bindings.Allowed access)
  like : outcome.2.Like access [] outcome'.2
  leads : machine.Leads access [] outcome.2
  leads' : other.Leads access [] outcome'.2

/-- Running the text of a script and calling the function, whatever that is, have nothing to
do with what lies outside. -/
structure RunsApart (access : Access) (define call : Run Unit) (script : Script) : Prop where
  defines : forall {machine other : Machine}, machine.Sound access (Settled access script) ->
    machine.Like access [] other ->
      SameCourse access machine other (define.runOn machine) (define.runOn other)
  runs : forall {machine other : Machine}, machine.Sound access (Settled access script) ->
    machine.Like access [] other ->
      SameCourse access machine other ((do define; call : Run Unit).runOn machine)
        ((do define; call : Run Unit).runOn other)

namespace SameCourse

variable {access : Access} {machine other : Machine}

theorem of_agree {globals : Bindings -> Prop} {action action' : Run Unit}
    {good : Unit -> Prop} (agree : Agree access globals [] good action action')
    (known : forall {bindings}, globals bindings -> bindings.Allowed access)
    (sound : machine.Sound access globals) (like : machine.Like access [] other) :
    SameCourse access machine other (action.runOn machine) (action'.runOn other) := by
  rcases agree machine other sound like with
    ⟨result, later, later', run, run', sound, like, leads, leads', _⟩
  rw [run, run']
  exact ⟨rfl, sound.mono known, like, leads, leads'⟩

/-- What two runs do from later machines on. -/
theorem after {later later' : Machine} {outcome outcome' : Except (Halt Fault) Unit × Machine}
    (course : SameCourse access later later' outcome outcome') (leads : machine.Leads access [] later)
    (leads' : other.Leads access [] later') : SameCourse access machine other outcome outcome' :=
  ⟨course.result, course.sound, course.like, leads.trans course.leads, leads'.trans course.leads'⟩

/-- A failure that changes nothing. -/
theorem of_error {action : Run Unit}
    (sound : machine.Sound access (Bindings.Allowed access)) (like : machine.Like access [] other)
    {halt : Halt Fault} (run : action.runOn machine = (.error halt, machine))
    (run' : action.runOn other = (.error halt, other)) :
    SameCourse access machine other (action.runOn machine) (action.runOn other) := by
  rw [run, run']
  exact ⟨rfl, sound, like, .refl, .refl⟩

/-- Steps in front of others. -/
theorem bind {action : Run Unit} {next : Unit -> Run Unit}
    (first : SameCourse access machine other (action.runOn machine) (action.runOn other))
    (rest : forall {later later' : Machine}, later.Sound access (Bindings.Allowed access) ->
      later.Like access [] later' ->
        SameCourse access later later' ((next ()).runOn later) ((next ()).runOn later')) :
    SameCourse access machine other ((action >>= next).runOn machine)
      ((action >>= next).runOn other) := by
  rcases run : action.runOn machine with ⟨result, later⟩
  rcases run' : action.runOn other with ⟨result', later'⟩
  rw [run, run'] at first
  rcases first with ⟨same, sound, like, leads, leads'⟩
  change result' = result at same
  subst same
  cases result' with
  | error halt =>
      rw [Action.runOn_bind_error run, Action.runOn_bind_error run']
      exact ⟨rfl, sound, like, leads, leads'⟩
  | ok =>
      rw [Action.runOn_bind_ok run, Action.runOn_bind_ok run']
      exact (rest sound like).after leads leads'

/-- A handler that has nothing to do with what lies outside. -/
theorem tryCatch {action : Run Unit} {handler : Halt Fault -> Run Unit}
    (first : SameCourse access machine other (action.runOn machine) (action.runOn other))
    (rest : forall halt, AloneStep access (fun _ => True) (handler halt)) :
    SameCourse access machine other ((MonadExcept.tryCatch action handler).runOn machine)
      ((MonadExcept.tryCatch action handler).runOn other) := by
  rw [Action.runOn_tryCatch, Action.runOn_tryCatch]
  generalize action.runOn machine = outcome at first ⊢
  generalize action.runOn other = outcome' at first ⊢
  rcases outcome with ⟨result, later⟩
  rcases outcome' with ⟨result', later'⟩
  rcases first with ⟨same, sound, like, leads, leads'⟩
  change result' = result at same
  subst same
  cases result' with
  | ok => exact ⟨rfl, sound, like, leads, leads'⟩
  | error halt => exact (of_agree (rest halt) id sound like).after leads leads'

end SameCourse

/-! ## Defining and calling -/

section Defining

variable {access : Access} {script : Script}

/-- What is found under a global name, if the names are known. -/
theorem alone_find_known (globals : Bindings) (name : Text) :
    Alone access (· = globals) []
      (fun value => (globals.lookup name).or (Builtin.inPlace? name) = some value)
      (Run.find name) := by
  refine Agree.get fun machine other sound like => ?_
  have known : machine.globals = globals := sound.globals
  rw [like.globals_eq, known]
  cases globals.lookup name with
  | some value => exact Agree.pure rfl
  | none =>
      cases Builtin.inPlace? name with
      | some value => exact Agree.pure rfl
      | none => exact Agree.fail _

/-- Nothing is in place under the names by which the function is called. -/
theorem inPlace?_calling : ∀ name ∈ [functionName, "sys".toList], Builtin.inPlace? name = none := by
  decide +kernel

section Bound

variable {globals : Bindings} (settled : Settled access script globals) {runner : Value}
  (bound : globals.lookup "exec".toList = some runner)

include settled bound

/-- If the name by which texts are run is bound to something else, that is called. -/
theorem alone_define_bound : Alone access (· = globals) [] (fun _ => True) define := by
  have known : forall {bindings}, bindings = globals -> bindings.Allowed access :=
    settled.allowed.of_eq
  refine (alone_find_known globals _).bind fun function found => ?_
  rw [bound] at found
  cases found
  refine (alone_findNamed known (by decide)).bind fun program inside => ?_
  exact ((sound_outermost known).call (settled.allowed bound)
    (List.forall_mem_singleton.mpr inside)).bind fun _ _ => Agree.pure trivial

/-- No function is then defined, and the call fails. -/
theorem alone_run_bound : Alone access (· = globals) [] (fun _ => True) (do define; call) := by
  refine (alone_define_bound settled bound).bind fun _ _ => ?_
  refine (alone_find_known globals functionName).bind fun function found => ?_
  rw [settled.function, inPlace?_calling _ List.mem_cons_self] at found
  cases found

end Bound

/-- It remains to look at machines on which texts are run by the function in place. -/
theorem runsApart_of_free
    (free : forall {machine other : Machine}, machine.globals.lookup "exec".toList = none ->
      machine.Sound access (Settled access script) -> machine.Like access [] other ->
        SameCourse access machine other (define.runOn machine) (define.runOn other) ∧
          SameCourse access machine other ((do define; call : Run Unit).runOn machine)
            ((do define; call : Run Unit).runOn other)) :
    RunsApart access define call script := by
  constructor
  · intro machine other sound like
    cases bound : machine.globals.lookup "exec".toList with
    | none => exact (free bound sound like).1
    | some runner =>
        exact .of_agree (alone_define_bound sound.globals bound) sound.globals.allowed.of_eq
          sound.own like
  · intro machine other sound like
    cases bound : machine.globals.lookup "exec".toList with
    | none => exact (free bound sound like).2
    | some runner =>
        exact .of_agree (alone_run_bound sound.globals bound) sound.globals.allowed.of_eq
          sound.own like

/-- A text that cannot be read is not run. -/
theorem runsApart_of_unread (unread : (Stmt.ofText script.text).isOk = false) :
    RunsApart access define call script := by
  cases read : Stmt.ofText script.text with
  | ok program =>
      rw [read] at unread
      cases unread
  | error fault =>
      apply runsApart_of_free
      intro machine other free sound like
      have run := runOn_define_error free sound.globals.program read
      have run' : define.runOn other = (.error (.fault fault), other) := by
        refine runOn_define_error ?_ ?_ read
        · rw [like.globals_eq, free]
        · rw [like.globals_eq, sound.globals.program]
      exact ⟨.of_error (sound.mono Settled.allowed) like run run',
        .of_error (sound.mono Settled.allowed) like (Action.runOn_bind_error run)
          (Action.runOn_bind_error run')⟩

/-- Where the input is not outside, the call of the function is like other calls. -/
theorem alone_call (reads : access.input = true) : AloneStep access (fun _ => True) call := by
  have member : access.members "stdin".toList = true := by
    have apart : ("stdin".toList = argumentsMember) = False ∧
        streamMembers.contains "stdin".toList = false := by decide
    rw [Access.members, reads, Bool.true_or, apart.2]
    simp only [ne_eq, apart.1, not_false_eq_true, decide_true, Bool.or_true, Bool.not_false,
      Bool.and_true]
  refine (alone_findNamed id (by decide)).bind fun function inside => ?_
  refine (alone_findNamed id (by decide)).bind fun system systemInside => ?_
  refine (Run.alone_memberOf systemInside fun _ => member).bind fun source sourceInside => ?_
  exact ((sound_outermost id).call inside (List.forall_mem_singleton.mpr sourceInside)).bind
    fun _ _ => Agree.pure trivial

theorem runsApart_of_covered (reads : access.input = true) {defined : List Text} {program : Stmt}
    (covered : CoveredText defined script.text program) : RunsApart access define call script := by
  apply runsApart_of_free
  intro machine other free sound like
  have executed : AloneStep access (fun _ => True) (do
      let _ <- Dispatch.outermost.call (.builtin .execute) [.str script.text] : Run Unit) := by
    rw [call_execute]
    have ran := alone_execute covered.read (covered.usesOnly access) (innerDepth - 1)
    have given : AloneStep access (fun _ => True) (do
        (Dispatch.within (innerDepth - 1 + 1)).execute script.text
        return .nothing : Run Value) := ran.bind fun _ _ => Agree.pure trivial
    exact given.bind fun _ _ => Agree.pure trivial
  have runs : forall {state : Machine}, state.globals = machine.globals ->
      define.runOn state = (do
        let _ <- Dispatch.outermost.call (.builtin .execute) [.str script.text] : Run Unit).runOn
          state := by
    intro state same
    rw [Execution.define,
      Action.runOn_bind_ok (Run.runOn_find_inPlace (same ▸ free) inPlace?_exec),
      Action.runOn_bind_ok (Run.runOn_find_global (same ▸ sound.globals.program))]
  have defines : SameCourse access machine other (define.runOn machine) (define.runOn other) := by
    rw [runs rfl, runs like.globals_eq]
    exact .of_agree executed id (sound.mono Settled.allowed) like
  exact ⟨defines, defines.bind fun sound like => .of_agree (alone_call reads) id sound like⟩

end Defining

/-! ## Performing a script -/

section Performing

variable {access : Access} {script : Script} (execute : Text -> Run Unit) {define call : Run Unit}
  {machine other : Machine}

theorem alone_announce :
    Alone access (Settled access script) [] (fun _ => True)
      (if script.debug then list "print" else pure ()) := by
  split
  · exact alone_list Settled.allowed Settled.set (by decide)
  · exact Agree.pure trivial

theorem alone_regretThrow (halt : Halt Fault) :
    AloneStep access (fun _ : Unit => True) (do regret; throw halt) :=
  (alone_regret id fun _ inside known => known.set _ inside).bind fun _ _ => Agree.throw halt

theorem perform_eq :
    (engineWith execute define call).perform script =
      (if script.debug then list "print" else pure ()) >>= fun _ =>
        tryCatch (do define; call) fun halt => (do regret; throw halt) := by
  rw [Engine.perform]
  cases script.debug <;> rfl

variable (runs : RunsApart access define call script)
  (sound : machine.Sound access (Settled access script)) (like : machine.Like access [] other)

include runs sound like

theorem sameCourse_perform :
    SameCourse access machine other
        (((engineWith execute define call).perform script).runOn machine)
        (((engineWith execute define call).perform script).runOn other) ∧
      (engineWith execute define call).performEvents script other =
        (engineWith execute define call).performEvents script machine := by
  have announced : (engineWith execute define call).announce script = list "print" := rfl
  rw [perform_eq, Engine.performEvents, Engine.performEvents, announced]
  rcases alone_announce machine other sound like with
    ⟨result, later, later', run, run', sound, like, leads, leads', _⟩
  rw [run, run']
  cases result with
  | error halt =>
      rw [Action.runOn_bind_error run, Action.runOn_bind_error run']
      exact ⟨⟨rfl, sound.mono Settled.allowed, like, leads, leads'⟩, rfl⟩
  | ok =>
      rw [Action.runOn_bind_ok run, Action.runOn_bind_ok run']
      refine ⟨((runs.runs sound like).tryCatch alone_regretThrow).after leads leads', ?_⟩
      have defined : (engineWith execute define call).define script = define := rfl
      simp only [Engine.scriptEvents, defined, (runs.defines sound like).result]

end Performing

/-! ## Whole sessions -/

/-- The script that a session comes to, if there is one. -/
def scriptMade (engine : Engine Machine Fault) (startup : Option Text) (width : Int)
    (machine : Machine) : Option Script :=
  ((engine.approach startup width).runOn machine).1.toOption.join

section Sessions

variable {access : Access} {execute : Text -> Run Unit} {define call : Run Unit}
  {startup : Option Text} {width : Int} {machine other : Machine}

theorem sameCourse_session
    (approaches : Approaches access ((engineWith execute define call).approach startup width)
      machine other)
    (runs : ∀ script ∈ scriptMade (engineWith execute define call) startup width machine,
      RunsApart access define call script) :
    SameCourse access machine other
        (((engineWith execute define call).session startup width).runOn machine)
        (((engineWith execute define call).session startup width).runOn other) ∧
      (engineWith execute define call).sessionEvents startup width other =
        (engineWith execute define call).sessionEvents startup width machine := by
  rcases approaches with ⟨result, later, later', run, run', done⟩
  rw [scriptMade, run] at runs
  rw [Engine.sessionEvents, Engine.sessionEvents, run, run', Engine.session]
  cases result with
  | error halt =>
      rw [Action.runOn_bind_error run, Action.runOn_bind_error run']
      exact ⟨⟨rfl, done.sound, done.like, done.leads, done.leads'⟩, rfl⟩
  | ok script =>
      rw [Action.runOn_bind_ok run, Action.runOn_bind_ok run']
      cases script with
      | none => exact ⟨⟨rfl, done.sound, done.like, done.leads, done.leads'⟩, rfl⟩
      | some script =>
          have settled : later.Sound access (Settled access script) :=
            ⟨done.settled script rfl, done.sound.lists, done.sound.functions, done.sound.unasked⟩
          rcases sameCourse_perform execute (runs script rfl) settled done.like with
            ⟨performed, events⟩
          refine ⟨performed.after done.leads done.leads', ?_⟩
          simp only [events]

end Sessions

end Execution
end Oneliner
