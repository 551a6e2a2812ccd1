import Oneliner.Proofs.Program.AgreeingRuns
import Oneliner.Proofs.Program.Steps
import Oneliner.Proofs.Program.Words

namespace Oneliner
namespace Program

/-!
Programs that take the input line by line.

Two runs of a program are compared whose inputs begin with the same lines, and the second
one has more of them.  As long as both are on common lines they go along with each other.
So if the first one ends early, the second one does so at the same point.  If the first
one comes to its end, the second one has written by then what the first one has written,
and from there on it only goes on writing.
-/

/-! ## Outcomes of two runs -/

/-- Two machines that agree, of which the second one has more lines to read. -/
structure Machine.Ahead (hidden more : List Text) (machine other : Machine) : Prop
    extends machine.Like .unread hidden other where
  further : other.input = machine.input ++ more

/-- The outcome of a run and that of a second one that has more lines to read. -/
inductive Streamed {Result : Type} (globals : Bindings -> Prop) (hidden more : List Text) :
    Except (Halt Fault) Result × Machine -> Except (Halt Fault) Result × Machine -> Prop
  /-- Both have ended early at the same point. -/
  | ended {halt : Halt Fault} {later later' : Machine} (sound : later.Sound .unread globals)
      (ahead : later.Ahead hidden more later') :
      Streamed globals hidden more (.error halt, later) (.error halt, later')
  /-- The first one has come to its end, and the second one has gone on from there. -/
  | passed {result : Result} {later : Machine} {result' : Except (Halt Fault) Result}
      {final : Machine} (begins : later.transcript.Begins final.transcript)
      (sound : final.Sound .unread globals) (like : final.Like .unread hidden final) :
      Streamed globals hidden more (.ok result, later) (result', final)

/-- Nothing of the input has been read. -/
theorem Machine.Ahead.unread {hidden more : List Text} {machine other later later' : Machine}
    (ahead : machine.Ahead hidden more other) (leads : machine.Leads .unread hidden later)
    (leads' : other.Leads .unread hidden later') (like : later.Like .unread hidden later') :
    later.Ahead hidden more later' :=
  ⟨like, by rw [leads.unread rfl, leads'.unread rfl, ahead.further]⟩

/-- What is true of two machines that agree is true of what is found on both. -/
theorem Machine.Sound.of_like {access : Access} {globals : Bindings -> Prop} {hidden : List Text}
    {machine other : Machine} (sound : machine.Sound access globals)
    (like : machine.Like access hidden other) : other.Sound access globals := by
  rw [like.rest]
  exact sound.place _ _ _

section Streamed

variable {Result Next : Type} {globals known : Bindings -> Prop} {hidden more : List Text}
  {good : Result -> Prop} {machine other : Machine}

theorem Streamed.mono {outcome outcome' : Except (Halt Fault) Result × Machine}
    (streamed : Streamed known hidden more outcome outcome')
    (weaker : forall {bindings}, known bindings -> globals bindings) :
    Streamed globals hidden more outcome outcome' := by
  cases streamed with
  | ended sound ahead => exact .ended (sound.mono weaker) ahead
  | passed begins sound like => exact .passed begins (sound.mono weaker) like

/-- The same has come of both runs, and the rest of the input is still to be read. -/
theorem Streamed.of_ahead {result : Except (Halt Fault) Result}
    (sound : machine.Sound .unread globals) (ahead : machine.Ahead hidden more other) :
    Streamed globals hidden more (result, machine) (result, other) := by
  cases result with
  | error halt => exact .ended sound ahead
  | ok value =>
      refine .passed ?_ (sound.of_like ahead.toLike) ahead.symm.left
      rw [ahead.transcript_eq]
      exact .rfl

/-- Actions that do the same on any input. -/
theorem Agree.streamed {action action' : Run Result}
    (agree : Agree .unread globals hidden good action action')
    (sound : machine.Sound .unread globals) (ahead : machine.Ahead hidden more other) :
    Streamed globals hidden more (action.runOn machine) (action'.runOn other) := by
  rcases agree machine other sound ahead.toLike with
    ⟨result, later, later', run, run', sound, like, leads, leads', _⟩
  rw [run, run']
  exact .of_ahead sound (ahead.unread leads leads' like)

/-- Behind such actions the runs go on from machines that agree. -/
theorem Agree.streamed_bind {action action' : Run Result} {next next' : Result -> Run Next}
    (agree : Agree .unread known hidden good action action')
    (weaker : forall {bindings}, known bindings -> globals bindings)
    (sound : machine.Sound .unread known) (ahead : machine.Ahead hidden more other)
    (rest : forall (result : Result) (later later' : Machine), good result ->
      later.Sound .unread known -> later.Ahead hidden more later' ->
      machine.Leads .unread hidden later -> other.Leads .unread hidden later' ->
      Streamed globals hidden more ((next result).runOn later) ((next' result).runOn later')) :
    Streamed globals hidden more ((action >>= next).runOn machine)
      ((action' >>= next').runOn other) := by
  rcases agree machine other sound ahead.toLike with
    ⟨result, later, later', run, run', sound, like, leads, leads', holds⟩
  have ahead := ahead.unread leads leads' like
  cases result with
  | error halt =>
      rw [Action.runOn_bind_error run, Action.runOn_bind_error run']
      exact .ended (sound.mono weaker) ahead
  | ok value =>
      rw [Action.runOn_bind_ok run, Action.runOn_bind_ok run']
      exact rest value later later' (holds value rfl) sound ahead leads leads'

/-- A last step that does nothing. -/
theorem Streamed.bind_pure {action action' : Run Result}
    (streamed : Streamed globals hidden more (action.runOn machine) (action'.runOn other))
    (result : Next) :
    Streamed globals hidden more ((action >>= fun _ => Pure.pure result).runOn machine)
      ((action' >>= fun _ => Pure.pure result).runOn other) := by
  rw [Action.runOn_bind, Action.runOn_bind]
  generalize action.runOn machine = outcome at streamed ⊢
  generalize action'.runOn other = outcome' at streamed ⊢
  cases streamed with
  | ended sound ahead => exact .ended sound ahead
  | @passed _ _ result' _ begins sound like =>
      cases result' with
      | error halt => exact .passed begins sound like
      | ok value => exact .passed begins sound like

/-- A handler is run at the same point, or it only goes on writing. -/
theorem Streamed.tryCatch {action action' : Run Result} {handler : Halt Fault -> Run Result}
    (streamed : Streamed globals hidden more (action.runOn machine) (action'.runOn other))
    (rest : forall halt, Alone .unread globals hidden good (handler halt)) :
    Streamed globals hidden more ((MonadExcept.tryCatch action handler).runOn machine)
      ((MonadExcept.tryCatch action' handler).runOn other) := by
  rw [Action.runOn_tryCatch, Action.runOn_tryCatch]
  generalize action.runOn machine = outcome at streamed ⊢
  generalize action'.runOn other = outcome' at streamed ⊢
  cases streamed with
  | ended sound ahead => exact (rest _).streamed sound ahead
  | @passed _ _ result' final begins sound like =>
      cases result' with
      | ok value => exact .passed begins sound like
      | error halt =>
          rcases rest halt final final sound like with
            ⟨result, last, last', run, _, sound, like, leads, _⟩
          simp only [run]
          exact .passed (begins.trans leads.begins) sound like.left

/-- An action with variables of its own leaves those around it alone. -/
theorem Streamed.withLocals {action : Run Result} {given : Bindings} {inner : List Text}
    (streamed : Streamed globals inner more (action.runOn { machine with locals := given })
      (action.runOn { other with locals := given }))
    (like : machine.Like .unread hidden other) :
    Streamed globals hidden more ((Run.withLocals given action).runOn machine)
      ((Run.withLocals given action).runOn other) := by
  rw [Run.runOn_withLocals, Run.runOn_withLocals]
  generalize action.runOn { machine with locals := given } = outcome at streamed ⊢
  generalize action.runOn { other with locals := given } = outcome' at streamed ⊢
  cases streamed with
  | ended sound ahead =>
      refine .ended ⟨sound.globals, sound.lists, sound.functions, sound.unasked⟩
        ⟨⟨?_, like.same, like.allowed, nofun, ahead.arguments⟩, ahead.further⟩
      rw [ahead.rest]
      rfl
  | passed begins sound =>
      exact .passed begins ⟨sound.globals, sound.lists, sound.functions, sound.unasked⟩
        ⟨rfl, fun _ => rfl, like.symm.allowed, fun _ => rfl, fun _ => rfl⟩

end Streamed

/-! ## The loop over the input -/

theorem Run.runOn_nextLine? {machine : Machine} {line : Text} {rest : List Text}
    (found : machine.input = line :: rest) :
    nextLine?.runOn machine = (.ok (some line), { machine with input := rest }) := by
  rw [nextLine?, Action.runOn_modifyGet, found]

section Loop

variable {globals : Bindings -> Prop} {hidden : List Text} {act : Value -> Run Unit}
  (alone : forall line, Alone .unread globals hidden (fun _ => True) (act (.str line)))

include alone

/-- Whatever is done with each line, what has been written stays written. -/
theorem exists_runOn_forLines (count : Nat) {machine : Machine}
    (sound : machine.Sound .unread globals) (like : machine.Like .unread hidden machine) :
    ∃ (result : Except (Halt Fault) Unit) (final : Machine),
      (Run.forLines act count).runOn machine = (result, final) ∧
        machine.transcript.Begins final.transcript ∧ final.Sound .unread globals ∧
        final.Like .unread hidden final := by
  induction count generalizing machine with
  | zero => exact ⟨.ok (), machine, rfl, .rfl, sound, like⟩
  | succ count restRuns =>
      rw [Run.forLines]
      cases found : machine.input with
      | nil =>
          have none : Run.nextLine?.runOn machine = (.ok none, machine) := by
            rw [Run.nextLine?, Action.runOn_modifyGet, found]
          rw [Action.runOn_bind_ok none]
          exact ⟨.ok (), machine, rfl, .rfl, sound, like⟩
      | cons line rest =>
          rw [Action.runOn_bind_ok (Run.runOn_nextLine? found)]
          rcases alone line { machine with input := rest } { machine with input := rest }
              (sound.place machine.locals rest machine.arguments)
              ⟨rfl, like.same, like.allowed, fun _ => rfl, fun _ => rfl⟩ with
            ⟨result, later, later', run, _, sound, like, leads, _⟩
          cases result with
          | error halt =>
              exact ⟨.error halt, later, Action.runOn_bind_error run, leads.begins, sound, like.left⟩
          | ok =>
              rcases restRuns sound like.left with ⟨result, final, restRun, begins, sound, like⟩
              exact ⟨result, final, (Action.runOn_bind_ok run).trans restRun,
                leads.begins.trans begins, sound, like⟩

/-- On common lines two loops go along with each other. -/
theorem streamed_forLines {more : List Text} (lines : List Text) {machine other : Machine}
    (common : machine.input = lines) (sound : machine.Sound .unread globals)
    (ahead : machine.Ahead hidden more other) :
    Streamed globals hidden more ((Run.forLines act lines.length).runOn machine)
      ((Run.forLines act (lines ++ more).length).runOn other) := by
  induction lines generalizing machine other with
  | nil =>
      rcases exists_runOn_forLines alone more.length (sound.of_like ahead.toLike) ahead.symm.left with
        ⟨result, final, run, begins, sound, like⟩
      rw [List.nil_append, run]
      refine .passed ?_ sound like
      rw [← ahead.transcript_eq]
      exact begins
  | cons line rest restStreamed =>
      have further : other.input = line :: (rest ++ more) := by
        rw [ahead.further, common]
        rfl
      have next : Machine.Ahead hidden more { machine with input := rest }
          { other with input := rest ++ more } := by
        refine ⟨⟨?_, ahead.same, ahead.allowed, nofun, ahead.arguments⟩, rfl⟩
        rw [ahead.rest]
        rfl
      rw [List.cons_append, List.length_cons, List.length_cons, Run.forLines, Run.forLines,
        Action.runOn_bind_ok (Run.runOn_nextLine? common),
        Action.runOn_bind_ok (Run.runOn_nextLine? further)]
      refine (alone line).streamed_bind id (sound.place machine.locals rest machine.arguments) next ?_
      intro _ later later' _ sound ahead leads _
      exact restStreamed (leads.unread rfl) sound ahead

theorem streamed_forEach {more : List Text} {machine other : Machine}
    (sound : machine.Sound .unread globals) (ahead : machine.Ahead hidden more other) :
    Streamed globals hidden more ((Run.forEach .input act).runOn machine)
      ((Run.forEach .input act).runOn other) := by
  rw [Run.forEach, Action.runOn_bind_ok (Action.runOn_get _),
    Action.runOn_bind_ok (Action.runOn_get _), ahead.further]
  exact streamed_forLines alone machine.input rfl sound ahead

end Loop

/-! ## Functions that loop over the input -/

/-- All words but one name. -/
def Words.without (hidden : Text) : Words where
  used := fun name => name ≠ hidden
  given := fun name => name ≠ hidden
  outer := fun name => name ≠ hidden
  members := fun _ => true

/-- A function of the input without other access to it, whose last statement is a loop over
it.  Nothing but the head of the loop mentions the input. -/
structure Function.LoopsOver (function : Function) (front : Stmt) (name : Text) (step : Stmt) :
    Prop where
  parameter : function.parameter = inputMember
  body : function.body =
    front.followedBy (.seq (.seq (.loop name (.name inputMember) step) .pass) .pass)
  keeps : function.keepsTo .unread = true
  front : front.usesOnly (.without inputMember) = true
  name : name ≠ inputMember
  step : step.usesOnly (.without inputMember) = true

/-- The words of a function of the input that does not mention the input. -/
def Function.stepWords (function : Function) : Words where
  used := fun name => name ≠ inputMember &&
    ((function.parameter :: function.body.assigned).contains name || Access.unread.names name)
  given := fun name => name ≠ inputMember
  outer := Access.unread.names
  members := Access.unread.members

theorem Function.keep_stepWords (function : Function) :
    function.stepWords.Keep .unread [inputMember] (.ofFunction function) where
  used := by
    intro name used
    rcases Bool.and_eq_true_iff.mp used with ⟨apart, inside⟩
    refine .inr ⟨?_, Bool.or_eq_true_iff.mp inside⟩
    rw [List.mem_singleton]
    exact of_decide_eq_true apart
  given := by
    intro name given
    rw [List.mem_singleton]
    exact of_decide_eq_true given
  outer := id
  members := id

namespace Function.LoopsOver

variable {function : Function} {front step : Stmt} {name : Text}
  (loops : function.LoopsOver front name step)

include loops

/-- The statements in front of the loop and inside it have no access to the input. -/
theorem plain : front.usesOnly function.stepWords = true ∧
    step.usesOnly function.stepWords = true := by
  have keeps := loops.keeps
  rw [Function.keepsTo] at keeps
  generalize all : Access.unread.words.inside function.parameter function.body.assigned = words
    at keeps
  have meet : (Words.without inputMember).Meet words function.stepWords := by
    rw [← all]
    exact ⟨fun apart used => Bool.and_eq_true_iff.mpr ⟨apart, used⟩, fun apart _ => apart,
      fun _ => id, fun _ => id⟩
  rw [loops.body, Stmt.usesOnly_followedBy] at keeps
  simp only [Stmt.usesOnly, Bool.and_true, Bool.and_eq_true] at keeps
  exact ⟨Stmt.usesOnly_meet meet loops.front keeps.1, Stmt.usesOnly_meet meet loops.step keeps.2.2⟩

variable {globals : Bindings -> Prop} {dispatch : Dispatch}
  (quiet : dispatch.Sound .unread globals) {more : List Text} {machine other : Machine}
  (sound : machine.Sound .unread globals)

include quiet sound

theorem streamed_exec (ahead : machine.Ahead [inputMember] more other)
    (source : machine.locals.lookup inputMember = some .input)
    (source' : other.locals.lookup inputMember = some .input) :
    Streamed globals [inputMember] more
      ((function.body.exec dispatch (.ofFunction function)).runOn machine)
      ((function.body.exec dispatch (.ofFunction function)).runOn other) := by
  have alike : (Scope.ofFunction function).Alike .unread [inputMember] (.ofFunction function) :=
    .refl rfl
  have may : forall name, (Scope.ofFunction function).MayAssign .unread globals name :=
    Scope.mayAssign_of_owned rfl
  have owned : (Scope.ofFunction function).isVariable inputMember = true := by
    simp [Scope.isVariable, Scope.ofFunction, loops.parameter]
  have found : forall {state : Machine}, state.locals.lookup inputMember = some .input ->
      ((Expr.name inputMember).eval dispatch (.ofFunction function)).runOn state =
        (.ok .input, state) :=
    fun given => Scope.runOn_find_local rfl owned given
  have exec : function.body.exec dispatch (.ofFunction function) = (do
      front.exec dispatch (.ofFunction function)
      (Stmt.loop name (.name inputMember) step).exec dispatch (.ofFunction function)) := by
    rw [loops.body, Stmt.exec_followedBy]
    simp only [Stmt.exec, bind_pure_unit]
  rw [exec]
  refine (front.agree_exec quiet alike function.keep_stepWords (fun name _ => may name)
    loops.plain.1).streamed_bind id sound ahead ?_
  intro _ later later' _ sound ahead leads leads'
  rw [Stmt.exec,
    Action.runOn_bind_ok (found ((leads.hidden _ List.mem_cons_self).trans source)),
    Action.runOn_bind_ok (found ((leads'.hidden _ List.mem_cons_self).trans source'))]
  refine streamed_forEach (fun line => ?_) sound ahead
  have apart : name ∉ [inputMember] := by
    rw [List.mem_singleton]
    exact loops.name
  exact (alike.assign (may name) rfl apart).bind fun _ _ =>
    step.agree_exec quiet alike function.keep_stepWords (fun name _ => may name) loops.plain.2

/-- The function is called on the input. -/
theorem streamed_call (ahead : machine.Ahead [] more other) {index : Nat}
    (found : machine.functions[index]? = some function) :
    Streamed globals [] more ((Run.callFunction dispatch index [.input]).runOn machine)
      ((Run.callFunction dispatch index [.input]).runOn other) := by
  have given : Machine.Ahead [inputMember] more
      { machine with locals := [(inputMember, .input)] }
      { other with locals := [(inputMember, .input)] } := by
    refine ⟨⟨?_, fun _ => rfl, fun visible value lookup => ?_, nofun, ahead.arguments⟩,
      ahead.further⟩
    · rw [ahead.rest]
      rfl
    · rw [List.lookup_cons, beq_eq_false_iff_ne.mpr (List.ne_of_not_mem_cons visible)] at lookup
      cases lookup
  have found' : other.functions[index]? = some function := by
    rw [ahead.functions_eq, found]
  rw [Run.runOn_callFunction found, Run.runOn_callFunction found', loops.parameter]
  apply Streamed.bind_pure
  refine (loops.streamed_exec quiet ?_ given rfl rfl).withLocals ahead.toLike
  exact ⟨sound.globals, sound.lists, sound.functions, sound.unasked⟩

end Function.LoopsOver

end Program
end Oneliner
