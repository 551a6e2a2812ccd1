import Oneliner.Proofs.Action
import Oneliner.Session.Recording

namespace Oneliner
namespace Engine

/-!
What an engine is asked to run in the course of a session.

Any engine can be made to keep a record of the texts that it is given and of the calls of
the function.  The record makes no difference to the session, and of all its steps only
three add to it.  The engine that runs nothing keeps the same record by itself.
-/

/-- What an engine may be asked to run. -/
inductive Event where
  /-- The text of the startup file. -/
  | load (text : Text)
  /-- The text of a script. -/
  | define (text : Text)
  /-- The function. -/
  | call
  deriving DecidableEq, Repr

variable {State Cause Result Next : Type}

/-- Do something without adding to the record. -/
def quietly (action : Action State Cause Result) : Action (State × List Event) Cause Result :=
  ExceptT.mk fun recorded =>
    let (result, later) := action.runOn recorded.1
    (result, later, recorded.2)

def record (event : Event) : Action (State × List Event) Cause Unit :=
  modify fun (state, log) => (state, log ++ [event])

/-- The engine that does the same and keeps a record. -/
def traced (engine : Engine State Cause) : Engine (State × List Event) Cause where
  write := fun write => quietly (engine.write write)
  load := fun text => do
    record (.load text)
    quietly (engine.load text)
  prepare := quietly engine.prepare
  arguments := quietly engine.arguments
  accept := fun options => quietly (engine.accept options)
  refuse := quietly engine.refuse
  expand := fun code => quietly (engine.expand code)
  settle := fun script => quietly (engine.settle script)
  announce := fun script => quietly (engine.announce script)
  define := fun script => do
    record (.define script.text)
    quietly (engine.define script)
  call := do
    record .call
    quietly engine.call
  regret := fun script => quietly (engine.regret script)

/-! ## Runs with a record -/

/-- On a state, the first action does what the second one does, and adds events to the
record. -/
def Emits (traced : Action (State × List Event) Cause Result) (action : Action State Cause Result)
    (state : State) (events : List Event) : Prop :=
  forall log, traced.runOn (state, log) =
    ((action.runOn state).1, (action.runOn state).2, log ++ events)

namespace Emits

variable {action : Action State Cause Result} {tracedAction : Action (State × List Event) Cause Result}
  {next : Result -> Action State Cause Next}
  {tracedNext : Result -> Action (State × List Event) Cause Next}
  {state later : State} {events more : List Event}

theorem quietly (action : Action State Cause Result) (state : State) :
    Emits (Engine.quietly action) action state [] := by
  intro log
  rw [List.append_nil]
  rfl

theorem pure (result : Result) (state : State) :
    Emits (Pure.pure result) (Pure.pure result : Action State Cause Result) state [] :=
  fun log => by rw [List.append_nil]; rfl

theorem throw (halt : Halt Cause) (state : State) :
    Emits (MonadExcept.throw halt) (MonadExcept.throw halt : Action State Cause Result) state [] :=
  fun log => by rw [List.append_nil]; rfl

theorem recorded (event : Event) (emits : Emits tracedAction action state events) :
    Emits (record event >>= fun _ => tracedAction) action state (event :: events) := by
  intro log
  have noted : (record event : Action (State × List Event) Cause Unit).runOn (state, log) =
      (.ok (), state, log ++ [event]) := rfl
  rw [Action.runOn_bind_ok noted, emits (log ++ [event]), List.append_assoc]
  rfl

theorem bind_ok (first : Emits tracedAction action state events) {result : Result}
    (run : action.runOn state = (.ok result, later))
    (rest : Emits (tracedNext result) (next result) later more) :
    Emits (tracedAction >>= tracedNext) (action >>= next) state (events ++ more) := by
  intro log
  have traced := first log
  rw [run] at traced
  rw [Action.runOn_bind_ok traced, rest (log ++ events), Action.runOn_bind_ok run, List.append_assoc]

theorem bind_error (first : Emits tracedAction action state events) {halt : Halt Cause}
    (run : action.runOn state = (.error halt, later)) :
    Emits (tracedAction >>= tracedNext) (action >>= next) state events := by
  intro log
  have traced := first log
  rw [run] at traced
  rw [Action.runOn_bind_error traced, Action.runOn_bind_error run]

/-- If no events follow, it does not matter how the first action ends. -/
theorem bind (first : Emits tracedAction action state events)
    (rest : forall result later, Emits (tracedNext result) (next result) later []) :
    Emits (tracedAction >>= tracedNext) (action >>= next) state events := by
  rcases run : action.runOn state with ⟨result, later⟩
  cases result with
  | error halt => exact first.bind_error run
  | ok result =>
      have both := first.bind_ok run (rest result later)
      rwa [List.append_nil] at both

theorem tryCatch {handler : Halt Cause -> Action State Cause Result}
    {tracedHandler : Halt Cause -> Action (State × List Event) Cause Result}
    (first : Emits tracedAction action state events)
    (rest : forall halt later, Emits (tracedHandler halt) (handler halt) later []) :
    Emits (MonadExcept.tryCatch tracedAction tracedHandler) (MonadExcept.tryCatch action handler)
      state events := by
  intro log
  have traced := first log
  cases run : action.runOn state with
  | mk result later =>
      rw [run] at traced
      rw [Action.runOn_tryCatch, traced, Action.runOn_tryCatch, run]
      cases result with
      | ok result => rfl
      | error halt =>
          have handled := rest halt later (log ++ events)
          rw [List.append_nil] at handled
          exact handled

end Emits

/-! ## The steps of a session -/

section Session

variable (engine : Engine State Cause)

/-- The events of running a script: its text is run, and the function is called if that
has not failed. -/
def scriptEvents (script : Script) (shown : State) : List Event :=
  .define script.text :: if ((engine.define script).runOn shown).1.isOk then [.call] else []

theorem emits_run (script : Script) (shown : State) :
    Emits (do engine.traced.define script; engine.traced.call)
      (do engine.define script; engine.call) shown (engine.scriptEvents script shown) := by
  have definition := (Emits.quietly (engine.define script) shown).recorded (.define script.text)
  rw [scriptEvents]
  cases run : (engine.define script).runOn shown with
  | mk result later =>
      cases result with
      | error halt => exact definition.bind_error run
      | ok => exact definition.bind_ok run ((Emits.quietly engine.call later).recorded .call)

theorem emits_attempt (script : Script) (shown : State) :
    Emits
      (tryCatch (do engine.traced.define script; engine.traced.call)
        fun halt => do engine.traced.regret script; throw halt)
      (tryCatch (do engine.define script; engine.call)
        fun halt => do engine.regret script; throw halt)
      shown (engine.scriptEvents script shown) :=
  (engine.emits_run script shown).tryCatch fun halt later =>
    (Emits.quietly (engine.regret script) later).bind fun _ later => Emits.throw halt later

/-- A script that is listed in advance without trouble is run, whatever comes of it. -/
theorem runOn_perform {script : Script} {state shown : State}
    (announced : (if script.debug then engine.announce script else pure ()).runOn state =
      (.ok (), shown)) :
    (engine.perform script).runOn state =
      (tryCatch (do engine.define script; engine.call)
        fun halt => do engine.regret script; throw halt).runOn shown := by
  rw [perform]
  cases debug : script.debug with
  | false =>
      rw [debug] at announced
      cases announced
      rfl
  | true =>
      rw [debug] at announced
      exact Action.runOn_bind_ok announced

/-- The events of performing a script.  There are none if listing it in advance fails. -/
def performEvents (script : Script) (settled : State) : List Event :=
  match (if script.debug then engine.announce script else pure ()).runOn settled with
  | (.ok _, shown) => engine.scriptEvents script shown
  | (.error _, _) => []

theorem emits_perform (script : Script) (settled : State) :
    Emits (engine.traced.perform script) (engine.perform script) settled
      (engine.performEvents script settled) := by
  rw [perform, perform, performEvents]
  cases script.debug with
  | false => exact engine.emits_attempt script settled
  | true =>
      have announced := Emits.quietly (engine.announce script) settled
      simp only [if_true]
      rcases run : (engine.announce script).runOn settled with ⟨result, shown⟩
      cases result with
      | error halt => exact announced.bind_error run
      | ok => exact announced.bind_ok run (engine.emits_attempt script shown)

theorem emits_expandPresent (code : Option Text) (state : State) :
    Emits (engine.traced.expandPresent code) (engine.expandPresent code) state [] := by
  cases code with
  | none => exact Emits.pure none state
  | some code =>
      change Emits (some <$> engine.traced.expand code) (some <$> engine.expand code) state []
      rw [map_eq_pure_bind, map_eq_pure_bind]
      exact (Emits.quietly (engine.expand code) state).bind fun expanded later =>
        Emits.pure (some expanded) later

theorem emits_scriptOf (options : Command.Options) (state : State) :
    Emits (engine.traced.scriptOf options) (engine.scriptOf options) state [] := by
  refine (engine.emits_expandPresent _ state).bind fun before later => ?_
  refine (engine.emits_expandPresent _ later).bind fun after later => ?_
  refine (engine.emits_expandPresent _ later).bind fun handler later => ?_
  exact (Emits.quietly (engine.expand _) later).bind fun main later => Emits.pure _ later

theorem emits_carryOut (version : Text) (width : Int)
    (outcome : Except Command.Ending Command.Options) (state : State) :
    Emits (engine.traced.carryOut version width outcome) (engine.carryOut version width outcome)
      state [] := by
  cases outcome with
  | error ending =>
      exact (Emits.quietly (engine.write (ending.reply version width)) state).bind fun _ later =>
        Emits.throw _ later
  | ok options =>
      refine (Emits.quietly (engine.accept options) state).bind fun _ later => ?_
      cases options.conflicting with
      | true => exact (Emits.quietly engine.refuse later).bind fun _ later => Emits.pure none later
      | false =>
          refine (engine.emits_scriptOf options later).bind fun script later => ?_
          exact (Emits.quietly (engine.settle script) later).bind fun _ later =>
            Emits.pure (some script) later

theorem emits_obey (width : Int) (state : State) :
    Emits (engine.traced.obey width) (engine.obey width) state [] := by
  refine (Emits.quietly engine.prepare state).bind fun version later => ?_
  cases version with
  | none => exact Emits.pure none later
  | some version =>
      exact (Emits.quietly engine.arguments later).bind fun arguments later =>
        engine.emits_carryOut version width (Command.Options.ofArguments arguments) later

/-- The events of the startup file. -/
def startupEvents (startup : Option Text) : List Event :=
  startup.toList.map fun text => .load text.normalizeNewlines

/-- Whatever comes of it, the way to a script has no events but those of the startup file. -/
theorem emits_approach (startup : Option Text) (width : Int) (state : State) :
    Emits (engine.traced.approach startup width) (engine.approach startup width) state
      (startupEvents startup) := by
  cases startup with
  | none => exact engine.emits_obey width state
  | some text =>
      have loaded := (Emits.quietly (engine.load text.normalizeNewlines) state).recorded
        (.load text.normalizeNewlines)
      exact loaded.bind fun _ later => engine.emits_obey width later

/-- The events of a session: the startup file, and those of performing a script if there
is one. -/
def sessionEvents (startup : Option Text) (width : Int) (state : State) : List Event :=
  startupEvents startup ++
    match (engine.approach startup width).runOn state with
    | (.ok (some script), settled) => engine.performEvents script settled
    | _ => []

theorem emits_session (startup : Option Text) (width : Int) (state : State) :
    Emits (engine.traced.session startup width) (engine.session startup width) state
      (engine.sessionEvents startup width state) := by
  have approached := engine.emits_approach startup width state
  rw [sessionEvents]
  rcases run : (engine.approach startup width).runOn state with ⟨result, settled⟩
  cases result with
  | error halt =>
      rw [List.append_nil]
      exact approached.bind_error run
  | ok script =>
      cases script with
      | none => exact approached.bind_ok run (Emits.pure () settled)
      | some script => exact approached.bind_ok run (engine.emits_perform script settled)

end Session

/-! ## The engine that records -/

/-- The text that is to be run, if there is one. -/
def Event.text? : Event -> Option Text
  | load text | define text => some text
  | call => none

end Engine

namespace Recording

open Engine (Event)

/-- What has been recorded of some events, with nothing before them. -/
structure Records (recording : Recording) (events : List Event) : Prop where
  texts : recording.texts = events.filterMap Event.text?
  called : recording.called = events.contains .call

variable (refused : Option Refusal) (arguments : List Text)

theorem expandPresent_eq (code : Option Text) :
    (engine refused arguments).expandPresent code = pure (code.map Braces.expand) := by
  cases code <;> rfl

theorem scriptOf_eq (options : Command.Options) :
    (engine refused arguments).scriptOf options = pure (.ofOptions options) := by
  simp only [Engine.scriptOf, expandPresent_eq, pure_bind]
  rfl

/-- Nothing is recorded in obeying the command line. -/
theorem exists_runOn_obey (width : Int) (recording : Recording) :
    Exists fun transcript =>
      (((engine refused arguments).obey width).runOn recording).2 =
        { recording with transcript := transcript } := by
  change Exists fun transcript => (((engine refused arguments).carryOut Command.version width
    (Command.Options.ofArguments arguments)).runOn recording).2 = _
  cases Command.Options.ofArguments arguments with
  | error ending => exact ⟨_, rfl⟩
  | ok options =>
      rw [Engine.carryOut, scriptOf_eq]
      cases options.conflicting <;> exact ⟨_, rfl⟩

/-- On the way to a script only the startup file is recorded. -/
theorem records_approach (startup : Option Text) (width : Int) :
    Records (((engine refused arguments).approach startup width).runOn empty).2
      (Engine.startupEvents startup) := by
  cases startup with
  | none =>
      rcases exists_runOn_obey refused arguments width empty with ⟨transcript, same⟩
      change Records (((engine refused arguments).obey width).runOn empty).2 _
      rw [same]
      exact ⟨rfl, rfl⟩
  | some text =>
      rcases exists_runOn_obey refused arguments width (add text.normalizeNewlines empty) with
        ⟨transcript, same⟩
      change Records (((engine refused arguments).obey width).runOn
        (add text.normalizeNewlines empty)).2 _
      rw [same]
      exact ⟨rfl, rfl⟩

/-- What is recorded of performing a script. -/
theorem records_perform {recording : Recording} {events : List Event}
    (records : Records recording events) (script : Script) :
    Records (((engine refused arguments).perform script).runOn recording).2
      (events ++ (engine refused arguments).performEvents script recording) := by
  have listed : (engine refused arguments).performEvents script recording =
      Event.define script.text :: if refused = some .define then [] else [.call] := by
    rw [Engine.performEvents]
    cases script.debug <;> rcases refused with _ | _ | _ <;> rfl
  have performed : Exists fun transcript =>
      (((engine refused arguments).perform script).runOn recording).2 =
        ⟨transcript, recording.texts ++ [script.text],
          if refused = some .define then recording.called else true⟩ := by
    simp only [Engine.perform, engine, Engine.plain]
    cases script.debug <;> rcases refused with _ | _ | _ <;> exact ⟨_, rfl⟩
  rcases performed with ⟨transcript, same⟩
  rw [same, listed]
  constructor
  · rw [records.texts, List.filterMap_append]
    split <;> rfl
  · split <;> simp [records.called]

/-- The engine that runs nothing has the record that can be kept of any engine. -/
theorem ofSession_records (startup : Option Text) (width : Int) :
    Records (ofSession refused startup width arguments).2
      ((engine refused arguments).sessionEvents startup width empty) := by
  have approached := records_approach refused arguments startup width
  rw [ofSession, Engine.session, Engine.sessionEvents, Action.runOn_bind]
  rcases run : ((engine refused arguments).approach startup width).runOn empty with
    ⟨result, recording⟩
  rw [run] at approached
  cases result with
  | error halt =>
      rw [List.append_nil]
      exact approached
  | ok script =>
      cases script with
      | none =>
          rw [List.append_nil]
          exact approached
      | some script => exact records_perform refused arguments approached script

end Recording
end Oneliner
