import Oneliner.Action

namespace Oneliner
namespace Action

/-!
What running an action does, one construction at a time.
-/

variable {State Cause Result Next : Type}

@[simp]
theorem runOn_pure (result : Result) (state : State) :
    (pure result : Action State Cause Result).runOn state = (.ok result, state) := rfl

@[simp]
theorem runOn_throw (halt : Halt Cause) (state : State) :
    (throw halt : Action State Cause Result).runOn state = (.error halt, state) := rfl

@[simp]
theorem runOn_get (state : State) :
    (get : Action State Cause State).runOn state = (.ok state, state) := rfl

@[simp]
theorem runOn_modify (change : State -> State) (state : State) :
    (modify change : Action State Cause PUnit).runOn state = (.ok ⟨⟩, change state) := rfl

@[simp]
theorem runOn_modifyGet (change : State -> Result × State) (state : State) :
    (modifyGet change : Action State Cause Result).runOn state =
      (.ok (change state).1, (change state).2) := rfl

theorem runOn_bind (action : Action State Cause Result) (next : Result -> Action State Cause Next)
    (state : State) :
    (action >>= next).runOn state =
      match action.runOn state with
      | (.ok result, later) => (next result).runOn later
      | (.error halt, later) => (.error halt, later) := by
  change StateT.run (ExceptT.bindCont next (action.runOn state).1) (action.runOn state).2 = _
  rcases action.runOn state with ⟨found, later⟩
  cases found <;> rfl

theorem runOn_tryCatch (action : Action State Cause Result)
    (handler : Halt Cause -> Action State Cause Result) (state : State) :
    (tryCatch action handler).runOn state =
      match action.runOn state with
      | (.ok result, later) => (.ok result, later)
      | (.error halt, later) => (handler halt).runOn later := by
  simp only [runOn, tryCatch, tryCatchThe, MonadExceptOf.tryCatch, ExceptT.tryCatch, ExceptT.mk,
    ExceptT.run, StateT.run, bind, StateT.bind]
  rcases action state with ⟨found, later⟩
  cases found <;> rfl

theorem runOn_bind_ok {action : Action State Cause Result}
    {next : Result -> Action State Cause Next} {state later : State} {result : Result}
    (found : action.runOn state = (.ok result, later)) :
    (action >>= next).runOn state = (next result).runOn later := by
  rw [runOn_bind, found]

theorem runOn_bind_error {action : Action State Cause Result}
    {next : Result -> Action State Cause Next} {state later : State} {halt : Halt Cause}
    (found : action.runOn state = (.error halt, later)) :
    (action >>= next).runOn state = (.error halt, later) := by
  rw [runOn_bind, found]

end Action
end Oneliner
