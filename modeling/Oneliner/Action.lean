import Oneliner.Datum

namespace Oneliner

/-!
Actions on a state that may end early.

What an action has done to the state before it ends early stays done.
-/

/-- How an action ends early: with a status of its own choice, or by a fault. -/
inductive Halt (Cause : Type) where
  | exit (status : Datum)
  | fault (cause : Cause)
  deriving Repr

/-- An action that changes a state and may end early. -/
abbrev Action (State Cause Result : Type) :=
  ExceptT (Halt Cause) (StateM State) Result

/-- Run an action on a state. -/
def Action.runOn {State Cause Result : Type} (action : Action State Cause Result) (state : State) :
    Except (Halt Cause) Result × State :=
  StateT.run (ExceptT.run action) state

end Oneliner
