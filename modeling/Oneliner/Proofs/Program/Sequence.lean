import Oneliner.Program.Evaluation
import Oneliner.Proofs.Program.Blocks

namespace Oneliner
namespace Program
namespace Stmt

/-!
Statements of one block behind those of another.
-/

theorem height_pos (statement : Stmt) : 0 < statement.height := by
  induction statement with
  | pass => exact Nat.one_pos
  | seq first second firstPos => exact Nat.lt_of_lt_of_le firstPos (Nat.le_max_left _ _)
  | evaluate | assign | increase | condition | loop | define => exact Nat.succ_pos _

theorem height_followedBy (first later : Stmt) :
    (first.followedBy later).height = max first.height later.height := by
  induction first with
  | pass => exact (Nat.max_eq_right (height_pos later)).symm
  | seq first rest _ restHeight =>
      rw [followedBy, height, restHeight, height, Nat.max_assoc]
  | evaluate | assign | increase | condition | loop | define => rfl

theorem bound_followedBy (first later : Stmt) :
    (first.followedBy later).bound = first.bound ++ later.bound := by
  induction first with
  | pass => rfl
  | seq first rest _ restBound => rw [followedBy, bound, restBound, bound, List.append_assoc]
  | evaluate | assign | increase | condition | loop | define => rfl

theorem assigned_followedBy (first later : Stmt) :
    (first.followedBy later).assigned = first.assigned ++ later.assigned := by
  induction first with
  | pass => rfl
  | seq first rest _ restAssigned =>
      rw [followedBy, assigned, restAssigned, assigned, List.append_assoc]
  | evaluate | assign | increase | condition | loop | define => rfl

theorem loopsWithin_followedBy (depth : Nat) (first later : Stmt) :
    (first.followedBy later).loopsWithin depth =
      (first.loopsWithin depth && later.loopsWithin depth) := by
  induction first with
  | pass => rfl
  | seq first rest _ restLoops =>
      rw [followedBy, loopsWithin, restLoops, loopsWithin, Bool.and_assoc]
  | evaluate | assign | increase | condition | loop | define => rfl

/-- The statements of both blocks are run in turn. -/
theorem exec_followedBy (dispatch : Dispatch) (scope : Scope) (first later : Stmt) :
    (first.followedBy later).exec dispatch scope =
      (do
        first.exec dispatch scope
        later.exec dispatch scope) := by
  induction first with
  | pass => exact (pure_bind () fun _ => later.exec dispatch scope).symm
  | seq first rest _ restExec => rw [followedBy, exec, restExec, exec, bind_assoc]
  | evaluate | assign | increase | condition | loop | define => rfl

end Stmt
end Program
end Oneliner
