import Oneliner.Proofs.Program.AgreeingRuns
import Oneliner.Proofs.Text.Input

namespace Oneliner
namespace Program

/-!
Programs that run no texts.

Inside functions all names that are given values are variables of the function, so
only the text of another program can give a value to a global name there.  Two
functions in place run such texts, and a program that does not mention them never gets
hold of them.

Such a program may have access to everything else.  Then nothing lies outside, and what
two runs agree on is what one run keeps.
-/

/-- Whether an expression does not mention the functions that run texts. -/
def Expr.tame (expression : Expr) : Bool :=
  expression.usesOnly Access.full.names Access.full.members

/-- Whether a statement, with the functions that it defines, does not mention the
functions that run texts. -/
def Stmt.tame (statement : Stmt) : Bool :=
  statement.usesOnly Access.full.words

/-- No value of a variable runs texts. -/
abbrev Bindings.Tame : Bindings -> Prop :=
  Bindings.Allowed .full

/-- Nothing in a machine runs texts, the global names are as they may be, and what is
left of the input are lines of it. -/
structure Machine.Tame (globals : Bindings -> Prop) (machine : Machine) : Prop
    extends machine.Sound .full globals where
  locals : machine.locals.Tame
  lines : ∀ line ∈ machine.input, line.IsInputLine

section Keeping

variable {Result : Type} {globals : Bindings -> Prop} {good : Result -> Prop}
  {action : Run Result} (alone : Alone .full globals [] good action) {machine : Machine}
  (tame : machine.Tame globals)

include alone tame

/-- An action that runs no texts keeps a machine tame, and a result of it is a good one. -/
theorem Agree.keeps :
    (action.runOn machine).2.Tame globals ∧
      forall result, (action.runOn machine).1 = .ok result -> good result := by
  rcases alone machine machine tame.toSound (.refl tame.locals) with
    ⟨result, later, later', run, _, sound, like, leads, _, holds⟩
  rw [run]
  refine ⟨⟨sound, fun _ _ found => like.allowed List.not_mem_nil found, fun line member => ?_⟩, holds⟩
  exact tame.lines line (leads.suffix.subset member)

theorem Agree.later {later : Machine} {result : Result}
    (run : action.runOn machine = (.ok result, later)) : later.Tame globals ∧ good result := by
  have both := alone.keeps tame
  rw [run] at both
  exact ⟨both.1, both.2 result rfl⟩

end Keeping

section Runs

variable {globals : Bindings -> Prop} {dispatch : Dispatch}
  (quiet : dispatch.Sound .full globals) {scope : Scope} (alike : scope.Alike .full [] scope)

include quiet alike

theorem Expr.alone_eval {expression : Expr} (plain : expression.tame = true) :
    Alone .full globals [] (Run.Inside .full) (expression.eval dispatch scope) :=
  expression.agree_eval quiet id alike Words.keep_words.used plain

theorem Stmt.alone_exec {statement : Stmt}
    (may : ∀ name ∈ statement.assigned, scope.MayAssign .full globals name)
    (plain : statement.tame = true) :
    Alone .full globals [] (fun _ => True) (statement.exec dispatch scope) :=
  statement.agree_exec quiet alike Words.keep_words may plain

end Runs
end Program
end Oneliner
