import Oneliner.Proofs.Program.Sequence
import Oneliner.Proofs.Program.Steps
import Oneliner.Proofs.Program.Tameness

namespace Oneliner
namespace Program

/-!
The statements that a run reaches.

A statement is reached on the machine that the statements before it have left behind.
Whatever holds of the machine at first and is kept by all that is run holds wherever a
statement is reached.
-/

/-! ## Items of a loop -/

/-- An item that is met while something is done with each item of a source, and the
machine on which it is met: so many items have been dealt with before. -/
inductive Run.Meets (act : Value -> Run Unit) : Value -> Machine -> Value -> Machine -> Prop
  | char {text : Text} {count : Nat} {char : Char} {machine later : Machine}
      (earlier : ((text.take count).forM fun char => act (.str [char])).runOn machine =
        (.ok (), later))
      (found : text[count]? = some char) :
      Meets act (.scalar (.str text)) machine (.str [char]) later
  | byte {bytes : List Nat} {count byte : Nat} {machine later : Machine}
      (earlier : ((bytes.take count).forM fun byte => act (.int byte)).runOn machine =
        (.ok (), later))
      (found : bytes[count]? = some byte) : Meets act (.bytes bytes) machine (.int byte) later
  | item {index count : Nat} {item : Value} {machine later : Machine}
      (earlier : (forItems index act count 0).runOn machine = (.ok (), later))
      (found : (later.items index)[count]? = some item) :
      Meets act (.list index) machine item later
  | integer {first last : Int} {count : Nat} {machine later : Machine}
      (earlier : (forIntegers act count first).runOn machine = (.ok (), later))
      (found : first + count < last) :
      Meets act (.range first last) machine (.int (first + count)) later
  | line {count : Nat} {line : Text} {rest : List Text} {machine later : Machine}
      (earlier : (forLines act count).runOn machine = (.ok (), later))
      (found : later.input = line :: rest) :
      Meets act .input machine (.str line) { later with input := rest }

section Meets

variable {globals : Bindings -> Prop} {act : Value -> Run Unit}

/-- All items of a loop are met on tame machines. -/
theorem Run.Meets.tame
    (alone : forall item, Inside .full item -> Alone .full globals [] (fun _ => True) (act item))
    {source item : Value} {machine later : Machine} (tame : machine.Tame globals)
    (meets : Meets act source machine item later) : later.Tame globals ∧ Inside .full item := by
  cases meets with
  | char earlier => exact ⟨((Agree.forM fun _ _ => alone _ rfl).later tame earlier).1, rfl⟩
  | byte earlier => exact ⟨((Agree.forM fun _ _ => alone _ rfl).later tame earlier).1, rfl⟩
  | item earlier found =>
      have kept := ((Run.agree_forItems alone _ _ _).later tame earlier).1
      exact ⟨kept, kept.items (Array.mem_of_getElem? found)⟩
  | integer earlier => exact ⟨((Run.agree_forIntegers alone _ _).later tame earlier).1, rfl⟩
  | @line _ line rest _ _ earlier found =>
      have kept := ((Run.agree_forLines alone rfl _).later tame earlier).1
      refine ⟨⟨kept.toSound.place _ _ _, kept.locals, fun other member => ?_⟩, rfl⟩
      exact kept.lines other (found ▸ List.mem_cons_of_mem line member)

end Meets

/-! ## Statements -/

/-- A statement that is reached while another one is run, and the machine on which it is
reached. -/
inductive Stmt.Reaches (dispatch : Dispatch) (scope : Scope) :
    Stmt -> Machine -> Stmt -> Machine -> Prop
  | here {statement : Stmt} {machine : Machine} :
      Reaches dispatch scope statement machine statement machine
  | first {first second statement : Stmt} {machine later : Machine}
      (reaches : Reaches dispatch scope first machine statement later) :
      Reaches dispatch scope (.seq first second) machine statement later
  | second {first second statement : Stmt} {machine between later : Machine}
      (earlier : (first.exec dispatch scope).runOn machine = (.ok (), between))
      (reaches : Reaches dispatch scope second between statement later) :
      Reaches dispatch scope (.seq first second) machine statement later
  | yes {test : Expr} {yes no statement : Stmt} {value : Value} {machine between later : Machine}
      (tested : (test.eval dispatch scope).runOn machine = (.ok value, between))
      (holds : between.holds value = true)
      (reaches : Reaches dispatch scope yes between statement later) :
      Reaches dispatch scope (.condition test yes no) machine statement later
  | no {test : Expr} {yes no statement : Stmt} {value : Value} {machine between later : Machine}
      (tested : (test.eval dispatch scope).runOn machine = (.ok value, between))
      (fails : between.holds value = false)
      (reaches : Reaches dispatch scope no between statement later) :
      Reaches dispatch scope (.condition test yes no) machine statement later
  | turn {name : Text} {source : Expr} {body statement : Stmt} {values item : Value}
      {machine begun between assigned later : Machine}
      (evaluated : (source.eval dispatch scope).runOn machine = (.ok values, begun))
      (meets : Run.Meets
        (fun item => do
          scope.assign item name
          body.exec dispatch scope)
        values begun item between)
      (given : (scope.assign item name).runOn between = (.ok (), assigned))
      (reaches : Reaches dispatch scope body assigned statement later) :
      Reaches dispatch scope (.loop name source body) machine statement later

namespace Stmt.Reaches

variable {dispatch : Dispatch} {scope : Scope} {statement other : Stmt} {machine between later : Machine}

/-- Statements behind others are reached when the others are done. -/
theorem followedBy {first : Stmt}
    (earlier : (first.exec dispatch scope).runOn machine = (.ok (), between))
    (reaches : statement.Reaches dispatch scope between other later) :
    (first.followedBy statement).Reaches dispatch scope machine other later := by
  induction first generalizing machine with
  | pass =>
      cases earlier
      exact reaches
  | seq first rest _ restReaches =>
      rw [Stmt.exec, Action.runOn_bind] at earlier
      cases run : (first.exec dispatch scope).runOn machine with
      | mk result done =>
          rw [run] at earlier
          cases result with
          | error halt => cases earlier
          | ok => exact .second run (restReaches earlier)
  | evaluate | assign | increase | condition | loop | define => exact .second earlier reaches

variable {globals : Bindings -> Prop}

/-- Statements are reached on tame machines. -/
theorem tame (quiet : dispatch.Sound .full globals) (alike : scope.Alike .full [] scope)
    (reaches : statement.Reaches dispatch scope machine other later)
    (may : ∀ name ∈ statement.assigned, scope.MayAssign .full globals name)
    (plain : statement.tame = true) (tame : machine.Tame globals) : later.Tame globals := by
  induction reaches with
  | here => exact tame
  | first _ within =>
      exact within (List.forall_mem_append.mp may).1 (Bool.and_eq_true_iff.mp plain).1 tame
  | second earlier _ within =>
      rcases List.forall_mem_append.mp may with ⟨firstMay, secondMay⟩
      rcases Bool.and_eq_true_iff.mp plain with ⟨firstTame, secondTame⟩
      have alone := Stmt.alone_exec quiet alike firstMay firstTame
      exact within secondMay secondTame (alone.later tame earlier).1
  | yes tested _ _ within =>
      rcases Bool.and_eq_true_iff.mp plain with ⟨front, _⟩
      rcases Bool.and_eq_true_iff.mp front with ⟨testTame, yesTame⟩
      have alone := Expr.alone_eval quiet alike testTame
      exact within (List.forall_mem_append.mp may).1 yesTame (alone.later tame tested).1
  | no tested _ _ within =>
      rcases Bool.and_eq_true_iff.mp plain with ⟨front, noTame⟩
      rcases Bool.and_eq_true_iff.mp front with ⟨testTame, _⟩
      have alone := Expr.alone_eval quiet alike testTame
      exact within (List.forall_mem_append.mp may).2 noTame (alone.later tame tested).1
  | turn evaluated meets given _ within =>
      rcases Bool.and_eq_true_iff.mp plain with ⟨front, bodyTame⟩
      rcases Bool.and_eq_true_iff.mp front with ⟨_, sourceTame⟩
      rcases List.forall_mem_cons.mp may with ⟨nameMay, bodyMay⟩
      have begun := ((Expr.alone_eval quiet alike sourceTame).later tame evaluated).1
      have body := Stmt.alone_exec quiet alike bodyMay bodyTame
      have assigned : forall {item}, Run.Inside .full item ->
          Alone .full globals [] (fun _ => True) (scope.assign item _) :=
        fun inside => alike.assign nameMay inside List.not_mem_nil
      rcases meets.tame (fun _ inside => (assigned inside).bind fun _ _ => body) begun with
        ⟨met, inside⟩
      exact within bodyMay bodyTame ((assigned inside).later met given).1

end Stmt.Reaches
end Program
end Oneliner
