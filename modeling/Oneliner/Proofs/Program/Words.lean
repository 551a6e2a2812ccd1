import Oneliner.Proofs.Program.Access
import Oneliner.Proofs.Program.Placement
import Oneliner.Proofs.Program.Sequence

namespace Oneliner
namespace Program

/-!
The words of a program, line by line.

A program is built from its lines: each of them is a statement or the head of one.  So
where each line has only words that are admitted, the whole program has, however the lines
are arranged.
-/

theorem Stmt.usesOnly_followedBy (words : Words) (first later : Stmt) :
    (first.followedBy later).usesOnly words = (first.usesOnly words && later.usesOnly words) := by
  induction first with
  | pass => rfl
  | seq first rest _ restUses =>
      rw [Stmt.followedBy, Stmt.usesOnly, restUses, Stmt.usesOnly, Bool.and_assoc]
  | evaluate | assign | increase | condition | loop | define => rfl

/-! ## Words of lines -/

/-- Whether the head of a line has only words that are admitted. -/
def Head.usesOnly (words : Words) : Head -> Bool
  | simple statement => statement.usesOnly words
  | condition test inline =>
      test.usesOnly words.used words.members && inline.all (Stmt.usesOnly words)
  | otherwise inline | attempt inline => inline.all (Stmt.usesOnly words)
  | loop found source inline =>
      words.given found && source.usesOnly words.used words.members &&
        inline.all (Stmt.usesOnly words)
  | define found _ inline => words.given found && inline.all (Stmt.usesOnly words)

/-- Whether a line that can be read has only words that are admitted. -/
def Line.usesOnly (words : Words) (line : Line) : Bool :=
  (Head.ofTokens line.tokens).all (Head.usesOnly words)

section Words

variable {words : Words}

theorem Line.usesOnly_head {line : Line} (plain : line.usesOnly words = true) {head : Head}
    (found : Head.ofTokens line.tokens = some head) : head.usesOnly words = true := by
  rw [Line.usesOnly, found] at plain
  exact plain

/-- What a head builds has the words of the head and of both branches. -/
theorem Head.usesOnly_build {head : Head} (plain : head.usesOnly words = true)
    {inline : Option Stmt} {build : Stmt -> Stmt -> Stmt}
    (branching : head.branching? = some (inline, build)) :
    inline.all (Stmt.usesOnly words) = true ∧
      forall {body other : Stmt}, body.usesOnly words = true -> other.usesOnly words = true ->
        (build body other).usesOnly words = true := by
  cases head with
  | condition test found =>
      cases branching
      rcases Bool.and_eq_true_iff.mp plain with ⟨testPlain, inlinePlain⟩
      refine ⟨inlinePlain, fun bodyPlain otherPlain => ?_⟩
      simp only [Stmt.usesOnly, testPlain, bodyPlain, otherPlain, Bool.and_self]
  | loop name source found =>
      cases branching
      rcases Bool.and_eq_true_iff.mp plain with ⟨headPlain, inlinePlain⟩
      refine ⟨inlinePlain, fun bodyPlain otherPlain => ?_⟩
      simp only [Stmt.usesOnly, headPlain, bodyPlain, otherPlain, Bool.and_self]
  | simple | otherwise | define | attempt => cases branching

theorem Line.usesOnly_inline {line : Line} (plain : line.usesOnly words = true)
    {column : Column} {inline : Option Stmt} (branch : line.elseOf? column = some inline) :
    inline.all (Stmt.usesOnly words) = true := by
  rw [Line.elseOf?] at branch
  split at branch
  · split at branch
    · rename_i found
      cases branch
      exact Line.usesOnly_head plain found
    · cases branch
  · cases branch

/-- Whether what stands on the line of a head has only words that are admitted. -/
def Part.usesOnly (words : Words) : Part -> Bool
  | .block => true
  | .suite _ inline => inline.all (Stmt.usesOnly words)

/-- What is read from lines has no other words than the lines.  Lines do not tell whether
they stand in a function, so all words that are admitted are admitted there. -/
theorem Parsed.usesOnly (flat : forall {name}, words.used name = true -> words.outer name = true)
    {part : Part} {opened : List Column} {outline : Outline} {statement : Stmt}
    (parsed : Parsed part opened outline statement) (inline : part.usesOnly words = true)
    (plain : ∀ line ∈ outline.lines, line.usesOnly words = true) :
    statement.usesOnly words = true := by
  induction parsed with
  | empty => rfl
  | simple _ head _ laterPlain =>
      simp only [Outline.lines, List.forall_mem_cons, List.nil_append] at plain
      have statementPlain := Line.usesOnly_head plain.1 head
      exact Bool.and_eq_true_iff.mpr ⟨statementPlain, laterPlain rfl plain.2⟩
  | @define _ _ _ _ _ parameter _ body _ _ head _ _ suitePlain laterPlain =>
      simp only [Outline.lines, List.forall_mem_cons, List.forall_mem_append] at plain
      rcases plain with ⟨firstPlain, underPlain, afterPlain⟩
      rcases Bool.and_eq_true_iff.mp (Line.usesOnly_head firstPlain head) with ⟨name, inlinePlain⟩
      have inside := Stmt.usesOnly_mono (Words.meet_inside flat parameter body.assigned)
        (suitePlain inlinePlain underPlain)
      exact Bool.and_eq_true_iff.mpr
        ⟨Bool.and_eq_true_iff.mpr ⟨name, inside⟩, laterPlain rfl afterPlain⟩
  | alone _ found branching _ _ _ suitePlain laterPlain =>
      simp only [Outline.lines, List.forall_mem_cons, List.forall_mem_append] at plain
      rcases plain with ⟨firstPlain, underPlain, afterPlain⟩
      rcases Head.usesOnly_build (Line.usesOnly_head firstPlain found) branching with
        ⟨inlinePlain, built⟩
      exact Bool.and_eq_true_iff.mpr
        ⟨built (suitePlain inlinePlain underPlain) rfl, laterPlain rfl afterPlain⟩
  | branches _ found branching _ branch _ _ suitePlain suitePlain' laterPlain =>
      simp only [Outline.lines, List.forall_mem_cons, List.forall_mem_append] at plain
      rcases plain with ⟨firstPlain, underPlain, secondPlain, underPlain', afterPlain⟩
      rcases Head.usesOnly_build (Line.usesOnly_head firstPlain found) branching with
        ⟨inlinePlain, built⟩
      have otherPlain := suitePlain' (Line.usesOnly_inline secondPlain branch) underPlain'
      exact Bool.and_eq_true_iff.mpr
        ⟨built (suitePlain inlinePlain underPlain) otherPlain, laterPlain rfl afterPlain⟩
  | inline => exact inline
  | indented _ _ _ _ blockPlain => exact blockPlain rfl plain

end Words

/-! ## Blocks that can be divided -/

/-- In front of a line that is no other branch, a block can be divided. -/
theorem Parsed.exists_append {first : Line} {under after : Outline} :
    forall (front : Outline) {opened : List Column} {statement : Stmt},
      first.elseOf? (opened.headD .zero) = none ->
      Parsed .block opened (front.append (.line first under after)) statement ->
        exists earlier later, Parsed .block opened front earlier ∧
          Parsed .block opened (.line first under after) later ∧
          statement = earlier.followedBy later
  | .empty, _, statement, _, parsed => ⟨.pass, statement, .empty, parsed, rfl⟩
  | .line head inside rest, opened, statement, last, parsed => by
      change Parsed .block opened (.line head inside (rest.append _)) statement at parsed
      generalize same : rest.append (.line first under after) = tail at parsed
      cases parsed with
      | simple column head later =>
          subst same
          rcases exists_append rest last later with ⟨earlier, back, parsed, parsed', rfl⟩
          exact ⟨_, back, .simple column head parsed, parsed', rfl⟩
      | define column head suite later =>
          subst same
          rcases exists_append rest last later with ⟨earlier, back, parsed, parsed', rfl⟩
          exact ⟨_, back, .define column head suite parsed, parsed', rfl⟩
      | alone column found branching suite alone later =>
          subst same
          rcases exists_append rest last later with ⟨earlier, back, parsed, parsed', rfl⟩
          refine ⟨_, back, .alone column found branching suite ?_ parsed, parsed', rfl⟩
          rintro second under' after' rfl
          exact alone rfl
      | branches column found branching suite branch suite' later =>
          cases rest with
          | empty =>
              cases same
              rw [last] at branch
              cases branch
          | line second inside' rest' =>
              cases same
              rcases exists_append rest' last later with ⟨earlier, back, parsed, parsed', rfl⟩
              exact ⟨_, back, .branches column found branching suite branch suite' parsed, parsed',
                rfl⟩

end Program
end Oneliner
