import Mathlib.Data.List.Forall2
import Oneliner.Program.Grammar

namespace Oneliner
namespace Program

/-!
Blocks as a relation between outlines and statements.

Reading a block either gives a statement or reports the first fault.  The relation
says when a statement comes out, and leaves the faults aside, so it needs to know
neither what comes after the block nor how far the outer blocks are indented.
-/

/-- What can be read from an outline: the lines of a block, or what belongs to the
head of a compound statement. -/
inductive Part where
  | block
  | suite (head : Line) (inline : Option Stmt)

/-- The statement can be read from the outline, given the columns of the open
blocks. -/
inductive Parsed : Part -> List Column -> Outline -> Stmt -> Prop
  | empty {opened : List Column} : Parsed .block opened .empty .pass
  | simple {opened : List Column} {first : Line} {after : Outline} {statement rest : Stmt}
      (column : Outline.checkColumn (opened.headD .zero) first = .ok ())
      (head : Head.ofTokens first.tokens = some (.simple statement))
      (later : Parsed .block opened after rest) :
      Parsed .block opened (.line first .empty after) (.seq statement rest)
  | define {opened : List Column} {first : Line} {under after : Outline} {name parameter : Text}
      {inline : Option Stmt} {body rest : Stmt}
      (column : Outline.checkColumn (opened.headD .zero) first = .ok ())
      (head : Head.ofTokens first.tokens = some (.define name parameter inline))
      (suite : Parsed (.suite first inline) opened under body)
      (later : Parsed .block opened after rest) :
      Parsed .block opened (.line first under after) (.seq (.define name parameter body) rest)
  | alone {opened : List Column} {first : Line} {under after : Outline} {head : Head}
      {inline : Option Stmt} {build : Stmt -> Stmt -> Stmt} {body rest : Stmt}
      (column : Outline.checkColumn (opened.headD .zero) first = .ok ())
      (found : Head.ofTokens first.tokens = some head)
      (branching : head.branching? = some (inline, build))
      (suite : Parsed (.suite first inline) opened under body)
      (last : forall {second under' after'}, after = .line second under' after' ->
        second.elseOf? (opened.headD .zero) = none)
      (later : Parsed .block opened after rest) :
      Parsed .block opened (.line first under after) (.seq (build body .pass) rest)
  | branches {opened : List Column} {first second : Line} {under under' after : Outline}
      {head : Head} {inline inline' : Option Stmt} {build : Stmt -> Stmt -> Stmt}
      {body other rest : Stmt}
      (column : Outline.checkColumn (opened.headD .zero) first = .ok ())
      (found : Head.ofTokens first.tokens = some head)
      (branching : head.branching? = some (inline, build))
      (suite : Parsed (.suite first inline) opened under body)
      (branch : second.elseOf? (opened.headD .zero) = some inline')
      (suite' : Parsed (.suite second inline') opened under' other)
      (later : Parsed .block opened after rest) :
      Parsed .block opened (.line first under (.line second under' after))
        (.seq (build body other) rest)
  | inline {opened : List Column} {head : Line} {statement : Stmt} :
      Parsed (.suite head (some statement)) opened .empty statement
  | indented {opened : List Column} {head first : Line} {under after : Outline} {body : Stmt}
      (sound : first.isSevered = false) (deeper : head.column.narrow < first.column.narrow)
      (room : opened.length < Lines.columnLimit)
      (block : Parsed .block (first.column :: opened) (.line first under after) body) :
      Parsed (.suite head none) opened (.line first under after) body

/-! ## The relation and the reading function -/

theorem except_bind_eq_ok {Cause First Second : Type} {first : Except Cause First}
    {next : First -> Except Cause Second} {result : Second}
    (succeeded : (first >>= next) = .ok result) :
    exists middle, first = .ok middle ∧ next middle = .ok result := by
  cases first with
  | error cause => cases succeeded
  | ok middle => exact ⟨middle, rfl, succeeded⟩

namespace Outline

theorem checkColumn_eq_ok_iff {column : Column} {line : Line} :
    checkColumn column line = .ok () ↔ line.isSevered = false ∧ line.column = column := by
  rw [checkColumn, Column.mk.injEq]
  grind

/-- A suite is read from the head's line or from the lines under it. -/
theorem suite_eq_ok {head : Line} {inline : Option Stmt} {under : Outline} {opened : List Column}
    {next : Option Line} {block : List Column -> Except Fault Stmt} {statement : Stmt}
    (read : suite head inline under opened next block = .ok statement)
    (inside : forall {columns}, block columns = .ok statement -> Parsed .block columns under statement) :
    Parsed (.suite head inline) opened under statement := by
  rw [suite.eq_def] at read
  split at read
  · cases read
    exact .inline
  · cases read
  · cases read
  · split at read
    · cases read
    · split at read
      · cases read
      · split at read
        · rename_i sound deeper room
          exact .indented (Bool.eq_false_iff.mpr sound) (Nat.lt_of_not_le deeper) room (inside read)
        · cases read

theorem parsed_of_block : forall (outline : Outline) {next : Option Line} {opened : List Column}
    {statement : Stmt}, outline.block next opened = .ok statement ->
      Parsed .block opened outline statement
  | .empty, _, _, _, read => by
      cases read
      exact .empty
  | .line first under after, next, opened, statement, read => by
      rw [Outline.block.eq_def] at read
      simp only [] at read
      obtain ⟨⟨⟩, column, read⟩ := except_bind_eq_ok read
      split at read
      · cases read
      · cases read
      · rename_i simple head
        split at read
        · cases read
        · obtain ⟨rest, later, done⟩ := except_bind_eq_ok read
          cases done
          exact .simple column head (parsed_of_block after later)
      · rename_i name parameter inline head
        obtain ⟨body, suite, read⟩ := except_bind_eq_ok read
        obtain ⟨rest, later, done⟩ := except_bind_eq_ok read
        cases done
        exact .define column head (suite_eq_ok suite (parsed_of_block under))
          (parsed_of_block after later)
      · obtain ⟨body, suite, read⟩ := except_bind_eq_ok read
        cases read
      · rename_i head _ _ _ _ found
        split at read
        · cases read
        · rename_i inline build branching
          obtain ⟨body, suite, read⟩ := except_bind_eq_ok read
          have inside := suite_eq_ok suite (parsed_of_block under)
          cases after with
          | empty =>
              obtain ⟨rest, later, done⟩ := except_bind_eq_ok read
              cases done
              exact .alone column found branching inside nofun (parsed_of_block .empty later)
          | line second under' after' =>
              simp only [] at read
              split at read
              · rename_i last
                obtain ⟨rest, later, done⟩ := except_bind_eq_ok read
                cases done
                refine .alone column found branching inside ?_
                  (parsed_of_block (.line second under' after') later)
                intro _ _ _ same
                cases same
                exact last
              · rename_i inline' branch
                obtain ⟨other, suite', read⟩ := except_bind_eq_ok read
                obtain ⟨rest, later, done⟩ := except_bind_eq_ok read
                cases done
                exact .branches column found branching inside branch
                  (suite_eq_ok suite' (parsed_of_block under')) (parsed_of_block after' later)

end Outline

/-- Read a part from an outline in front of the given line. -/
def Part.read (part : Part) (opened : List Column) (outline : Outline) (next : Option Line) :
    Except Fault Stmt :=
  match part with
  | .block => outline.block next opened
  | .suite head inline => Outline.suite head inline outline opened next (outline.block next)

theorem Parsed.read {part : Part} {opened : List Column} {outline : Outline} {statement : Stmt}
    (parsed : Parsed part opened outline statement) (next : Option Line) :
    part.read opened outline next = .ok statement := by
  induction parsed generalizing next with
  | empty => rfl
  | simple column head later laterRead =>
      simp only [Part.read] at laterRead
      simp only [Part.read, Outline.block, column, head, laterRead, bind, Except.bind, pure,
        Except.pure]
  | define column head suite later suiteRead laterRead =>
      simp only [Part.read] at suiteRead laterRead
      simp only [Part.read, Outline.block, column, head, suiteRead, laterRead, bind, Except.bind,
        pure, Except.pure]
  | @alone _ _ _ after head _ _ _ _ column found branching suite last later suiteRead laterRead =>
      simp only [Part.read] at suiteRead laterRead
      cases head with
      | condition | loop =>
          cases after with
          | empty =>
              cases later
              simp only [Part.read, Outline.block, column, found, branching, suiteRead, bind,
                Except.bind, pure, Except.pure]
          | line second under' after' =>
              simp only [Part.read, Outline.block, column, found, branching, suiteRead,
                laterRead, bind, Except.bind, pure, Except.pure, last rfl]
      | simple | otherwise | define | attempt => cases branching
  | @branches _ _ _ _ _ _ head _ _ _ _ _ _ column found branching suite branch suite' later
      suiteRead suiteRead' laterRead =>
      simp only [Part.read] at suiteRead suiteRead' laterRead
      cases head with
      | condition | loop =>
          simp only [Part.read, Outline.block, column, found, branching, branch, suiteRead,
            suiteRead', laterRead, bind, Except.bind, pure, Except.pure]
      | simple | otherwise | define | attempt => cases branching
  | inline => rfl
  | indented sound deeper room block blockRead =>
      simp only [Part.read] at blockRead
      simp [Part.read, Outline.suite, sound, Nat.not_le_of_lt deeper, room, blockRead]

/-- What is read from a block is what stands in the relation to it. -/
theorem Outline.block_eq_ok_iff {outline : Outline} {next : Option Line} {opened : List Column}
    {statement : Stmt} :
    outline.block next opened = .ok statement ↔ Parsed .block opened outline statement :=
  ⟨parsed_of_block outline, fun parsed => parsed.read next⟩

/-! ## One block behind another -/

/-- Put an outline behind the last line of another one. -/
def Outline.append : Outline -> Outline -> Outline
  | .empty, later => later
  | .line first under after, later => .line first under (after.append later)

/-- Continue the statements of a block. -/
def Stmt.followedBy : Stmt -> Stmt -> Stmt
  | .pass, later => later
  | .seq first rest, later => .seq first (rest.followedBy later)
  | other, later => .seq other later

/-- No block begins with another branch. -/
theorem Parsed.elseOf?_eq_none {opened : List Column} {first : Line} {under after : Outline}
    {statement : Stmt} (parsed : Parsed .block opened (.line first under after) statement)
    (column : Column) : first.elseOf? column = none := by
  have notBranch : forall {inline}, Head.ofTokens first.tokens ≠ some (.otherwise inline) := by
    cases parsed with
    | simple _ head | define _ head => simp [head]
    | alone _ found branching | branches _ found branching =>
        rintro inline same
        cases found.symm.trans same
        cases branching
  rw [Line.elseOf?]
  split
  · split
    · rename_i same
      exact absurd same notBranch
    · rfl
  · rfl

theorem Parsed.append {opened : List Column} {outline outline' : Outline}
    {statement statement' : Stmt} (parsed : Parsed .block opened outline statement)
    (parsed' : Parsed .block opened outline' statement') :
    Parsed .block opened (outline.append outline') (statement.followedBy statement') := by
  generalize same : Part.block = part at parsed
  induction parsed with
  | empty => exact parsed'
  | simple column head later laterAppended => exact .simple column head (laterAppended parsed' rfl)
  | define column head suite later _ laterAppended =>
      exact .define column head suite (laterAppended parsed' rfl)
  | @alone _ _ _ after _ _ _ _ _ column found branching suite last later _ laterAppended =>
      refine .alone column found branching suite ?_ (laterAppended parsed' rfl)
      -- The line behind this one is either an old one or the first of the other block.
      intro second under' after' behind
      cases after with
      | empty =>
          subst behind
          exact parsed'.elseOf?_eq_none _
      | line => exact last (by cases behind; rfl)
  | branches column found branching suite branch suite' later _ _ laterAppended =>
      exact .branches column found branching suite branch suite' (laterAppended parsed' rfl)
  | inline | indented => cases same

namespace Outline

theorem divide_append (outline : Outline) {later : Outline} {width : Nat}
    (returns : later.divide width = (.empty, later)) :
    (outline.append later).divide width =
      ((outline.divide width).1, (outline.divide width).2.append later) := by
  induction outline with
  | empty => exact returns
  | line first under after _ afterDivided =>
      simp only [append, divide]
      split
      · rw [afterDivided]
      · rfl

/-- What stands behind lines that are all indented more is divided from them. -/
theorem divide_ofLines_of_returns {lines : List Line} {width : Nat}
    (returns : forall line, line ∈ lines.head? -> line.column.width ≤ width) :
    (ofLines lines).divide width = (.empty, ofLines lines) := by
  cases lines with
  | nil => rfl
  | cons line rest =>
      have notDeeper : ¬ line.column.width > width := Nat.not_lt.mpr (returns line rfl)
      simp only [ofLines, List.foldr_cons, push, divide, if_neg notDeeper]

theorem ofLines_append {lines later : List Line}
    (returns : forall next, next ∈ later.head? -> forall line, line ∈ lines -> next.column.width ≤ line.column.width) :
    ofLines (lines ++ later) = (ofLines lines).append (ofLines later) := by
  induction lines with
  | nil => rfl
  | cons line rest restAppended =>
      have returned : (ofLines later).divide line.column.width = (.empty, ofLines later) :=
        divide_ofLines_of_returns fun next found => returns next found line List.mem_cons_self
      have restAppended := restAppended fun next found line inside =>
        returns next found line (List.mem_cons_of_mem _ inside)
      calc ofLines (line :: rest ++ later)
          _ = push line ((ofLines rest).append (ofLines later)) := by
            rw [← restAppended]; rfl
          _ = (push line (ofLines rest)).append (ofLines later) := by
            rw [push, divide_append _ returned]; rfl

/-- Dividing what is left of a division takes nothing that the whole would not give. -/
theorem divide_rest {outline : Outline} {width : Nat} (wider : Nat)
    (inside : outline.divide width = (outline, .empty)) :
    (outline.divide wider).2.divide width = ((outline.divide wider).2, .empty) := by
  induction outline with
  | empty => rfl
  | line first under after _ afterRest =>
      have deeper : first.column.width > width := by
        by_contra returned
        simp [divide, returned] at inside
      simp only [divide, if_pos deeper, Prod.mk.injEq, line.injEq, true_and] at inside
      simp only [divide]
      split
      · exact afterRest (Prod.ext inside.1 inside.2)
      · simp [divide, deeper, inside.1, inside.2]

/-- Lines that are all indented more are not divided. -/
theorem divide_ofLines_of_deeper {lines : List Line} {width : Nat}
    (deeper : forall line, line ∈ lines -> width < line.column.width) :
    (ofLines lines).divide width = (ofLines lines, .empty) := by
  induction lines with
  | nil => rfl
  | cons line rest restInside =>
      have restInside := restInside fun line inside => deeper line (List.mem_cons_of_mem _ inside)
      have restDivided := divide_rest line.column.width restInside
      have deeper : line.column.width > width := deeper line List.mem_cons_self
      change (push line (ofLines rest)).divide width = (push line (ofLines rest), .empty)
      rw [push]
      simp only [divide, if_pos deeper, restDivided]

/-- A line stands over the lines behind it that are indented more. -/
theorem ofLines_cons_append {head : Line} {inside later : List Line}
    (deeper : forall line, line ∈ inside -> head.column.width < line.column.width)
    (returns : forall next, next ∈ later.head? -> next.column.width ≤ head.column.width) :
    ofLines (head :: (inside ++ later)) = .line head (ofLines inside) (ofLines later) := by
  have appended : ofLines (inside ++ later) = (ofLines inside).append (ofLines later) :=
    ofLines_append fun next found line within =>
      Nat.le_of_lt (Nat.lt_of_le_of_lt (returns next found) (deeper line within))
  change push head (ofLines (inside ++ later)) = _
  rw [push, appended, divide_append _ (divide_ofLines_of_returns returns),
    divide_ofLines_of_deeper deeper]
  rfl

end Outline

/-- The first line of a block is sound and stands in the column of the block. -/
theorem Parsed.first {opened : List Column} {first : Line} {under after : Outline}
    {statement : Stmt} (parsed : Parsed .block opened (.line first under after) statement) :
    first.isSevered = false ∧ first.column = opened.headD .zero := by
  have checked : Outline.checkColumn (opened.headD .zero) first = .ok () := by
    cases parsed with
    | simple column | define column | alone column | branches column => exact column
  exact Outline.checkColumn_eq_ok_iff.mp checked

/-- Of two blocks in one column, the second continues the first. -/
theorem Parsed.ofLines_append {opened : List Column} {lines later : List Line}
    {statement statement' : Stmt}
    (parsed : Parsed .block opened (Outline.ofLines lines) statement)
    (parsed' : Parsed .block opened (Outline.ofLines later) statement')
    (inside : forall line, line ∈ lines -> (opened.headD .zero).width ≤ line.column.width) :
    Parsed .block opened (Outline.ofLines (lines ++ later)) (statement.followedBy statement') := by
  rw [Outline.ofLines_append]
  · exact parsed.append parsed'
  · intro next found line within
    cases later with
    | nil => cases found
    | cons first rest =>
        cases found
        rw [parsed'.first.2]
        exact inside line within

/-- Lines in a column of their own are a suite. -/
theorem Parsed.suite_ofLines {head : Line} {column : Column} {opened : List Column}
    {lines : List Line} {statement : Stmt}
    (parsed : Parsed .block (column :: opened) (Outline.ofLines lines) statement)
    (some : lines ≠ []) (deeper : head.column.narrow < column.narrow)
    (room : opened.length < Lines.columnLimit) :
    Parsed (.suite head none) opened (Outline.ofLines lines) statement := by
  rcases List.exists_cons_of_ne_nil some with ⟨first, rest, rfl⟩
  rcases parsed.first with ⟨sound, same⟩
  have same : first.column = column := same
  subst same
  exact .indented sound deeper room parsed

/-! ## Blocks in other columns -/

/-- Columns are related to others that compare in the same way. -/
def Column.Orderly (related : Column -> Column -> Prop) : Prop :=
  forall {first first' second second' : Column}, related first first' -> related second second' ->
    (first.width < second.width ↔ first'.width < second'.width) ∧
      (first.narrow < second.narrow ↔ first'.narrow < second'.narrow)

/-- The same line in another column. -/
structure Line.Moved (related : Column -> Column -> Prop) (line line' : Line) : Prop where
  tokens : line'.tokens = line.tokens
  column : related line.column line'.column

/-- The same outline in other columns. -/
inductive Outline.Moved (related : Column -> Column -> Prop) : Outline -> Outline -> Prop
  | empty : Moved related .empty .empty
  | line {first first' : Line} {under under' after after' : Outline}
      (moved : first.Moved related first') (underMoved : Moved related under under')
      (afterMoved : Moved related after after') :
      Moved related (.line first under after) (.line first' under' after')

/-- In how many columns the lines of an outline stand inside each other. -/
def Outline.depth : Outline -> Nat
  | .empty => 0
  | .line _ under after => max (under.depth + 1) after.depth

theorem Outline.depth_pos {first : Line} {under after : Outline} :
    0 < (Outline.line first under after).depth :=
  Nat.lt_of_lt_of_le (Nat.succ_pos _) (Nat.le_max_left _ _)

section Moved

variable {related : Column -> Column -> Prop} (orderly : Column.Orderly related)

include orderly

theorem Column.Orderly.eq_iff {first first' second second' : Column}
    (moved : related first first') (moved' : related second second') :
    first = second ↔ first' = second' := by
  have forward := orderly moved moved'
  have backward := orderly moved' moved
  rw [Column.mk.injEq, Column.mk.injEq]
  omega

theorem Outline.Moved.divide {outline outline' : Outline} (moved : outline.Moved related outline')
    {column column' : Column} (columnMoved : related column column') :
    (outline.divide column.width).1.Moved related (outline'.divide column'.width).1 ∧
      (outline.divide column.width).2.Moved related (outline'.divide column'.width).2 := by
  induction moved with
  | empty => exact ⟨.empty, .empty⟩
  | line firstMoved underMoved afterMoved _ afterDivided =>
      have deeper := (orderly columnMoved firstMoved.column).1
      simp only [Outline.divide, gt_iff_lt, ← deeper]
      split
      · exact ⟨.line firstMoved underMoved afterDivided.1, afterDivided.2⟩
      · exact ⟨.empty, .line firstMoved underMoved afterMoved⟩

theorem Outline.ofLines_moved {lines lines' : List Line}
    (moved : List.Forall₂ (Line.Moved related) lines lines') :
    (Outline.ofLines lines).Moved related (Outline.ofLines lines') := by
  induction moved with
  | nil => exact .empty
  | cons firstMoved _ restMoved =>
      have divided := restMoved.divide orderly firstMoved.column
      exact .line firstMoved divided.1 divided.2

theorem Outline.checkColumn_moved {line line' : Line} (moved : line.Moved related line')
    {column column' : Column} (columnMoved : related column column')
    (checked : Outline.checkColumn column line = .ok ()) :
    Outline.checkColumn column' line' = .ok () := by
  obtain ⟨sound, same⟩ := Outline.checkColumn_eq_ok_iff.mp checked
  refine Outline.checkColumn_eq_ok_iff.mpr ⟨?_, (orderly.eq_iff moved.column columnMoved).mp same⟩
  rw [Line.isSevered, moved.tokens]
  exact sound

theorem Line.Moved.elseOf? {line line' : Line} (moved : line.Moved related line')
    {column column' : Column} (columnMoved : related column column') :
    line'.elseOf? column' = line.elseOf? column := by
  simp only [Line.elseOf?, moved.tokens, orderly.eq_iff moved.column columnMoved]

/-- The same part under a head that stands elsewhere. -/
inductive Part.Moved (related : Column -> Column -> Prop) : Part -> Part -> Prop
  | block : Moved related .block .block
  | suite {head head' : Line} {inline : Option Stmt} (moved : head.Moved related head') :
      Moved related (.suite head inline) (.suite head' inline)

/-- How many more columns are open inside the part. -/
def Part.level : Part -> Nat
  | .block => 0
  | .suite _ _ => 1

/-- Where the columns compare in the same way, the same statement is read, as long as
there are not too many columns. -/
theorem Parsed.move {part part' : Part} {opened opened' : List Column} {outline outline' : Outline}
    {statement : Stmt} (parsed : Parsed part opened outline statement)
    (partMoved : part.Moved related part') (outlineMoved : outline.Moved related outline')
    (columnMoved : related (opened.headD .zero) (opened'.headD .zero))
    (room : outline.depth + (opened'.length + part.level) ≤ Lines.columnLimit + 1) :
    Parsed part' opened' outline' statement := by
  induction parsed generalizing part' opened' outline' with
  | empty =>
      cases partMoved
      cases outlineMoved
      exact .empty
  | simple column head later laterMoved =>
      cases partMoved
      cases outlineMoved with
      | line firstMoved underMoved afterMoved =>
          cases underMoved
          simp only [Outline.depth, Part.level] at room laterMoved
          exact .simple (Outline.checkColumn_moved orderly firstMoved columnMoved column)
            (firstMoved.tokens ▸ head) (laterMoved .block afterMoved columnMoved (by omega))
  | define column head suite later suiteMoved laterMoved =>
      cases partMoved
      cases outlineMoved with
      | line firstMoved underMoved afterMoved =>
          simp only [Outline.depth, Part.level] at room suiteMoved laterMoved
          exact .define (Outline.checkColumn_moved orderly firstMoved columnMoved column)
            (firstMoved.tokens ▸ head) (suiteMoved (.suite firstMoved) underMoved columnMoved (by omega))
            (laterMoved .block afterMoved columnMoved (by omega))
  | alone column found branching suite last later suiteMoved laterMoved =>
      cases partMoved
      cases outlineMoved with
      | line firstMoved underMoved afterMoved =>
          simp only [Outline.depth, Part.level] at room suiteMoved laterMoved
          refine .alone (Outline.checkColumn_moved orderly firstMoved columnMoved column)
            (firstMoved.tokens ▸ found) branching
            (suiteMoved (.suite firstMoved) underMoved columnMoved (by omega)) ?_
            (laterMoved .block afterMoved columnMoved (by omega))
          rintro second under' after' rfl
          cases afterMoved with
          | line secondMoved =>
              rw [secondMoved.elseOf? orderly columnMoved]
              exact last rfl
  | branches column found branching suite branch suite' later suiteMoved suiteMoved' laterMoved =>
      cases partMoved
      cases outlineMoved with
      | line firstMoved underMoved afterMoved =>
          cases afterMoved with
          | line secondMoved underMoved' afterMoved =>
              simp only [Outline.depth, Part.level] at room suiteMoved suiteMoved' laterMoved
              exact .branches (Outline.checkColumn_moved orderly firstMoved columnMoved column)
                (firstMoved.tokens ▸ found) branching
                (suiteMoved (.suite firstMoved) underMoved columnMoved (by omega))
                (secondMoved.elseOf? orderly columnMoved ▸ branch)
                (suiteMoved' (.suite secondMoved) underMoved' columnMoved (by omega))
                (laterMoved .block afterMoved columnMoved (by omega))
  | inline =>
      cases partMoved
      cases outlineMoved
      exact .inline
  | indented sound deeper room' block blockMoved =>
      cases partMoved with
      | suite headMoved =>
          cases outlineMoved with
          | line firstMoved underMoved afterMoved =>
              simp only [Part.level] at room blockMoved
              refine .indented ?_ ((orderly headMoved.column firstMoved.column).2.mp deeper) ?_
                (blockMoved .block (.line firstMoved underMoved afterMoved) firstMoved.column ?_)
              · simpa [Line.isSevered, firstMoved.tokens] using sound
              · exact Nat.lt_of_add_lt_add_right (Nat.lt_of_lt_of_le
                  (Nat.lt_add_of_pos_left Outline.depth_pos) room)
              · simpa using room

end Moved

end Program
end Oneliner
