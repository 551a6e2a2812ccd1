import Oneliner.Proofs.Program.Sequence
import Oneliner.Proofs.Script.Lines

namespace Oneliner
namespace Script

/-!
What the text of the function says.

The sections of code follow each other in one function, the main one inside the
loop over the input.
-/

open Program

/-! ## The statements of the function -/

/-- What is done with each line of the input. -/
def lineStmt (script : Script) (main : Stmt) : Stmt :=
  let converted := if script.trim && script.convert then .seq convertStmt main else main
  if script.trim then .seq trimStmt converted else converted

/-- The body of the function. -/
def bodyStmt (script : Script) (before main after : Stmt) : Stmt :=
  before.followedBy
    (.seq (.seq (.loop ['_'] (.name "stdin".toList) (script.lineStmt main)) .pass) after)

theorem headOf_defineLine :
    Head.ofTokens defineLine.tokens = some (.define "pype".toList "stdin".toList none) := by
  rfl

theorem headOf_loopLine :
    Head.ofTokens loopLine.tokens = some (.loop ['_'] (.name "stdin".toList) none) := by
  rfl

theorem headOf_trimLine : Head.ofTokens trimLine.tokens = some (.simple trimStmt) := by
  rfl

theorem headOf_convertLine : Head.ofTokens convertLine.tokens = some (.simple convertStmt) := by
  rfl

/-- The column of the blocks at a depth. -/
def columnAt (depth : Nat) : Column :=
  .ofMargin (Text.margin depth)

/-- A simple statement in front of a block. -/
theorem parsed_push {opened : List Column} {line : Line} {lines : List Line} {statement rest : Stmt}
    (sound : line.isSevered = false) (column : line.column = opened.headD .zero)
    (head : Head.ofTokens line.tokens = some (.simple statement))
    (parsed : Parsed .block opened (Outline.ofLines lines) rest) :
    Parsed .block opened (Outline.ofLines ([line] ++ lines)) (.seq statement rest) := by
  have alone : Parsed .block opened (Outline.ofLines [line]) (.seq statement .pass) :=
    .simple (Outline.checkColumn_eq_ok_iff.mpr ⟨sound, column⟩) head .empty
  refine alone.ofLines_append parsed ?_
  intro other member
  rw [List.mem_singleton.mp member]
  exact Nat.le_of_eq (congrArg Column.width column.symm)

/-- The function, with its body inside it. -/
theorem parsed_define {lines : List Line} {body : Stmt} (filled : lines ≠ [])
    (wide : forall line, line ∈ lines -> (columnAt 1).width ≤ line.column.width)
    (parsed : Parsed .block [columnAt 1, .zero] (Outline.ofLines lines) body) :
    Parsed .block [.zero] (Outline.ofLines (defineLine :: lines))
      (.seq (.define "pype".toList "stdin".toList body) .pass) := by
  have deeper : forall line, line ∈ lines -> defineLine.column.width < line.column.width :=
    fun line member => Nat.lt_of_lt_of_le (by decide) (wide line member)
  have outline := @Outline.ofLines_cons_append defineLine lines [] deeper nofun
  have suite : Parsed (.suite defineLine none) [.zero] _ body :=
    parsed.suite_ofLines filled (by decide) (by decide)
  rw [List.append_nil] at outline
  rw [outline]
  exact .define (Outline.checkColumn_eq_ok_iff.mpr ⟨rfl, rfl⟩) headOf_defineLine suite .empty

/-- Lines that are prepared for the main code stand in front of it. -/
theorem parsed_lineStmt {script : Script} {main : Stmt} (placed : Placed 2 script.mainCode main) :
    Parsed .block [columnAt 2, columnAt 1, .zero]
      (Outline.ofLines (script.preparationLines ++ placedLines 2 script.mainCode.normalizeNewlines))
      (script.lineStmt main) := by
  have parsed : Parsed .block [columnAt 2, columnAt 1, .zero]
      (Outline.ofLines (placedLines 2 script.mainCode.normalizeNewlines)) main :=
    placed.parsed_placedLines rfl
  have converted := parsed_push rfl rfl headOf_convertLine parsed
  rw [preparationLines, lineStmt, List.append_assoc]
  cases script.trim with
  | false => exact parsed
  | true =>
      apply parsed_push rfl rfl headOf_trimLine
      cases script.convert with
      | false => exact parsed
      | true => exact converted

/-- The margins of the loop's lines are at least as wide as its own column. -/
theorem width_le_of_loop {script : Script} {main : Stmt} (placed : Placed 2 script.mainCode main)
    {line : Line}
    (member : line ∈ script.preparationLines ++ placedLines 2 script.mainCode.normalizeNewlines) :
    (columnAt 2).width ≤ line.column.width := by
  rcases List.mem_append.mp member with prepared | placedMember
  · have column : line.column = columnAt 2 := by
      rw [preparationLines, List.mem_append] at prepared
      rcases prepared with trimmed | converted
      · split at trimmed
        · rw [List.mem_singleton.mp trimmed]
          rfl
        · cases trimmed
      · split at converted
        · rw [List.mem_singleton.mp converted]
          rfl
        · cases converted
    exact Nat.le_of_eq (congrArg Column.width column.symm)
  · exact placed.width_le placedMember

/-- The loop, with the main code inside it. -/
theorem parsed_loop {script : Script} {main : Stmt} (placed : Placed 2 script.mainCode main)
    (some : script.trim = true ∨ main ≠ .pass) :
    Parsed .block [columnAt 1, .zero]
      (Outline.ofLines ([loopLine] ++ (script.preparationLines ++
        placedLines 2 script.mainCode.normalizeNewlines)))
      (.seq (.seq (.loop ['_'] (.name "stdin".toList) (script.lineStmt main)) .pass) .pass) := by
  have filled : script.preparationLines ++ placedLines 2 script.mainCode.normalizeNewlines ≠ [] := by
    rcases some with trim | main
    · rw [preparationLines, trim]
      exact List.cons_ne_nil _ _
    · exact List.append_ne_nil_of_right_ne_nil _ (placed.placedLines_ne_nil main)
  have outline := @Outline.ofLines_cons_append loopLine
    (script.preparationLines ++ placedLines 2 script.mainCode.normalizeNewlines) []
    (fun line member => Nat.lt_of_lt_of_le (by decide) (width_le_of_loop placed member))
    fun _ found => absurd found (Option.not_mem_none _)
  have suite : Parsed (.suite loopLine none) [columnAt 1, .zero] _ (script.lineStmt main) :=
    (parsed_lineStmt placed).suite_ofLines filled (by decide) (by decide)
  have branching : (Head.loop ['_'] (.name "stdin".toList) none).branching? =
      Option.some (none, fun body other => .seq (.loop ['_'] (.name "stdin".toList) body) other) := rfl
  have column : Outline.checkColumn (columnAt 1) loopLine = .ok () :=
    Outline.checkColumn_eq_ok_iff.mpr ⟨rfl, rfl⟩
  rw [List.append_nil] at outline
  rw [List.singleton_append, outline]
  have parsed := @Parsed.alone [columnAt 1, .zero] _ _ .empty _ _ _ _ _ column headOf_loopLine branching
    suite Outline.noConfusion .empty
  exact parsed

/-! ## The whole function -/

/-- The lines of the function's body. -/
def bodyLines (script : Script) : List Line :=
  placedLines 1 script.beforeCode.normalizeNewlines ++
    (([loopLine] ++ (script.preparationLines ++
      placedLines 2 script.mainCode.normalizeNewlines)) ++
      placedLines 1 script.afterCode.normalizeNewlines)

/-- The function that the text defines. -/
def functionStmt (script : Script) (before main after : Stmt) : Stmt :=
  .seq (.define "pype".toList "stdin".toList (script.bodyStmt before main after)) .pass

section Sections

variable {script : Script} {before main after : Stmt}
  (beforePlaced : Placed 1 script.beforeCode before) (mainPlaced : Placed 2 script.mainCode main)
  (afterPlaced : Placed 1 script.afterCode after)

include mainPlaced in
theorem width_le_of_head {line : Line} (member : line ∈ [loopLine] ++ (script.preparationLines ++
    placedLines 2 script.mainCode.normalizeNewlines)) :
    (columnAt 1).width ≤ line.column.width := by
  rcases List.mem_append.mp member with head | inside
  · rw [List.mem_singleton.mp head]
    exact Nat.le_refl _
  · exact Nat.le_trans (by decide) (width_le_of_loop mainPlaced inside)

include beforePlaced mainPlaced afterPlaced

theorem width_le_of_body {line : Line} (member : line ∈ script.bodyLines) :
    (columnAt 1).width ≤ line.column.width := by
  rcases List.mem_append.mp member with before | later
  · exact beforePlaced.width_le before
  · rcases List.mem_append.mp later with loop | after
    · exact width_le_of_head mainPlaced loop
    · exact afterPlaced.width_le after

/-- The sections stand one behind the other. -/
theorem parsed_bodyStmt (some : script.trim = true ∨ main ≠ .pass) :
    Parsed .block [columnAt 1, .zero] (Outline.ofLines script.bodyLines)
      (script.bodyStmt before main after) := by
  have earlier : Parsed .block [columnAt 1, .zero] _ before := beforePlaced.parsed_placedLines rfl
  have last : Parsed .block [columnAt 1, .zero] _ after := afterPlaced.parsed_placedLines rfl
  have later := (parsed_loop mainPlaced some).ofLines_append last fun _ => width_le_of_head mainPlaced
  exact earlier.ofLines_append later fun _ => beforePlaced.width_le

theorem parsed_functionStmt (some : script.trim = true ∨ main ≠ .pass) :
    Parsed .block [.zero] (Outline.ofLines (defineLine :: script.bodyLines))
      (script.functionStmt before main after) := by
  refine parsed_define ?_ (fun _ => width_le_of_body beforePlaced mainPlaced afterPlaced)
    (parsed_bodyStmt beforePlaced mainPlaced afterPlaced some)
  apply List.append_ne_nil_of_right_ne_nil
  exact nofun

theorem height_functionStmt :
    (script.functionStmt before main after).height ≤ Stmt.heightLimit := by
  have line : (script.lineStmt main).height ≤ max main.height 4 := by
    rw [lineStmt]
    cases script.trim <;> cases script.convert <;>
      simp [Stmt.height, trimStmt, convertStmt, Expr.height, Expr.itemsHeight] <;> omega
  have beforeHeight := beforePlaced.height
  have mainHeight := mainPlaced.height
  have afterHeight := afterPlaced.height
  simp only [functionStmt, bodyStmt, Stmt.height, Stmt.height_followedBy, Expr.height,
    Stmt.heightLimit] at beforeHeight mainHeight afterHeight ⊢
  omega

theorem admissible_functionStmt :
    (script.functionStmt before main after).admissible = true := by
  have free : forall {depth code statement}, Placed depth code statement ->
      Stmt.fixedName ∉ statement.bound := by
    intro depth code statement placed
    have admissible := placed.admissible
    simpa using (Bool.and_eq_true_iff.mp admissible).1
  have line : (script.lineStmt main).loopsWithin 1 = true := by
    rw [lineStmt]
    cases script.trim <;> cases script.convert <;> exact mainPlaced.loops
  have lineFree : Stmt.fixedName ∉ (script.lineStmt main).bound := by
    have mainFree := free mainPlaced
    rw [lineStmt]
    cases script.trim <;> cases script.convert <;>
      simp [Stmt.bound, trimStmt, convertStmt, Expr.running, Expr.itemsRunning, mainFree] <;> decide
  rw [Stmt.admissible, Bool.and_eq_true]
  constructor
  · simp only [functionStmt, bodyStmt, Stmt.bound, Stmt.bound_followedBy, Expr.running,
      List.append_nil, List.nil_append, List.cons_append, Bool.not_eq_true', List.contains_eq_mem,
      decide_eq_false_iff_not, List.mem_cons, List.mem_append, not_or]
    exact ⟨by decide, by decide, free beforePlaced, by decide, lineFree, free afterPlaced⟩
  · simp only [functionStmt, bodyStmt, Stmt.loopsWithin, Stmt.loopsWithin_followedBy, Bool.and_true,
      Bool.and_eq_true]
    exact ⟨beforePlaced.loops, ⟨by decide, line⟩, afterPlaced.loops⟩

/-- The text says that the sections follow each other in one function, the main one
inside the loop. -/
theorem Loops.ofText_text (loops : script.Loops) (some : script.trim = true ∨ main ≠ .pass) :
    Stmt.ofText script.text = .ok (script.functionStmt before main after) := by
  have plain : script.text.contains '\x00' = false := by
    rw [loops.text_eq]
    exact contains_textOf (by decide) (by decide) (@forall_loopFragments _ (·.contains '\x00' = false)
      (by decide) beforePlaced.contains_null mainPlaced.contains_null afterPlaced.contains_null)
  have pairs : ∀ fragment ∈ script.loopFragments, fragment.body.paired = true :=
    @forall_loopFragments _ (·.paired = true) (by decide) beforePlaced.paired mainPlaced.paired
      afterPlaced.paired
  have lines := (scanned_loopFragments beforePlaced mainPlaced afterPlaced).lines_ofText
  have parsed := parsed_functionStmt beforePlaced mainPlaced afterPlaced some
  refine Stmt.ofText_eq_ok_iff.mpr ⟨plain, ?_, height_functionStmt beforePlaced mainPlaced afterPlaced,
    admissible_functionStmt beforePlaced mainPlaced afterPlaced⟩
  rw [loops.text_eq, normalizeNewlines_textOf pairs, lines]
  simpa only [bodyLines, List.append_assoc, List.cons_append, List.nil_append] using parsed

end Sections

end Script
end Oneliner
