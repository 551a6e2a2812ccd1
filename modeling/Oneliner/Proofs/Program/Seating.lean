import Oneliner.Proofs.Program.DeepBlocks
import Oneliner.Proofs.Program.Placement

namespace Oneliner
namespace Program

/-!
Programs that can be read in a block of another program.

A program with literals over several lines need not say the same in a block, since
the margin goes into its literals.  It can be read there all the same, and it has the
same shape.  Only the margins in which its logical lines begin have to compare as
they do alone: those of comments and inside brackets or literals make no difference.
-/

/-- A program that can be read in a block so many levels deep, and what it says
alone. -/
structure Fits (depth : Nat) (code : Text) (statement : Stmt) : Prop where
  /-- The program alone. -/
  read : Stmt.ofText code = .ok statement
  /-- Carriage returns stand only in front of newlines. -/
  paired : code.paired = true
  /-- No backslash stands in a margin. -/
  straight : Scanner.start.straightOn code.normalizeNewlines = true
  /-- The margins of the logical lines compare in the same way. -/
  alike : MarginsAlike depth (Scanner.start.lineMargins [] code.normalizeNewlines)
  /-- The limits hold with the blocks around it. -/
  columns : (Outline.ofLines (Lines.ofText code.normalizeNewlines).lines).depth + depth ≤
    Lines.columnLimit
  height : statement.height + depth ≤ Stmt.heightLimit
  loops : statement.loopsWithin (depth - 1) = true

/-- The lines of a program behind the margin of a level, with deeper literals. -/
def fittedLines (depth : Nat) (text : Text) : List Line :=
  (Lines.ofText text).lines.map fun line =>
    (line.deepen depth).move (displace depth (Scanner.start.lineMargins [] text))

/-- No literal of a program goes over several lines, so that no margin goes into it. -/
def Plain (depth : Nat) (code : Text) : Prop :=
  ∀ line ∈ (Lines.ofText code.normalizeNewlines).lines, line.deepen depth = line

instance (depth : Nat) (code : Text) : Decidable (Plain depth code) :=
  inferInstanceAs (Decidable (∀ line ∈ _, _ = line))

theorem Parsed.ne_pass {opened : List Column} {first : Line} {under after : Outline}
    {statement : Stmt} (parsed : Parsed .block opened (.line first under after) statement) :
    statement ≠ .pass := by
  cases parsed <;> exact Stmt.noConfusion

namespace Fits

variable {depth : Nat} {code : Text} {statement : Stmt} (fits : Fits depth code statement)

include fits

theorem parsed :
    Parsed .block [.zero] (Outline.ofLines (Lines.ofText code.normalizeNewlines).lines) statement :=
  (Stmt.ofText_eq_ok_iff.mp fits.read).2.1

theorem known {line : Line} (member : line ∈ (Lines.ofText code.normalizeNewlines).lines) :
    line.tokens.all Token.known = true := by
  apply fits.parsed.known
  rw [Outline.lines_ofLines]
  exact member

/-- The indented program gives the lines of the program. -/
theorem scan {scanner : Scanner} (ready : scanner.Ready) :
    ((code.normalizeNewlines.indent depth ++ ['\n']).foldl Scanner.read scanner).Ready ∧
      ((code.normalizeNewlines.indent depth ++ ['\n']).foldl Scanner.read scanner).lines =
        (fittedLines depth code.normalizeNewlines).reverse ++ scanner.lines :=
  ready.run_deepened (fun _ => fits.known) fits.straight
    fun _ member => fits.alike.displace_ofMargin (List.mem_cons_of_mem _ member)

theorem displaced {line : Line} (member : line ∈ (Lines.ofText code.normalizeNewlines).lines) :
    Displaced depth (Scanner.start.lineMargins [] code.normalizeNewlines) line.column
      (displace depth (Scanner.start.lineMargins [] code.normalizeNewlines) line.column) := by
  rcases Scanner.exists_lineMargin (fun _ => fits.known) fits.straight member with
    ⟨margin, inText, column⟩
  have inText := List.mem_cons_of_mem [] inText
  rw [← column]
  exact ⟨margin, inText, rfl, fits.alike.displace_ofMargin inText⟩

/-- The lines can be read behind the margin, and give a statement of the same shape. -/
theorem exists_parsed {outer : List Column} (outerLength : outer.length = depth) :
    Exists fun other =>
      Parsed .block (.ofMargin (Text.margin depth) :: outer)
          (Outline.ofLines (fittedLines depth code.normalizeNewlines)) other ∧
        statement.Alike other := by
  rcases (fits.parsed.deepened (.block : Part.Alike depth .block .block)) with ⟨other, parsed, alike⟩
  refine ⟨other, parsed.move fits.alike.orderly .block ?_ ?_ ?_, alike⟩
  · rw [← Outline.ofLines_deepen]
    apply Outline.ofLines_moved fits.alike.orderly
    rw [fittedLines, List.forall₂_map_right_iff, List.forall₂_map_left_iff, List.forall₂_same]
    intro line member
    have displaced := fits.displaced member
    exact ⟨rfl, displaced⟩
  · exact ⟨[], List.mem_cons_self, rfl, by rw [List.append_nil]; rfl⟩
  · have room := fits.columns
    rw [Outline.depth_deepen]
    simp only [List.length_cons, outerLength, Part.level]
    omega

/-- Where no literal goes over several lines, they give the same statement. -/
theorem parsed_plain (plain : Plain depth code) {outer : List Column}
    (outerLength : outer.length = depth) :
    Parsed .block (.ofMargin (Text.margin depth) :: outer)
      (Outline.ofLines (fittedLines depth code.normalizeNewlines)) statement := by
  refine fits.parsed.move fits.alike.orderly .block ?_ ?_ ?_
  · apply Outline.ofLines_moved fits.alike.orderly
    rw [fittedLines, List.forall₂_map_right_iff, List.forall₂_same]
    intro line member
    rw [plain line member]
    exact ⟨rfl, fits.displaced member⟩
  · exact ⟨[], List.mem_cons_self, rfl, by rw [List.append_nil]; rfl⟩
  · have room := fits.columns
    simp only [List.length_cons, outerLength, Part.level]
    omega

theorem width_le {line : Line} (member : line ∈ fittedLines depth code.normalizeNewlines) :
    (Column.ofMargin (Text.margin depth)).width ≤ line.column.width := by
  rcases List.mem_map.mp member with ⟨alone, aloneMember, rfl⟩
  have displaced := fits.displaced aloneMember
  exact fits.alike.width_le displaced

/-- A program without statements has no lines. -/
theorem fittedLines_eq_nil_iff :
    fittedLines depth code.normalizeNewlines = [] ↔ statement = .pass := by
  have parsed := fits.parsed
  rw [fittedLines, List.map_eq_nil_iff]
  constructor
  · intro none
    rw [none] at parsed
    cases parsed
    rfl
  · rintro rfl
    cases lines : (Lines.ofText code.normalizeNewlines).lines with
    | nil => rfl
    | cons first rest =>
        rw [lines] at parsed
        exact absurd rfl (Parsed.ne_pass parsed)

theorem contains_null : code.contains '\x00' = false :=
  (Stmt.ofText_eq_ok_iff.mp fits.read).1

theorem fixedName_not_mem : Stmt.fixedName ∉ statement.bound := by
  have admissible := (Stmt.ofText_eq_ok_iff.mp fits.read).2.2.2
  simpa using (Bool.and_eq_true_iff.mp admissible).1

end Fits

instance (depth : Nat) (code : Text) : Decidable (Fits depth code (.ofTextD code)) :=
  decidable_of_iff
    ((Stmt.ofText code).isOk = true ∧ code.paired = true ∧
      Scanner.start.straightOn code.normalizeNewlines = true ∧
      MarginsAlike depth (Scanner.start.lineMargins [] code.normalizeNewlines) ∧
      (Outline.ofLines (Lines.ofText code.normalizeNewlines).lines).depth + depth ≤
        Lines.columnLimit ∧
      (Stmt.ofTextD code).height + depth ≤ Stmt.heightLimit ∧
      (Stmt.ofTextD code).loopsWithin (depth - 1) = true) <| by
    rw [← Stmt.ofText_eq_ofTextD_iff]
    constructor
    · rintro ⟨read, paired, straight, alike, columns, height, loops⟩
      exact ⟨read, paired, straight, alike, columns, height, loops⟩
    · intro fits
      exact ⟨fits.read, fits.paired, fits.straight, fits.alike, fits.columns, fits.height, fits.loops⟩

end Program
end Oneliner
