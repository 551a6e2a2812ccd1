import Oneliner.Proofs.Program.Scanning
import Oneliner.Proofs.Text.Newlines

namespace Oneliner
namespace Program

/-!
Programs put into a block of another program.

Whether a program reads the same behind a margin depends on its own margins:
blanks in front of them must not change how they compare.  They can do so where
tabs follow blanks, since a tab goes on to the next multiple of eight, and where
a form feed sets the column back to zero.
-/

/-! ## Margins behind a margin -/

/-- Margins compare behind the margin of a level as they compare alone.  The empty
margin, in which a program begins, is one of them. -/
def MarginsAlike (level : Int) (margins : List Text) : Prop :=
  forall first, first ∈ [] :: margins -> forall second, second ∈ [] :: margins ->
    ((Column.ofMargin first).width < (Column.ofMargin second).width ↔
        (Column.ofMargin (Text.margin level ++ first)).width <
          (Column.ofMargin (Text.margin level ++ second)).width) ∧
      ((Column.ofMargin first).narrow < (Column.ofMargin second).narrow ↔
        (Column.ofMargin (Text.margin level ++ first)).narrow <
          (Column.ofMargin (Text.margin level ++ second)).narrow)

instance (level : Int) (margins : List Text) : Decidable (MarginsAlike level margins) :=
  inferInstanceAs (Decidable (∀ first ∈ [] :: margins, ∀ second ∈ [] :: margins,
    ((Column.ofMargin first).width < (Column.ofMargin second).width ↔
        (Column.ofMargin (Text.margin level ++ first)).width <
          (Column.ofMargin (Text.margin level ++ second)).width) ∧
      ((Column.ofMargin first).narrow < (Column.ofMargin second).narrow ↔
        (Column.ofMargin (Text.margin level ++ first)).narrow <
          (Column.ofMargin (Text.margin level ++ second)).narrow)))

/-- The second column is the first one behind the margin of a level. -/
def Displaced (level : Int) (margins : List Text) (column column' : Column) : Prop :=
  Exists fun margin => margin ∈ [] :: margins ∧ column = .ofMargin margin ∧
    column' = .ofMargin (Text.margin level ++ margin)

theorem MarginsAlike.orderly {level : Int} {margins : List Text} (alike : MarginsAlike level margins) :
    Column.Orderly (Displaced level margins) := by
  rintro _ _ _ _ ⟨first, firstMember, rfl, rfl⟩ ⟨second, secondMember, rfl, rfl⟩
  exact alike first firstMember second secondMember

/-- The column behind the margin of a level, where one of the margins ends in the given
column. -/
def displace (level : Int) (margins : List Text) (column : Column) : Column :=
  match ([] :: margins).find? (Column.ofMargin · = column) with
  | some margin => .ofMargin (Text.margin level ++ margin)
  | none => column

theorem MarginsAlike.displace_ofMargin {level : Int} {margins : List Text}
    (alike : MarginsAlike level margins) {margin : Text} (member : margin ∈ [] :: margins) :
    displace level margins (.ofMargin margin) = .ofMargin (Text.margin level ++ margin) := by
  rw [displace]
  split
  · rename_i found search
    have same : Column.ofMargin found = .ofMargin margin := by
      simpa using List.find?_some search
    -- Several margins may end in one column, and then they do so behind the margin as well.
    exact (Column.Orderly.eq_iff alike.orderly ⟨found, List.mem_of_find?_eq_some search, rfl, rfl⟩
      ⟨margin, member, rfl, rfl⟩).mp same
  · rename_i search
    have missing := List.find?_eq_none.mp search margin member
    simp at missing

/-- No margin comes to stand to the left of the one in front of it. -/
theorem MarginsAlike.width_le {level : Int} {margins : List Text} (alike : MarginsAlike level margins)
    {column column' : Column} (displaced : Displaced level margins column column') :
    (Column.ofMargin (Text.margin level)).width ≤ column'.width := by
  rcases displaced with ⟨margin, member, _, rfl⟩
  have compared := (alike margin member [] List.mem_cons_self).1
  rw [List.append_nil] at compared
  exact Nat.le_of_not_lt ((not_congr compared).mp (Nat.not_lt_zero _))

/-! ## Lines of outlines -/

namespace Outline

/-- The lines of an outline, from the first one to the last. -/
def lines : Outline -> List Line
  | empty => []
  | line first under after => first :: (under.lines ++ after.lines)

theorem lines_divide (outline : Outline) (width : Nat) :
    (outline.divide width).1.lines ++ (outline.divide width).2.lines = outline.lines := by
  induction outline with
  | empty => rfl
  | line first under after _ afterDivided =>
      simp only [divide]
      split
      · simp [lines, ← afterDivided]
      · rfl

theorem lines_ofLines (lines : List Line) : (ofLines lines).lines = lines := by
  induction lines with
  | nil => rfl
  | cons first rest restLines =>
      change first :: (((ofLines rest).divide first.column.width).1.lines ++
        ((ofLines rest).divide first.column.width).2.lines) = first :: rest
      rw [lines_divide, restLines]

end Outline

theorem Line.known_of_elseOf? {line : Line} {column : Column} {inline : Option Stmt}
    (branch : line.elseOf? column = some inline) : line.tokens.all Token.known = true := by
  rw [Line.elseOf?] at branch
  split at branch
  · split at branch
    · rename_i head
      exact Head.ofTokens_known head
    · cases branch
  · cases branch

/-- Whatever can be read has only tokens that are known. -/
theorem Parsed.known {part : Part} {opened : List Column} {outline : Outline} {statement : Stmt}
    (parsed : Parsed part opened outline statement) {line : Line} (member : line ∈ outline.lines) :
    line.tokens.all Token.known = true := by
  induction parsed with
  | empty | inline => cases member
  | simple _ head _ laterKnown =>
      rcases List.mem_cons.mp member with first | later
      · exact first ▸ Head.ofTokens_known head
      · exact laterKnown later
  | define _ head _ _ suiteKnown laterKnown =>
      rcases List.mem_cons.mp member with first | inside
      · exact first ▸ Head.ofTokens_known head
      · exact (List.mem_append.mp inside).elim suiteKnown laterKnown
  | alone _ found _ _ _ _ suiteKnown laterKnown =>
      rcases List.mem_cons.mp member with first | inside
      · exact first ▸ Head.ofTokens_known found
      · exact (List.mem_append.mp inside).elim suiteKnown laterKnown
  | branches _ found _ _ branch _ _ suiteKnown suiteKnown' laterKnown =>
      rcases List.mem_cons.mp member with first | inside
      · exact first ▸ Head.ofTokens_known found
      · rcases List.mem_append.mp inside with under | after
        · exact suiteKnown under
        · rcases List.mem_cons.mp after with second | inside'
          · exact second ▸ Line.known_of_elseOf? branch
          · exact (List.mem_append.mp inside').elim suiteKnown' laterKnown
  | indented _ _ _ _ blockKnown => exact blockKnown member

/-! ## Programs -/

/-- A program is read from its lines if it is neither too deep nor against the rules
beyond the grammar. -/
theorem Stmt.ofText_eq_ok_iff {code : Text} {statement : Stmt} :
    Stmt.ofText code = .ok statement ↔
      code.contains '\x00' = false ∧
        Parsed .block [.zero] (Outline.ofLines (Lines.ofText code.normalizeNewlines).lines) statement ∧
        statement.height ≤ Stmt.heightLimit ∧ statement.admissible = true := by
  rw [Stmt.ofText, Stmt.ofLines]
  constructor
  · intro read
    split at read
    · cases read
    · rename_i plain
      split at read
      · rename_i found block
        have parsed := Outline.block_eq_ok_iff.mp block
        split at read
        · cases read
        · rename_i shallow
          split at read
          · rename_i admissible
            cases read
            exact ⟨Bool.eq_false_iff.mpr plain, parsed, Nat.le_of_not_gt shallow, admissible⟩
          · cases read
      · cases read
      · cases read
  · rintro ⟨plain, parsed, shallow, admissible⟩
    have block : (Outline.ofLines (Lines.ofText code.normalizeNewlines).lines).block none [.zero] =
        .ok statement := Outline.block_eq_ok_iff.mpr parsed
    simp only [plain, block, admissible, Nat.not_lt.mpr shallow, if_true, if_false,
      Bool.false_eq_true]

/-- A program that can stand in a block so many levels deep, and what it says. -/
structure Placed (depth : Nat) (code : Text) (statement : Stmt) : Prop where
  /-- The program alone. -/
  read : Stmt.ofText code = .ok statement
  /-- Carriage returns stand only in front of newlines. -/
  paired : code.paired = true
  /-- No backslash stands in a margin, and no newline in a literal. -/
  steady : Scanner.start.steadyOn code.normalizeNewlines = true
  /-- The margins compare in the same way. -/
  alike : MarginsAlike depth (codeMargins code.normalizeNewlines)
  /-- The limits hold with the blocks around it. -/
  columns : (Outline.ofLines (Lines.ofText code.normalizeNewlines).lines).depth + depth ≤
    Lines.columnLimit
  height : statement.height + depth ≤ Stmt.heightLimit
  loops : statement.loopsWithin (depth - 1) = true

/-- The lines of a program behind the margin of a level. -/
def placedLines (depth : Nat) (text : Text) : List Line :=
  (Lines.ofText text).lines.map (Line.move (displace depth (codeMargins text)))

namespace Placed

variable {depth : Nat} {code : Text} {statement : Stmt} (placed : Placed depth code statement)

include placed

theorem parsed :
    Parsed .block [.zero] (Outline.ofLines (Lines.ofText code.normalizeNewlines).lines) statement :=
  (Stmt.ofText_eq_ok_iff.mp placed.read).2.1

theorem known {line : Line} (member : line ∈ (Lines.ofText code.normalizeNewlines).lines) :
    line.tokens.all Token.known = true := by
  apply placed.parsed.known
  rw [Outline.lines_ofLines]
  exact member

/-- The indented program gives the lines of the program. -/
theorem scan {scanner : Scanner} (ready : scanner.Ready) :
    ((code.normalizeNewlines.indent depth ++ ['\n']).foldl Scanner.read scanner).Ready ∧
      ((code.normalizeNewlines.indent depth ++ ['\n']).foldl Scanner.read scanner).lines =
        (placedLines depth code.normalizeNewlines).reverse ++ scanner.lines :=
  ready.run_indent (fun _ => placed.known) placed.steady
    fun _ member => placed.alike.displace_ofMargin (List.mem_cons_of_mem _ member)

theorem displaced {line : Line} (member : line ∈ (Lines.ofText code.normalizeNewlines).lines) :
    Displaced depth (codeMargins code.normalizeNewlines) line.column
      (displace depth (codeMargins code.normalizeNewlines) line.column) := by
  rcases Scanner.column_of_mem_lines (fun _ => placed.known) placed.steady member with
    ⟨margin, inText, column⟩
  have inText := List.mem_cons_of_mem [] inText
  rw [← column]
  exact ⟨margin, inText, rfl, placed.alike.displace_ofMargin inText⟩

/-- The lines say the same behind the margin. -/
theorem parsed_placedLines {outer : List Column} (outerLength : outer.length = depth) :
    Parsed .block (.ofMargin (Text.margin depth) :: outer)
      (Outline.ofLines (placedLines depth code.normalizeNewlines)) statement := by
  refine placed.parsed.move placed.alike.orderly .block
    (Outline.ofLines_moved placed.alike.orderly ?_) ?_ ?_
  · rw [placedLines, List.forall₂_map_right_iff, List.forall₂_same]
    intro line member
    exact ⟨rfl, placed.displaced member⟩
  · exact ⟨[], List.mem_cons_self, rfl, by rw [List.append_nil]; rfl⟩
  · have room := placed.columns
    simp only [List.length_cons, outerLength, Part.level]
    omega

theorem width_le {line : Line} (member : line ∈ placedLines depth code.normalizeNewlines) :
    (Column.ofMargin (Text.margin depth)).width ≤ line.column.width := by
  rcases List.mem_map.mp member with ⟨alone, aloneMember, rfl⟩
  exact placed.alike.width_le (placed.displaced aloneMember)

theorem placedLines_ne_nil (some : statement ≠ .pass) :
    placedLines depth code.normalizeNewlines ≠ [] := by
  intro empty
  have parsed := placed.parsed
  rw [List.map_eq_nil_iff.mp empty] at parsed
  cases parsed
  exact some rfl

theorem contains_null : code.contains '\x00' = false :=
  (Stmt.ofText_eq_ok_iff.mp placed.read).1

theorem admissible : statement.admissible = true :=
  (Stmt.ofText_eq_ok_iff.mp placed.read).2.2.2

end Placed

/-! ## Deciding whether a program can be placed -/

instance (statement : Stmt) : Decidable (statement = .pass) :=
  match statement with
  | .pass => .isTrue rfl
  | .assign .. | .increase .. | .evaluate .. | .seq .. | .condition .. | .loop .. | .define .. =>
      .isFalse nofun

/-- The program that a text writes, or one that does nothing if it writes none. -/
def Stmt.ofTextD (text : Text) : Stmt :=
  (Stmt.ofText text).toOption.getD .pass

theorem Stmt.ofText_eq_ofTextD_iff (text : Text) :
    Stmt.ofText text = .ok (.ofTextD text) ↔ (Stmt.ofText text).isOk = true := by
  rw [Stmt.ofTextD]
  cases Stmt.ofText text with
  | ok => exact ⟨fun _ => rfl, fun _ => rfl⟩
  | error => exact ⟨nofun, nofun⟩

instance (depth : Nat) (code : Text) : Decidable (Placed depth code (.ofTextD code)) :=
  decidable_of_iff
    ((Stmt.ofText code).isOk = true ∧ code.paired = true ∧
      Scanner.start.steadyOn code.normalizeNewlines = true ∧
      MarginsAlike depth (codeMargins code.normalizeNewlines) ∧
      (Outline.ofLines (Lines.ofText code.normalizeNewlines).lines).depth + depth ≤
        Lines.columnLimit ∧
      (Stmt.ofTextD code).height + depth ≤ Stmt.heightLimit ∧
      (Stmt.ofTextD code).loopsWithin (depth - 1) = true) <| by
    rw [← Stmt.ofText_eq_ofTextD_iff]
    constructor
    · rintro ⟨read, paired, steady, alike, columns, height, loops⟩
      exact ⟨read, paired, steady, alike, columns, height, loops⟩
    · intro placed
      exact ⟨placed.read, placed.paired, placed.steady, placed.alike, placed.columns,
        placed.height, placed.loops⟩

end Program
end Oneliner
