import Oneliner.Proofs.Program.Placement
import Oneliner.Proofs.Script.Fragments

namespace Oneliner
namespace Script

/-!
The logical lines of the function.

Each fragment gives lines of its own, whatever lines come before it: a section of
code gives the lines that it gives alone, further to the right.
-/

open Program

/-! ## Lines of fragments -/

/-- The lines that fragments give, behind any earlier lines. -/
def Scanned (fragments : List Fragment) (lines : List Line) : Prop :=
  forall scanner : Scanner, scanner.Ready ->
    ((textOf fragments).foldl Scanner.read scanner).Ready ∧
      ((textOf fragments).foldl Scanner.read scanner).lines = lines.reverse ++ scanner.lines

theorem scanned_nil : Scanned [] [] :=
  fun _ ready => ⟨ready, rfl⟩

theorem Scanned.append {front back : List Fragment} {lines later : List Line}
    (scanned : Scanned front lines) (scanned' : Scanned back later) :
    Scanned (front ++ back) (lines ++ later) := by
  intro scanner ready
  rcases scanned scanner ready with ⟨middleReady, middleLines⟩
  rcases scanned' _ middleReady with ⟨lastReady, lastLines⟩
  rw [textOf_append, List.foldl_append]
  refine ⟨lastReady, ?_⟩
  rw [lastLines, middleLines, List.reverse_append, List.append_assoc]

/-- Further newlines behind a fragment make no difference. -/
theorem scanned_of_run {fragment : Fragment} {lines : List Line} (closed : 0 < fragment.newlines)
    (run : forall scanner : Scanner, scanner.Ready ->
      ((fragment.body.indent fragment.depth ++ ['\n']).foldl Scanner.read scanner).Ready ∧
        ((fragment.body.indent fragment.depth ++ ['\n']).foldl Scanner.read scanner).lines =
          lines.reverse ++ scanner.lines) :
    Scanned [fragment] lines := by
  intro scanner ready
  have further : forall (count : Nat) (scanner : Scanner), scanner.Ready ->
      (List.replicate count '\n').foldl Scanner.read scanner = scanner := by
    intro count scanner ready
    induction count with
    | zero => rfl
    | succ count rest => rw [List.replicate_succ, List.foldl_cons, ready.read_newline, rest]
  rcases Nat.exists_eq_succ_of_ne_zero (Nat.ne_of_gt closed) with ⟨count, newlines⟩
  have text : fragment.text =
      (fragment.body.indent fragment.depth ++ ['\n']) ++ List.replicate count '\n' := by
    rw [Fragment.text, newlines, List.replicate_succ, List.append_assoc]
    rfl
  rw [textOf_singleton, text, List.foldl_append, further count _ (run scanner ready).1]
  exact run scanner ready

/-- A section of code gives its own lines. -/
theorem scanned_placed {depth : Nat} {code : Text} {statement : Stmt}
    (placed : Placed depth code statement) (origin : Origin) (newlines : Nat) :
    Scanned [⟨origin, depth, code.normalizeNewlines, newlines + 1⟩]
      (placedLines depth code.normalizeNewlines) :=
  scanned_of_run (Nat.succ_pos newlines) fun _ => placed.scan

/-- A text of lines at the margin, which ends in no literal and in no bracket. -/
def ReadsAs (text : Text) (alone : List Line) : Prop :=
  (Lines.ofText text).lines = alone ∧
    (∀ found ∈ alone, found.tokens.all Token.known = true) ∧
    Scanner.start.steadyOn text = true ∧ ∀ margin ∈ codeMargins text, margin = []

instance (text : Text) (alone : List Line) : Decidable (ReadsAs text alone) :=
  inferInstanceAs (Decidable (_ ∧ _ ∧ _ ∧ _))

/-- A line of the function itself, moved from column zero to its own. -/
theorem scanned_frame {depth : Nat} {line : String} {alone : List Line}
    (reads : ReadsAs line.toList alone) (newlines : Nat) :
    Scanned [⟨.frame, depth, line.toList, newlines + 1⟩]
      (alone.map (Line.move fun _ => .ofMargin (Text.margin depth))) := by
  rcases reads with ⟨lines, known, steady, flush⟩
  rw [← lines] at known ⊢
  refine scanned_of_run (Nat.succ_pos newlines) fun scanner ready => ready.run_indent known steady ?_
  intro margin member
  rw [flush margin member, List.append_nil]

/-! ## The lines of the function itself -/

/-- The head of the function. -/
def defineLine : Line :=
  ⟨.zero, [.keyword .define, .name "pype".toList, .symbol .openParen, .name "stdin".toList,
    .symbol .closeParen, .symbol .colon]⟩

/-- The head of the loop over the input. -/
def loopLine : Line :=
  ⟨⟨4, 4⟩, [.keyword .loop, .name ['_'], .keyword .within, .name "stdin".toList, .symbol .colon]⟩

def trimLine : Line :=
  ⟨⟨8, 8⟩, [.name ['_'], .symbol .assign, .name ['_'], .symbol .dot, .name "rstrip".toList,
    .symbol .openParen, .literal .plain "\\n".toList, .symbol .closeParen]⟩

def convertLine : Line :=
  ⟨⟨8, 8⟩, [.name ['_'], .symbol .assign, .name "__try_convert_str_to_number__".toList,
    .symbol .openParen, .name ['_'], .symbol .closeParen]⟩

/-- The statement that takes the newline from the end of a line. -/
def trimStmt : Stmt :=
  .assign [['_']] (.call (.member (.name ['_']) "rstrip".toList) [.constant (.str ['\n'])])

/-- The statement that makes a number of a line. -/
def convertStmt : Stmt :=
  .assign [['_']] (.call (.name "__try_convert_str_to_number__".toList) [.name ['_']])

-- The literals are spelled out before they are read, which is far cheaper to check.
theorem readsAs_ownLines :
    ReadsAs "def pype(stdin):".toList [defineLine] ∧
      ReadsAs "for _ in stdin:".toList [{ loopLine with column := .zero }] ∧
      ReadsAs "_ = _.rstrip('\\n')".toList [{ trimLine with column := .zero }] ∧
      ReadsAs "_ = __try_convert_str_to_number__(_)".toList
        [{ convertLine with column := .zero }] := by
  iterate 4 rw [String.toList_ofList]
  decide +kernel

theorem readsAs_headings : ReadsAs "# 'before' code".toList [] ∧
    ReadsAs "# 'pype' code".toList [] ∧ ReadsAs "# 'after' code".toList [] := by
  iterate 3 rw [String.toList_ofList]
  decide +kernel

theorem scanned_defineLine : Scanned [defineFragment] [defineLine] :=
  @scanned_frame 0 _ _ readsAs_ownLines.1 1

theorem scanned_loopLine : Scanned [.frame 1 "for _ in stdin:"] [loopLine] :=
  @scanned_frame 1 _ _ readsAs_ownLines.2.1 0

theorem scanned_trimLine : Scanned [.frame 2 "_ = _.rstrip('\\n')"] [trimLine] :=
  @scanned_frame 2 _ _ readsAs_ownLines.2.2.1 0

theorem scanned_convertLine :
    Scanned [.frame 2 "_ = __try_convert_str_to_number__(_)"] [convertLine] :=
  @scanned_frame 2 _ _ readsAs_ownLines.2.2.2 0

theorem scanned_beforeHeading : Scanned [.frame 1 "# 'before' code"] [] :=
  @scanned_frame 1 _ _ readsAs_headings.1 0

theorem scanned_mainHeading (depth : Nat) : Scanned [.frame depth "# 'pype' code"] [] :=
  @scanned_frame depth _ _ readsAs_headings.2.1 0

theorem scanned_afterHeading : Scanned [.frame 1 "# 'after' code"] [] :=
  @scanned_frame 1 _ _ readsAs_headings.2.2 0

/-! ## The lines of the whole text -/

/-- The code before the loop, if there is any. -/
def beforeCode (script : Script) : Text :=
  script.before.getD []

/-- The main code, which is stripped at the end of the text. -/
def mainCode (script : Script) : Text :=
  if script.after.isSome then script.main else script.main.trimRight

/-- The code behind the loop. -/
def afterCode (script : Script) : Text :=
  (script.after.getD []).trimRight

/-- The lines that prepare a line of the input. -/
def preparationLines (script : Script) : List Line :=
  (if script.trim then [trimLine] else []) ++
    (if script.trim && script.convert then [convertLine] else [])

theorem scanned_before {script : Script} {before : Stmt}
    (placed : Placed 1 script.beforeCode before) :
    Scanned
      (List.map Fragment.normalized (match script.before with
        | none => []
        | some code => [.frame 1 "# 'before' code", ⟨.before, 1, code, 2⟩]))
      (placedLines 1 script.beforeCode.normalizeNewlines) := by
  rw [beforeCode] at placed ⊢
  cases present : script.before with
  | none => exact scanned_nil
  | some code =>
      rw [present] at placed
      exact scanned_beforeHeading.append (scanned_placed placed .before 1)

theorem scanned_loopHead {script : Script} {before : Stmt}
    (placed : Placed 1 script.beforeCode before) :
    Scanned (script.loopHead.map Fragment.normalized)
      (([defineLine] ++ placedLines 1 script.beforeCode.normalizeNewlines) ++
        ([loopLine] ++ script.preparationLines)) := by
  have trimScanned : Scanned
      (List.map Fragment.normalized (if script.trim then [.frame 2 "_ = _.rstrip('\\n')"] else []))
      (if script.trim then [trimLine] else []) := by
    split
    · exact scanned_trimLine
    · exact scanned_nil
  have convertScanned : Scanned
      (List.map Fragment.normalized (if script.trim && script.convert then
        [.frame 2 "_ = __try_convert_str_to_number__(_)"] else []))
      (if script.trim && script.convert then [convertLine] else []) := by
    split
    · exact scanned_convertLine
    · exact scanned_nil
  have whole := (((scanned_defineLine.append (scanned_before placed)).append
    (scanned_loopLine.append trimScanned)).append convertScanned).append (scanned_mainHeading 2)
  have lines : ([defineLine] ++ placedLines 1 script.beforeCode.normalizeNewlines) ++
      ([loopLine] ++ script.preparationLines) =
        ([defineLine] ++ placedLines 1 script.beforeCode.normalizeNewlines ++
          ([loopLine] ++ if script.trim then [trimLine] else []) ++
          if script.trim && script.convert then [convertLine] else []) ++ [] := by
    simp only [preparationLines, List.append_assoc, List.append_nil]
  rw [lines, loopHead, List.map_append, List.map_append, List.map_append]
  exact whole

theorem scanned_stripped {depth : Nat} {code : Text} {statement : Stmt}
    (placed : Placed depth code.trimRight statement) (origin : Origin) (newlines : Nat) :
    Scanned ((Fragment.stripped ⟨origin, depth, code, newlines⟩).map Fragment.normalized)
      (placedLines depth code.trimRight.normalizeNewlines) := by
  rw [Fragment.stripped]
  split
  · rename_i empty
    have same : code.trimRight = [] := empty
    rw [same]
    exact scanned_nil
  · exact scanned_placed placed origin 0

/-- The lines of the whole text: the function, the code before the loop, the loop, the
main code and the code behind the loop. -/
theorem scanned_loopFragments {script : Script} {before main after : Stmt}
    (beforePlaced : Placed 1 script.beforeCode before)
    (mainPlaced : Placed 2 script.mainCode main)
    (afterPlaced : Placed 1 script.afterCode after) :
    Scanned (script.loopFragments.map Fragment.normalized)
      ((([defineLine] ++ placedLines 1 script.beforeCode.normalizeNewlines) ++
        ([loopLine] ++ script.preparationLines)) ++
        placedLines 2 script.mainCode.normalizeNewlines ++
        placedLines 1 script.afterCode.normalizeNewlines) := by
  have head := scanned_loopHead beforePlaced
  rw [mainCode] at mainPlaced ⊢
  rw [afterCode] at afterPlaced ⊢
  rw [loopFragments]
  cases present : script.after with
  | none =>
      rw [present] at mainPlaced
      have whole := head.append (scanned_stripped mainPlaced .main 1)
      rw [List.map_append]
      exact (List.append_nil _).symm ▸ whole
  | some code =>
      rw [present] at mainPlaced afterPlaced
      have whole := (head.append ((scanned_placed mainPlaced .main 0).append
        scanned_afterHeading)).append (scanned_stripped afterPlaced .after 2)
      rw [List.append_nil] at whole
      rw [List.map_append, List.map_append]
      exact whole

/-- A text that can be divided into lines piece by piece has the lines of its pieces. -/
theorem Scanned.lines_ofText {fragments : List Fragment} {lines : List Line}
    (scanned : Scanned fragments lines) : (Lines.ofText (textOf fragments)).lines = lines := by
  rcases scanned .start Scanner.ready_start with ⟨ready, found⟩
  rw [ready.lines_ofText, found, List.reverse_append, List.reverse_reverse]
  rfl

/-! ## Characters of the whole text -/

/-- The lines of the function itself, without their margins. -/
def frameTexts : List Text :=
  ["def pype(stdin):", "# 'before' code", "for _ in stdin:", "_ = _.rstrip('\\n')",
    "_ = __try_convert_str_to_number__(_)", "# 'pype' code", "# 'after' code"].map String.toList

/-- What holds of the function's own lines and of each section holds of each fragment. -/
theorem forall_loopFragments {script : Script} {property : Text -> Prop}
    (frame : ∀ text ∈ frameTexts, property text) (before : property script.beforeCode)
    (main : property script.mainCode) (after : property script.afterCode) :
    ∀ fragment ∈ script.loopFragments, property fragment.body := by
  simp only [frameTexts, List.map_cons, List.map_nil, List.forall_mem_cons] at frame
  rcases frame with ⟨define, beforeHeading, loop, trim, convert, mainHeading, afterHeading, -⟩
  have head : ∀ fragment ∈ script.loopHead, property fragment.body := by
    rw [beforeCode] at before
    simp only [loopHead, List.forall_mem_append, List.forall_mem_cons]
    refine ⟨⟨⟨⟨define, ?_⟩, loop, ?_⟩, ?_⟩, mainHeading, List.forall_mem_nil _⟩
    · cases present : script.before with
      | none => exact List.forall_mem_nil _
      | some code =>
          rw [present] at before
          simpa using ⟨beforeHeading, before⟩
    · split
      · exact List.forall_mem_singleton.mpr trim
      · exact List.forall_mem_nil _
    · split
      · exact List.forall_mem_singleton.mpr convert
      · exact List.forall_mem_nil _
  have stripped : forall (fragment : Fragment), property fragment.body.trimRight ->
      ∀ part ∈ fragment.stripped, property part.body := by
    intro fragment holds
    rw [Fragment.stripped]
    split
    · exact List.forall_mem_nil _
    · simpa using holds
  rw [mainCode] at main
  rw [afterCode] at after
  rw [loopFragments]
  cases present : script.after with
  | none =>
      rw [present] at main
      exact List.forall_mem_append.mpr ⟨head, stripped _ main⟩
  | some code =>
      rw [present] at main after
      refine List.forall_mem_append.mpr ⟨List.forall_mem_append.mpr ⟨head, ?_⟩, stripped _ after⟩
      simpa using ⟨main, afterHeading⟩

theorem contains_textOf {fragments : List Fragment} {char : Char} (visible : char ≠ ' ')
    (inLine : char ≠ '\n')
    (missing : ∀ fragment ∈ fragments, fragment.body.contains char = false) :
    (textOf fragments).contains char = false := by
  rw [Bool.eq_false_iff]
  intro found
  rw [List.contains_iff_mem, textOf, List.mem_flatMap] at found
  rcases found with ⟨fragment, member, inside⟩
  have absent : char ∉ fragment.body := by
    rw [← List.contains_iff_mem, missing fragment member]
    exact Bool.false_ne_true
  rw [Fragment.text, List.mem_append] at inside
  rcases inside with indented | newline
  · exact (Text.mem_of_mem_indent indented).elim visible absent
  · exact inLine (List.eq_of_mem_replicate newline)

end Script
end Oneliner
