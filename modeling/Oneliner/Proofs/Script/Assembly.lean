import Oneliner.Proofs.Script.Standing

namespace Oneliner
namespace Script

/-!
The function that the text defines.

The text is a list of fragments: the head of the function, the head of the loop, and
between them the function's own lines and the sections of code.  Each section stands
in the function as a statement of the shape that it has alone.
-/

open Program

/-! ## The fragments of the whole text -/

/-- What stands inside the loop.  At the end of the text it is stripped. -/
def inside (script : Script) : List Fragment :=
  script.lineOwn ++
    match script.after with
    | none => Fragment.stripped ⟨.main, 2, script.main, 1⟩
    | some _ => [⟨.main, 2, script.main, 1⟩]

/-- What stands behind the loop. -/
def behind (script : Script) : List Fragment :=
  match script.after with
  | none => []
  | some code => script.afterOwn ++ Fragment.stripped ⟨.after, 1, code, 2⟩

/-- What stands in a function that runs its code once. -/
def collected (script : Script) : List Fragment :=
  script.collectOwn ++ Fragment.stripped ⟨.main, 1, script.main, 1⟩

section Text

variable {script : Script} (handler : script.handler = none)

include handler

theorem depth_eq_one : script.depth = 1 := by
  rw [depth, handler]
  rfl

/-- Without a handler, the lines inside the loop are those at depth two. -/
theorem lineOwn_eq : script.lineOwn =
    script.preparation ++ script.loopTrace ++ [.frame 2 "# 'pype' code"] := by
  have depth : script.depth + 1 = 2 := by rw [depth_eq_one handler]; rfl
  rw [lineOwn, preparation, loopTrace, depth]

theorem text_eq_loop (collect : script.collect = false) :
    script.text = textOf ([defineFragment] ++ (script.opening ++ ([.frame 1 "for _ in stdin:"] ++
      (script.inside ++ script.behind)))) := by
  have mainHeading : (Fragment.frame 2 "# 'pype' code").text =
      "        # 'pype' cod".toList ++ ['e', '\n'] := rfl
  have afterHeading : (Fragment.frame 1 "# 'after' code").text =
      "    # 'after' cod".toList ++ ['e', '\n'] := rfl
  have announcement : (Fragment.trace 1 "print('--after')").text =
      "    print('--after'".toList ++ [')', '\n'] := rfl
  have depth := depth_eq_one handler
  have fragments : script.fragments = [defineFragment] ++ (script.opening ++
      ([.frame 1 "for _ in stdin:"] ++ (script.preparation ++ script.loopTrace ++
        [.frame 2 "# 'pype' code"] ++ [⟨.main, 2, script.main, 1⟩] ++
        script.sectionBody .after "# 'after' code" "print('--after')" script.after))) := by
    rw [fragments, handlerBody, handler, collect, loopBody, opening, depth]
    simp only [Option.isSome_none, Bool.false_eq_true, if_false, List.append_nil, List.append_assoc,
      List.cons_append, List.nil_append]
    rfl
  rw [text_eq_trimRight, fragments, inside, lineOwn_eq handler, behind, afterOwn, sectionBody.eq_def, depth]
  cases script.after with
  | none =>
      have ending := textOf_ending ([defineFragment] ++ (script.opening ++
        ([.frame 1 "for _ in stdin:"] ++ (script.preparation ++ script.loopTrace)))) mainHeading
      have stripped := @trimRight_textOf _ ⟨.main, 2, script.main, 1⟩ _ _ ending (by decide)
      simpa only [List.append_assoc, List.append_nil] using stripped
  | some code =>
      cases debug : script.debug with
      | false =>
          have ending := textOf_ending ([defineFragment] ++ (script.opening ++
            ([.frame 1 "for _ in stdin:"] ++ (script.preparation ++ script.loopTrace ++
              [.frame 2 "# 'pype' code"] ++ [⟨.main, 2, script.main, 1⟩])))) afterHeading
          have stripped := @trimRight_textOf _ ⟨.after, 1, code, 2⟩ _ _ ending (by decide)
          simpa only [List.append_assoc, List.append_nil, Bool.false_eq_true, if_false] using stripped
      | true =>
          have ending := textOf_ending ([defineFragment] ++ (script.opening ++
            ([.frame 1 "for _ in stdin:"] ++ (script.preparation ++ script.loopTrace ++
              [.frame 2 "# 'pype' code"] ++ [⟨.main, 2, script.main, 1⟩] ++
              [.frame 1 "# 'after' code"])))) announcement
          have stripped := @trimRight_textOf _ ⟨.after, 1, code, 2⟩ _ _ ending (by decide)
          simpa only [List.append_assoc, List.cons_append, List.nil_append, if_true] using stripped

theorem text_eq_collect (collect : script.collect = true) :
    script.text = textOf ([defineFragment] ++ script.collected) := by
  have heading : (Fragment.frame 1 "# 'pype' code").text =
      "    # 'pype' cod".toList ++ ['e', '\n'] := rfl
  have fragments : script.fragments = [defineFragment] ++ (.frame 1 script.collectLine ::
      script.collectTrace) ++ [.frame 1 "# 'pype' code"] ++ [⟨.main, 1, script.main, 1⟩] := by
    rw [fragments, handlerBody, handler, collect, collectBody, depth_eq_one handler]
    simp only [Option.isSome_none, Bool.false_eq_true, if_false, if_true, List.append_nil,
      List.append_assoc, List.cons_append, List.nil_append]
    rfl
  have ending := textOf_ending ([defineFragment] ++ (.frame 1 script.collectLine ::
    script.collectTrace)) heading
  have stripped := @trimRight_textOf _ ⟨.main, 1, script.main, 1⟩ _ _ ending (by decide)
  rw [text_eq_trimRight, fragments, stripped, collected, collectOwn, collectTrace, depth_eq_one handler]
  simp only [List.append_assoc]

end Text

/-! ## Sections that fit -/

/-- How deep the main code stands. -/
def mainDepth (script : Script) : Nat :=
  if script.collect then 1 else 2

/-- Each section of code fits in its place. -/
structure SectionsFit (script : Script) (before main after : Stmt) : Prop where
  before : Program.Fits 1 script.beforeCode before
  main : Program.Fits script.mainDepth script.mainCode main
  after : Program.Fits 1 script.afterCode after

instance (script : Script) : Decidable (script.SectionsFit (.ofTextD script.beforeCode)
    (.ofTextD script.mainCode) (.ofTextD script.afterCode)) :=
  decidable_of_iff (_ ∧ _ ∧ _)
    ⟨fun ⟨before, main, after⟩ => ⟨before, main, after⟩, fun fit => ⟨fit.before, fit.main, fit.after⟩⟩

/-! ## The body of the function -/

/-- What stands in front of the loop. -/
def openingStmt (script : Script) (before : Stmt) : Stmt :=
  match script.before with
  | none => ownStmt script.counterOwn
  | some _ => (ownStmt script.beforeOwn).followedBy (before.followedBy (ownStmt script.counterOwn))

/-- What is done with each line. -/
def turnStmt (script : Script) (main : Stmt) : Stmt :=
  (ownStmt script.lineOwn).followedBy main

/-- What stands behind the loop. -/
def closingStmt (script : Script) (after : Stmt) : Stmt :=
  match script.after with
  | none => .pass
  | some _ => (ownStmt script.afterOwn).followedBy after

/-- The body of the function. -/
def assembled (script : Script) (before main after : Stmt) : Stmt :=
  if script.collect then (ownStmt script.collectOwn).followedBy main
  else
    (script.openingStmt before).followedBy
      (.seq (.seq (.loop ['_'] (.name "stdin".toList) (script.turnStmt main)) .pass)
        (script.closingStmt after))

/-- The tokens of a text that is one line, if all lies open that makes it a program. -/
def IsLine (text : Text) (tokens : List Token) : Prop :=
  text.contains '\x00' = false ∧ (Lines.ofText text.normalizeNewlines).lines = [⟨.zero, tokens⟩] ∧
    Line.isSevered ⟨.zero, tokens⟩ = false

instance (text : Text) (tokens : List Token) : Decidable (IsLine text tokens) :=
  inferInstanceAs (Decidable (_ ∧ _ ∧ _))

section IsLine

variable {text : Text} {tokens : List Token} (isLine : IsLine text tokens) {statement : Stmt}
  (head : Head.ofTokens tokens = some (.simple statement))
  (height : (Stmt.seq statement .pass).height ≤ Stmt.heightLimit)
  (admissible : (Stmt.seq statement .pass).admissible = true)

include isLine head height admissible

/-- A text that is one line says what the line says. -/
theorem IsLine.ofText : Stmt.ofText text = .ok (.seq statement .pass) := by
  rcases isLine with ⟨plain, lines, sound⟩
  rw [Stmt.ofText_eq_ok_iff, lines]
  exact ⟨plain, .simple (Outline.checkColumn_eq_ok_iff.mpr ⟨sound, rfl⟩) head .empty, height, admissible⟩

theorem IsLine.ofTextD : Stmt.ofTextD text = .seq statement .pass := by
  rw [Stmt.ofTextD, isLine.ofText head height admissible]
  rfl

end IsLine

theorem ReadsAs.isLine {text : Text} {tokens : List Token} (reads : ReadsAs text [⟨.zero, tokens⟩])
    (plain : '\x00' ∉ text ∧ '\r' ∉ text) (sound : Line.isSevered ⟨.zero, tokens⟩ = false) :
    IsLine text tokens := by
  have normal := Text.normalizeNewlines_of_not_mem plain.2
  refine ⟨?_, by rw [normal, reads.1], sound⟩
  rw [List.contains_eq_mem, decide_eq_false_iff_not]
  exact plain.1

theorem ofTextD_collectLine (script : Script) :
    Stmt.ofTextD script.collectLine.toList = .seq script.collectStmt .pass := by
  have isLine : IsLine script.collectLine.toList script.listLine.tokens := by
    refine script.readsAs_collectLine.isLine script.not_mem_collectLine ?_
    rw [listLine, collectTokens, itemTokens]
    cases script.trim <;> cases script.convert <;> rfl
  have limits : (Stmt.seq script.collectStmt .pass).height ≤ Stmt.heightLimit ∧
      (Stmt.seq script.collectStmt .pass).admissible = true := by
    rw [collectStmt, collectExpr, itemExpr]
    cases script.trim <;> cases script.convert <;> decide
  exact isLine.ofTextD script.headOf_listLine limits.1 limits.2

theorem collectLine_ne_pass (script : Script) : Stmt.ofTextD script.collectLine.toList ≠ .pass := by
  rw [ofTextD_collectLine]
  exact Stmt.noConfusion

theorem Fragment.fits_own {depth : Nat} {line : Text} {statement : Stmt}
    (fits : Program.Fits depth line statement) (origin : Origin) (newlines : Nat) :
    Fragment.Fits depth ⟨origin, depth, line, newlines + 1⟩ :=
  ⟨rfl, Nat.succ_pos newlines, statement, fits⟩

theorem Fragment.fits_stripped {depth : Nat} {code : Text} {statement : Stmt}
    (fits : Program.Fits depth code.trimRight statement) (origin : Origin) (newlines : Nat) :
    ∀ fragment ∈ Fragment.stripped ⟨origin, depth, code, newlines⟩, fragment.Fits depth := by
  rw [Fragment.stripped]
  split
  · exact List.forall_mem_nil _
  · exact List.forall_mem_singleton.mpr (fits_own fits origin 0)

/-- Fragments that can be divided into the lines of a block. -/
structure Block (depth : Nat) (fragments : List Fragment) (statement : Stmt) : Prop where
  fits : ∀ fragment ∈ fragments, fragment.Fits depth
  standing : Standing depth (linesAt depth fragments) statement

namespace Block

variable {depth : Nat} {front back : List Fragment} {first second : Stmt}

theorem own {fragments : List Fragment} (own : ∀ fragment ∈ fragments, fragment.Own (depth + 1))
    (room : depth + 1 < Stmt.heightLimit) : Block (depth + 1) fragments (ownStmt fragments) :=
  ⟨fun fragment member => (own fragment member).toFits, standing_own own room⟩

theorem append (block : Block depth front first) (block' : Block depth back second) :
    Block depth (front ++ back) (first.followedBy second) := by
  refine ⟨List.forall_mem_append.mpr ⟨block.fits, block'.fits⟩, ?_⟩
  rw [linesAt_append]
  exact block.standing.append block'.standing

variable {code : Text} {statement : Stmt}

/-- A section is a block of the same shape. -/
theorem exists_section (fits : Program.Fits (depth + 1) code statement) (origin : Origin)
    (newlines : Nat) :
    Exists fun other => statement.Alike other ∧
      Block (depth + 1) [⟨origin, depth + 1, code, newlines + 1⟩] other := by
  rcases Standing.exists_fitted fits with ⟨other, alike, standing⟩
  refine ⟨other, alike, List.forall_mem_singleton.mpr (Fragment.fits_own fits origin newlines), ?_⟩
  rw [linesAt_singleton]
  exact standing

/-- At the end of the text it is one without the white space at its end. -/
theorem exists_stripped (fits : Program.Fits (depth + 1) code.trimRight statement) (origin : Origin)
    (newlines : Nat) :
    Exists fun other => statement.Alike other ∧
      Block (depth + 1) (Fragment.stripped ⟨origin, depth + 1, code, newlines⟩) other := by
  rcases Standing.exists_fitted fits with ⟨other, alike, standing⟩
  refine ⟨other, alike, Fragment.fits_stripped fits origin newlines, ?_⟩
  rw [linesAt_stripped]
  exact standing

end Block

section Sections

variable {script : Script} (handler : script.handler = none) {before main after : Stmt}
  (fit : script.SectionsFit before main after)

include handler fit

theorem exists_opening :
    Exists fun other => before.Alike other ∧ Block 1 script.opening (script.openingStmt other) := by
  have counter := Block.own script.own_counterOwn (by decide)
  have code := fit.before
  rw [beforeCode] at code
  have opening_eq : script.opening =
      script.sectionBody .before "# 'before' code" "print('--before')" script.before ++
        script.counterOwn := by
    rw [opening, counterOwn, depth_eq_one handler]
  rw [opening_eq, sectionBody.eq_def, depth_eq_one handler]
  simp only [openingStmt]
  cases present : script.before with
  | none => exact ⟨before, .refl before, counter⟩
  | some text =>
      rw [present] at code
      rcases Block.exists_section code .before 1 with ⟨other, alike, block⟩
      have whole := (Block.own script.own_beforeOwn (by decide)).append (block.append counter)
      rw [← List.append_assoc] at whole
      exact ⟨other, alike, whole⟩

omit handler in
theorem exists_turn (collect : script.collect = false) :
    Exists fun other => main.Alike other ∧ Block 2 script.inside (script.turnStmt other) := by
  have own := Block.own script.own_lineOwn (by decide)
  have code := fit.main
  rw [mainDepth, collect, mainCode] at code
  rw [inside]
  cases present : script.after with
  | none =>
      rw [present] at code
      rcases Block.exists_stripped code .main 1 with ⟨other, alike, block⟩
      exact ⟨other, alike, own.append block⟩
  | some text =>
      rw [present] at code
      rcases Block.exists_section code .main 0 with ⟨other, alike, block⟩
      exact ⟨other, alike, own.append block⟩

omit handler in
theorem exists_closing :
    Exists fun other => after.Alike other ∧ Block 1 script.behind (script.closingStmt other) := by
  have code := fit.after
  rw [afterCode] at code
  rw [behind]
  simp only [closingStmt]
  cases present : script.after with
  | none => exact ⟨after, .refl after, List.forall_mem_nil _, .empty (by decide)⟩
  | some text =>
      rw [present] at code
      rcases Block.exists_stripped code .after 2 with ⟨other, alike, block⟩
      exact ⟨other, alike, (Block.own script.own_afterOwn (by decide)).append block⟩

omit handler in
theorem exists_collected (collect : script.collect = true) (alone : script.after = none) :
    Exists fun other => main.Alike other ∧
      Block 1 script.collected ((ownStmt script.collectOwn).followedBy other) := by
  have code := fit.main
  rw [mainDepth, collect, mainCode, alone] at code
  rcases Block.exists_stripped code .main 1 with ⟨other, alike, block⟩
  exact ⟨other, alike, (Block.own script.own_collectOwn (by decide)).append block⟩

end Sections

/-! ## Reading the text -/

theorem divided_define : Divided [defineFragment] [defineLine] :=
  ⟨by decide, by decide, scanned_defineLine⟩

theorem divided_loop : Divided [.frame 1 "for _ in stdin:"] [loopLine] :=
  ⟨by decide, by decide, scanned_loopLine⟩

/-- The text of the function says what its lines say. -/
theorem Divided.ofText_eq_ok_iff {fragments : List Fragment} {lines : List Line}
    (divided : Divided fragments lines) {program : Stmt} :
    Stmt.ofText (textOf ([defineFragment] ++ fragments)) = .ok program ↔
      Parsed .block [.zero] (Outline.ofLines (defineLine :: lines)) program ∧
        program.height ≤ Stmt.heightLimit ∧ program.admissible = true := by
  have whole := divided_define.append divided
  have plain := contains_textOf (by decide) (by decide) whole.plain
  have found := whole.scanned.lines_ofText
  rw [Stmt.ofText_eq_ok_iff, normalizeNewlines_textOf whole.pairs, found]
  exact ⟨fun read => read.2, fun read => ⟨plain, read⟩⟩

section Whole

variable {script : Script} (handler : script.handler = none) {before main after : Stmt}
  (fit : script.SectionsFit before main after)

include handler fit

/-- A function that loops over its input, if the loop has something in it. -/
theorem exists_ofText_loop (collect : script.collect = false) (filled : linesAt 2 script.inside ≠ []) :
    Exists fun sections : Stmt × Stmt × Stmt =>
      (before.Alike sections.1 ∧ main.Alike sections.2.1 ∧ after.Alike sections.2.2) ∧
        Stmt.ofText script.text =
          .ok (definition (script.assembled sections.1 sections.2.1 sections.2.2)) := by
  rcases exists_opening handler fit with ⟨before', beforeAlike, opening⟩
  rcases exists_turn fit collect with ⟨main', mainAlike, turn⟩
  rcases exists_closing fit with ⟨after', afterAlike, closing⟩
  have divided := (divided_linesAt opening.fits).append
    (divided_loop.append ((divided_linesAt turn.fits).append (divided_linesAt closing.fits)))
  have standing := opening.standing.append ((turn.standing.loop filled).append closing.standing)
  rw [List.append_assoc] at standing
  refine ⟨(before', main', after'), ⟨beforeAlike, mainAlike, afterAlike⟩, ?_⟩
  rw [text_eq_loop handler collect, divided.ofText_eq_ok_iff, assembled, collect]
  exact standing.define (List.append_ne_nil_of_right_ne_nil _ (List.cons_ne_nil _ _))

/-- A function that runs its code once. -/
theorem exists_ofText_collect (collect : script.collect = true) (alone : script.after = none) :
    Exists fun other => main.Alike other ∧
      Stmt.ofText script.text = .ok (definition (script.assembled before other after)) := by
  rcases exists_collected fit collect alone with ⟨main', mainAlike, collected⟩
  refine ⟨main', mainAlike, ?_⟩
  rw [text_eq_collect handler collect, (divided_linesAt collected.fits).ofText_eq_ok_iff, assembled,
    collect]
  apply collected.standing.define
  have first : Exists fun rest => linesAt 1 script.collected =
      fittedLines 1 (Text.normalizeNewlines script.collectLine.toList) ++ rest := ⟨_, rfl⟩
  rcases first with ⟨rest, first⟩
  rw [first]
  apply List.append_ne_nil_of_left_ne_nil
  exact mt script.own_collectLine.1.fittedLines_eq_nil_iff.mp script.collectLine_ne_pass

end Whole

end Script
end Oneliner
