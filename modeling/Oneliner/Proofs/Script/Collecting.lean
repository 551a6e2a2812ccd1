import Oneliner.Proofs.Script.Reading

namespace Oneliner
namespace Script

/-!
The function of a script that runs its code once, on the list of all lines.

Its text is read in the same way as that of a loop: one statement makes the list,
and the code follows it.
-/

open Program

/-! ## Fragments -/

/-- A script that runs its main code on the list of all lines, and nothing else. -/
structure Collects (script : Script) : Prop where
  collect : script.collect = true
  debug : script.debug = false
  handler : script.handler = none

/-- The fragments in front of the main code. -/
def collectHead (script : Script) : List Fragment :=
  [defineFragment, .frame 1 script.collectLine, .frame 1 "# 'pype' code"]

/-- The fragments of the whole text, whose code is stripped. -/
def collectFragments (script : Script) : List Fragment :=
  script.collectHead ++ Fragment.stripped ⟨.main, 1, script.main, 1⟩

theorem Collects.fragments_eq {script : Script} (collects : script.Collects) :
    script.fragments = script.collectHead ++ [⟨.main, 1, script.main, 1⟩] := by
  have depth : script.depth = 1 := by rw [Script.depth, collects.handler]; rfl
  simp [fragments, collectBody, collectTrace, handlerBody, depth, collects.collect, collects.debug,
    collects.handler, collectHead, defineFragment]

theorem Collects.text_eq {script : Script} (collects : script.Collects) :
    script.text = textOf script.collectFragments := by
  have heading : (Fragment.frame 1 "# 'pype' code").text =
      "    # 'pype' cod".toList ++ ['e', '\n'] := rfl
  have ending := textOf_ending [defineFragment, .frame 1 script.collectLine] heading
  have begins : (textOf (script.collectHead ++ [⟨.main, 1, script.main, 1⟩])).trimLeft =
      textOf (script.collectHead ++ [⟨.main, 1, script.main, 1⟩]) := trimLeft_textOf _
  rw [text, ← textOf, collects.fragments_eq, Text.trim, begins]
  exact trimRight_textOf ending (by decide)

/-! ## The statement that makes the list -/

/-- All lines of the input. -/
def linesExpr : Expr :=
  .call (.member (.member (.name "sys".toList) "stdin".toList) "readlines".toList) []

/-- A line without its newline. -/
def trimmedExpr : Expr :=
  .call (.member (.name ['a']) "rstrip".toList) [.constant (.str ['\n'])]

/-- What becomes of a line that is trimmed. -/
def itemExpr (script : Script) : Expr :=
  if script.convert then .call (.name "__try_convert_str_to_number__".toList) [trimmedExpr]
  else trimmedExpr

/-- The list of all lines. -/
def collectExpr (script : Script) : Expr :=
  if script.trim then .comprehension script.itemExpr ['a'] linesExpr else linesExpr

def collectStmt (script : Script) : Stmt :=
  .assign [['_']] script.collectExpr

def linesTokens : List Token :=
  [.name "sys".toList, .symbol .dot, .name "stdin".toList, .symbol .dot, .name "readlines".toList,
    .symbol .openParen, .symbol .closeParen]

def trimmedTokens : List Token :=
  [.name ['a'], .symbol .dot, .name "rstrip".toList, .symbol .openParen,
    .literal .plain "\\n".toList, .symbol .closeParen]

def itemTokens (script : Script) : List Token :=
  if script.convert then
    [.name "__try_convert_str_to_number__".toList, .symbol .openParen] ++ trimmedTokens ++
      [.symbol .closeParen]
  else trimmedTokens

def collectTokens (script : Script) : List Token :=
  if script.trim then
    [.symbol .openSquare] ++ script.itemTokens ++
      [.keyword .loop, .name ['a'], .keyword .within] ++ linesTokens ++ [.symbol .closeSquare]
  else linesTokens

/-- The line that makes the list. -/
def listLine (script : Script) : Line :=
  ⟨⟨4, 4⟩, [.name ['_'], .symbol .assign] ++ script.collectTokens⟩

theorem headOf_listLine (script : Script) :
    Head.ofTokens script.listLine.tokens = some (.simple script.collectStmt) := by
  rw [listLine, collectTokens, itemTokens, collectStmt, collectExpr, itemExpr]
  cases script.trim <;> cases script.convert <;> rfl

/-- The line alone.  Its three forms are read in one go. -/
theorem readsAs_collectLine (script : Script) :
    ReadsAs script.collectLine.toList [{ script.listLine with column := .zero }] := by
  rw [collectLine, listLine, collectTokens, itemTokens, apply_ite String.toList,
    apply_ite String.toList]
  iterate 3 rw [String.toList_ofList]
  generalize script.trim = trim
  generalize script.convert = convert
  revert trim convert
  decide +kernel

/-- There is no null character and no carriage return in the function's own lines. -/
theorem not_mem_collectHead (script : Script) : ∀ text ∈ ["def pype(stdin):".toList,
    script.collectLine.toList, "# 'pype' code".toList], '\x00' ∉ text ∧ '\r' ∉ text := by
  rw [collectLine, apply_ite String.toList, apply_ite String.toList]
  iterate 5 rw [String.toList_ofList]
  generalize script.trim = trim
  generalize script.convert = convert
  revert trim convert
  decide +kernel

theorem not_mem_collectLine (script : Script) :
    '\x00' ∉ script.collectLine.toList ∧ '\r' ∉ script.collectLine.toList :=
  script.not_mem_collectHead _ (List.mem_cons_of_mem _ List.mem_cons_self)

theorem scanned_listLine (script : Script) :
    Scanned [(Fragment.frame 1 script.collectLine).normalized] [script.listLine] := by
  have normal : (Fragment.frame 1 script.collectLine).normalized = .frame 1 script.collectLine :=
    congrArg (Fragment.mk _ _ · _) (Text.normalizeNewlines_of_not_mem script.not_mem_collectLine.2)
  rw [normal]
  exact scanned_frame script.readsAs_collectLine 0

/-! ## The whole function -/

/-- What holds of the function's own lines and of the code holds of each fragment. -/
theorem forall_collectFragments {script : Script} {property : Text -> Prop}
    (frame : ∀ text ∈ ["def pype(stdin):".toList, script.collectLine.toList, "# 'pype' code".toList],
      property text) (main : property script.main.trimRight) :
    ∀ fragment ∈ script.collectFragments, property fragment.body := by
  intro fragment member
  rcases List.mem_append.mp member with head | code
  · exact frame _ (List.mem_map_of_mem head)
  · rw [Fragment.stripped] at code
    split at code
    · cases code
    · rw [List.mem_singleton.mp code]
      exact main

section Code

variable {script : Script} {main : Stmt} (placed : Placed 1 script.main.trimRight main)

include placed

theorem scanned_collectFragments :
    Scanned (script.collectFragments.map Fragment.normalized)
      (defineLine :: ([script.listLine] ++
        placedLines 1 script.main.trimRight.normalizeNewlines)) := by
  have head := scanned_defineLine.append ((scanned_listLine script).append (scanned_mainHeading 1))
  have whole := head.append (scanned_stripped placed .main 1)
  rw [collectFragments, List.map_append]
  exact whole

theorem parsed_collect :
    Parsed .block [columnAt 1, .zero]
      (Outline.ofLines ([script.listLine] ++
        placedLines 1 script.main.trimRight.normalizeNewlines)) (.seq script.collectStmt main) :=
  parsed_push rfl rfl script.headOf_listLine (placed.parsed_placedLines rfl)

theorem width_le_of_collect {line : Line}
    (member : line ∈ [script.listLine] ++ placedLines 1 script.main.trimRight.normalizeNewlines) :
    (columnAt 1).width ≤ line.column.width := by
  rcases List.mem_append.mp member with list | inside
  · rw [List.mem_singleton.mp list]
    exact Nat.le_refl _
  · exact placed.width_le inside

theorem height_collect :
    (Stmt.seq script.collectStmt main).height + 1 ≤ Stmt.heightLimit := by
  have list : script.collectStmt.height ≤ 7 := by
    rw [collectStmt, collectExpr, itemExpr]
    cases script.trim <;> cases script.convert <;> decide
  have code := placed.height
  rw [Stmt.height]
  rw [Stmt.heightLimit] at code ⊢
  omega

theorem admissible_collect :
    (Stmt.seq (.define "pype".toList "stdin".toList (.seq script.collectStmt main)) .pass).admissible =
      true := by
  have code := placed.admissible
  have list : Stmt.fixedName ∉ script.collectStmt.bound := by
    rw [collectStmt, collectExpr, itemExpr]
    cases script.trim <;> cases script.convert <;> decide
  rw [Stmt.admissible, Bool.and_eq_true, Bool.not_eq_true', List.contains_eq_mem,
    decide_eq_false_iff_not] at code ⊢
  constructor
  · simp only [Stmt.bound, List.append_nil, List.mem_cons, List.mem_append, not_or]
    exact ⟨by decide, by decide, list, code.1⟩
  · simp only [Stmt.loopsWithin, collectStmt, Bool.and_true, Bool.true_and]
    exact code.2

/-- The text says that the list is made and then the code is run. -/
theorem Collects.ofText_text (collects : script.Collects) :
    Stmt.ofText script.text =
      .ok (.seq (.define "pype".toList "stdin".toList (.seq script.collectStmt main)) .pass) := by
  have plain : script.text.contains '\x00' = false := by
    rw [collects.text_eq]
    refine contains_textOf (by decide) (by decide)
      (@forall_collectFragments script (·.contains '\x00' = false) ?_ placed.contains_null)
    intro text member
    rw [List.contains_eq_mem, decide_eq_false_iff_not]
    exact (script.not_mem_collectHead text member).1
  have pairs : ∀ fragment ∈ script.collectFragments, fragment.body.paired = true := by
    refine @forall_collectFragments script (·.paired = true) ?_ placed.paired
    exact fun text member =>
      Text.paired_of_not_mem (script.not_mem_collectHead text member).2
  have lines := (scanned_collectFragments placed).lines_ofText
  have height := height_collect placed
  refine Stmt.ofText_eq_ok_iff.mpr ⟨plain, ?_, ?_, admissible_collect placed⟩
  · rw [collects.text_eq, normalizeNewlines_textOf pairs, lines]
    exact parsed_define (List.cons_ne_nil _ _) (fun _ => width_le_of_collect placed)
      (parsed_collect placed)
  · rw [Stmt.height, Stmt.height, Stmt.height]
    exact Nat.max_le.mpr ⟨height, Nat.le_of_add_left_le height⟩

end Code

end Script
end Oneliner
