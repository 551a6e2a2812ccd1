import Oneliner.Proofs.Script.Assembly
import Oneliner.Session.Basic

namespace Oneliner
namespace Script

/-!
Whether the text of the function can be read.

The function always has something in it.  The loop lacks it in one case only, and then
the text cannot be read.
-/

open Program

/-! ## What the loop has in it -/

theorem linesAt_lineOwn_eq_nil_iff (script : Script) :
    linesAt 2 script.lineOwn = [] ↔ script.trim = false ∧ script.debug = false := by
  rw [lineOwn]
  cases script.trim <;> cases script.convert <;> cases script.debug <;> decide +kernel

/-- The loop has nothing in it only if nothing is done with a line, nothing is shown,
and the main code is without statements. -/
theorem linesAt_inside_eq_nil_iff {script : Script} {before main after : Stmt}
    (fit : script.SectionsFit before main after) (collect : script.collect = false) :
    linesAt 2 script.inside = [] ↔ script.trim = false ∧ script.debug = false ∧ main = .pass := by
  have lines : linesAt 2 script.inside =
      linesAt 2 script.lineOwn ++ fittedLines 2 script.mainCode.normalizeNewlines := by
    rw [inside, linesAt_append, mainCode]
    cases script.after with
    | none => exact congrArg (_ ++ ·) (linesAt_stripped 2 _)
    | some => exact congrArg (_ ++ ·) (linesAt_singleton 2 _)
  have code : Program.Fits 2 script.mainCode main := by
    have code := fit.main
    rw [mainDepth, collect] at code
    exact code
  rw [lines, List.append_eq_nil_iff, linesAt_lineOwn_eq_nil_iff, code.fittedLines_eq_nil_iff, and_assoc]

/-- A loop with nothing in it cannot be read. -/
theorem not_parsed_empty_loop {front back : List Line} {statement program : Stmt}
    (wide : forall line, line ∈ front -> (columnAt 1).width ≤ line.column.width)
    (standing : Standing 1 back statement) :
    ¬ Parsed .block [.zero] (Outline.ofLines (defineLine :: (front ++ ([loopLine] ++ back)))) program := by
  intro parsed
  have returns : forall next, next ∈ back.head? -> next.column.width ≤ loopLine.column.width := by
    intro next first
    cases back with
    | nil => cases first
    | cons line rest =>
        cases first
        have column : next.column = columnAt 1 := standing.parsed.first.2
        rw [column]
        exact Nat.le_refl _
  have loop : Outline.ofLines ([loopLine] ++ back) = .line loopLine .empty (Outline.ofLines back) :=
    @Outline.ofLines_cons_append loopLine [] back nofun returns
  have inside : Outline.ofLines (front ++ ([loopLine] ++ back)) =
      (Outline.ofLines front).append (.line loopLine .empty (Outline.ofLines back)) := by
    rw [← loop]
    apply Outline.ofLines_append
    rintro _ ⟨⟩ line member
    exact wide line member
  have whole : Outline.ofLines (defineLine :: (front ++ ([loopLine] ++ back))) =
      .line defineLine (Outline.ofLines (front ++ ([loopLine] ++ back))) .empty := by
    have deeper : ∀ line ∈ front ++ ([loopLine] ++ back),
        defineLine.column.width < line.column.width := by
      rw [List.forall_mem_append, List.forall_mem_append]
      exact ⟨fun line member => Nat.lt_of_lt_of_le (by decide) (wide line member),
        List.forall_mem_singleton.mpr (by decide),
        fun line member => Nat.lt_of_lt_of_le (by decide) (standing.wide line member)⟩
    have outline := @Outline.ofLines_cons_append defineLine _ [] deeper nofun
    rwa [List.append_nil] at outline
  rw [whole] at parsed
  rcases exists_parsed_define parsed with ⟨_, _, _, suite, _⟩
  rcases exists_parsed_block suite with ⟨column, block⟩
  rw [inside] at block
  rcases Parsed.exists_append _ (elseOf?_loopLine _) block with ⟨_, _, _, loopParsed, _⟩
  generalize Outline.ofLines back = later at loopParsed
  cases loopParsed with
  | simple _ head | define _ head =>
      rw [headOf_loopLine] at head
      cases head
  | alone _ found branching suite | branches _ found branching suite =>
      rw [headOf_loopLine] at found
      cases found
      cases branching
      cases suite

section Whole

variable {script : Script} (handler : script.handler = none) {before main after : Stmt}
  (fit : script.SectionsFit before main after)

include handler fit

/-- A function that loops over its input can be read if the loop has something in it. -/
theorem isOk_ofText_loop_iff (collect : script.collect = false) :
    (Stmt.ofText script.text).isOk = true ↔ linesAt 2 script.inside ≠ [] := by
  constructor
  · intro read empty
    rcases exists_opening handler fit with ⟨_, _, opening⟩
    rcases exists_turn fit collect with ⟨_, _, turn⟩
    rcases exists_closing fit with ⟨_, _, closing⟩
    have divided := (divided_linesAt opening.fits).append
      (divided_loop.append ((divided_linesAt turn.fits).append (divided_linesAt closing.fits)))
    rw [← Stmt.ofText_eq_ofTextD_iff, text_eq_loop handler collect, divided.ofText_eq_ok_iff,
      empty] at read
    exact not_parsed_empty_loop opening.standing.wide closing.standing read.1
  · intro filled
    rcases exists_ofText_loop handler fit collect filled with ⟨_, _, read⟩
    rw [read]
    rfl

/-- The text cannot be read in one case only: the code runs on each line, nothing is
done with a line or shown, and the main code is without statements. -/
theorem isOk_ofText_text_iff (alone : script.collect = true -> script.after = none) :
    (Stmt.ofText script.text).isOk = true ↔
      ¬(script.collect = false ∧ script.trim = false ∧ script.debug = false ∧ main = .pass) := by
  cases collect : script.collect with
  | false =>
      rw [isOk_ofText_loop_iff handler fit collect, Ne, linesAt_inside_eq_nil_iff fit collect]
      simp only [true_and]
  | true =>
      rcases exists_ofText_collect handler fit collect (alone collect) with ⟨_, _, read⟩
      rw [read]
      exact iff_of_true rfl fun idle => Bool.noConfusion idle.1

end Whole

/-! ## The script of a command line -/

theorem present_eq_none_iff {code : Option Text} :
    present code = none ↔ code.any (!·.isEmpty) = false := by
  cases code <;> simp [present]

/-- Of the command lines without a handler that agree with themselves, only one that
leaves its loop with nothing in it gives a text that cannot be read. -/
theorem isOk_ofText_ofOptions_iff {options : Command.Options} {before main after : Stmt}
    (handler : present options.handler = none) (agrees : options.conflicting = false)
    (fit : (ofOptions options).SectionsFit before main after) :
    (Stmt.ofText (ofOptions options).text).isOk = true ↔
      ¬(options.collect = false ∧ options.trim = false ∧ options.debug = false ∧ main = .pass) := by
  have unhandled : (ofOptions options).handler = none := by
    rw [ofOptions, ofExpanded, handler]
    rfl
  apply isOk_ofText_text_iff unhandled fit
  intro collect
  have collect : options.collect = true := collect
  have absent : present options.after = none := by
    rw [Command.Options.conflicting, collect, Bool.true_and, Bool.or_eq_false_iff] at agrees
    exact present_eq_none_iff.mpr agrees.2
  rw [ofOptions, ofExpanded, absent]
  rfl

/-- Sections with literals and brackets over several lines, with tabs and with a
comment out of line. -/
def spreadOptions : Command.Options :=
  { Command.Options.default with
    before := some "x = '''a\n b'''".toList
    after := some "out(f'''\x7bx\n\x7d''')".toList
    trim := false
    code := ["if _ == 1:\n\tout(_) # c\n  # d\n\tout(str(\n2))".toList] }

/-- Nothing but a comment, and nothing done with a line. -/
def idleOptions : Command.Options :=
  { Command.Options.default with trim := false, code := ["# later".toList] }

/-- What the sections of a script say alone. -/
def SectionsFitAlone (options : Command.Options) : Prop :=
  (ofOptions options).SectionsFit (.ofTextD (ofOptions options).beforeCode)
    (.ofTextD (ofOptions options).mainCode) (.ofTextD (ofOptions options).afterCode)

theorem isOk_ofText_spread_not_idle :
    (SectionsFitAlone spreadOptions ∧ SectionsFitAlone idleOptions) ∧
      (Stmt.ofText (ofOptions spreadOptions).text).isOk = true ∧
      (Stmt.ofText (ofOptions idleOptions).text).isOk = false := by
  have checked : (SectionsFitAlone spreadOptions ∧ SectionsFitAlone idleOptions) ∧
      Stmt.ofTextD (ofOptions idleOptions).mainCode = .pass := by
    unfold SectionsFitAlone
    decide +kernel
  rcases checked with ⟨⟨spread, idle⟩, nothing⟩
  refine ⟨⟨spread, idle⟩, ?_, ?_⟩
  · apply (isOk_ofText_ofOptions_iff (by decide) (by decide) spread).mpr
    decide +kernel
  · rw [Bool.eq_false_iff, Ne, isOk_ofText_ofOptions_iff (by decide) (by decide) idle]
    exact not_not_intro ⟨rfl, rfl, rfl, nothing⟩

/-- A carriage return ends a line of code, but no blanks are put behind it: here the
second statement of the main code stands outside of the function. -/
def returningOptions : Command.Options :=
  { Command.Options.default with
    after := some "pass".toList
    code := ["pass\rpass".toList] }

/-- Sections that can be read alone do not always give a text that can be read. -/
theorem isOk_sections_not_text :
    returningOptions.conflicting = false ∧ returningOptions.trim = true ∧
      (Stmt.ofText (ofOptions returningOptions).main).isOk = true ∧
      (ofOptions returningOptions).after.all (fun code => (Stmt.ofText code).isOk) = true ∧
      (ofOptions returningOptions).before = none ∧ (ofOptions returningOptions).handler = none ∧
      (Stmt.ofText (ofOptions returningOptions).text).isOk = false := by
  decide +kernel

end Script
end Oneliner
