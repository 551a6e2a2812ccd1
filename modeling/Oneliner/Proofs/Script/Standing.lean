import Oneliner.Proofs.Program.Seating
import Oneliner.Proofs.Script.Collecting
import Oneliner.Proofs.Script.Containment

namespace Oneliner
namespace Script

/-!
Blocks of the function.

The function's own lines are programs that fit at their depth, and so is each section
of code.  Fragments that fit at one depth are a block there.  Around them stand the
head of the loop and the head of the function, both of which need something under
them.
-/

open Program

/-! ## Lines in a block of the function -/

/-- The columns of the blocks that are open at a depth, the innermost first. -/
def openAt : Nat -> List Column
  | 0 => [.zero]
  | depth + 1 => columnAt (depth + 1) :: openAt depth

theorem length_openAt (depth : Nat) : (openAt depth).length = depth + 1 := by
  induction depth with
  | zero => rfl
  | succ depth shallower => rw [openAt, List.length_cons, shallower]

theorem headD_openAt (depth : Nat) : (openAt depth).headD .zero = columnAt depth := by
  cases depth <;> rfl

/-- The definition of the function with a given body. -/
def definition (body : Stmt) : Stmt :=
  .seq (.define "pype".toList "stdin".toList body) .pass

/-- Lines that can stand in a block at a depth, within the limits. -/
structure Standing (depth : Nat) (lines : List Line) (statement : Stmt) : Prop where
  parsed : Parsed .block (openAt depth) (Outline.ofLines lines) statement
  wide : forall line, line ∈ lines -> (columnAt depth).width ≤ line.column.width
  height : statement.height + depth ≤ Stmt.heightLimit
  free : Stmt.fixedName ∉ statement.bound
  loops : statement.loopsWithin (depth - 1) = true

namespace Standing

variable {depth : Nat} {lines later : List Line} {statement statement' : Stmt}

theorem append (standing : Standing depth lines statement) (standing' : Standing depth later statement') :
    Standing depth (lines ++ later) (statement.followedBy statement') where
  parsed := by
    refine standing.parsed.ofLines_append standing'.parsed fun line member => ?_
    rw [headD_openAt]
    exact standing.wide line member
  wide := by
    intro line member
    exact (List.mem_append.mp member).elim (standing.wide line) (standing'.wide line)
  height := by
    have height := standing.height
    have height' := standing'.height
    rw [Stmt.height_followedBy]
    omega
  free := by
    rw [Stmt.bound_followedBy, List.mem_append, not_or]
    exact ⟨standing.free, standing'.free⟩
  loops := by
    rw [Stmt.loopsWithin_followedBy, standing.loops, standing'.loops]
    rfl

theorem empty (room : depth < Stmt.heightLimit) : Standing depth [] .pass :=
  ⟨.empty, nofun, Nat.add_comm 1 depth ▸ room, List.not_mem_nil, rfl⟩

/-- A program that fits stands in a block, as one of the same shape. -/
theorem exists_fitted {code : Text} (fits : Fits (depth + 1) code statement) :
    Exists fun other => statement.Alike other ∧
      Standing (depth + 1) (fittedLines (depth + 1) code.normalizeNewlines) other := by
  rcases fits.exists_parsed (length_openAt depth) with ⟨other, parsed, alike⟩
  refine ⟨other, alike, parsed, fun _ => fits.width_le, ?_, ?_, ?_⟩
  · rw [alike.height]
    exact fits.height
  · rw [alike.bound]
    exact fits.fixedName_not_mem
  · rw [alike.loops]
    exact fits.loops

/-- One without literals over several lines stands there as it is. -/
theorem fitted {code : Text} (fits : Fits (depth + 1) code statement) (plain : Plain (depth + 1) code) :
    Standing (depth + 1) (fittedLines (depth + 1) code.normalizeNewlines) statement where
  parsed := fits.parsed_plain plain (length_openAt depth)
  wide := fun _ => fits.width_le
  height := fits.height
  free := fits.fixedName_not_mem
  loops := fits.loops

/-- The loop, with something inside it. -/
theorem loop (standing : Standing 2 lines statement) (filled : lines ≠ []) :
    Standing 1 ([loopLine] ++ lines)
      (.seq (.seq (.loop ['_'] (.name "stdin".toList) statement) .pass) .pass) where
  parsed := by
    have deeper : forall line, line ∈ lines -> loopLine.column.width < line.column.width :=
      fun line member => Nat.lt_of_lt_of_le (by decide) (standing.wide line member)
    have outline := @Outline.ofLines_cons_append loopLine lines [] deeper nofun
    have suite : Parsed (.suite loopLine none) (openAt 1) _ statement :=
      standing.parsed.suite_ofLines filled (by decide) (by decide)
    have column : Outline.checkColumn (columnAt 1) loopLine = .ok () :=
      Outline.checkColumn_eq_ok_iff.mpr ⟨rfl, rfl⟩
    have branching : (Head.loop ['_'] (.name "stdin".toList) none).branching? =
        some (none, fun body other => .seq (.loop ['_'] (.name "stdin".toList) body) other) := rfl
    have parsed := @Parsed.alone (openAt 1) _ _ .empty _ _ _ _ _ column headOf_loopLine branching
      suite nofun .empty
    rw [List.append_nil] at outline
    rw [List.singleton_append, outline]
    exact parsed
  wide := by
    intro line member
    rcases List.mem_append.mp member with head | inside
    · rw [List.mem_singleton.mp head]
      exact Nat.le_refl _
    · exact Nat.le_trans (by decide) (standing.wide line inside)
  height := by
    have height := standing.height
    simp only [Stmt.height, Expr.height, Stmt.heightLimit] at height ⊢
    omega
  free := by
    simp only [Stmt.bound, Expr.running, List.append_nil, List.cons_append, List.nil_append,
      List.mem_cons, not_or]
    exact ⟨by decide, standing.free⟩
  loops := by
    simp only [Stmt.loopsWithin, Bool.and_true, Bool.and_eq_true]
    exact ⟨by decide, standing.loops⟩

/-- The function, with something inside it. -/
theorem define (standing : Standing 1 lines statement) (filled : lines ≠ []) :
    Parsed .block [.zero] (Outline.ofLines (defineLine :: lines)) (definition statement) ∧
      (definition statement).height ≤ Stmt.heightLimit ∧ (definition statement).admissible = true := by
  refine ⟨parsed_define filled standing.wide standing.parsed, ?_, ?_⟩
  · have height := standing.height
    simp only [definition, Stmt.height, Stmt.heightLimit] at height ⊢
    omega
  · rw [Stmt.admissible, Bool.and_eq_true, Bool.not_eq_true', List.contains_eq_mem,
      decide_eq_false_iff_not]
    constructor
    · simp only [definition, Stmt.bound, List.append_nil, List.mem_cons, not_or]
      exact ⟨by decide, by decide, standing.free⟩
    · simp only [definition, Stmt.loopsWithin, Bool.and_true]
      exact standing.loops

end Standing

/-! ## Fragments in a block of the function -/

/-- A fragment whose text fits at its depth. -/
structure Fragment.Fits (depth : Nat) (fragment : Fragment) : Prop where
  level : fragment.depth = depth
  ended : 0 < fragment.newlines
  code : Exists (Program.Fits depth fragment.body)

/-- The lines of fragments that fit at a depth. -/
def linesAt (depth : Nat) (fragments : List Fragment) : List Line :=
  fragments.flatMap fun fragment => fittedLines depth fragment.body.normalizeNewlines

theorem linesAt_append (depth : Nat) (front back : List Fragment) :
    linesAt depth (front ++ back) = linesAt depth front ++ linesAt depth back :=
  List.flatMap_append

theorem linesAt_singleton (depth : Nat) (fragment : Fragment) :
    linesAt depth [fragment] = fittedLines depth fragment.body.normalizeNewlines :=
  List.append_nil _

theorem linesAt_stripped (depth : Nat) (fragment : Fragment) :
    linesAt depth fragment.stripped = fittedLines depth fragment.body.trimRight.normalizeNewlines := by
  rw [Fragment.stripped]
  split
  · rename_i empty
    rw [empty]
    rfl
  · exact linesAt_singleton depth _

/-- Fragments that can be divided into lines one by one. -/
structure Divided (fragments : List Fragment) (lines : List Line) : Prop where
  pairs : ∀ fragment ∈ fragments, fragment.body.paired = true
  plain : ∀ fragment ∈ fragments, fragment.body.contains '\x00' = false
  scanned : Scanned (fragments.map Fragment.normalized) lines

theorem Divided.append {front back : List Fragment} {lines later : List Line}
    (divided : Divided front lines) (divided' : Divided back later) :
    Divided (front ++ back) (lines ++ later) where
  pairs := List.forall_mem_append.mpr ⟨divided.pairs, divided'.pairs⟩
  plain := List.forall_mem_append.mpr ⟨divided.plain, divided'.plain⟩
  scanned := by
    rw [List.map_append]
    exact divided.scanned.append divided'.scanned

section Fits

variable {depth : Nat} {fragments : List Fragment}

theorem Fragment.Fits.divided {fragment : Fragment} (fits : fragment.Fits depth) :
    Divided [fragment] (fittedLines depth fragment.body.normalizeNewlines) := by
  rcases fits.code with ⟨statement, code⟩
  refine ⟨List.forall_mem_singleton.mpr code.paired, List.forall_mem_singleton.mpr code.contains_null,
    scanned_of_run fits.ended fun scanner ready => ?_⟩
  rw [Fragment.normalized, fits.level]
  exact code.scan ready

theorem divided_linesAt (fits : ∀ fragment ∈ fragments, fragment.Fits depth) :
    Divided fragments (linesAt depth fragments) := by
  induction fragments with
  | nil => exact ⟨nofun, nofun, scanned_nil⟩
  | cons first rest restDivided =>
      rw [List.forall_mem_cons] at fits
      exact fits.1.divided.append (restDivided fits.2)

end Fits

/-! ## The function's own lines -/

/-- A fragment that says the same at its depth as alone. -/
structure Fragment.Own (depth : Nat) (fragment : Fragment) : Prop where
  level : fragment.depth = depth
  ended : 0 < fragment.newlines
  fits : Program.Fits depth fragment.body (.ofTextD fragment.body)
  plain : Program.Plain depth fragment.body

/-- What fragments say one behind the other. -/
def ownStmt (fragments : List Fragment) : Stmt :=
  fragments.foldr (fun fragment rest => (Stmt.ofTextD fragment.body).followedBy rest) .pass

theorem Fragment.Own.of_line {depth : Nat} {line : String}
    (own : Program.Fits depth line.toList (.ofTextD line.toList) ∧ Program.Plain depth line.toList)
    (origin : Origin) (newlines : Nat) : Fragment.Own depth ⟨origin, depth, line.toList, newlines + 1⟩ :=
  ⟨rfl, Nat.succ_pos newlines, own.1, own.2⟩

theorem Fragment.Own.toFits {depth : Nat} {fragment : Fragment} (own : fragment.Own depth) :
    fragment.Fits depth :=
  ⟨own.level, own.ended, _, own.fits⟩

theorem standing_own {depth : Nat} {fragments : List Fragment}
    (own : ∀ fragment ∈ fragments, fragment.Own (depth + 1)) (room : depth + 1 < Stmt.heightLimit) :
    Standing (depth + 1) (linesAt (depth + 1) fragments) (ownStmt fragments) := by
  induction fragments with
  | nil => exact .empty room
  | cons first rest restStanding =>
      rw [List.forall_mem_cons] at own
      exact (Standing.fitted own.1.fits own.1.plain).append (restStanding own.2)

/-- The function's own lines outside the loop. -/
theorem own_outside : ∀ line ∈ ["# 'before' code", "print('--before')", "__lineno__ = 1",
    "# 'after' code", "print('--after')", "# 'pype' code", "# debug mode - print input",
    "print('Input:')", "print(_)", "print('')"],
      Program.Fits 1 line.toList (.ofTextD line.toList) ∧ Program.Plain 1 line.toList := by
  simp only [List.forall_mem_cons]
  iterate 10 rw [String.toList_ofList]
  decide +kernel

/-- The function's own lines inside the loop. -/
theorem own_within : ∀ line ∈ ["_ = _.rstrip('\\n')", "_ = __try_convert_str_to_number__(_)",
    "print('== input line \x7b0\x7d'.format(__lineno__))", "print('\x7b0\x7d'.format(_))\n",
    "print('== output line \x7b0\x7d'.format(__lineno__))", "__lineno__ += 1\n", "# 'pype' code"],
      Program.Fits 2 line.toList (.ofTextD line.toList) ∧ Program.Plain 2 line.toList := by
  simp only [List.forall_mem_cons]
  iterate 7 rw [String.toList_ofList]
  decide +kernel

theorem own_collectLine (script : Script) :
    Program.Fits 1 script.collectLine.toList (.ofTextD script.collectLine.toList) ∧
      Program.Plain 1 script.collectLine.toList := by
  rw [collectLine, apply_ite String.toList, apply_ite String.toList]
  iterate 3 rw [String.toList_ofList]
  generalize script.trim = trim
  generalize script.convert = convert
  revert trim convert
  decide +kernel

/-- The lines above the section in front of the loop. -/
def beforeOwn (script : Script) : List Fragment :=
  .frame 1 "# 'before' code" :: if script.debug then [.trace 1 "print('--before')"] else []

/-- The line that starts counting. -/
def counterOwn (script : Script) : List Fragment :=
  if script.debug then [⟨.trace, 1, "__lineno__ = 1".toList, 2⟩] else []

/-- The lines above the main code inside the loop. -/
def lineOwn (script : Script) : List Fragment :=
  (if script.trim then [.frame 2 "_ = _.rstrip('\\n')"] else []) ++
    (if script.trim && script.convert then [.frame 2 "_ = __try_convert_str_to_number__(_)"] else []) ++
    (if script.debug then
      ["print('== input line \x7b0\x7d'.format(__lineno__))", "print('\x7b0\x7d'.format(_))\n",
       "print('== output line \x7b0\x7d'.format(__lineno__))", "__lineno__ += 1\n"].map (.trace 2)
    else []) ++
    [.frame 2 "# 'pype' code"]

/-- The lines above the section behind the loop. -/
def afterOwn (script : Script) : List Fragment :=
  .frame 1 "# 'after' code" :: if script.debug then [.trace 1 "print('--after')"] else []

/-- The lines above the main code in a function that runs it once. -/
def collectOwn (script : Script) : List Fragment :=
  .frame 1 script.collectLine ::
    (if script.debug then
      ["# debug mode - print input", "print('Input:')", "print(_)", "print('')"].map (.trace 1)
    else []) ++
    [.frame 1 "# 'pype' code"]

theorem own_beforeOwn (script : Script) : ∀ fragment ∈ script.beforeOwn, fragment.Own 1 := by
  have own := own_outside
  simp only [List.forall_mem_cons] at own
  rcases own with ⟨heading, announcement, _⟩
  rw [beforeOwn, List.forall_mem_cons]
  refine ⟨.of_line heading .frame 0, ?_⟩
  split
  · exact List.forall_mem_singleton.mpr (.of_line announcement .trace 0)
  · exact List.forall_mem_nil _

theorem own_counterOwn (script : Script) : ∀ fragment ∈ script.counterOwn, fragment.Own 1 := by
  have own := own_outside
  simp only [List.forall_mem_cons] at own
  rcases own with ⟨_, _, counter, _⟩
  rw [counterOwn]
  split
  · exact List.forall_mem_singleton.mpr (.of_line counter .trace 1)
  · exact List.forall_mem_nil _

theorem own_lineOwn (script : Script) : ∀ fragment ∈ script.lineOwn, fragment.Own 2 := by
  have own := own_within
  simp only [List.forall_mem_cons] at own
  rcases own with ⟨trim, convert, input, line, output, count, heading, _⟩
  rw [lineOwn]
  simp only [List.forall_mem_append]
  refine ⟨⟨⟨?_, ?_⟩, ?_⟩, List.forall_mem_singleton.mpr (.of_line heading .frame 0)⟩
  · split
    · exact List.forall_mem_singleton.mpr (.of_line trim .frame 0)
    · exact List.forall_mem_nil _
  · split
    · exact List.forall_mem_singleton.mpr (.of_line convert .frame 0)
    · exact List.forall_mem_nil _
  · split
    · simp only [List.map_cons, List.map_nil, List.forall_mem_cons]
      exact ⟨.of_line input .trace 0, .of_line line .trace 0, .of_line output .trace 0,
        .of_line count .trace 0, List.forall_mem_nil _⟩
    · exact List.forall_mem_nil _

theorem own_afterOwn (script : Script) : ∀ fragment ∈ script.afterOwn, fragment.Own 1 := by
  have own := own_outside
  simp only [List.forall_mem_cons] at own
  rcases own with ⟨_, _, _, heading, announcement, _⟩
  rw [afterOwn, List.forall_mem_cons]
  refine ⟨.of_line heading .frame 0, ?_⟩
  split
  · exact List.forall_mem_singleton.mpr (.of_line announcement .trace 0)
  · exact List.forall_mem_nil _

theorem own_collectOwn (script : Script) : ∀ fragment ∈ script.collectOwn, fragment.Own 1 := by
  have own := own_outside
  simp only [List.forall_mem_cons] at own
  rcases own with ⟨_, _, _, _, _, heading, comment, title, value, blank, _⟩
  rw [collectOwn]
  simp only [List.forall_mem_append, List.forall_mem_cons]
  refine ⟨⟨.of_line script.own_collectLine .frame 0, ?_⟩, .of_line heading .frame 0,
    List.forall_mem_nil _⟩
  split
  · simp only [List.map_cons, List.map_nil, List.forall_mem_cons]
    exact ⟨.of_line comment .trace 0, .of_line title .trace 0, .of_line value .trace 0,
      .of_line blank .trace 0, List.forall_mem_nil _⟩
  · exact List.forall_mem_nil _

end Script
end Oneliner
