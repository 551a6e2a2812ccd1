import Oneliner.Proofs.Program.Streaming
import Oneliner.Proofs.Script.Margins
import Oneliner.Proofs.Script.Reading

namespace Oneliner
namespace Script

/-!
Code that stays in its place.

Each section of code is put into a block of the function, some levels deep.  It stays
there if it leaves nothing open at its end and none of its lines goes back to the left of
the block.  Margins alone do not ensure that: a form feed sets the column back to zero,
and a carriage return begins a line without a margin.  If the code before the loop and the
main code stay in their places and do not mention the input, the loop is the last
statement of the function, and nothing but its head has to do with the input.
-/

open Program

/-! ## Lines of texts -/

/-- A text leaves nothing open and has the given lines. -/
structure Gives (text : Text) (lines : List Line) : Prop where
  ready : (text.foldl Scanner.read .start).Ready
  found : (text.foldl Scanner.read .start).lines = lines.reverse

namespace Gives

variable {front back text : Text} {lines later : List Line}

theorem append (gives : Gives front lines) (gives' : Gives back later) :
    Gives (front ++ back) (lines ++ later) := by
  rcases gives.ready.run back with ⟨ready, found⟩
  constructor
  · rw [List.foldl_append]
    exact ready gives'.ready
  · rw [List.foldl_append, found, gives'.found, gives.found, List.reverse_append]

theorem newlines (count : Nat) : Gives (List.replicate count '\n') [] := by
  induction count with
  | zero => exact ⟨Scanner.ready_start, rfl⟩
  | succ count rest =>
      have first : Scanner.start.read '\n' = .start := Scanner.ready_start.read_newline
      constructor
      · rw [List.replicate_succ, List.foldl_cons, first]
        exact rest.ready
      · rw [List.replicate_succ, List.foldl_cons, first]
        exact rest.found

theorem lines_ofText (gives : Gives text lines) : (Lines.ofText text).lines = lines := by
  rw [gives.ready.lines_ofText, gives.found, List.reverse_reverse]

end Gives

theorem Scanned.gives {fragments : List Fragment} {lines : List Line}
    (scanned : Scanned fragments lines) : Gives (textOf fragments) lines := by
  rcases scanned .start Scanner.ready_start with ⟨ready, found⟩
  exact ⟨ready, found.trans (List.append_nil _)⟩

/-! ## Code in its place -/

/-- A line that stands so deep, or deeper, and does not mention the input. -/
def LineInside (depth : Int) (line : Line) : Prop :=
  Text.indentWidth * depth.toNat ≤ line.column.width ∧
    line.usesOnly (.without inputMember) = true

/-- A text that leaves nothing open and whose lines all stand so deep. -/
def Inside (depth : Int) (text : Text) : Prop :=
  exists lines, Gives text lines ∧ ∀ line ∈ lines, LineInside depth line

/-- Code that stays in a block at the given depth. -/
def StaysAt (depth : Int) (code : Text) : Prop :=
  Inside depth (Text.normalizeNewlines (code.indent depth ++ ['\n']))

instance (scanner : Scanner) : Decidable scanner.Ready :=
  decidable_of_iff
    (scanner.tokens = [] ∧ scanner.closers = [] ∧ scanner.mode = .lineStart ∧
      scanner.progress = .reading)
    ⟨fun ⟨tokens, closers, mode, progress⟩ => ⟨tokens, closers, mode, progress⟩,
      fun ready => ⟨ready.tokens, ready.closers, ready.mode, ready.progress⟩⟩

instance (depth : Int) (line : Line) : Decidable (LineInside depth line) :=
  inferInstanceAs (Decidable (_ ∧ _))

theorem inside_iff {depth : Int} {text : Text} :
    Inside depth text ↔ (text.foldl Scanner.read .start).Ready ∧
      ∀ line ∈ (text.foldl Scanner.read .start).lines, LineInside depth line := by
  constructor
  · rintro ⟨lines, gives, inside⟩
    refine ⟨gives.ready, fun line member => inside line ?_⟩
    rw [gives.found] at member
    exact List.mem_reverse.mp member
  · rintro ⟨ready, inside⟩
    refine ⟨_, ⟨ready, (List.reverse_reverse _).symm⟩, fun line member => inside line ?_⟩
    exact List.mem_reverse.mp member

instance (depth : Int) (text : Text) : Decidable (Inside depth text) :=
  decidable_of_iff _ inside_iff.symm

instance (depth : Int) (code : Text) : Decidable (StaysAt depth code) :=
  inferInstanceAs (Decidable (Inside _ _))

namespace Inside

variable {depth deeper : Int} {front back : Text}

theorem append (inside : Inside depth front) (inside' : Inside depth back) :
    Inside depth (front ++ back) := by
  rcases inside with ⟨lines, gives, all⟩
  rcases inside' with ⟨later, gives', all'⟩
  exact ⟨lines ++ later, gives.append gives', List.forall_mem_append.mpr ⟨all, all'⟩⟩

theorem mono (inside : Inside deeper front) (less : depth ≤ deeper) : Inside depth front := by
  rcases inside with ⟨lines, gives, all⟩
  refine ⟨lines, gives, fun line member => ⟨?_, (all line member).2⟩⟩
  have wide := (all line member).1
  have shallower : depth.toNat ≤ deeper.toNat := Int.toNat_le_toNat less
  exact Nat.le_trans (Nat.mul_le_mul_left _ shallower) wide

end Inside

/-- A fragment whose code stays at its depth, so deep or deeper. -/
structure Fragment.Stays (depth : Int) (fragment : Fragment) : Prop where
  code : StaysAt fragment.depth fragment.body
  deep : depth ≤ fragment.depth
  ended : 0 < fragment.newlines

/-! ## Line ends -/

theorem normalizeNewlines_newlines (count : Nat) (text : Text) :
    Text.normalizeNewlines (List.replicate count '\n' ++ text) =
      List.replicate count '\n' ++ text.normalizeNewlines := by
  induction count with
  | zero => rfl
  | succ count rest =>
      rw [List.replicate_succ, List.cons_append, Text.normalizeNewlines_cons (by decide), rest,
        List.cons_append]

theorem Fragment.normalizeNewlines_append {fragment : Fragment} (ended : 0 < fragment.newlines)
    (text : Text) :
    Text.normalizeNewlines (fragment.text ++ text) =
      Text.normalizeNewlines (fragment.body.indent fragment.depth ++ ['\n']) ++
        (List.replicate (fragment.newlines - 1) '\n' ++ text.normalizeNewlines) := by
  rcases Nat.exists_eq_succ_of_ne_zero (Nat.ne_of_gt ended) with ⟨count, newlines⟩
  have split : fragment.text ++ text =
      fragment.body.indent fragment.depth ++ '\n' :: (List.replicate count '\n' ++ text) := by
    rw [Fragment.text, newlines, List.replicate_succ, List.append_assoc, List.cons_append]
  rw [split, Text.normalizeNewlines_append_newline, normalizeNewlines_newlines, newlines]
  rfl

/-- Behind fragments that end in newlines the line ends are those of what comes there. -/
theorem normalizeNewlines_textOf_append {front : List Fragment}
    (ended : ∀ fragment ∈ front, 0 < fragment.newlines) (text : Text) :
    Text.normalizeNewlines (textOf front ++ text) =
      (textOf front).normalizeNewlines ++ text.normalizeNewlines := by
  induction front with
  | nil => rfl
  | cons first rest restNormal =>
      rw [List.forall_mem_cons] at ended
      have split : forall later : Text, textOf (first :: rest) ++ later =
          first.text ++ (textOf rest ++ later) := fun later => List.append_assoc _ _ _
      have whole := Fragment.normalizeNewlines_append ended.1 (textOf rest)
      rw [split, Fragment.normalizeNewlines_append ended.1, restNormal ended.2]
      change _ = (Text.normalizeNewlines (first.text ++ textOf rest)) ++ _
      rw [whole, List.append_assoc, List.append_assoc]

theorem inside_textOf {depth : Int} {fragments : List Fragment}
    (stays : ∀ fragment ∈ fragments, fragment.Stays depth) :
    Inside depth (textOf fragments).normalizeNewlines := by
  induction fragments with
  | nil => exact ⟨[], Gives.newlines 0, nofun⟩
  | cons first rest restInside =>
      rw [List.forall_mem_cons] at stays
      change Inside depth (Text.normalizeNewlines (first.text ++ textOf rest))
      rw [Fragment.normalizeNewlines_append stays.1.ended]
      have newlines : Inside depth (List.replicate (first.newlines - 1) '\n') :=
        ⟨[], Gives.newlines _, nofun⟩
      exact (stays.1.code.mono stays.1.deep).append (newlines.append (restInside stays.2))

/-! ## Heads and what is under them -/

/-- What stands under the head of a compound statement is a block of its own. -/
theorem exists_parsed_block {head : Line} {opened : List Column} {under : Outline} {body : Stmt}
    (parsed : Parsed (.suite head none) opened under body) :
    exists column, Parsed .block (column :: opened) under body := by
  cases parsed with
  | indented _ _ _ block => exact ⟨_, block⟩

/-- Under the head of the function stands its body. -/
theorem exists_parsed_define {opened : List Column} {under after : Outline} {statement : Stmt}
    (parsed : Parsed .block opened (.line defineLine under after) statement) :
    exists body rest, statement = .seq (.define "pype".toList "stdin".toList body) rest ∧
      Parsed (.suite defineLine none) opened under body ∧ Parsed .block opened after rest := by
  cases parsed with
  | simple _ head =>
      rw [headOf_defineLine] at head
      cases head
  | define _ head suite later =>
      rw [headOf_defineLine] at head
      cases head
      exact ⟨_, _, rfl, suite, later⟩
  | alone _ found branching | branches _ found branching =>
      rw [headOf_defineLine] at found
      cases found
      cases branching

/-- Under the head of the loop stands what is done with each line. -/
theorem exists_parsed_loop {opened : List Column} {under : Outline} {statement : Stmt}
    (parsed : Parsed .block opened (.line loopLine under .empty) statement) :
    exists step, statement = .seq (.seq (.loop ['_'] (.name inputMember) step) .pass) .pass ∧
      Parsed (.suite loopLine none) opened under step := by
  cases parsed with
  | simple _ head =>
      rw [headOf_loopLine] at head
      cases head
  | define _ head =>
      rw [headOf_loopLine] at head
      cases head
  | alone _ found branching suite _ later =>
      rw [headOf_loopLine] at found
      cases found
      cases branching
      cases later
      exact ⟨_, rfl, suite⟩

/-- The head of the loop is no other branch. -/
theorem elseOf?_loopLine (column : Column) : loopLine.elseOf? column = none := by
  rw [Line.elseOf?, headOf_loopLine]
  split <;> rfl

/-! ## The function as blocks of fragments -/

/-- A script whose code runs on each line, with nothing behind the loop and nothing that
catches faults. -/
structure Streaming (script : Script) : Prop where
  collect : script.collect = false
  handler : script.handler = none
  after : script.after = none

/-- The code before the loop and the main code stay in their places. -/
structure Contained (script : Script) : Prop where
  before : forall code, script.before = some code -> StaysAt 1 code
  /-- The main code is stripped at the end of the text. -/
  main : StaysAt 2 script.main.trimRight

instance (script : Script) : Decidable script.Contained :=
  decidable_of_iff ((∀ code ∈ script.before, StaysAt 1 code) ∧ StaysAt 2 script.main.trimRight)
    ⟨fun ⟨before, main⟩ => ⟨before, main⟩, fun contained => ⟨contained.before, contained.main⟩⟩

/-- What stands between the head of the function and the loop. -/
def opening (script : Script) : List Fragment :=
  script.sectionBody .before "# 'before' code" "print('--before')" script.before ++
    (if script.debug then [⟨.trace, script.depth, "__lineno__ = 1".toList, 2⟩] else [])

/-- What stands inside the loop. -/
def iteration (script : Script) : List Fragment :=
  script.preparation ++ script.loopTrace ++ [.frame (script.depth + 1) "# 'pype' code"] ++
    Fragment.stripped ⟨.main, script.depth + 1, script.main, 1⟩

namespace Streaming

variable {script : Script} (streaming : script.Streaming)

include streaming

theorem depth_eq : script.depth = 1 := by
  rw [depth, streaming.handler]
  rfl

theorem fragments_eq : script.fragments = [defineFragment] ++ (script.opening ++
    ([.frame 1 "for _ in stdin:"] ++ (script.preparation ++ script.loopTrace ++
      [.frame 2 "# 'pype' code"] ++ [⟨.main, 2, script.main, 1⟩]))) := by
  have behind : script.sectionBody .after "# 'after' code" "print('--after')" script.after = [] := by
    rw [streaming.after]
    rfl
  rw [fragments, handlerBody, streaming.handler, streaming.collect, loopBody, behind, opening,
    streaming.depth_eq]
  simp only [Option.isSome_none, Bool.false_eq_true, if_false, List.append_nil, List.append_assoc,
    List.cons_append, List.nil_append]
  rfl

theorem text_eq : script.text = textOf ([defineFragment] ++
    (script.opening ++ ([.frame 1 "for _ in stdin:"] ++ script.iteration))) := by
  have heading : (Fragment.frame 2 "# 'pype' code").text =
      "        # 'pype' cod".toList ++ ['e', '\n'] := rfl
  have ending := textOf_ending ([defineFragment] ++ (script.opening ++
    ([.frame 1 "for _ in stdin:"] ++ (script.preparation ++ script.loopTrace)))) heading
  have stripped := @trimRight_textOf _ ⟨.main, 2, script.main, 1⟩ _ _ ending (by decide)
  have depth : script.depth + 1 = 2 := by rw [streaming.depth_eq]; rfl
  rw [text_eq_trimRight, streaming.fragments_eq, iteration, depth]
  simp only [List.append_assoc] at stripped ⊢
  exact stripped

variable (contained : script.Contained)

include contained

theorem stays_opening : ∀ fragment ∈ script.opening, fragment.Stays 1 := by
  have own : StaysAt 1 "# 'before' code".toList ∧ StaysAt 1 "print('--before')".toList ∧
      StaysAt 1 "__lineno__ = 1".toList := by
    iterate 3 rw [String.toList_ofList]
    decide +kernel
  rcases own with ⟨heading, announcement, counter⟩
  unfold opening sectionBody
  rw [streaming.depth_eq, List.forall_mem_append]
  constructor
  · cases present : script.before with
    | none => exact List.forall_mem_nil _
    | some code =>
        simp only [List.forall_mem_append, List.forall_mem_cons]
        refine ⟨⟨⟨heading, Int.le_refl 1, Nat.one_pos⟩, ?_⟩,
          ⟨contained.before code present, Int.le_refl 1, Nat.succ_pos 1⟩, List.forall_mem_nil _⟩
        split
        · exact List.forall_mem_singleton.mpr ⟨announcement, Int.le_refl 1, Nat.one_pos⟩
        · exact List.forall_mem_nil _
  · split
    · exact List.forall_mem_singleton.mpr ⟨counter, Int.le_refl 1, Nat.succ_pos 1⟩
    · exact List.forall_mem_nil _

theorem stays_iteration : ∀ fragment ∈ script.iteration, fragment.Stays 2 := by
  have depth : script.depth + 1 = 2 := by rw [streaming.depth_eq]; rfl
  have own : StaysAt 2 "_ = _.rstrip('\\n')".toList ∧
      StaysAt 2 "_ = __try_convert_str_to_number__(_)".toList ∧ StaysAt 2 "# 'pype' code".toList ∧
      ∀ line ∈ ["print('== input line \x7b0\x7d'.format(__lineno__))",
        "print('\x7b0\x7d'.format(_))\n", "print('== output line \x7b0\x7d'.format(__lineno__))",
        "__lineno__ += 1\n"], StaysAt 2 line.toList := by
    simp only [List.forall_mem_cons]
    iterate 7 rw [String.toList_ofList]
    decide +kernel
  rcases own with ⟨trim, convert, heading, traced⟩
  rw [iteration, preparation, loopTrace, depth]
  simp only [List.forall_mem_append]
  refine ⟨⟨⟨⟨?_, ?_⟩, ?_⟩, ?_⟩, ?_⟩
  · split
    · exact List.forall_mem_singleton.mpr ⟨trim, Int.le_refl 2, Nat.one_pos⟩
    · exact List.forall_mem_nil _
  · split
    · exact List.forall_mem_singleton.mpr ⟨convert, Int.le_refl 2, Nat.one_pos⟩
    · exact List.forall_mem_nil _
  · split
    · rw [List.forall_mem_map]
      exact fun line member => ⟨traced line member, Int.le_refl 2, Nat.one_pos⟩
    · exact List.forall_mem_nil _
  · exact List.forall_mem_singleton.mpr ⟨heading, Int.le_refl 2, Nat.one_pos⟩
  · rw [Fragment.stripped]
    split
    · exact List.forall_mem_nil _
    · exact List.forall_mem_singleton.mpr ⟨contained.main, Int.le_refl 2, Nat.one_pos⟩

/-- The lines of the function: its head, lines inside it, the head of the loop, and lines
inside the loop. -/
theorem exists_lines :
    exists front step, (Lines.ofText script.text.normalizeNewlines).lines =
        [defineLine] ++ (front ++ ([loopLine] ++ step)) ∧
      (∀ line ∈ front, LineInside 1 line) ∧ ∀ line ∈ step, LineInside 2 line := by
  have opened := streaming.stays_opening contained
  have define : (textOf [defineFragment]).normalizeNewlines = textOf [defineFragment] := by
    decide
  have loop : (textOf [.frame 1 "for _ in stdin:"]).normalizeNewlines =
      textOf [.frame 1 "for _ in stdin:"] := by
    decide
  rcases inside_textOf opened with ⟨front, frontGives, frontInside⟩
  rcases inside_textOf (streaming.stays_iteration contained) with ⟨step, stepGives, stepInside⟩
  refine ⟨front, step, ?_, frontInside, stepInside⟩
  apply Gives.lines_ofText
  rw [streaming.text_eq, textOf_append, textOf_append, textOf_append,
    normalizeNewlines_textOf_append (List.forall_mem_singleton.mpr (by decide)),
    normalizeNewlines_textOf_append (fun fragment member => (opened fragment member).ended),
    normalizeNewlines_textOf_append (List.forall_mem_singleton.mpr (by decide)), define, loop]
  exact scanned_defineLine.gives.append
    (frontGives.append (scanned_loopLine.gives.append stepGives))

/-- If the text can be read, and what is read has no access to the input, it defines a
function that loops over its input. -/
theorem exists_loopsOver {program : Stmt} (read : Stmt.ofText script.text = .ok program)
    (plain : program.usesOnly Access.unread.words = true) :
    exists (function : Program.Function) (front step : Stmt),
      program = .seq (.define "pype".toList function.parameter function.body) .pass ∧
        function.LoopsOver front ['_'] step := by
  rcases Stmt.ofText_eq_ok_iff.mp read with ⟨_, parsed, _⟩
  rcases streaming.exists_lines contained with ⟨front, step, lines, frontInside, stepInside⟩
  have body : Outline.ofLines ([loopLine] ++ step) = .line loopLine (Outline.ofLines step) .empty := by
    have outline := @Outline.ofLines_cons_append loopLine step []
      (fun line member => Nat.lt_of_lt_of_le (by decide) (stepInside line member).1) nofun
    rwa [List.append_nil] at outline
  have inside : Outline.ofLines (front ++ ([loopLine] ++ step)) =
      (Outline.ofLines front).append (.line loopLine (Outline.ofLines step) .empty) := by
    rw [← body]
    apply Outline.ofLines_append
    rintro _ ⟨⟩ line member
    exact (frontInside line member).1
  have whole : Outline.ofLines ([defineLine] ++ (front ++ ([loopLine] ++ step))) =
      .line defineLine (Outline.ofLines (front ++ ([loopLine] ++ step))) .empty := by
    have deeper : ∀ line ∈ front ++ ([loopLine] ++ step),
        defineLine.column.width < line.column.width := by
      rw [List.forall_mem_append, List.forall_mem_append]
      exact ⟨fun line member => Nat.lt_of_lt_of_le (by decide) (frontInside line member).1,
        List.forall_mem_singleton.mpr (by decide),
        fun line member => Nat.lt_of_lt_of_le (by decide) (stepInside line member).1⟩
    have outline := @Outline.ofLines_cons_append defineLine _ [] deeper nofun
    rwa [List.append_nil] at outline
  rw [lines, whole] at parsed
  rcases exists_parsed_define parsed with ⟨_, _, rfl, suite, last⟩
  cases last
  rcases exists_parsed_block suite with ⟨column, block⟩
  rw [inside] at block
  rcases Parsed.exists_append _ (elseOf?_loopLine _) block with
    ⟨earlier, _, frontParsed, loopParsed, rfl⟩
  rcases exists_parsed_loop loopParsed with ⟨statement, rfl, stepParsed⟩
  have keeps := (Bool.and_eq_true_iff.mp (Bool.and_eq_true_iff.mp plain).1).2
  refine ⟨⟨"stdin".toList, _⟩, earlier, statement, rfl, rfl, rfl, keeps, ?_, by decide, ?_⟩
  · apply frontParsed.usesOnly id rfl
    rw [Outline.lines_ofLines]
    exact fun line member => (frontInside line member).2
  · apply stepParsed.usesOnly id rfl
    rw [Outline.lines_ofLines]
    exact fun line member => (stepInside line member).2

end Streaming

/-! ## Functions with a handler -/

/-- The head of what is to be tried. -/
def tryLine : Line :=
  ⟨⟨4, 4⟩, [.keyword .attempt, .symbol .colon]⟩

theorem headOf_tryLine : Head.ofTokens tryLine.tokens = some (.attempt none) := rfl

theorem scanned_tryLine : Scanned [.frame 1 "try:"] [tryLine] :=
  @scanned_frame 1 "try:" [{ tryLine with column := .zero }]
    (by rw [String.toList_ofList]; decide +kernel) 0

/-- Nothing that begins with an attempt can be read. -/
theorem not_parsed_tryLine {opened : List Column} {under after : Outline} {statement : Stmt} :
    ¬ Parsed .block opened (.line tryLine under after) statement := by
  intro parsed
  cases parsed with
  | simple _ head | define _ head =>
      rw [headOf_tryLine] at head
      cases head
  | alone _ found branching | branches _ found branching =>
      rw [headOf_tryLine] at found
      cases found
      cases branching

/-- A function with a handler cannot be read. -/
theorem ofText_text_ne_ok {script : Script} {code : Text} (present : script.handler = some code)
    (program : Stmt) : Stmt.ofText script.text ≠ .ok program := by
  intro read
  rcases Stmt.ofText_eq_ok_iff.mp read with ⟨_, parsed, _⟩
  have fragments : exists rest,
      script.fragments = [defineFragment, .frame 1 "try:"] ++ rest := by
    rw [fragments, present]
    exact ⟨_, rfl⟩
  rcases fragments with ⟨rest, fragments⟩
  have split : textOf script.fragments =
      "def pype(stdin):\n\n    try:".toList ++ '\n' :: textOf rest := by
    rw [fragments]
    rfl
  rcases exists_text_eq split (by decide) with ⟨more, text⟩
  have front : script.text = textOf [defineFragment, .frame 1 "try:"] ++ more := text
  have normal : (textOf [defineFragment, .frame 1 "try:"]).normalizeNewlines =
      textOf [defineFragment, .frame 1 "try:"] := by
    decide
  have gives : Gives (textOf [defineFragment, .frame 1 "try:"]) [defineLine, tryLine] :=
    (scanned_defineLine.append scanned_tryLine).gives
  rcases gives.ready.exists_lines_ofText (Text.normalizeNewlines more) with ⟨later, lines⟩
  rw [gives.found, List.reverse_reverse] at lines
  have deeper : tryLine.column.width > defineLine.column.width := by decide
  rw [front, normalizeNewlines_textOf_append (by decide), normal, lines] at parsed
  change Parsed _ _ (Outline.push defineLine (Outline.push tryLine (Outline.ofLines later))) _ at parsed
  rw [Outline.push, Outline.push, Outline.divide, if_pos deeper] at parsed
  rcases exists_parsed_define parsed with ⟨_, _, _, suite, _⟩
  rcases exists_parsed_block suite with ⟨_, block⟩
  exact not_parsed_tryLine block

end Script
end Oneliner
