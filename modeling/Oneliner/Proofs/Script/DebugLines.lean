import Oneliner.Proofs.Script.Margins

namespace Oneliner
namespace Script

open Text (margin)

/-!
The lines that debug mode adds to the function.

The lines of the function are laid out once, and each of them is marked if it is there in
debug mode only.  The text in debug mode has all these lines, and the text without it has
those that are not marked.  White space at the end of the text is left out, but only what
follows the last heading can be reached by that, and it is the same with and without the
marked lines.
-/

/-! ## The layout -/

/-- A line of the function, and whether it is added in debug mode. -/
structure LaidLine where
  added : Bool
  text : Text
  deriving DecidableEq

/-- A line that is always there. -/
def own (depth : Int) (line : String) : LaidLine :=
  ⟨false, margin depth ++ line.toList⟩

/-- A line that is added in debug mode. -/
def extra (depth : Int) (line : String) : LaidLine :=
  ⟨true, margin depth ++ line.toList⟩

/-- Code of the user, which is always there. -/
def always (lines : List Text) : List LaidLine :=
  lines.map (⟨false, ·⟩)

/-- The lines of indented code. -/
def codeLines (depth : Int) (code : Text) : List Text :=
  code.lines.map (margin depth ++ ·)

/-- Lines at the end of the function, where white space is left out. -/
def endLines (lines : List Text) : List Text :=
  if (Text.joinLines lines).trimRight = [] then [] else (Text.joinLines lines).trimRight.lines

/-- The lines of the handler. -/
def handlerLines (script : Script) : List Text :=
  match script.handler with
  | none => []
  | some code => (margin 1 ++ "except Exception, e:".toList) :: codeLines 2 code

/-- The lines behind the last heading, with white space at the end. -/
def lastLines (script : Script) : List Text :=
  (if script.collect then codeLines script.depth script.main
    else match script.after with
      | none => codeLines (script.depth + 1) script.main
      | some code => codeLines script.depth code ++ [[]]) ++
    script.handlerLines

/-- The lines around the main code in a function that runs it once. -/
def collectLayout (script : Script) : List LaidLine :=
  [own script.depth script.collectLine,
    extra script.depth "# debug mode - print input",
    extra script.depth "print('Input:')",
    extra script.depth "print(_)",
    extra script.depth "print('')",
    own script.depth "# 'pype' code"]

/-- The lines of the code before the loop. -/
def beforeLayout (script : Script) : List LaidLine :=
  match script.before with
  | none => []
  | some code =>
      [own script.depth "# 'before' code",
        extra script.depth "print('--before')"] ++
      always (codeLines script.depth code ++ [[]])

/-- The lines of the loop in front of the main code. -/
def loopLayout (script : Script) : List LaidLine :=
  [extra script.depth "__lineno__ = 1",
    extra 0 "",
    own script.depth "for _ in stdin:"] ++
  (if script.trim then [own (script.depth + 1) "_ = _.rstrip('\\n')"] else []) ++
  (if script.trim && script.convert then
    [own (script.depth + 1) "_ = __try_convert_str_to_number__(_)"] else []) ++
  [extra (script.depth + 1) "print('== input line \x7b0\x7d'.format(__lineno__))",
    extra (script.depth + 1) "print('\x7b0\x7d'.format(_))",
    extra (script.depth + 1) "",
    extra (script.depth + 1) "print('== output line \x7b0\x7d'.format(__lineno__))",
    extra (script.depth + 1) "__lineno__ += 1",
    extra (script.depth + 1) "",
    own (script.depth + 1) "# 'pype' code"]

/-- The main code in the loop and the heading behind it, if there is code after the loop. -/
def afterLayout (script : Script) : List LaidLine :=
  match script.after with
  | none => []
  | some _ =>
      always (codeLines (script.depth + 1) script.main) ++
      [own script.depth "# 'after' code",
        extra script.depth "print('--after')"]

/-- The lines of the function. -/
def layout (script : Script) : List LaidLine :=
  [own 0 "def pype(stdin):", own 0 ""] ++
  (if script.handler.isSome then [own 1 "try:"] else []) ++
  (if script.collect then script.collectLayout
    else script.beforeLayout ++ script.loopLayout ++ script.afterLayout) ++
  always (endLines script.lastLines)

/-! ## Lines of fragments -/

namespace Fragment

/-- The lines of a fragment. -/
def written (fragment : Fragment) : List Text :=
  fragment.sources.map Prod.snd

/-- The lines of a fragment, marked if they only show what the function does. -/
def laid (fragment : Fragment) : List LaidLine :=
  fragment.written.map (⟨decide (fragment.origin = .trace), ·⟩)

theorem written_eq (fragment : Fragment) :
    fragment.written =
      codeLines fragment.depth fragment.body ++ List.replicate (fragment.newlines - 1) [] := by
  rw [written, sources, List.map_append, List.map_map, List.map_replicate]
  rfl

theorem map_text_laid (fragment : Fragment) :
    fragment.laid.map LaidLine.text = fragment.written := by
  rw [laid, List.map_map]
  exact List.map_id _

theorem added_of_mem_laid {fragment : Fragment} {line : LaidLine} (member : line ∈ fragment.laid) :
    line.added = decide (fragment.origin = .trace) := by
  rcases List.mem_map.mp member with ⟨_, _, rfl⟩
  rfl

theorem written_code (origin : Origin) (depth : Int) (body : Text) :
    written ⟨origin, depth, body, 1⟩ = codeLines depth body := by
  rw [written_eq]
  exact List.append_nil _

theorem written_frame {depth : Int} {line : String} (single : '\n' ∉ line.toList) :
    (frame depth line).written = [margin depth ++ line.toList] := by
  rw [written_eq, frame, codeLines, Text.lines_of_not_mem single]
  rfl

theorem laid_frame {depth : Int} {line : String} (single : '\n' ∉ line.toList) :
    (frame depth line).laid = [own depth line] := by
  rw [laid, written_frame single]
  rfl

theorem laid_trace {depth : Int} {line : String} (single : '\n' ∉ line.toList) :
    (trace depth line).laid = [extra depth line] := by
  rw [laid, written_eq, trace, codeLines, Text.lines_of_not_mem single]
  rfl

theorem laid_trace_newline {depth : Int} {line broken : String} (single : '\n' ∉ line.toList)
    (split : broken.toList = line.toList ++ ['\n']) :
    (trace depth broken).laid = [extra depth line, extra depth ""] := by
  rw [laid, written_eq, trace, split, codeLines, Text.lines_append_newline,
    Text.lines_of_not_mem single]
  rfl

theorem laid_code {origin : Origin} (code : origin ≠ .trace) (depth : Int) (body : Text)
    (newlines : Nat) :
    laid ⟨origin, depth, body, newlines⟩ =
      always (codeLines depth body ++ List.replicate (newlines - 1) []) := by
  rw [laid, written_eq, always, decide_eq_false code]

end Fragment

theorem map_text_laid {fragments : List Fragment} :
    (fragments.flatMap Fragment.laid).map LaidLine.text = fragments.flatMap Fragment.written := by
  rw [List.map_flatMap]
  simp only [Fragment.map_text_laid]

/-- Leaving out the marked lines is leaving out the fragments that they belong to. -/
theorem filter_laid (fragments : List Fragment) :
    (fragments.flatMap Fragment.laid).filter (!·.added) =
      (fragments.filter (decide <| ·.origin ≠ .trace)).flatMap Fragment.laid := by
  induction fragments with
  | nil => rfl
  | cons first rest ih =>
      rw [List.flatMap_cons, List.filter_append, ih]
      by_cases marked : first.origin = .trace
      · have none : first.laid.filter (!·.added) = [] := by
          rw [List.filter_eq_nil_iff]
          intro line member
          rw [Fragment.added_of_mem_laid member, decide_eq_true marked]
          decide
        rw [none, List.nil_append, List.filter_cons_of_neg (by simpa using marked)]
      · have all : first.laid.filter (!·.added) = first.laid := by
          rw [List.filter_eq_self]
          intro line member
          rw [Fragment.added_of_mem_laid member, decide_eq_false marked]
          rfl
        rw [all, List.filter_cons_of_pos (by simpa using marked), List.flatMap_cons]

/-! ## The end of the text -/

/-- Behind a line that ends in a visible character, white space is left out at the end. -/
theorem lines_trimRight_append {front before : Text} {char : Char}
    (ending : front = before ++ [char, '\n']) (visible : Text.isBlank char = false)
    {lines : List Text} (first : front.lines = lines ++ [[]]) (back : Text) :
    ((front ++ back).trimRight ++ ['\n']).lines =
      lines ++ (if back.trimRight = [] then [] else back.trimRight.lines) ++ [[]] := by
  have shown : front = (before ++ [char]) ++ '\n' :: [] := by
    rw [ending, List.append_assoc]
    rfl
  split
  · rename_i empty
    rcases Text.exists_blank_end back with ⟨blanks, blank, split⟩
    rw [empty, List.nil_append] at split
    have blankEnd : ('\n' :: blanks).all Text.isBlank = true := by
      rw [List.all_cons, blank]
      decide
    have stripped : (front ++ back).trimRight = before ++ [char] := by
      rw [split, shown, List.append_assoc, List.cons_append, List.nil_append,
        Text.trimRight_append_blanks _ blankEnd, Text.trimRight_snoc before visible]
    rw [stripped, List.append_nil, ← first, shown]
  · rename_i some
    have newline : Text.lines (back.trimRight ++ ['\n']) = back.trimRight.lines ++ [[]] :=
      Text.lines_append_newline _ []
    rw [shown, Text.lines_append_newline] at first
    have firsts : (before ++ [char]).lines = lines := List.append_cancel_right first
    rw [Text.trimRight_append some, shown, List.append_assoc, List.append_assoc, List.cons_append,
      List.nil_append, Text.lines_append_newline, newline, firsts, List.append_assoc]

/-- The fragments in front of the main code that is run once. -/
def collectOpening (script : Script) : List Fragment :=
  .frame script.depth script.collectLine :: script.collectTrace ++
    [.frame script.depth "# 'pype' code"]

/-- The fragments of the loop in front of the main code. -/
def loopOpening (script : Script) : List Fragment :=
  (if script.debug then [⟨.trace, script.depth, "__lineno__ = 1".toList, 2⟩] else []) ++
    .frame script.depth "for _ in stdin:" :: script.preparation ++ script.loopTrace ++
    [.frame (script.depth + 1) "# 'pype' code"]

/-- The main code in the loop and the heading behind it, if there is code after the loop. -/
def afterOpening (script : Script) : List Fragment :=
  match script.after with
  | none => []
  | some _ =>
      [⟨.main, script.depth + 1, script.main, 1⟩, .frame script.depth "# 'after' code"] ++
        if script.debug then [.trace script.depth "print('--after')"] else []

/-- The fragments up to the last heading. -/
def upToHeading (script : Script) : List Fragment :=
  defineFragment :: (if script.handler.isSome then [.frame 1 "try:"] else []) ++
    if script.collect then script.collectOpening
    else
      script.sectionBody .before "# 'before' code" "print('--before')" script.before ++
        (script.loopOpening ++ script.afterOpening)

/-- The fragments behind the last heading. -/
def behindHeading (script : Script) : List Fragment :=
  (if script.collect then ⟨.main, script.depth, script.main, 1⟩
    else match script.after with
      | none => ⟨.main, script.depth + 1, script.main, 1⟩
      | some code => ⟨.after, script.depth, code, 2⟩) ::
    script.handlerBody

theorem fragments_eq_heading (script : Script) :
    script.fragments = script.upToHeading ++ script.behindHeading := by
  simp only [fragments, collectBody, loopBody, upToHeading, collectOpening, loopOpening,
    afterOpening, behindHeading, defineFragment]
  cases script.collect with
  | true => simp only [if_true, List.append_assoc, List.cons_append, List.nil_append]
  | false =>
      cases script.after with
      | none =>
          simp only [if_false, Bool.false_eq_true, sectionBody, List.append_assoc,
            List.cons_append, List.nil_append]
      | some code =>
          simp only [if_false, Bool.false_eq_true, sectionBody, List.append_assoc,
            List.cons_append, List.nil_append]

/-- The last line of fragments ends in a visible character. -/
def EndsVisibly (fragments : List Fragment) : Prop :=
  exists before char, textOf fragments = before ++ [char, '\n'] ∧ Text.isBlank char = false

theorem endsVisibly_append {front : List Fragment} {origin : Origin} {depth : Int} {body : Text}
    (single : '\n' ∉ body) {char : Char} (last : body.getLast? = some char)
    (visible : Text.isBlank char = false) : EndsVisibly (front ++ [⟨origin, depth, body, 1⟩]) := by
  rcases List.getLast?_eq_some_iff.mp last with ⟨start, split⟩
  refine ⟨textOf front ++ (margin depth ++ start), char, ?_, visible⟩
  apply textOf_ending
  rw [Fragment.text, Text.indent_eq_deepen, Text.deepen_of_not_mem single, split]
  simp only [List.append_assoc, List.cons_append, List.nil_append]
  rfl

theorem EndsVisibly.append_left {back : List Fragment} (ends : EndsVisibly back)
    (front : List Fragment) : EndsVisibly (front ++ back) := by
  rcases ends with ⟨before, char, text, visible⟩
  refine ⟨textOf front ++ before, char, ?_, visible⟩
  rw [textOf_append, text, List.append_assoc]

/-- The last heading is visible to its end. -/
theorem endsVisibly_upToHeading (script : Script) : EndsVisibly script.upToHeading := by
  unfold upToHeading
  apply EndsVisibly.append_left
  cases script.collect with
  | true => exact endsVisibly_append (by decide) rfl (by decide)
  | false =>
      apply EndsVisibly.append_left
      unfold afterOpening
      cases script.after with
      | none =>
          rw [List.append_nil]
          exact endsVisibly_append (by decide) rfl (by decide)
      | some code =>
          apply EndsVisibly.append_left
          cases script.debug with
          | false => exact @endsVisibly_append [_] _ _ _ (by decide) _ rfl (by decide)
          | true => exact @endsVisibly_append [_, _] _ _ _ (by decide) _ rfl (by decide)

/-- Each fragment ends its last line. -/
theorem newlines_pos {script : Script} {fragment : Fragment}
    (member : fragment ∈ script.fragments) : 0 < fragment.newlines := by
  rcases script.exists_fragments with ⟨rest, fragments, below⟩
  rw [fragments] at member
  rcases List.mem_cons.mp member with rfl | inRest
  · decide
  · exact (below fragment inRest).newlines_pos

theorem lines_textOf_written {fragments : List Fragment}
    (ended : ∀ fragment ∈ fragments, 0 < fragment.newlines) :
    (textOf fragments).lines = fragments.flatMap Fragment.written ++ [[]] := by
  rw [lines_textOf ended, List.map_flatMap]
  rfl

theorem textOf_cons_eq_joinLines {first : Fragment} {rest : List Fragment}
    (ended : ∀ fragment ∈ first :: rest, 0 < fragment.newlines) :
    textOf (first :: rest) =
      Text.joinLines ((first :: rest).flatMap Fragment.written) ++ ['\n'] := by
  have lines := lines_textOf_written ended
  have some : (first :: rest).flatMap Fragment.written ≠ [] := by
    rw [List.flatMap_cons, Fragment.written_eq, codeLines, List.append_assoc]
    exact List.append_ne_nil_of_left_ne_nil
      (fun empty => Text.lines_ne_nil first.body (List.map_eq_nil_iff.mp empty)) _
  have clean : forall line, line ∈ (first :: rest).flatMap Fragment.written -> '\n' ∉ line := by
    intro line member
    apply Text.not_mem_of_mem_lines
    rw [lines]
    exact List.mem_append_left _ member
  -- Both texts have the same lines.
  have same : (Text.joinLines ((first :: rest).flatMap Fragment.written) ++ ['\n']).lines =
      (textOf (first :: rest)).lines := by
    rw [Text.lines_append_newline, Text.lines_joinLines clean some, lines]
    rfl
  rw [← Text.joinLines_lines (textOf (first :: rest)), ← same, Text.joinLines_lines]

/-- The lines of the text. -/
theorem lines_text (script : Script) :
    script.text.lines = script.upToHeading.flatMap Fragment.written ++
      endLines (script.behindHeading.flatMap Fragment.written) ++ [[]] := by
  have ended : ∀ fragment ∈ script.upToHeading ++ script.behindHeading, 0 < fragment.newlines := by
    intro fragment member
    rw [← fragments_eq_heading] at member
    exact newlines_pos member
  rw [List.forall_mem_append] at ended
  have back : (textOf script.behindHeading).trimRight =
      (Text.joinLines (script.behindHeading.flatMap Fragment.written)).trimRight := by
    rw [behindHeading, textOf_cons_eq_joinLines ended.2, Text.trimRight_append_blanks _ (by decide)]
  rcases script.endsVisibly_upToHeading with ⟨before, char, text, visible⟩
  rw [text_eq_trimRight, fragments_eq_heading, textOf_append,
    lines_trimRight_append text visible (lines_textOf_written ended.1), back]
  rfl

/-! ## Lines of debug mode -/

/-- A script in debug mode, or out of it. -/
def withDebug (script : Script) (debug : Bool) : Script :=
  { script with debug := debug }

theorem behindHeading_withDebug (script : Script) (debug : Bool) :
    (script.withDebug debug).behindHeading = script.behindHeading := rfl

/-- Outside debug mode the fragments are missing that only show what the function does. -/
theorem filter_upToHeading (script : Script) :
    (script.withDebug true).upToHeading.filter (decide <| ·.origin ≠ .trace) =
      (script.withDebug false).upToHeading := by
  rcases script with ⟨before, after, handler, main, collect, debug, trim, convert⟩
  -- Which fragments there are depends on the choices alone, and not on the code in them.
  cases before <;> cases after <;> cases handler <;> cases collect <;> cases trim <;>
    cases convert <;> rfl

theorem written_handlerBody (script : Script) :
    script.handlerBody.flatMap Fragment.written = script.handlerLines := by
  unfold handlerBody handlerLines
  cases script.handler with
  | none => rfl
  | some code =>
      rw [List.flatMap_cons, List.flatMap_singleton, Fragment.written_frame (by decide),
        Fragment.written_code]
      rfl

theorem written_behindHeading (script : Script) :
    script.behindHeading.flatMap Fragment.written = script.lastLines := by
  rw [behindHeading, List.flatMap_cons, written_handlerBody, lastLines]
  congr 1
  cases script.collect with
  | true => exact Fragment.written_code ..
  | false =>
      cases script.after with
      | none => exact Fragment.written_code ..
      | some code => exact Fragment.written_eq _

theorem laid_define : defineFragment.laid = [own 0 "def pype(stdin):", own 0 ""] := by
  decide

theorem collectLine_single (script : Script) : '\n' ∉ script.collectLine.toList := by
  unfold collectLine
  split
  · split <;> decide
  · decide

section Laid

variable (script : Script)

theorem laid_collectOpening :
    (script.withDebug true).collectOpening.flatMap Fragment.laid = script.collectLayout := by
  have parts : (script.withDebug true).collectOpening =
      [.frame script.depth script.collectLine, .trace script.depth "# debug mode - print input",
        .trace script.depth "print('Input:')", .trace script.depth "print(_)",
        .trace script.depth "print('')", .frame script.depth "# 'pype' code"] := rfl
  rw [parts]
  simp (disch := decide) only [List.flatMap_cons, List.flatMap_nil,
    Fragment.laid_frame (collectLine_single script), Fragment.laid_frame, Fragment.laid_trace,
    List.cons_append, List.nil_append, collectLayout]

theorem laid_beforeSection :
    ((script.withDebug true).sectionBody .before "# 'before' code" "print('--before')"
      script.before).flatMap Fragment.laid = script.beforeLayout := by
  unfold beforeLayout
  cases script.before with
  | none => rfl
  | some code =>
      have parts : (script.withDebug true).sectionBody .before "# 'before' code"
          "print('--before')" (some code) =
          [.frame script.depth "# 'before' code", .trace script.depth "print('--before')",
            ⟨.before, script.depth, code, 2⟩] := rfl
      rw [parts]
      simp (disch := decide) only [List.flatMap_cons, List.flatMap_nil, Fragment.laid_frame,
        Fragment.laid_trace, Fragment.laid_code, List.cons_append, List.nil_append, List.append_nil]
      rfl

theorem laid_preparation :
    script.preparation.flatMap Fragment.laid =
      (if script.trim then [own (script.depth + 1) "_ = _.rstrip('\\n')"] else []) ++
        if script.trim && script.convert then
          [own (script.depth + 1) "_ = __try_convert_str_to_number__(_)"] else [] := by
  rw [preparation, List.flatMap_append]
  congr 1
  · split
    · rw [List.flatMap_singleton, Fragment.laid_frame (by decide)]
    · rfl
  · split
    · rw [List.flatMap_singleton, Fragment.laid_frame (by decide)]
    · rfl

theorem laid_loopTrace :
    (script.withDebug true).loopTrace.flatMap Fragment.laid =
      [extra (script.depth + 1) "print('== input line \x7b0\x7d'.format(__lineno__))",
        extra (script.depth + 1) "print('\x7b0\x7d'.format(_))",
        extra (script.depth + 1) "",
        extra (script.depth + 1) "print('== output line \x7b0\x7d'.format(__lineno__))",
        extra (script.depth + 1) "__lineno__ += 1",
        extra (script.depth + 1) ""] := by
  have parts : (script.withDebug true).loopTrace =
      [.trace (script.depth + 1) "print('== input line \x7b0\x7d'.format(__lineno__))",
        .trace (script.depth + 1) "print('\x7b0\x7d'.format(_))\n",
        .trace (script.depth + 1) "print('== output line \x7b0\x7d'.format(__lineno__))",
        .trace (script.depth + 1) "__lineno__ += 1\n"] := rfl
  have input := @Fragment.laid_trace_newline (script.depth + 1) "print('\x7b0\x7d'.format(_))"
    "print('\x7b0\x7d'.format(_))\n" (by decide) (by decide)
  have count := @Fragment.laid_trace_newline (script.depth + 1) "__lineno__ += 1"
    "__lineno__ += 1\n" (by decide) (by decide)
  rw [parts, List.flatMap_cons, List.flatMap_cons, List.flatMap_cons, List.flatMap_singleton,
    input, count, Fragment.laid_trace (by decide), Fragment.laid_trace (by decide)]
  rfl

theorem laid_loopOpening :
    (script.withDebug true).loopOpening.flatMap Fragment.laid = script.loopLayout := by
  have parts : (script.withDebug true).loopOpening =
      ⟨.trace, script.depth, "__lineno__ = 1".toList, 2⟩ ::
        .frame script.depth "for _ in stdin:" :: script.preparation ++
        (script.withDebug true).loopTrace ++ [.frame (script.depth + 1) "# 'pype' code"] := rfl
  have first : Fragment.laid ⟨.trace, script.depth, "__lineno__ = 1".toList, 2⟩ =
      [extra script.depth "__lineno__ = 1", extra 0 ""] := by
    have single : '\n' ∉ "__lineno__ = 1".toList := by decide
    rw [Fragment.laid, Fragment.written_eq, codeLines, Text.lines_of_not_mem single]
    rfl
  rw [parts, List.flatMap_append, List.flatMap_append, List.flatMap_cons, List.flatMap_cons,
    List.flatMap_singleton, laid_preparation, laid_loopTrace, first,
    Fragment.laid_frame (by decide), Fragment.laid_frame (by decide), loopLayout]
  simp only [List.append_assoc, List.cons_append, List.nil_append]

theorem laid_afterOpening :
    (script.withDebug true).afterOpening.flatMap Fragment.laid = script.afterLayout := by
  have parts : (script.withDebug true).afterOpening =
      match script.after with
      | none => []
      | some _ =>
          [⟨.main, script.depth + 1, script.main, 1⟩, .frame script.depth "# 'after' code",
            .trace script.depth "print('--after')"] := rfl
  rw [parts, afterLayout]
  cases script.after with
  | none => rfl
  | some code =>
      simp (disch := decide) only [List.flatMap_cons, List.flatMap_nil, Fragment.laid_frame,
        Fragment.laid_trace, Fragment.laid_code, Nat.sub_self, List.replicate_zero,
        List.cons_append, List.nil_append, List.append_nil]

theorem laid_upToHeading :
    (script.withDebug true).upToHeading.flatMap Fragment.laid =
      [own 0 "def pype(stdin):", own 0 ""] ++
        (if script.handler.isSome then [own 1 "try:"] else []) ++
        if script.collect then script.collectLayout
        else script.beforeLayout ++ script.loopLayout ++ script.afterLayout := by
  have parts : (script.withDebug true).upToHeading =
      defineFragment :: (if script.handler.isSome then [.frame 1 "try:"] else []) ++
        if script.collect then (script.withDebug true).collectOpening
        else
          (script.withDebug true).sectionBody .before "# 'before' code" "print('--before')"
            script.before ++
          ((script.withDebug true).loopOpening ++ (script.withDebug true).afterOpening) := rfl
  rw [parts, List.flatMap_append, List.flatMap_cons, laid_define]
  congr 1
  · congr 1
    split
    · rw [List.flatMap_singleton, Fragment.laid_frame (by decide)]
    · rfl
  · split
    · exact script.laid_collectOpening
    · rw [List.flatMap_append, List.flatMap_append, laid_beforeSection, laid_loopOpening,
        laid_afterOpening, List.append_assoc]

end Laid

theorem filter_always (lines : List Text) : (always lines).filter (!·.added) = always lines := by
  rw [List.filter_eq_self]
  intro line member
  rcases List.mem_map.mp member with ⟨_, _, rfl⟩
  rfl

theorem map_text_always (lines : List Text) : (always lines).map LaidLine.text = lines := by
  rw [always, List.map_map]
  exact List.map_id _

/-- In debug mode the function has all the lines of its layout, and otherwise those that are
not added by debug mode. -/
theorem debug_adds_lines (options : Command.Options) :
    (ofOptions { options with debug := true }).text.lines =
        (layout (ofOptions options)).map LaidLine.text ++ [[]] ∧
      (ofOptions { options with debug := false }).text.lines =
        ((layout (ofOptions options)).filter (!·.added)).map LaidLine.text ++ [[]] := by
  have chosen : forall debug, ofOptions { options with debug := debug } =
      (ofOptions options).withDebug debug := fun _ => rfl
  constructor
  · rw [chosen, lines_text, behindHeading_withDebug, written_behindHeading, layout,
      ← laid_upToHeading, List.map_append, map_text_laid, map_text_always]
  · rw [chosen, lines_text, behindHeading_withDebug, written_behindHeading, layout,
      ← laid_upToHeading, List.filter_append, filter_laid, filter_upToHeading, filter_always,
      List.map_append, map_text_laid, map_text_always]

end Script
end Oneliner
