import Mathlib.Data.List.TakeWhile
import Oneliner.Proofs.Braces.Composition

namespace Oneliner
namespace Braces

/-!
The layout of block programs.

A block program is a tree of statements and of blocks with a header.  It can be
written with braces and semicolons in many ways, since blanks behind them do not
count and a semicolon may be left out behind a block.  All of these texts expand
to the same lines, up to blank lines and blanks at the ends of lines: one line
for each statement and each header, in order, indented by its depth.

The tree is followed from the outside.  Whatever stands behind a statement or a
block is expanded on its own, and so is the inside of a block, before it is
indented.  To use this for the parts, the induction has to carry along that the
written text is closed and that its level never falls below zero.
-/

/-- A text that can stand as one item of a program: one line, not blank and not
indented, without a semicolon or the brace of a block, and with everything that it
opens closed again. -/
structure Simple (text : Text) : Prop where
  single : '\n' ∉ text
  visible : exists char, char ∈ text ∧ char ≠ ' '
  flush : text.head? ≠ some ' '
  unbroken : forall event, event ∈ Scan.start.events text -> event.role.breaks = false
  quote : (Scan.start.finish text).quote = none
  parens : (Scan.start.finish text).parens = 0
  squares : (Scan.start.finish text).squares = 0
  braces : (Scan.start.finish text).braces = 0
  unescaped : text.getLast? ≠ some '\\'

instance (text : Text) : Decidable (Simple text) :=
  decidable_of_iff
    ('\n' ∉ text ∧ text.any (· ≠ ' ') = true ∧ text.head? ≠ some ' ' ∧
      (forall event, event ∈ Scan.start.events text -> event.role.breaks = false) ∧
      (Scan.start.finish text).quote = none ∧ (Scan.start.finish text).parens = 0 ∧
      (Scan.start.finish text).squares = 0 ∧ (Scan.start.finish text).braces = 0 ∧
      text.getLast? ≠ some '\\')
    ⟨fun ⟨single, visible, flush, unbroken, quote, parens, squares, braces, unescaped⟩ =>
        ⟨single, by simpa using visible, flush, unbroken, quote, parens, squares, braces, unescaped⟩,
      fun simple =>
        ⟨simple.single, by simpa using simple.visible, simple.flush, simple.unbroken, simple.quote,
          simple.parens, simple.squares, simple.braces, simple.unescaped⟩⟩

structure Statement where
  text : Text
  simple : Simple text

/-- A header may not end with an equals sign that assigns, since the brace behind
it would group. -/
structure Header extends Statement where
  settled : (Scan.start.finish text).declaring = false

/-- A block program: its first item and the items behind it. -/
inductive Tree where
  | empty
  | statement (line : Statement) (after : Tree)
  | block (header : Header) (body after : Tree)

namespace Tree

/-- The texts with braces and semicolons that stand for a block program.  A
semicolon may also stand behind the last item. -/
inductive Written : Tree -> Text -> Prop
  | empty : Written .empty []
  | last (line : Statement) : Written (.statement line .empty) line.text
  | statement (line : Statement) {after : Tree} {tail : Text} (blanks : Nat) :
      Written after tail ->
      Written (.statement line after) (line.text ++ ';' :: (Text.spaces blanks ++ tail))
  | block (header : Header) {body after : Tree} {inside tail : Text} (before behind : Nat) :
      Written body inside -> Written after tail ->
      Written (.block header body after)
        (header.text ++ '{' :: (Text.spaces before ++ inside) ++ '}' :: (Text.spaces behind ++ tail))
  | separated (header : Header) {body after : Tree} {inside tail : Text}
      (before behind blanks : Nat) :
      Written body inside -> Written after tail ->
      Written (.block header body after)
        (header.text ++ '{' :: (Text.spaces before ++ inside) ++
          '}' :: (Text.spaces behind ++ ';' :: (Text.spaces blanks ++ tail)))

/-- One line for each statement and each header, depth first. -/
def layout (depth : Nat) : Tree -> List Text
  | empty => []
  | statement line after =>
      (Text.spaces (4 * depth) ++ line.text.dropEnding [' ']) :: after.layout depth
  | block header body after =>
      (Text.spaces (4 * depth) ++ header.text ++ [':']) ::
        (body.layout (depth + 1) ++ after.layout depth)

theorem layout_succ (tree : Tree) (depth : Nat) :
    tree.layout (depth + 1) = (tree.layout depth).map (Text.margin 1 ++ ·) := by
  have deeper (depth : Nat) :
      Text.spaces (4 * (depth + 1)) = Text.margin 1 ++ Text.spaces (4 * depth) := by
    rw [Nat.mul_succ, Nat.add_comm]
    exact List.replicate_append_replicate.symm
  induction tree generalizing depth with
  | empty => rfl
  | statement line after ih =>
      rw [layout, layout, ih, deeper, List.map_cons, List.append_assoc]
  | block header body after bodyIh ih =>
      rw [layout, layout, bodyIh, ih, deeper, List.map_cons, List.map_append, List.append_assoc,
        List.append_assoc, List.append_assoc]

end Tree

/-! ## Lines that show something -/

/-- Whether the line has only blanks. -/
def isBlankLine (line : Text) : Bool :=
  line.all (· = ' ')

/-- The lines of a text that are not blank, without the blanks at their ends. -/
def tidyLines (text : Text) : List Text :=
  (text.lines.filter (fun line => !isBlankLine line)).map (Text.dropEnding [' '])

theorem tidyLines_append_newline (front back : Text) :
    tidyLines (front ++ '\n' :: back) = tidyLines front ++ tidyLines back := by
  rw [tidyLines, Text.lines_append_newline, List.filter_append, List.map_append]
  rfl

theorem isBlankLine_margin (level : Int) (line : Text) :
    isBlankLine (Text.margin level ++ line) = isBlankLine line := by
  have margin : (Text.margin level).all (· = ' ') = true := by
    rw [List.all_eq_true]
    exact fun char member => decide_eq_true (Text.mem_margin member)
  rw [isBlankLine, List.all_append, margin, Bool.true_and]
  rfl

theorem dropEnding_margin (level : Int) {line : Text} (visible : isBlankLine line = false) :
    (Text.margin level ++ line).dropEnding [' '] = Text.margin level ++ line.dropEnding [' '] := by
  have rest : line.reverse.dropWhile [' '].contains ≠ [] := by
    intro nothing
    rw [List.dropWhile_eq_nil_iff] at nothing
    have blank : isBlankLine line = true := by
      rw [isBlankLine, List.all_eq_true]
      intro char member
      simpa using nothing char (List.mem_reverse.mpr member)
    rw [visible] at blank
    exact Bool.noConfusion blank
  rw [Text.dropEnding, Text.dropEnding, List.reverse_append, List.dropWhile_append,
    if_neg (by simpa using rest), List.reverse_append, List.reverse_reverse]

theorem tidyLines_indent (level : Int) (text : Text) :
    tidyLines (text.indent level) = (tidyLines text).map (Text.margin level ++ ·) := by
  rw [tidyLines, tidyLines, Text.lines_indent, List.filter_map, List.map_map, List.map_map]
  have same : (fun line => !isBlankLine line) ∘ (Text.margin level ++ ·) =
      fun line => !isBlankLine line := by
    funext line
    exact congrArg (! ·) (isBlankLine_margin level line)
  rw [same]
  apply List.map_congr_left
  intro line member
  have visible := (List.mem_filter.mp member).2
  exact dropEnding_margin level (by simpa using visible)

/-! ## Simple texts -/

/-- A scan that puts in no line break copies a line and keeps its level. -/
theorem Scan.run_unbroken {scan : Scan} (settled : scan.atBreak = false) {text : Text}
    (single : '\n' ∉ text)
    (unbroken : forall event, event ∈ scan.events text -> event.role.breaks = false) :
    scan.output text = text ∧ (scan.finish text).level = scan.level ∧
      (forall event, event ∈ scan.events text -> event.after.level = scan.level) := by
  induction text generalizing scan with
  | nil => exact ⟨rfl, rfl, fun event member => absurd member List.not_mem_nil⟩
  | cons char rest ih =>
      have kept := unbroken _ List.mem_cons_self
      have read := role_ne_skipped settled rest.head? char
      have level : (scan.advance (scan.role rest.head? char) char).level = scan.level := by
        rw [level_advance, rise_of_kept kept, Int.add_zero]
      rw [List.mem_cons, not_or] at single
      obtain ⟨output, finish, levels⟩ := ih (by rw [atBreak_advance scan char read]; exact kept)
        single.2 (fun event member => unbroken event (List.mem_cons_of_mem _ member))
      refine ⟨?_, finish.trans level, ?_⟩
      · rw [output_cons, piece_of_kept read kept, if_neg (Ne.symm single.1), output]
        rfl
      · intro event member
        rcases List.mem_cons.mp member with first | later
        · rw [first]
          exact level
        · exact (levels event later).trans level

namespace Simple

variable {text : Text}

private theorem run (simple : Simple text) :
    Scan.start.output text = text ∧ (Scan.start.finish text).level = 0 ∧
      (forall event, event ∈ Scan.start.events text -> event.after.level = 0) :=
  Scan.run_unbroken rfl simple.single simple.unbroken

theorem expand_eq (simple : Simple text) : expand text = text := by
  rw [Scan.expand_eq_output]
  exact simple.run.1

theorem closed (simple : Simple text) : Closed text where
  quote := simple.quote
  parens := simple.parens
  squares := simple.squares
  braces := simple.braces
  level := simple.run.2.1
  unescaped := simple.unescaped

theorem grounded (simple : Simple text) : Grounded text := by
  intro event member
  exact Int.le_of_eq (simple.run.2.2 event member).symm

theorem ne_nil (simple : Simple text) : text ≠ [] := by
  obtain ⟨char, member, _⟩ := simple.visible
  exact List.ne_nil_of_mem member

theorem tidyLines_eq (simple : Simple text) : tidyLines text = [text.dropEnding [' ']] := by
  obtain ⟨char, member, shown⟩ := simple.visible
  have visible : isBlankLine text = false := by
    rw [isBlankLine, List.all_eq_false]
    exact ⟨char, member, by simpa using shown⟩
  rw [tidyLines, Text.lines_of_not_mem simple.single]
  simp [visible]

theorem tidyLines_header (simple : Simple text) : tidyLines (text ++ [':']) = [text ++ [':']] := by
  have single : '\n' ∉ text ++ [':'] := by
    rw [List.mem_append, not_or]
    exact ⟨simple.single, by decide⟩
  rw [tidyLines, Text.lines_of_not_mem single]
  simp [isBlankLine, Text.dropEnding]

end Simple

/-! ## Written programs -/

theorem dropBlanks_spaces (count : Nat) {tail : Text} (flush : tail.head? ≠ some ' ') :
    dropBlanks (Text.spaces count ++ tail) = tail := by
  have blanks : forall char, char ∈ Text.spaces count -> decide (char = ' ') = true :=
    fun char member => decide_eq_true (List.eq_of_mem_replicate member)
  rw [dropBlanks, List.dropWhile_append_of_pos blanks]
  cases tail with
  | nil => rfl
  | cons first later =>
      have shown : first ≠ ' ' := fun blank => flush (congrArg some blank)
      exact List.dropWhile_cons_of_neg (by simpa using shown)

/-- What the induction over a program carries along: the written text can stand
inside a block, and it is expanded to the given lines. -/
structure Laid (source : Text) (lines : List Text) : Prop where
  closed : Closed source
  grounded : Grounded source
  flush : source.head? ≠ some ' '
  tidy : tidyLines (expand source) = lines

namespace Laid

theorem empty : Laid [] [] where
  closed := by decide
  grounded := by decide
  flush := by decide
  tidy := by decide

theorem simple {text : Text} (simple : Simple text) : Laid text [text.dropEnding [' ']] where
  closed := simple.closed
  grounded := simple.grounded
  flush := simple.flush
  tidy := by rw [simple.expand_eq, simple.tidyLines_eq]

/-- Behind a text that ends with a line break, the lines of the rest follow. -/
theorem append {front expanded tail : Text} {lines : List Text} (broken : Broken 0 front)
    (expansion : expand front = expanded ++ ['\n']) (grounded : Grounded front)
    (flush : forall back, (front ++ back).head? ≠ some ' ') (blanks : Nat) (laid : Laid tail lines) :
    Laid (front ++ (Text.spaces blanks ++ tail)) (tidyLines expanded ++ lines) := by
  have rest := dropBlanks_spaces blanks laid.flush
  exact {
    closed := (closed_iff_outside _).mpr (broken.outside_append (rest.symm ▸ laid.closed))
    grounded := broken.grounded_append (by decide) grounded (rest.symm ▸ laid.grounded)
    flush := flush _
    tidy := by
      rw [broken.expand_append, rest, expansion, List.append_assoc, ← laid.tidy]
      exact tidyLines_append_newline expanded (expand tail) }

private theorem flush_append {text : Text} (simple : Simple text) (back : Text) :
    (text ++ back).head? ≠ some ' ' := by
  obtain ⟨first, later, same⟩ := List.exists_cons_of_ne_nil simple.ne_nil
  have flush := simple.flush
  rw [same] at flush ⊢
  exact flush

theorem statement {text tail : Text} {lines : List Text} (simple : Simple text) (blanks : Nat)
    (laid : Laid tail lines) :
    Laid (text ++ ';' :: (Text.spaces blanks ++ tail)) (text.dropEnding [' '] :: lines) := by
  obtain ⟨broken, expansion, grounded⟩ := broken_separator simple.closed
  rw [simple.expand_eq] at expansion
  have whole := append broken expansion (grounded simple.grounded)
    (fun back => by rw [List.append_assoc]; exact flush_append simple _) blanks laid
  rw [simple.tidyLines_eq, List.append_assoc] at whole
  exact whole

theorem separator {tail : Text} {lines : List Text} (blanks : Nat) (laid : Laid tail lines) :
    Laid (';' :: (Text.spaces blanks ++ tail)) lines := by
  obtain ⟨broken, expansion, grounded⟩ := broken_separator empty.closed
  exact append broken expansion (grounded empty.grounded)
    (fun back blank => absurd (Option.some.inj blank) (by decide)) blanks laid

theorem block (header : Header) {inside tail : Text} {inner lines : List Text}
    (before behind : Nat) (body : Laid inside inner) (after : Laid tail lines) :
    Laid (header.text ++ '{' :: (Text.spaces before ++ inside) ++ '}' :: (Text.spaces behind ++ tail))
      ((header.text ++ [':']) :: (inner.map (Text.margin 1 ++ ·) ++ lines)) := by
  have rest := dropBlanks_spaces before body.flush
  obtain ⟨broken, expansion, grounded⟩ := broken_block header.simple.closed header.settled
    (rest.symm ▸ body.closed) (rest.symm ▸ body.grounded)
  rw [rest, header.simple.expand_eq] at expansion
  have whole := append broken expansion (grounded header.simple.grounded)
    (fun back => by
      rw [List.append_assoc, List.append_assoc]
      exact flush_append header.simple _) behind after
  have title : header.text ++ ':' :: '\n' :: Text.indent 1 (expand inside) =
      header.text ++ [':'] ++ '\n' :: Text.indent 1 (expand inside) := by
    rw [List.append_assoc]
    rfl
  rw [title, tidyLines_append_newline, header.simple.tidyLines_header, tidyLines_indent, body.tidy,
    List.append_assoc _ ['}'], List.append_assoc [_]] at whole
  exact whole

/-- Every written form of a program is laid out as its tree says. -/
theorem of_written {tree : Tree} {source : Text} (written : tree.Written source) :
    Laid source (tree.layout 0) := by
  induction written with
  | empty => exact empty
  | last line => exact simple line.simple
  | statement line blanks _ after => exact statement line.simple blanks after
  | block header before behind _ _ body after =>
      have whole := block header before behind body after
      rwa [← Tree.layout_succ] at whole
  | separated header before behind blanks _ _ body after =>
      -- the semicolon behind a block is an item without a line
      have whole := block header before behind body (separator blanks after)
      rwa [← Tree.layout_succ] at whole

end Laid

/-- A block program in any of its written forms is expanded to one line for each
statement and each header, in order, indented by four blanks for each block around
it.  Blank lines and blanks at the ends of lines are left out of account. -/
theorem tidyLines_expand_written {tree : Tree} {source : Text} (written : tree.Written source) :
    tidyLines (expand source) = tree.layout 0 :=
  (Laid.of_written written).tidy

theorem tidyLines_expand_nested :
    (Tree.block ⟨⟨"for x in _ ".toList, by decide⟩, by decide⟩
      (.block ⟨⟨"if x".toList, by decide⟩, by decide⟩
        (.statement ⟨"d = \x7b1: ';'\x7d ".toList, by decide⟩ .empty)
        (.statement ⟨"a".toList, by decide⟩ .empty))
      (.statement ⟨"out('\x7d')".toList, by decide⟩ .empty)).Written
      "for x in _ \x7b  if x\x7b d = \x7b1: ';'\x7d \x7d a\x7d ;out('\x7d')".toList ∧
    tidyLines (expand "for x in _ \x7b  if x\x7b d = \x7b1: ';'\x7d \x7d a\x7d ;out('\x7d')".toList) =
      ["for x in _ :".toList, "    if x:".toList, "        d = \x7b1: ';'\x7d".toList, "    a".toList,
        "out('\x7d')".toList] := by
  have written := Tree.Written.separated ⟨⟨"for x in _ ".toList, by decide⟩, by decide⟩ 2 1 0
    (Tree.Written.block ⟨⟨"if x".toList, by decide⟩, by decide⟩ 1 1
      (Tree.Written.last ⟨"d = \x7b1: ';'\x7d ".toList, by decide⟩)
      (Tree.Written.last ⟨"a".toList, by decide⟩))
    (Tree.Written.last ⟨"out('\x7d')".toList, by decide⟩)
  exact ⟨written, (tidyLines_expand_written written).trans (by decide)⟩

end Braces
end Oneliner
