import Oneliner.Proofs.Braces.Composition

namespace Oneliner
namespace Braces

/-!
Where a scan finds the end of a literal.

In a literal a backslash and the character behind it belong together.  A scan
looks at one character before the current one only, so a backslash that is itself
escaped counts for it as one that escapes.  Inside a literal this does no harm,
since what the scan takes for escaped would not have ended the literal anyway.
It does at the end: behind an escaped backslash the closing mark is taken for a
part of the literal, and all that follows for quoted text.
-/

/-- The marks between which a literal stands. -/
inductive Quotation where
  | single
  | double
  deriving DecidableEq, Repr

def Quotation.char : Quotation -> Char
  | single => '\''
  | double => '"'

/-- What a literal on one line consists of: ordinary characters and escapes of
two characters each. -/
inductive LiteralItem (mark : Quotation) where
  | ordinary (char : Char) (plain : char ≠ mark.char ∧ char ≠ '\\' ∧ char ≠ '\n')
  | escape (char : Char) (sameLine : char ≠ '\n')

namespace LiteralItem

variable {mark : Quotation}

def text : LiteralItem mark -> Text
  | ordinary char _ => [char]
  | escape char _ => ['\\', char]

/-- Whether the item is an escaped backslash. -/
def isBackslash : LiteralItem mark -> Bool
  | ordinary .. => false
  | escape char _ => char = '\\'

end LiteralItem

/-- The literal with the given items. -/
def literal (mark : Quotation) (items : List (LiteralItem mark)) : Text :=
  mark.char :: (items.flatMap LiteralItem.text ++ [mark.char])

namespace Scan

/-- The scan stands in a literal on level ground, with nothing else open. -/
structure InLiteral (mark : Char) (scan : Scan) : Prop where
  quote : scan.quote = some mark
  parens : scan.parens = 0
  squares : scan.squares = 0
  braces : scan.braces = 0
  level : scan.level = 0
  settled : scan.atBreak = false

namespace InLiteral

variable {mark : Char} {scan : Scan}

theorem role_plain (within : scan.InLiteral mark) (next : Option Char) {char : Char}
    (kept : char ≠ mark ∨ scan.previous = some '\\') : scan.role next char = .plain := by
  rw [role, within.settled, within.quote]
  rcases kept with other | behind
  · simp [other]
  · simp [behind]

theorem advance_plain (within : scan.InLiteral mark) (char : Char) :
    (scan.advance .plain char).InLiteral mark where
  quote := within.quote
  parens := within.parens
  squares := within.squares
  braces := within.braces
  level := within.level
  settled := rfl

/-- A character that does not end the literal is copied. -/
theorem output_plain (within : scan.InLiteral mark) {char : Char}
    (kept : char ≠ mark ∨ scan.previous = some '\\') (sameLine : char ≠ '\n') (rest : Text) :
    scan.output (char :: rest) = char :: (scan.advance .plain char).output rest := by
  rw [output_cons, within.role_plain rest.head? kept,
    piece_of_kept Role.noConfusion rfl, if_neg sameLine]
  rfl

/-- An item is copied, and the scan stays in the literal.  What it remembers of the
item is whether it was an escaped backslash. -/
theorem run_item {mark : Quotation} (within : scan.InLiteral mark.char) (item : LiteralItem mark) :
    exists later : Scan, later.InLiteral mark.char ∧
      (later.previous = some '\\' ↔ item.isBackslash = true) ∧
      forall rest, scan.output (item.text ++ rest) = item.text ++ later.output rest ∧
        scan.finish (item.text ++ rest) = later.finish rest := by
  cases item with
  | ordinary char plain =>
      obtain ⟨inside, other, sameLine⟩ := plain
      refine ⟨scan.advance .plain char, within.advance_plain char, ?_, fun rest => ⟨?_, ?_⟩⟩
      · simp [previous_advance, LiteralItem.isBackslash, other]
      · exact within.output_plain (.inl inside) sameLine rest
      · rw [LiteralItem.text, List.singleton_append, finish_cons,
          within.role_plain rest.head? (.inl inside)]
  | escape char sameLine =>
      -- the backslash is no mark, and the character behind it is escaped
      have backslash : '\\' ≠ mark.char := by cases mark <;> decide
      have begun := within.advance_plain '\\'
      have escaped : (scan.advance .plain '\\').previous = some '\\' := previous_advance ..
      refine ⟨(scan.advance .plain '\\').advance .plain char, begun.advance_plain char, ?_,
        fun rest => ⟨?_, ?_⟩⟩
      · simp [previous_advance, LiteralItem.isBackslash]
      · rw [LiteralItem.text, List.cons_append,
          within.output_plain (.inl backslash) (by decide) ([char] ++ rest), List.singleton_append,
          begun.output_plain (.inr escaped) sameLine rest]
        rfl
      · rw [LiteralItem.text, List.cons_append, finish_cons,
          within.role_plain _ (.inl backslash), List.singleton_append, finish_cons,
          begun.role_plain _ (.inr escaped)]

/-- All items are copied, and of them only the last one is remembered. -/
theorem run_items {mark : Quotation} (within : scan.InLiteral mark.char)
    (items : List (LiteralItem mark)) :
    exists later : Scan, later.InLiteral mark.char ∧
      (later.previous = some '\\' ↔
        items.getLast?.elim (scan.previous = some '\\') (·.isBackslash = true)) ∧
      forall rest, scan.output (items.flatMap LiteralItem.text ++ rest) =
          items.flatMap LiteralItem.text ++ later.output rest ∧
        scan.finish (items.flatMap LiteralItem.text ++ rest) = later.finish rest := by
  induction items generalizing scan with
  | nil => exact ⟨scan, within, Iff.rfl, fun _ => ⟨rfl, rfl⟩⟩
  | cons item items ih =>
      obtain ⟨middle, inside, remembered, copied⟩ := within.run_item item
      obtain ⟨later, still, last, rest⟩ := ih inside
      refine ⟨later, still, ?_, fun tail => ?_⟩
      · rw [last, List.getLast?_cons]
        cases items.getLast? with
        | none => exact remembered
        | some _ => rfl
      · rw [List.flatMap_cons, List.append_assoc, (copied _).1, (copied _).2, (rest tail).1,
          (rest tail).2, List.append_assoc]
        exact ⟨rfl, rfl⟩

/-- The mark at the end is copied as well.  It closes the literal unless it stands
behind a backslash. -/
theorem run_mark {mark : Quotation} (within : scan.InLiteral mark.char) :
    (scan.previous ≠ some '\\' -> (scan.finish [mark.char]).Outside 0) ∧
      (scan.previous = some '\\' -> (scan.finish [mark.char]).InLiteral mark.char) ∧
      scan.output [mark.char] = [mark.char] := by
  have visible : mark.char ≠ '\n' := by cases mark <;> decide
  have notEscape : mark.char ≠ '\\' := by cases mark <;> decide
  by_cases behind : scan.previous = some '\\'
  · refine ⟨fun other => absurd behind other, fun _ => ?_, within.output_plain (.inr behind) visible []⟩
    rw [finish_cons, within.role_plain _ (.inr behind)]
    exact within.advance_plain mark.char
  · have closes : scan.role none mark.char = .closeQuote := by
      simp [role, within.settled, within.quote, behind]
    refine ⟨fun _ => ?_, fun other => absurd other behind, ?_⟩
    · rw [finish_cons, List.head?_nil, closes]
      exact ⟨rfl, within.parens, within.squares, within.braces, within.level,
        fun same => notEscape (Option.some.inj same)⟩
    · rw [output_cons, List.head?_nil, closes, piece_of_kept Role.noConfusion rfl, if_neg visible]
      rfl

end InLiteral
end Scan

/-! ## Literals from the start -/

theorem inLiteral_start (mark : Quotation) :
    (Scan.start.advance .openQuote mark.char).InLiteral mark.char :=
  ⟨rfl, rfl, rfl, rfl, rfl, rfl⟩

theorem role_start (mark : Quotation) (next : Option Char) :
    Scan.start.role next mark.char = .openQuote := by
  cases mark <;> rfl

/-- A literal is copied.  Behind it the scan has left it, unless its last item is an
escaped backslash. -/
theorem run_literal (mark : Quotation) (items : List (LiteralItem mark)) :
    expand (literal mark items) = literal mark items ∧
      (items.getLast?.any LiteralItem.isBackslash = false -> Closed (literal mark items)) ∧
      (items.getLast?.any LiteralItem.isBackslash = true ->
        (Scan.start.finish (literal mark items)).InLiteral mark.char) := by
  obtain ⟨later, within, last, copied⟩ := (inLiteral_start mark).run_items items
  obtain ⟨closes, goesOn, markCopied⟩ := within.run_mark
  have finished : Scan.start.finish (literal mark items) = later.finish [mark.char] := by
    rw [literal, Scan.finish_cons, role_start, (copied [mark.char]).2]
  have remembered : later.previous = some '\\' ↔
      items.getLast?.any LiteralItem.isBackslash = true := by
    rw [last]
    cases items.getLast? with
    | none => cases mark <;> simp [Scan.advance, Quotation.char]
    | some _ => rfl
  refine ⟨?_, fun plain => ?_, fun backslash => ?_⟩
  · have visible : mark.char ≠ '\n' := by cases mark <;> decide
    rw [Scan.expand_eq_output, literal, Scan.output_cons, role_start, (copied [mark.char]).1,
      markCopied, piece_of_kept Role.noConfusion rfl, if_neg visible]
    rfl
  · rw [closed_iff_outside, finished]
    apply closes
    rw [Ne, remembered, plain]
    decide
  · rw [finished]
    exact goesOn (remembered.mpr backslash)

/-- What comes behind a literal and a separator is expanded on its own, exactly if
the literal does not end in an escaped backslash.  If it does, the separator is
taken for a part of the literal. -/
theorem expand_literal_iff (mark : Quotation) (items : List (LiteralItem mark)) (tail : Text) :
    expand (literal mark items ++ ';' :: tail) =
        literal mark items ++ '\n' :: expand (dropBlanks tail) ↔
      items.getLast?.any LiteralItem.isBackslash = false := by
  obtain ⟨copied, closed, goesOn⟩ := run_literal mark items
  constructor
  · intro divided
    rw [← Bool.not_eq_true]
    intro backslash
    have within := goesOn backslash
    have other : ';' ≠ mark.char := by cases mark <;> decide
    rw [Scan.expand_eq_output, Scan.output_append _ (by simp), ← Scan.expand_eq_output, copied,
      within.output_plain (.inl other) (by decide)] at divided
    have first := (List.cons.inj (List.append_cancel_left divided)).1
    exact absurd first (by decide)
  · intro plain
    rw [expand_separator (closed plain), copied]

/-- Behind a literal that is one escaped backslash, a separator is not found. -/
theorem expand_literal_backslash :
    literal .single [.escape '\\' (by decide)] = "'\\\\'".toList ∧
      expand ("'\\\\'".toList ++ ';' :: "x".toList) = "'\\\\';x".toList ∧
      expand ("'\\\\'".toList ++ ';' :: "x".toList) ≠
        "'\\\\'".toList ++ '\n' :: expand (dropBlanks "x".toList) := by
  decide

end Braces
end Oneliner
