import Oneliner.Proofs.Braces.Literals

namespace Oneliner
namespace Braces

/-!
Quoted text in a source, wherever it stands.

Between the mark that opens a literal and the mark that closes it, a scan does nothing
but copy.  It forgets all that it has read there, so behind the literal it goes on in the
same way whatever the literal was.  What it copies stays as it is on a single line.  A
newline in the literal, however, gets the margin of the block around it like any other
newline of the source, so that the literal is another one in the indented program.
-/

namespace Scan

/-- The scan stands in a literal, at any depth and with anything open around it. -/
structure Within (mark : Char) (scan : Scan) : Prop where
  quote : scan.quote = some mark
  settled : scan.atBreak = false

/-- The state in which a scan leaves a literal by the given mark. -/
def leave (scan : Scan) (mark : Char) : Scan :=
  { scan with previous := some mark, quote := none, declaring := false, atBreak := false }

/-- A character that is copied gets a margin only if it is a newline. -/
theorem piece_advance_of_kept (scan : Scan) {role : Role} (read : role ≠ .skipped)
    (kept : role.breaks = false) (char : Char) :
    piece (scan.advance role char).level role char = Text.deepen scan.level [char] := by
  rw [level_advance, rise_of_kept kept, Int.add_zero, piece_of_kept read kept]
  exact (List.append_nil _).symm

namespace Within

variable {mark : Char} {scan : Scan}

/-- In a literal only its mark can have a meaning, and only if it is not escaped. -/
theorem role_eq (within : scan.Within mark) (next : Option Char) (char : Char) :
    scan.role next char =
      if char = mark ∧ scan.previous ≠ some '\\' then .closeQuote else .plain := by
  rw [role, within.settled, within.quote]
  by_cases same : char = mark <;> by_cases behind : scan.previous = some '\\' <;> simp [same, behind]

theorem role_eq_plain (within : scan.Within mark) {next : Option Char} {char : Char}
    (stays : scan.role next char ≠ .closeQuote) : scan.role next char = .plain := by
  rw [within.role_eq] at stays ⊢
  split at stays
  · exact absurd rfl stays
  · rename_i other
    rw [if_neg other]

theorem advance (within : scan.Within mark) (char : Char) :
    (scan.advance .plain char).Within mark where
  quote := within.quote
  settled := rfl

theorem of_openQuote (scan : Scan) (mark : Char) : (scan.advance .openQuote mark).Within mark where
  quote := rfl
  settled := rfl

end Within

/-! ## Literals on one line -/

theorem advance_closeQuote (scan : Scan) (mark : Quotation) :
    scan.advance .closeQuote mark.char = scan.leave mark.char := by
  cases mark <;> simp [advance, leave, Quotation.char]

/-- The rest of a literal on one line is copied, and nothing of it is remembered. -/
theorem Within.output_append {scan : Scan} {mark : Quotation} (within : scan.Within mark.char)
    (unescaped : scan.previous ≠ some '\\') {word : Text} (inside : mark.char ∉ word)
    (plain : '\\' ∉ word) (single : '\n' ∉ word) (back : Text) :
    scan.output (word ++ mark.char :: back) =
      word ++ mark.char :: (scan.leave mark.char).output back := by
  induction word generalizing scan with
  | nil =>
      have closes : scan.role back.head? mark.char = .closeQuote := by
        rw [within.role_eq, if_pos ⟨rfl, unescaped⟩]
      have visible : '\n' ∉ [mark.char] := by cases mark <;> decide
      rw [List.nil_append, output_cons, closes, piece_advance_of_kept scan Role.noConfusion rfl,
        Text.deepen_of_not_mem visible, advance_closeQuote]
      rfl
  | cons char rest ih =>
      rw [List.mem_cons, not_or] at inside plain single
      have copied : scan.role (rest ++ mark.char :: back).head? char = .plain := by
        rw [within.role_eq, if_neg fun closes => inside.1 closes.1.symm]
      have unescaped' : (scan.advance .plain char).previous ≠ some '\\' := by
        rw [previous_advance]
        exact fun same => plain.1 (Option.some.inj same).symm
      have visible : '\n' ∉ [char] := fun member => single.1 (List.mem_singleton.mp member)
      rw [List.cons_append, output_cons, copied, piece_advance_of_kept scan Role.noConfusion rfl,
        Text.deepen_of_not_mem visible,
        ih (within.advance char) unescaped' inside.2 plain.2 single.2]
      rfl

/-- A mark opens a literal outside of literals, unless it is escaped. -/
theorem role_opening {scan : Scan} (unquoted : scan.quote = none)
    (unescaped : scan.previous ≠ some '\\') (next : Option Char) (mark : Quotation) :
    scan.role next mark.char = .openQuote := by
  cases mark <;> simp [role, Quotation.char, unquoted, unescaped]

end Scan

/-- What a literal on one line holds has no influence on the rest of the expansion, wherever
the literal stands. -/
theorem expand_independent_of_word {front : Text} (unquoted : (Scan.start.finish front).quote = none)
    (unescaped : (Scan.start.finish front).previous ≠ some '\\') (mark : Quotation) (back : Text) :
    exists left right, forall word, mark.char ∉ word -> '\\' ∉ word -> '\n' ∉ word ->
      expand (front ++ mark.char :: word ++ mark.char :: back) = left ++ word ++ right := by
  let begun := (Scan.start.finish front).advance .openQuote mark.char
  refine ⟨expand front ++ [mark.char], mark.char :: (begun.leave mark.char).output back, ?_⟩
  intro word inside plain single
  have notEquals : mark.char ≠ '=' := by cases mark <;> decide
  have apart : front.getLast? = some '=' ->
      (mark.char :: (word ++ mark.char :: back)).head? ≠ some '=' :=
    fun _ same => notEquals (Option.some.inj same)
  have visible : '\n' ∉ [mark.char] := by cases mark <;> decide
  have fresh : begun.previous ≠ some '\\' := by
    rw [Scan.previous_advance]
    cases mark <;> decide
  have opens := Scan.role_opening unquoted unescaped (word ++ mark.char :: back).head? mark
  have copied : begun.output (word ++ mark.char :: back) =
      word ++ mark.char :: (begun.leave mark.char).output back :=
    (Scan.Within.of_openQuote _ mark.char).output_append fresh inside plain single back
  calc expand (front ++ mark.char :: word ++ mark.char :: back)
      _ = expand front ++ (Scan.start.finish front).output (mark.char :: (word ++ mark.char :: back)) := by
        rw [List.append_assoc, List.cons_append, Scan.expand_eq_output, Scan.output_append _ apart,
          ← Scan.expand_eq_output]
      _ = expand front ++ ([mark.char] ++ begun.output (word ++ mark.char :: back)) := by
        rw [Scan.output_cons, opens, Scan.piece_advance_of_kept _ Role.noConfusion rfl,
          Text.deepen_of_not_mem visible]
      _ = expand front ++ [mark.char] ++ word ++ mark.char :: (begun.leave mark.char).output back := by
        rw [copied, ← List.append_assoc, ← List.append_assoc]

/-- Two literals in the same place, in a call inside a block. -/
theorem expand_independent_of_word_nested :
    exists left right,
      expand "if x \x7by = f('\x7d;=[\"');z\x7d".toList = left ++ "\x7d;=[\"".toList ++ right ∧
        expand "if x \x7by = f('');z\x7d".toList = left ++ [] ++ right := by
  have begins : (Scan.start.finish "if x \x7by = f(".toList).quote = none ∧
      (Scan.start.finish "if x \x7by = f(".toList).previous ≠ some '\\' := by decide
  rcases expand_independent_of_word begins.1 begins.2 .single ");z\x7d".toList with ⟨left, right, same⟩
  exact ⟨left, right, same "\x7d;=[\"".toList (by decide) (by decide) (by decide),
    same [] (by decide) (by decide) (by decide)⟩

/-! ## Literals on several lines -/

/-- A quoted part of a source, from the mark by which the scan comes into a literal to the
mark by which it leaves the literal. -/
structure Region (source : Text) where
  front : List Event
  opening : Event
  inside : List Event
  closing : Event
  back : List Event
  course : Scan.start.events source = front ++ (opening :: inside ++ closing :: back)
  opens : opening.role = .openQuote
  stays : ∀ event ∈ inside, event.role ≠ .closeQuote
  closes : closing.role = .closeQuote

namespace Region

variable {source : Text} (region : Region source)

def events : List Event :=
  region.opening :: region.inside ++ [region.closing]

/-- The characters of the part, its marks included. -/
def text : Text :=
  region.events.map Event.char

/-- The level of the block around the part. -/
def level : Int :=
  region.opening.after.level

/-- What is put out for all that stands in front of the part. -/
def left : Text :=
  region.front.flatMap Event.piece

/-- What is put out for all that stands behind the part. -/
def right : Text :=
  region.back.flatMap Event.piece

end Region

/-- The events behind some of the events of a scan are those of another scan. -/
theorem Scan.exists_of_events_eq {scan : Scan} {text : Text} {front back : List Event}
    (course : scan.events text = front ++ back) :
    exists (later : Scan) (rest : Text), later.events rest = back := by
  induction front generalizing scan text with
  | nil => exact ⟨scan, text, course⟩
  | cons event front ih =>
      cases text with
      | nil => cases course
      | cons char rest => exact ih (List.cons.inj course).2

/-- In a literal every character is copied, up to the mark that closes it. -/
theorem Scan.Within.piece_eq {mark : Char} {scan : Scan} (within : scan.Within mark) {text : Text}
    {inside back : List Event} {closing : Event}
    (course : scan.events text = inside ++ closing :: back)
    (stays : ∀ event ∈ inside, event.role ≠ .closeQuote) (closes : closing.role = .closeQuote) :
    ∀ event ∈ inside ++ [closing], event.piece = Text.deepen scan.level [event.char] := by
  induction inside generalizing scan text with
  | nil =>
      cases text with
      | nil => cases course
      | cons char rest =>
          have last := (List.cons.inj course).1
          have role : scan.role rest.head? char = .closeQuote := by rwa [← last] at closes
          intro event member
          rw [List.mem_singleton.mp member, ← last, role]
          exact scan.piece_advance_of_kept Role.noConfusion rfl char
  | cons first inside ih =>
      cases text with
      | nil => cases course
      | cons char rest =>
          rcases List.cons.inj course with ⟨same, later⟩
          rcases List.forall_mem_cons.mp stays with ⟨staysFirst, staysInside⟩
          have plain : scan.role rest.head? char = .plain := by
            apply within.role_eq_plain
            rwa [← same] at staysFirst
          rw [plain] at same later
          have level : (scan.advance .plain char).level = scan.level := rfl
          have others := ih (within.advance char) later staysInside
          rw [level] at others
          rw [List.cons_append, List.forall_mem_cons]
          refine ⟨?_, others⟩
          rw [← same]
          exact scan.piece_advance_of_kept Role.noConfusion rfl char

theorem Region.piece_eq {source : Text} (region : Region source) :
    ∀ event ∈ region.events, event.piece = Text.deepen region.level [event.char] := by
  rcases Scan.exists_of_events_eq region.course with ⟨scan, text, course⟩
  cases text with
  | nil => cases course
  | cons mark rest =>
      rcases List.cons.inj course with ⟨first, later⟩
      have opens : scan.role rest.head? mark = .openQuote := by
        have role := region.opens
        rwa [← first] at role
      rw [opens] at first later
      have level : region.level = scan.level := by
        rw [Region.level, ← first]
        rfl
      have inside := (Scan.Within.of_openQuote scan mark).piece_eq later region.stays region.closes
      rw [Region.events, List.cons_append, List.forall_mem_cons, level]
      refine ⟨?_, inside⟩
      rw [← first]
      exact scan.piece_advance_of_kept Role.noConfusion rfl mark

/-- A quoted part is put out in its place, with the margin of its block behind each of its
newlines.  So it is copied as it is exactly if it has no newline or stands in no block. -/
theorem expand_quoted_iff {source : Text} (region : Region source) :
    expand source = region.left ++ region.text.deepen region.level ++ region.right ∧
      (expand source = region.left ++ region.text ++ region.right ↔
        region.level ≤ 0 ∨ '\n' ∉ region.text) := by
  have copied : region.events.flatMap Event.piece = region.text.deepen region.level := by
    rw [Region.text, Text.deepen, List.flatMap_map]
    apply List.flatMap_congr
    intro event member
    rw [region.piece_eq event member]
    exact List.append_nil _
  have placed : expand source = region.left ++ region.text.deepen region.level ++ region.right := by
    have course : Scan.start.events source = region.front ++ (region.events ++ region.back) := by
      rw [region.course, Region.events, List.append_assoc]
      rfl
    rw [Scan.expand_eq_output, Scan.output, course, List.flatMap_append, List.flatMap_append, copied,
      ← List.append_assoc]
    rfl
  refine ⟨placed, ?_⟩
  rw [placed, List.append_cancel_right_eq, List.append_cancel_left_eq]
  exact Text.deepen_eq_self_iff

/-- The events of a source with a literal on two lines in a block. -/
def brokenEvents : List Event :=
  Scan.start.events "if x \x7by = 'a\nb'\x7d".toList

/-- The literal on two lines. -/
def brokenRegion : Region "if x \x7by = 'a\nb'\x7d".toList where
  front := brokenEvents.take 10
  opening := brokenEvents.get ⟨10, by decide +kernel⟩
  inside := (brokenEvents.drop 11).take 3
  closing := brokenEvents.get ⟨14, by decide +kernel⟩
  back := brokenEvents.drop 15
  course := by decide +kernel
  opens := by decide +kernel
  stays := by decide +kernel
  closes := by decide +kernel

/-- A literal on two lines in a block is not found again in the indented program. -/
theorem expand_quoted_broken :
    brokenRegion.text = "'a\nb'".toList ∧ brokenRegion.level = 1 ∧
      expand "if x \x7by = 'a\nb'\x7d".toList = "if x :\n    y = 'a\n    b'\n".toList ∧
      ¬ brokenRegion.text <:+: expand "if x \x7by = 'a\nb'\x7d".toList := by
  decide +kernel

end Braces
end Oneliner
