import Oneliner.Text.Indent

namespace Oneliner
namespace Text

/-!
Lines of texts and their indentation.

Division into lines is the library's division of a list at an element, so
dividing and joining undo each other.  Indentation is described twice: by lines,
each of which gets the margin, and by characters, where the margin follows every
newline and also stands in front of the whole text.
-/

theorem split_eq_splitOn (mark : Char) (text : Text) : split mark text = text.splitOn mark := by
  induction text with
  | nil => rfl
  | cons char rest ih =>
      rw [split, ih, List.splitOn_cons_eq_if_modifyHead]
      by_cases found : char = mark
      · simp [found]
      · have some : rest.splitOn mark ≠ [] := List.splitOn_ne_nil mark rest
        cases parts : rest.splitOn mark with
        | nil => exact absurd parts some
        | cons part later => simp [found]

theorem lines_append_newline (front back : Text) :
    lines (front ++ '\n' :: back) = lines front ++ lines back := by
  simp only [lines, split_eq_splitOn]
  exact List.splitOn_append_cons_self front back

theorem lines_of_not_mem {text : Text} (single : '\n' ∉ text) : lines text = [text] := by
  rw [lines, split_eq_splitOn]
  exact List.splitOn_eq_singleton single

theorem joinLines_lines (text : Text) : joinLines text.lines = text := by
  rw [joinLines, lines, split_eq_splitOn]
  exact List.intercalate_splitOn '\n'

theorem lines_joinLines {parts : List Text} (clean : forall part, part ∈ parts -> '\n' ∉ part)
    (some : parts ≠ []) : lines (joinLines parts) = parts := by
  rw [joinLines, lines, split_eq_splitOn]
  exact List.splitOn_intercalate '\n' clean some

theorem lines_ne_nil (text : Text) : text.lines ≠ [] := by
  rw [lines, split_eq_splitOn]
  exact List.splitOn_ne_nil '\n' text

theorem lines_cons_of_ne {char : Char} (inLine : char ≠ '\n') (rest : Text) :
    lines (char :: rest) = rest.lines.modifyHead (char :: ·) := by
  rw [lines, lines, split, if_neg inLine]
  cases parts : split '\n' rest with
  | nil => exact absurd parts (lines_ne_nil rest)
  | cons part later => rfl

/-- What stands in front of the first newline belongs to the first line. -/
theorem lines_append {front back : Text} (single : '\n' ∉ front) :
    lines (front ++ back) = back.lines.modifyHead (front ++ ·) := by
  induction front with
  | nil =>
      rw [List.nil_append]
      cases lines back <;> rfl
  | cons char rest ih =>
      rw [List.mem_cons, not_or] at single
      rw [List.cons_append, lines_cons_of_ne (Ne.symm single.1), ih single.2]
      cases lines back <;> rfl

theorem not_mem_of_mem_lines {text line : Text} (member : line ∈ text.lines) : '\n' ∉ line := by
  induction text generalizing line with
  | nil => simp_all [lines, split]
  | cons char rest ih =>
      simp only [lines, split] at member
      by_cases newline : char = '\n'
      · rw [if_pos newline] at member
        rcases List.mem_cons.mp member with first | later
        · simp [first]
        · exact ih later
      · rw [if_neg newline] at member
        cases parts : split '\n' rest with
        | nil => exact absurd parts (lines_ne_nil rest)
        | cons part later =>
            rw [parts] at member
            have clean : '\n' ∉ part := ih (by rw [lines, parts]; exact List.mem_cons_self)
            rcases List.mem_cons.mp member with first | other
            · rw [first, List.mem_cons]
              exact fun found => found.elim (fun same => newline same.symm) clean
            · exact ih (by rw [lines, parts]; exact List.mem_cons_of_mem part other)

/-! ## Margins -/

theorem mem_margin {level : Int} {char : Char} (member : char ∈ margin level) : char = ' ' :=
  List.eq_of_mem_replicate member

theorem newline_not_mem_margin (level : Int) : '\n' ∉ margin level := by
  intro member
  exact absurd (mem_margin member) (by decide)

theorem margin_add {level depth : Int} (above : 0 ≤ level) (deeper : 0 ≤ depth) :
    margin (level + depth) = margin depth ++ margin level := by
  rw [margin, margin, margin, spaces, spaces, spaces, List.replicate_append_replicate,
    Int.toNat_add above deeper, Nat.mul_add, Nat.add_comm]

/-! ## Indentation -/

theorem lines_indent (level : Int) (text : Text) :
    (text.indent level).lines = text.lines.map (margin level ++ ·) := by
  rw [indent]
  apply lines_joinLines
  · intro part member
    obtain ⟨line, lineMember, same⟩ := List.mem_map.mp member
    rw [← same, List.mem_append]
    exact fun found => found.elim (newline_not_mem_margin level) (not_mem_of_mem_lines lineMember)
  · simpa using lines_ne_nil text

/-- The text with the margin of the given level after each of its newlines. -/
def deepen (level : Int) (text : Text) : Text :=
  text.flatMap (fun char => if char = '\n' then '\n' :: margin level else [char])

theorem deepen_append (level : Int) (front back : Text) :
    deepen level (front ++ back) = deepen level front ++ deepen level back :=
  List.flatMap_append

theorem deepen_of_not_mem {level : Int} {text : Text} (single : '\n' ∉ text) :
    deepen level text = text := by
  induction text with
  | nil => rfl
  | cons char rest ih =>
      rw [List.mem_cons, not_or] at single
      rw [deepen, List.flatMap_cons, if_neg (Ne.symm single.1)]
      exact congrArg (char :: ·) (ih single.2)

theorem length_deepen (level : Int) (text : Text) :
    (deepen level text).length = text.length + text.count '\n' * (margin level).length := by
  induction text with
  | nil => simp [deepen]
  | cons char rest ih =>
      rw [deepen, List.flatMap_cons, List.length_append, ← deepen, ih]
      by_cases newline : char = '\n'
      · rw [newline, if_pos rfl, List.count_cons_self, Nat.add_mul, List.length_cons, List.length_cons]
        omega
      · rw [if_neg newline, List.count_cons_of_ne newline, List.length_singleton, List.length_cons]
        omega

/-- The margins are seen, unless there are no lines to put them in front of or no blanks in
them. -/
theorem deepen_eq_self_iff {level : Int} {text : Text} :
    deepen level text = text ↔ level ≤ 0 ∨ '\n' ∉ text := by
  constructor
  · intro same
    have length := congrArg List.length same
    rw [length_deepen, margin, spaces, List.length_replicate, indentWidth] at length
    by_cases member : '\n' ∈ text
    · have some : 0 < text.count '\n' := List.count_pos_iff.mpr member
      have none : text.count '\n' * (4 * level.toNat) = 0 := by omega
      rcases Nat.mul_eq_zero.mp none with empty | flat
      · omega
      · exact .inl (by omega)
    · exact .inr member
  · rintro (flat | single)
    · have empty : margin level = [] := by
        rw [margin, Int.toNat_of_nonpos flat]
        rfl
      induction text with
      | nil => rfl
      | cons char rest ih =>
          rw [deepen, List.flatMap_cons, ← deepen, ih, empty]
          by_cases newline : char = '\n' <;> simp [newline]
    · exact deepen_of_not_mem single

theorem deepen_cons_newline (level : Int) (rest : Text) :
    deepen level ('\n' :: rest) = '\n' :: (margin level ++ deepen level rest) := rfl

private theorem joinLines_margins (level : Int) {parts : List Text}
    (clean : forall part, part ∈ parts -> '\n' ∉ part) (some : parts ≠ []) :
    joinLines (parts.map (margin level ++ ·)) = margin level ++ deepen level (joinLines parts) := by
  induction parts with
  | nil => exact absurd rfl some
  | cons first later ih =>
      have firstClean : '\n' ∉ first := clean first List.mem_cons_self
      cases later with
      | nil =>
          simp only [joinLines, List.map_cons, List.map_nil, List.intercalate_singleton]
          rw [deepen_of_not_mem firstClean]
      | cons second others =>
          have tail := ih (fun part member => clean part (List.mem_cons_of_mem first member))
            (List.cons_ne_nil second others)
          have joined : joinLines (first :: second :: others) =
              first ++ '\n' :: joinLines (second :: others) := by
            simp [joinLines]
          rw [joined, deepen_append, deepen_of_not_mem firstClean, deepen_cons_newline, ← tail]
          simp [joinLines]

/-- Indentation by characters. -/
theorem indent_eq_deepen (level : Int) (text : Text) :
    text.indent level = margin level ++ deepen level text := by
  rw [indent, joinLines_margins level (fun _ => not_mem_of_mem_lines) (lines_ne_nil text),
    joinLines_lines]

/-- Indentation adds nothing but blanks. -/
theorem mem_of_mem_indent {level : Int} {text : Text} {char : Char}
    (member : char ∈ text.indent level) : char = ' ' ∨ char ∈ text := by
  rw [indent_eq_deepen, List.mem_append, deepen, List.mem_flatMap] at member
  rcases member with inMargin | ⟨source, inText, copied⟩
  · exact .inl (mem_margin inMargin)
  · split at copied
    · rename_i newline
      rcases List.mem_cons.mp copied with same | inMargin
      · exact .inr (by rw [same, ← newline]; exact inText)
      · exact .inl (mem_margin inMargin)
    · exact .inr (List.mem_singleton.mp copied ▸ inText)

end Text
end Oneliner
