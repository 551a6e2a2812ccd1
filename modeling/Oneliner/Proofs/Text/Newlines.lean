import Oneliner.Proofs.Text.Lines
import Oneliner.Text.Blank

namespace Oneliner
namespace Text

/-!
Carriage returns in front of newlines, and white space at the end.

Where every carriage return stands in front of a newline, bringing the line ends
into one form only leaves the carriage returns out, and that goes together with
indentation and with stripping white space.
-/

/-- Whether every carriage return stands in front of a newline. -/
def paired : Text -> Bool
  | [] => true
  | '\r' :: '\n' :: rest => paired rest
  | char :: rest => char ≠ '\r' && paired rest

/-- The text without its carriage returns. -/
def withoutReturns (text : Text) : Text :=
  text.filter (· ≠ '\r')

theorem withoutReturns_append (front back : Text) :
    withoutReturns (front ++ back) = withoutReturns front ++ withoutReturns back :=
  List.filter_append ..

theorem paired_cons {char : Char} (plain : char ≠ '\r') (rest : Text) :
    paired (char :: rest) = paired rest := by
  simp [paired, plain]

theorem normalizeNewlines_of_paired {text : Text} (pairs : text.paired = true) :
    text.normalizeNewlines = text.withoutReturns := by
  fun_induction paired text with
  | case1 => rfl
  | case2 rest restNormal =>
      rw [normalizeNewlines, restNormal pairs]
      rfl
  | case3 char rest apart restNormal =>
      rw [Bool.and_eq_true, decide_eq_true_eq] at pairs
      simp [normalizeNewlines, pairs.1, restNormal pairs.2, withoutReturns]

theorem paired_of_not_mem {text : Text} (plain : '\r' ∉ text) : text.paired = true := by
  induction text with
  | nil => rfl
  | cons char rest restPaired =>
      rw [List.mem_cons, not_or] at plain
      rw [paired_cons (Ne.symm plain.1)]
      exact restPaired plain.2

theorem normalizeNewlines_of_not_mem {text : Text} (plain : '\r' ∉ text) :
    text.normalizeNewlines = text := by
  rw [normalizeNewlines_of_paired (paired_of_not_mem plain), withoutReturns, List.filter_eq_self]
  exact fun _ member => decide_eq_true (ne_of_mem_of_not_mem member plain)

theorem paired_append {front back : Text} (frontPairs : front.paired = true)
    (backPairs : back.paired = true) : (front ++ back).paired = true := by
  fun_induction paired front with
  | case1 => exact backPairs
  | case2 rest restPaired => exact restPaired frontPairs
  | case3 char rest apart restPaired =>
      rw [Bool.and_eq_true, decide_eq_true_eq] at frontPairs
      rw [List.cons_append, paired_cons frontPairs.1]
      exact restPaired frontPairs.2

theorem return_not_mem_margin (level : Int) : '\r' ∉ margin level := by
  intro member
  exact absurd (mem_margin member) (by decide)

theorem paired_indent {text : Text} (pairs : text.paired = true) (level : Int) :
    (text.indent level).paired = true := by
  have marginPairs : (margin level).paired = true := paired_of_not_mem (return_not_mem_margin level)
  rw [indent_eq_deepen]
  apply paired_append marginPairs
  fun_induction paired text with
  | case1 => rfl
  | case2 rest restPaired =>
      have later : (margin level ++ deepen level rest).paired = true :=
        paired_append marginPairs (restPaired pairs)
      exact later
  | case3 char rest apart restPaired =>
      rw [Bool.and_eq_true, decide_eq_true_eq] at pairs
      rw [deepen, List.flatMap_cons]
      apply paired_append _ (restPaired pairs.2)
      split
      · exact marginPairs
      · simp [paired, pairs.1]

theorem withoutReturns_indent (level : Int) (text : Text) :
    (text.indent level).withoutReturns = text.withoutReturns.indent level := by
  have marginPlain : (margin level).withoutReturns = margin level := by
    rw [withoutReturns, List.filter_eq_self]
    intro char member
    rw [mem_margin member]
    rfl
  rw [indent_eq_deepen, indent_eq_deepen, withoutReturns_append, marginPlain]
  congr 1
  induction text with
  | nil => rfl
  | cons char rest restPlain =>
      rw [deepen, List.flatMap_cons, withoutReturns_append]
      by_cases newline : char = '\n'
      · subst newline
        rw [if_pos rfl]
        change '\n' :: ((margin level).withoutReturns ++ (deepen level rest).withoutReturns) = _
        rw [marginPlain, restPlain]
        rfl
      · rw [if_neg newline]
        by_cases return' : char = '\r'
        · subst return'
          exact restPlain
        · have kept : forall more : Text,
              withoutReturns (char :: more) = char :: withoutReturns more :=
            fun more => List.filter_cons_of_pos (decide_eq_true return')
          rw [kept, kept, ← deepen, restPlain, deepen, deepen, List.flatMap_cons, if_neg newline]
          rfl

theorem normalizeNewlines_cons {char : Char} (plain : char ≠ '\r') (rest : Text) :
    normalizeNewlines (char :: rest) = char :: normalizeNewlines rest := by
  simp [normalizeNewlines, plain]

/-- Behind a newline the line ends are brought into one form as they are alone. -/
theorem normalizeNewlines_append_newline (front back : Text) :
    normalizeNewlines (front ++ '\n' :: back) =
      normalizeNewlines (front ++ ['\n']) ++ normalizeNewlines back := by
  fun_induction normalizeNewlines front with
  | case1 => rfl
  | case2 rest restNormal => exact congrArg ('\n' :: ·) restNormal
  | case3 rest apart restNormal =>
      cases rest with
      | nil => rfl
      | cons next later =>
          have other : next ≠ '\n' := fun same => apart later (by rw [same])
          have step : forall text : Text, normalizeNewlines ('\r' :: next :: text) =
              '\n' :: normalizeNewlines (next :: text) := by
            intro text
            rw [normalizeNewlines]
            rintro more ⟨⟩
            exact other rfl
          rw [List.cons_append, List.cons_append, List.cons_append, List.cons_append, step, step]
          exact congrArg ('\n' :: ·) restNormal
  | case4 char rest _ plain restNormal =>
      rw [List.cons_append, List.cons_append, normalizeNewlines_cons plain,
        normalizeNewlines_cons plain, restNormal, List.cons_append]

/-! ## White space at the end -/

/-- A text ends in the white space that stripping takes away. -/
theorem exists_blank_end (text : Text) :
    Exists fun blanks : Text => blanks.all isBlank = true ∧ text = text.trimRight ++ blanks := by
  refine ⟨(text.reverse.takeWhile isBlank).reverse, ?_, ?_⟩
  · simp only [List.all_reverse, List.all_takeWhile]
  · rw [trimRight, ← List.reverse_append, List.takeWhile_append_dropWhile, List.reverse_reverse]

theorem isBlank_of_getLast?_trimRight {text : Text} {char : Char}
    (last : text.trimRight.getLast? = some char) : isBlank char = false := by
  have first := List.head?_dropWhile_not isBlank text.reverse
  rw [trimRight, List.getLast?_reverse] at last
  rw [last] at first
  exact first

theorem trimRight_append_blanks (front : Text) {blanks : Text} (blank : blanks.all isBlank = true) :
    (front ++ blanks).trimRight = front.trimRight := by
  rw [trimRight, List.reverse_append, List.dropWhile_append_of_pos, trimRight]
  intro char member
  exact List.all_eq_true.mp blank char (List.mem_reverse.mp member)

theorem trimRight_snoc (front : Text) {char : Char} (visible : isBlank char = false) :
    (front ++ [char]).trimRight = front ++ [char] := by
  simp [trimRight, visible]

theorem trimRight_eq_self {text : Text}
    (visible : forall char, text.getLast? = some char -> isBlank char = false) :
    text.trimRight = text := by
  rcases List.eq_nil_or_concat text with empty | ⟨front, char, split⟩
  · rw [empty]
    rfl
  · subst split
    rw [List.concat_eq_append] at visible ⊢
    exact trimRight_snoc front (visible char List.getLast?_concat)

/-- What is left in front of a visible end stays. -/
theorem trimRight_append {front back : Text} (visible : back.trimRight ≠ []) :
    (front ++ back).trimRight = front ++ back.trimRight := by
  rcases exists_blank_end back with ⟨blanks, blank, split⟩
  have last : forall char, (front ++ back.trimRight).getLast? = some char -> isBlank char = false := by
    intro char found
    rw [List.getLast?_append, List.getLast?_eq_some_getLast visible] at found
    apply isBlank_of_getLast?_trimRight
    rw [List.getLast?_eq_some_getLast visible]
    exact found
  calc (front ++ back).trimRight
      _ = (front ++ back.trimRight ++ blanks).trimRight := by rw [List.append_assoc, ← split]
      _ = (front ++ back.trimRight).trimRight := trimRight_append_blanks _ blank
      _ = front ++ back.trimRight := trimRight_eq_self last

theorem all_isBlank_deepen {text : Text} (blank : text.all isBlank = true) (level : Int) :
    (text.deepen level).all isBlank = true := by
  rw [List.all_eq_true] at blank ⊢
  intro char member
  rcases List.mem_flatMap.mp member with ⟨source, inText, from'⟩
  split at from'
  · rcases List.mem_cons.mp from' with newline | inMargin
    · exact newline ▸ (by decide)
    · exact mem_margin inMargin ▸ (by decide)
  · exact List.mem_singleton.mp from' ▸ blank source inText

theorem all_isBlank_indent {text : Text} (blank : text.all isBlank = true) (level : Int) :
    (text.indent level).all isBlank = true := by
  have marginBlank : (margin level).all isBlank = true := by
    rw [List.all_eq_true]
    intro char member
    exact mem_margin member ▸ (by decide)
  rw [indent_eq_deepen, List.all_append, marginBlank, all_isBlank_deepen blank]
  rfl

theorem indent_ne_nil {text : Text} (some : text ≠ []) (level : Int) : text.indent level ≠ [] := by
  rcases List.exists_cons_of_ne_nil some with ⟨char, rest, rfl⟩
  rw [indent_eq_deepen, deepen, List.flatMap_cons]
  split <;> simp

/-- White space at the end is stripped from an indented text as from the text. -/
theorem trimRight_indent {text : Text} (visible : text.trimRight ≠ []) (level : Int) :
    (text.indent level).trimRight = text.trimRight.indent level := by
  rcases exists_blank_end text with ⟨blanks, blank, split⟩
  rcases (List.eq_nil_or_concat text.trimRight).resolve_left visible with ⟨front, char, last⟩
  rw [List.concat_eq_append] at last
  have charVisible : isBlank char = false :=
    isBlank_of_getLast?_trimRight (by rw [last]; exact List.getLast?_concat)
  have single : '\n' ∉ [char] := by
    intro member
    rw [← List.mem_singleton.mp member] at charVisible
    exact absurd charVisible (by decide)
  rw [indent_eq_deepen, indent_eq_deepen]
  conv => lhs; rw [split, deepen_append, ← List.append_assoc]
  rw [trimRight_append_blanks _ (all_isBlank_deepen blank level), last, deepen_append,
    deepen_of_not_mem single, ← List.append_assoc]
  exact trimRight_snoc _ charVisible

end Text
end Oneliner
