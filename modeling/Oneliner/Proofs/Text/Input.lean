import Mathlib.Data.List.TakeWhile
import Oneliner.Text.Basic

namespace Oneliner
namespace Text

/-!
The lines of an input: each one ends in its newline, except perhaps the last.
-/

/-- A line of an input without its newline. -/
def unended (line : Text) : Text :=
  line.takeWhile (· ≠ '\n')

theorem newline_not_mem_unended (line : Text) : '\n' ∉ line.unended := by
  intro member
  rw [unended] at member
  have other := List.mem_takeWhile_imp member
  simp at other

/-- A line of an input: a newline stands at the end or nowhere in it. -/
structure IsInputLine (line : Text) : Prop where
  ending : line = line.unended ++ ['\n'] ∨ line = line.unended ∧ line ≠ []

theorem unended_cons {char : Char} (other : char ≠ '\n') (rest : Text) :
    unended (char :: rest) = char :: unended rest := by
  rw [unended, List.takeWhile_cons_of_pos (by simpa using other)]
  rfl

theorem IsInputLine.cons {line : Text} (isLine : line.IsInputLine) {char : Char}
    (other : char ≠ '\n') : IsInputLine (char :: line) := by
  constructor
  rw [unended_cons other]
  rcases isLine.ending with ended | ⟨same, _⟩
  · exact .inl (congrArg (char :: ·) ended)
  · exact .inr ⟨congrArg (char :: ·) same, List.cons_ne_nil char line⟩

theorem isInputLine_of_mem {text line : Text} (member : line ∈ text.inputLines) :
    line.IsInputLine := by
  induction text generalizing line with
  | nil => cases member
  | cons char rest restLines =>
      rw [inputLines] at member
      by_cases newline : char = '\n'
      · rw [if_pos newline] at member
        rcases List.mem_cons.mp member with rfl | later
        · exact ⟨.inl (by rw [newline]; rfl)⟩
        · exact restLines later
      · rw [if_neg newline] at member
        cases lines : inputLines rest with
        | nil =>
            rw [lines] at member
            rw [List.mem_singleton.mp member]
            exact ⟨.inr ⟨(unended_cons newline []).symm, List.cons_ne_nil char []⟩⟩
        | cons first later =>
            rw [lines] at member restLines
            rcases List.mem_cons.mp member with rfl | inLater
            · exact (restLines List.mem_cons_self).cons newline
            · exact restLines (List.mem_cons_of_mem first inLater)

/-- Taking newlines from the end of a line leaves what is before its newline. -/
theorem IsInputLine.dropEnding {line : Text} (isLine : line.IsInputLine) :
    line.dropEnding ['\n'] = line.unended := by
  have kept : line.unended.reverse.dropWhile (List.contains ['\n']) = line.unended.reverse := by
    cases reversed : line.unended.reverse with
    | nil => rfl
    | cons last earlier =>
        have member : last ∈ line.unended := by
          rw [← List.mem_reverse, reversed]
          exact List.mem_cons_self
        have other : last ≠ '\n' := fun same => newline_not_mem_unended line (same ▸ member)
        rw [List.dropWhile_cons_of_neg (by simpa using other)]
  have dropped : line.reverse.dropWhile (List.contains ['\n']) = line.unended.reverse := by
    rcases isLine.ending with ended | ⟨same, _⟩
    · have reversed : line.reverse = '\n' :: line.unended.reverse :=
        (congrArg List.reverse ended).trans List.reverse_append
      rw [reversed, List.dropWhile_cons_of_pos (by decide), kept]
    · have reversed : line.reverse = line.unended.reverse := congrArg List.reverse same
      rw [reversed, kept]
  rw [Text.dropEnding, dropped, List.reverse_reverse]

/-- The lines make up the input. -/
theorem flatten_inputLines (text : Text) : text.inputLines.flatten = text := by
  induction text with
  | nil => rfl
  | cons char rest restLines =>
      rw [inputLines]
      split
      · rw [List.flatten_cons, restLines]
        rfl
      · cases lines : inputLines rest with
        | nil =>
            rw [lines] at restLines
            rw [← restLines]
            rfl
        | cons first later =>
            rw [lines] at restLines
            rw [← restLines]
            rfl

/-- Behind a newline the lines are those of what comes there. -/
theorem inputLines_append {front : Text} (ended : front = [] ∨ front.getLast? = some '\n')
    (back : Text) : inputLines (front ++ back) = front.inputLines ++ back.inputLines := by
  induction front with
  | nil => rfl
  | cons char rest restLines =>
      by_cases newline : char = '\n'
      · have restEnded : rest = [] ∨ rest.getLast? = some '\n' := by
          cases rest with
          | nil => exact .inl rfl
          | cons => exact .inr (by simpa using ended)
        rw [List.cons_append, inputLines, inputLines, if_pos newline, if_pos newline,
          restLines restEnded, List.cons_append]
      · have filled : rest ≠ [] := by
          rintro rfl
          simp [newline] at ended
        have restEnded : rest.getLast? = some '\n' := by
          rw [← List.getLast?_cons_of_ne_nil filled]
          exact ended.resolve_left (List.cons_ne_nil char rest)
        rw [List.cons_append, inputLines, inputLines, if_neg newline, if_neg newline,
          restLines (.inr restEnded)]
        cases lines : inputLines rest with
        | nil => exact absurd (by rw [← flatten_inputLines rest, lines]; rfl) filled
        | cons first later => rfl

/-- Writing the lines again adds a newline where the last one has none. -/
theorem flatMap_unended_inputLines (text : Text) :
    text.inputLines.flatMap (fun line => line.unended ++ ['\n']) =
      text ++ if text ≠ [] ∧ text.getLast? ≠ some '\n' then ['\n'] else [] := by
  induction text with
  | nil => rfl
  | cons char rest restLines =>
      rw [inputLines]
      by_cases newline : char = '\n'
      · rw [if_pos newline, List.flatMap_cons, restLines, newline]
        cases rest <;> simp [unended]
      · rw [if_neg newline]
        cases lines : inputLines rest with
        | nil =>
            have empty : rest = [] := by
              rw [← flatten_inputLines rest, lines]
              rfl
            subst empty
            simp [unended, newline]
        | cons first later =>
            have filled : rest ≠ [] := by
              rintro rfl
              cases lines
            rw [lines, List.flatMap_cons] at restLines
            rw [List.flatMap_cons, unended_cons newline, List.cons_append, List.cons_append,
              restLines]
            simp [filled, List.getLast?_cons, List.getLast?_eq_some_getLast filled]

end Text
end Oneliner
