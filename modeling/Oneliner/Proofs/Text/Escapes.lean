import Oneliner.Proofs.Text.Lines
import Oneliner.Text.Literal

namespace Oneliner
namespace Text

/-!
Escapes in a literal whose lines are moved to the right.

Behind a newline the inside of a literal may have more blanks.  They are characters
of their own there: no escape but an octal number goes on behind a newline, and the
newline ends that number.
-/

theorem deepen_cons_of_ne {level : Int} {char : Char} (single : char ≠ '\n') (rest : Text) :
    deepen level (char :: rest) = char :: deepen level rest := by
  rw [deepen, List.flatMap_cons, if_neg single]
  rfl

theorem CharacterName.find?_eq_none {name : Text} (broken : '\n' ∈ name) :
    CharacterName.find? name = none := by
  rw [CharacterName.find?, if_pos (List.contains_iff_mem.mpr broken)]

variable {Item : Type} (alphabet : Alphabet Item)

theorem isSome_unescapeFrom_spaces (count : Nat) (text : Text) :
    (unescapeFrom alphabet .outside (spaces count ++ text)).isSome =
      (unescapeFrom alphabet .outside text).isSome := by
  induction count with
  | zero => rfl
  | succ count behind =>
      rw [spaces, List.replicate_succ, List.cons_append, unescapeFrom, if_neg (by decide),
        Option.isSome_map]
      exact behind

/-- A name that goes over the end of a line belongs to nothing. -/
theorem unescapeFrom_broken {read : Text} (broken : '\n' ∈ read) (text : Text) :
    unescapeFrom alphabet (.named read) text = none := by
  induction text generalizing read with
  | nil => rfl
  | cons char rest restNone =>
      rw [unescapeFrom]
      split
      · rw [CharacterName.find?_eq_none (List.mem_reverse.mpr broken)]
        rfl
      · exact restNone (List.mem_cons_of_mem char broken)

theorem isSome_bind {First Second : Type} {found : Option First} {before after : First -> Option Second}
    (replaced : forall meant, (before meant).isSome = true -> (after meant).isSome = true)
    (complete : (found.bind before).isSome = true) : (found.bind after).isSome = true := by
  cases found with
  | none => cases complete
  | some meant => exact replaced meant complete

theorem isSome_ite {First : Type} {condition : Prop} [Decidable condition]
    {yes no yes' no' : Option First} (ifYes : yes.isSome = true -> yes'.isSome = true)
    (ifNo : no.isSome = true -> no'.isSome = true)
    (complete : (if condition then yes else no).isSome = true) :
    (if condition then yes' else no').isSome = true := by
  by_cases holds : condition
  · rw [if_pos holds] at complete ⊢
    exact ifYes complete
  · rw [if_neg holds] at complete ⊢
    exact ifNo complete

section Replaced

variable {rest other : Text}
  (replaced : forall state, (unescapeFrom alphabet state rest).isSome = true ->
    (unescapeFrom alphabet state other).isSome = true)

include replaced

theorem isSome_unescapeFrom_map (state : Escape) {before after : List Item -> List Item}
    (complete : ((unescapeFrom alphabet state rest).map before).isSome = true) :
    ((unescapeFrom alphabet state other).map after).isSome = true := by
  rw [Option.isSome_map] at complete ⊢
  exact replaced state complete

theorem isSome_unescapeFrom_started {char : Char}
    (complete : (unescapeFrom alphabet .started (char :: rest)).isSome = true) :
    (unescapeFrom alphabet .started (char :: other)).isSome = true := by
  rw [unescapeFrom] at complete ⊢
  cases letter : escapeLetters.lookup char with
  | some meant =>
      simp only [letter] at complete ⊢
      exact isSome_unescapeFrom_map alphabet replaced _ complete
  | none =>
      cases digit : octalValue? char with
      | some digit =>
          simp only [letter, digit] at complete ⊢
          exact replaced _ complete
      | none =>
          simp only [letter, digit] at complete ⊢
          refine isSome_ite (replaced _) ?_ complete
          iterate 4 refine isSome_ite (replaced _) ?_
          exact isSome_unescapeFrom_map alphabet replaced _

/-- Where the rest may be replaced, it may be replaced behind one more character. -/
theorem isSome_unescapeFrom_cons {state : Escape} {char : Char}
    (complete : (unescapeFrom alphabet state (char :: rest)).isSome = true) :
    (unescapeFrom alphabet state (char :: other)).isSome = true := by
  have mapped := fun {state before after} =>
    @isSome_unescapeFrom_map _ alphabet _ _ replaced state before after
  cases state with
  | outside =>
      by_cases escape : char = '\\'
      · rw [unescapeFrom, if_pos escape] at complete ⊢
        exact replaced _ complete
      · rw [unescapeFrom, if_neg escape] at complete ⊢
        exact mapped complete
  | started => exact isSome_unescapeFrom_started alphabet replaced complete
  | octal left value =>
      cases left with
      | zero =>
          simp only [unescapeFrom] at complete ⊢
          exact isSome_bind (fun _ => isSome_ite mapped mapped) complete
      | succ more =>
          cases digit : octalValue? char with
          | none =>
              simp only [unescapeFrom, digit] at complete ⊢
              exact isSome_bind (fun _ => isSome_ite mapped mapped) complete
          | some value =>
              simp only [unescapeFrom, digit] at complete ⊢
              exact replaced _ complete
  | hexadecimal left value =>
      rw [unescapeFrom] at complete ⊢
      refine isSome_bind ?_ complete
      intro digit
      cases left with
      | succ more => exact replaced _
      | zero => exact isSome_bind fun _ => mapped
  | naming =>
      by_cases brace : char = '\x7b'
      · rw [unescapeFrom, if_pos brace] at complete ⊢
        exact replaced _ complete
      · rw [unescapeFrom, if_neg brace] at complete
        cases complete
  | named read =>
      by_cases brace : char = '\x7d'
      · rw [unescapeFrom, if_pos brace] at complete ⊢
        exact isSome_bind (fun _ => mapped) complete
      · rw [unescapeFrom, if_neg brace] at complete ⊢
        exact replaced _ complete

end Replaced

/-- Behind a newline an escape is over, so blanks may stand there. -/
theorem isSome_unescapeFrom_newline {state : Escape} {rest : Text} (count : Nat)
    (complete : (unescapeFrom alphabet state ('\n' :: rest)).isSome = true) :
    (unescapeFrom alphabet state ('\n' :: (spaces count ++ rest))).isSome = true := by
  have behind := isSome_unescapeFrom_spaces alphabet count rest
  cases state with
  | outside =>
      rw [unescapeFrom, if_neg (by decide), Option.isSome_map] at complete ⊢
      rw [behind]
      exact complete
  | started =>
      change (unescapeFrom alphabet .outside (spaces count ++ rest)).isSome = true
      rw [behind]
      exact complete
  | octal left value =>
      have ended : forall text, unescapeFrom alphabet (.octal left value) ('\n' :: text) =
          (alphabet.ofNumber? value).bind fun meant =>
            (unescapeFrom alphabet .outside text).map (meant :: alphabet.ofChar '\n' :: ·) := by
        intro text
        cases left <;> rfl
      rw [ended] at complete ⊢
      refine isSome_bind ?_ complete
      intro meant
      rw [Option.isSome_map, Option.isSome_map, behind]
      exact id
  | hexadecimal left value => cases complete
  | naming => cases complete
  | named read =>
      have broken : '\n' ∈ '\n' :: read := List.mem_cons_self
      rw [unescapeFrom, if_neg (by decide), unescapeFrom_broken alphabet broken] at complete
      cases complete

/-- Escapes are still complete if the lines of the literal are moved to the right. -/
theorem isSome_unescapeFrom_deepen (level : Int) {state : Escape} {text : Text}
    (complete : (unescapeFrom alphabet state text).isSome = true) :
    (unescapeFrom alphabet state (deepen level text)).isSome = true := by
  induction text generalizing state with
  | nil => exact complete
  | cons char rest deepened =>
      have restDeepened := isSome_unescapeFrom_cons alphabet (fun _ => deepened) complete
      by_cases newline : char = '\n'
      · subst newline
        exact isSome_unescapeFrom_newline alphabet _ restDeepened
      · rw [deepen_cons_of_ne newline]
        exact restDeepened

end Text
end Oneliner
