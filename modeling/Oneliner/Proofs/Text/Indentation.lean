import Oneliner.Braces.Checked
import Oneliner.Proofs.Text.Lines

namespace Oneliner

/-!
Indentation as an action of levels on texts.

Levels below zero count as zero.  Up to that, indenting in turn is indenting by the sum,
a text is indented part by part, and taking as many characters from every line as were
put there gives the text back.  None of this fails at empty lines or at the end of a
text, since a text is nothing but its lines.

A margin is made by repeating blanks, and not for every integer can that be done.  Where
it can, the laws hold.
-/

/-! ## Texts -/

namespace Text

variable (level deeper : Int)

theorem margin_max_zero : margin (max level 0) = margin level := by
  have same : (max level 0).toNat = level.toNat := by omega
  rw [margin, margin, same]

theorem margin_append_margin :
    margin deeper ++ margin level = margin (max level 0 + max deeper 0) := by
  rw [margin_add (Int.le_max_right level 0) (Int.le_max_right deeper 0), margin_max_zero,
    margin_max_zero]

theorem indent_indent (text : Text) :
    (text.indent level).indent deeper = text.indent (max level 0 + max deeper 0) := by
  rw [indent, lines_indent, List.map_map, indent, ← margin_append_margin]
  congr 2
  funext line
  exact (List.append_assoc _ _ _).symm

/-- A newline begins a line of its own, so both sides of it are indented apart. -/
theorem indent_append_newline (front back : Text) :
    (front ++ '\n' :: back).indent level = front.indent level ++ '\n' :: back.indent level := by
  simp only [indent_eq_deepen, deepen_append, deepen_cons_newline, List.append_assoc]

/-- Take so many characters from the front of every line. -/
def outdent (width : Nat) (text : Text) : Text :=
  joinLines (text.lines.map (List.drop width))

theorem outdent_indent (text : Text) :
    (text.indent level).outdent (indentWidth * level.toNat) = text := by
  have width : (margin level).length = indentWidth * level.toNat := List.length_replicate
  have back : List.drop (indentWidth * level.toNat) ∘ (margin level ++ ·) = id := by
    funext line
    exact List.drop_left' width
  rw [outdent, lines_indent, List.map_map, back, List.map_id, joinLines_lines]

end Text

/-! ## Levels with a margin -/

namespace Braces

/-- The margin of the level can be made: it is an integer to count with, and there is
memory for the blanks. -/
def Reachable (level : Int) : Prop :=
  -(Repetition.wordBound : Int) ≤ level ∧ Text.indentWidth * level.toNat ≤ Repetition.memorySize

instance (level : Int) : Decidable (Reachable level) :=
  inferInstanceAs (Decidable (_ ∧ _))

theorem obstacle?_eq_none_iff (level : Int) :
    Repetition.obstacle? .longText Text.indentWidth level = none ↔ Reachable level := by
  have smaller : Repetition.memorySize < Repetition.wordBound := by decide
  have wide : level.toNat ≤ Text.indentWidth * level.toNat :=
    Nat.le_mul_of_pos_left level.toNat (by decide)
  unfold Repetition.obstacle? Reachable
  generalize Text.indentWidth * level.toNat = size at wide
  simp only [Bool.or_eq_true, decide_eq_true_eq]
  split
  · simp only [reduceCtorEq, false_iff]
    omega
  · split
    · simp only [reduceCtorEq, false_iff]
      omega
    · split
      · simp only [reduceCtorEq, false_iff]
        omega
      · simp only [true_iff]
        omega

theorem indentScalar_of_reachable {level : Int} (reachable : Reachable level) (text : Text) :
    indentScalar (.str text) (.int level) = .ok (text.indent level) := by
  have free := (obstacle?_eq_none_iff level).mpr reachable
  simp only [indentScalar, Scalar.integer?, free]

/-- A level without a margin is refused, and only such a level is. -/
theorem exists_indentScalar_iff (level : Int) (text : Text) :
    (exists indented, indentScalar (.str text) (.int level) = .ok indented) ↔ Reachable level := by
  constructor
  · rintro ⟨indented, made⟩
    rw [← obstacle?_eq_none_iff]
    cases obstacle : Repetition.obstacle? .longText Text.indentWidth level with
    | none => rfl
    | some fault =>
        simp only [indentScalar, Scalar.integer?, obstacle] at made
        cases made
  · intro reachable
    exact ⟨text.indent level, indentScalar_of_reachable reachable text⟩

/-- Where margins can be made, indentation is an action of levels on texts, goes line by
line, and can be undone. -/
theorem indentScalar_laws (text : Text) :
    (forall level,
      (exists indented, indentScalar (.str text) (.int level) = .ok indented) ↔ Reachable level) ∧
    (forall level deeper, Reachable level -> Reachable deeper ->
      Reachable (max level 0 + max deeper 0) ->
        exists indented deepened,
          indentScalar (.str text) (.int level) = .ok indented ∧
            indentScalar (.str indented) (.int deeper) = .ok deepened ∧
            indentScalar (.str text) (.int (max level 0 + max deeper 0)) = .ok deepened) ∧
    (forall level back, Reachable level ->
      exists first second,
        indentScalar (.str text) (.int level) = .ok first ∧
          indentScalar (.str back) (.int level) = .ok second ∧
          indentScalar (.str (text ++ '\n' :: back)) (.int level) = .ok (first ++ '\n' :: second)) ∧
    forall level, Reachable level ->
      exists indented,
        indentScalar (.str text) (.int level) = .ok indented ∧
          indented.outdent (4 * (max level 0).toNat) = text := by
  refine ⟨fun level => exists_indentScalar_iff level text, ?_, ?_, ?_⟩
  · intro level deeper first second sum
    refine ⟨text.indent level, text.indent (max level 0 + max deeper 0),
      indentScalar_of_reachable first text, ?_, indentScalar_of_reachable sum text⟩
    rw [indentScalar_of_reachable second, Text.indent_indent]
  · intro level back reachable
    refine ⟨text.indent level, back.indent level, indentScalar_of_reachable reachable text,
      indentScalar_of_reachable reachable back, ?_⟩
    rw [indentScalar_of_reachable reachable, Text.indent_append_newline]
  · intro level reachable
    have width : 4 * (max level 0).toNat = Text.indentWidth * level.toNat := by
      rw [Text.indentWidth]
      omega
    refine ⟨text.indent level, indentScalar_of_reachable reachable text, ?_⟩
    rw [width, Text.outdent_indent]

/-- The last level from below that can be counted with, after another one. -/
theorem indentScalar_laws_twice :
    Reachable 2 ∧ Reachable (-9223372036854775808) ∧
      exists indented deepened,
        indentScalar (.str "a\n\n".toList) (.int 2) = .ok indented ∧
          indentScalar (.str indented) (.int (-9223372036854775808)) = .ok deepened ∧
          indentScalar (.str "a\n\n".toList) (.int (max 2 0 + max (-9223372036854775808) 0)) =
            .ok deepened := by
  have first : Reachable 2 := by decide
  have second : Reachable (-9223372036854775808) := by decide
  exact ⟨first, second, (indentScalar_laws "a\n\n".toList).2.1 2 _ first second (by decide)⟩

/-- No blank is asked for at this level, and still there is no text to undo. -/
theorem indentScalar_beyond_count :
    4 * (max (-9223372036854775809 : Int) 0).toNat = 0 ∧
      ¬ exists indented,
        indentScalar (.str "x".toList) (.int (-9223372036854775809)) = .ok indented ∧
          indented.outdent (4 * (max (-9223372036854775809 : Int) 0).toNat) = "x".toList := by
  refine ⟨by decide, ?_⟩
  rintro ⟨indented, made, _⟩
  cases made

end Braces
end Oneliner
