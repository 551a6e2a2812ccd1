import Mathlib.Algebra.Group.Nat.Defs
import Mathlib.Data.List.Induction
import Oneliner.Scalar.Numeral

namespace Oneliner

/-!
Numerals and the bound on written integers.

An integer that is read has no more digits than one that is written may have, so
whatever a text is converted to has a text again.
-/

namespace Scalar

/-- Digits within the limit write integers within the bound. -/
theorem pow_le_integerBound {digits : Nat} (few : digits ≤ digitLimit) :
    10 ^ digits ≤ integerBound := by
  unfold integerBound
  -- The limit is made a variable, since nothing may compute the power.
  generalize digitLimit = limit at few ⊢
  exact Nat.pow_le_pow_right (by decide) few

end Scalar

namespace Numeral

theorem digit_le_nine {char : Char} (digit : char.isDigit = true) :
    char.toNat - '0'.toNat ≤ 9 := by
  have upper : char.toNat ≤ '9'.toNat := by
    rw [Char.isDigit, Bool.and_eq_true, decide_eq_true_eq, decide_eq_true_eq] at digit
    exact digit.2
  have nine : '9'.toNat = 57 := rfl
  have zero : '0'.toNat = 48 := rfl
  omega

theorem valueOf_snoc (front : Text) (last : Char) :
    valueOf (front ++ [last]) = 10 * valueOf front + (last.toNat - '0'.toNat) := by
  rw [valueOf, valueOf, List.foldl_append, List.foldl_cons, List.foldl_nil]

/-- Digits write a number with no more digits than there are. -/
theorem valueOf_lt {digits : Text} (plain : digits.all Char.isDigit = true) :
    valueOf digits < 10 ^ digits.length := by
  induction digits using List.reverseRecOn with
  | nil => exact Nat.one_pos
  | append_singleton front last frontLess =>
      rw [List.all_append, Bool.and_eq_true] at plain
      have frontLess := frontLess plain.1
      have digit := digit_le_nine (List.all_eq_true.mp plain.2 last List.mem_cons_self)
      rw [valueOf_snoc, List.length_append, List.length_cons, List.length_nil, Nat.zero_add,
        Nat.pow_succ]
      omega

theorem natAbs_lt_of_integer? {body : Text} {value : Int} (read : integer? body = some value) :
    value.natAbs < Scalar.integerBound := by
  rw [integer?] at read
  cases sign : splitSign body with | mk negative size
  rw [sign] at read
  rcases Option.bind_eq_some_iff.mp read with ⟨digits, _, found⟩
  split at found
  · rename_i fits
    rw [Bool.and_eq_true, isDigits, Bool.and_eq_true, decide_eq_true_eq] at fits
    have size : value.natAbs = valueOf digits := by
      rw [← Option.some.inj found]
      cases negative with
      | true => exact (Int.natAbs_neg _).trans (Int.natAbs_natCast _)
      | false => exact Int.natAbs_natCast _
    rw [size]
    exact Nat.lt_of_lt_of_le (valueOf_lt fits.1.2) (Scalar.pow_le_integerBound fits.2)
  · cases found

end Numeral

/-- What a text is converted to can be written. -/
theorem Scalar.writable_convert_str (text : Text) : (Scalar.str text).convert.writable = true := by
  rw [Scalar.convert, Numeral.read?]
  cases integer : Numeral.integer? (Numeral.body text) with
  | some value =>
      rw [Option.getD_some, Scalar.writable]
      exact decide_eq_true (Numeral.natAbs_lt_of_integer? integer)
  | none => cases Numeral.double? (Numeral.body text) <;> rfl

end Oneliner
