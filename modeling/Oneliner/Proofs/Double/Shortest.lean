import Mathlib.Tactic.NormNum
import Oneliner.Proofs.Double.Rounding

namespace Oneliner
namespace Double

/-!
The shortest decimal of a number reads back.

The search goes through the grids from the coarsest to ones that are finer than
every rounding interval, so it ends on a point of the interval.  All points of the
interval are rounded to the number, hence so is the one that was found.
-/

namespace Interval

variable (around : Interval) (grid : Int)

/-- The unit in which a place and a point of the grid are both natural. -/
def fineness : Nat :=
  Nat.pow 10 (-grid).toNat * Nat.pow 2 (2 - around.exponent).toNat

theorem fineness_pos : (0 : Rat) < around.fineness grid := by
  have positive : 0 < around.fineness grid :=
    Nat.mul_pos (Nat.pow_pos (by decide)) (Nat.pow_pos Nat.two_pos)
  exact_mod_cast positive

theorem compared_place (place index : Nat) :
    ((around.compared grid place index).1 : Rat) =
      around.place place * around.fineness grid := by
  have opposite : -(around.exponent - 2) = 2 - around.exponent := by omega
  rw [Interval.place, zpow_eq_div, opposite]
  simp only [compared, fineness, Nat.cast_mul, Nat.pow_eq, Nat.cast_pow, Nat.cast_ofNat]
  field_simp

theorem compared_point (place index : Nat) :
    ((around.compared grid place index).2 : Rat) =
      index * 10 ^ grid * around.fineness grid := by
  rw [zpow_eq_div]
  simp only [compared, fineness, Nat.cast_mul, Nat.pow_eq, Nat.cast_pow, Nat.cast_ofNat]
  field_simp

theorem place_lt_point (place index : Nat) :
    (around.compared grid place index).1 < (around.compared grid place index).2 <->
      around.place place < index * 10 ^ grid := by
  rw [← Nat.cast_lt (α := Rat), compared_place, compared_point,
    mul_lt_mul_iff_left₀ (around.fineness_pos grid)]

theorem point_lt_place (place index : Nat) :
    (around.compared grid place index).2 < (around.compared grid place index).1 <->
      index * 10 ^ grid < around.place place := by
  rw [← Nat.cast_lt (α := Rat), compared_place, compared_point,
    mul_lt_mul_iff_left₀ (around.fineness_pos grid)]

/-- Comparing naturals decides whether a point of the grid lies in the interval. -/
theorem has_iff (index : Nat) :
    around.has grid index = true <-> around.Contains (index * 10 ^ grid) := by
  have below := around.place_lt_point grid around.high index
  have above := around.point_lt_place grid around.high index
  have after := around.place_lt_point grid around.low index
  have before := around.point_lt_place grid around.low index
  simp only [has, Contains]
  split
  · simp only [Bool.and_eq_true, decide_eq_true_eq]
    rw [← not_lt, ← not_lt, ← not_lt, ← not_lt, before]
    exact and_congr Iff.rfl (not_congr below)
  · simp only [Bool.and_eq_true, decide_eq_true_eq]
    exact and_congr after above

/-! ### The search -/

theorem has_of_nearest? {index : Nat} (found : around.nearest? grid = some index) :
    around.has grid index = true := by
  simp only [nearest?] at found
  split at found
  · rename_i both
    rw [Bool.and_eq_true] at both
    split at found
    · exact Option.some.inj found ▸ both.1
    · exact Option.some.inj found ▸ both.2
  · split at found
    · rename_i lower
      exact Option.some.inj found ▸ lower
    · split at found
      · rename_i upper
        exact Option.some.inj found ▸ upper
      · cases found

/-- A grid finer than the upper half of the interval has a point there, the first one
above the middle. -/
theorem exists_nearest? (ordered : around.low ≤ around.middle)
    (fine : around.place around.middle + 10 ^ grid < around.place around.high) :
    Exists fun index => around.nearest? grid = some index := by
  have positive := around.fineness_pos grid
  have unitPositive : (0 : Rat) < (around.compared grid around.middle 1).2 := by
    rw [compared_point]
    positivity
  have quotient := Nat.div_mul_le_self (around.compared grid around.middle 1).1
    (around.compared grid around.middle 1).2
  have next := Nat.lt_mul_div_succ (around.compared grid around.middle 1).1
    (Nat.cast_pos.mp unitPositive)
  generalize counted : (around.compared grid around.middle 1).1 /
    (around.compared grid around.middle 1).2 = below at *
  have lower : below * 10 ^ grid ≤ around.place around.middle := by
    rw [← Nat.cast_le (α := Rat), Nat.cast_mul, compared_point, compared_place, Nat.cast_one,
      one_mul, ← mul_assoc] at quotient
    exact le_of_mul_le_mul_right quotient positive
  have upper : around.place around.middle < (below + 1 : Nat) * 10 ^ grid := by
    rw [← Nat.cast_lt (α := Rat), Nat.cast_mul, compared_point, compared_place, Nat.cast_one,
      one_mul, mul_right_comm, mul_comm (10 ^ grid)] at next
    exact lt_of_mul_lt_mul_right next positive.le
  have inside : around.has grid (below + 1) = true := by
    rw [has_iff]
    apply contains_of_lt
    · refine lt_of_le_of_lt ?_ upper
      exact mul_le_mul_of_nonneg_right (Nat.cast_le.mpr ordered) (by positivity)
    · rw [Nat.cast_add, Nat.cast_one, add_mul, one_mul]
      exact lt_of_le_of_lt (add_le_add_left lower _) fine
  simp only [nearest?, counted, inside, Bool.and_true, if_true]
  split
  · split
    · exact ⟨_, rfl⟩
    · exact ⟨_, rfl⟩
  · exact ⟨_, rfl⟩

/-- If some grid that is tried has a point in the interval, the search ends on such
a point. -/
theorem has_search {count : Nat} {grid : Int} {steps : Nat} (soon : steps < count)
    (found : Exists fun index => around.nearest? (grid - steps) = some index) :
    around.has (around.search count grid).2 (around.search count grid).1 = true ∧
      grid - count < (around.search count grid).2 ∧ (around.search count grid).2 ≤ grid := by
  induction count generalizing grid steps with
  | zero => cases soon
  | succ count reaches =>
      rw [search]
      cases here : around.nearest? grid with
      | some index =>
          exact ⟨around.has_of_nearest? grid here, by simp only; omega, le_rfl⟩
      | none =>
          cases steps with
          | zero =>
              rcases found with ⟨index, found⟩
              rw [Nat.cast_zero, sub_zero, here] at found
              cases found
          | succ steps =>
              have later : grid - (steps + 1 : Nat) = grid - 1 - steps := by omega
              rw [later] at found
              rcases reaches (Nat.lt_of_succ_lt_succ soon) found with ⟨inside, least, greatest⟩
              exact ⟨inside, by simp only; omega, by simp only; omega⟩

end Interval

/-! ### Reading back -/

/-- The finest grid that is tried is finer than the interval of the least number. -/
theorem finest_lt {exponent : Int} (least : minExponent ≤ exponent) :
    (10 : Rat) ^ (-350 : Int) < 2 ^ (exponent - 1) := by
  have powers : (2 : Rat) ^ 1075 < 10 ^ 350 := by
    have base : (2 : Rat) ^ 43 < 10 ^ 14 := by norm_num
    have raised := pow_lt_pow_left₀ base (by positivity) (Nat.succ_ne_zero 24)
    rwa [← pow_mul, ← pow_mul] at raised
  calc (10 : Rat) ^ (-350 : Int) = (10 ^ 350)⁻¹ := zpow_neg_coe_of_pos 10 (by decide)
    _ < (2 ^ 1075)⁻¹ := inv_strictAnti₀ (by positivity) powers
    _ = 2 ^ (minExponent - 1) := (zpow_neg_coe_of_pos 2 (by decide)).symm
    _ ≤ 2 ^ (exponent - 1) := zpow_le_zpow_right₀ one_le_two (by omega)

theorem shortest_spec (mantissa : Nat) {exponent : Int} (least : minExponent ≤ exponent) :
    (interval mantissa exponent).Contains
        ((shortest mantissa exponent).1 * 10 ^ (shortest mantissa exponent).2) ∧
      -351 < (shortest mantissa exponent).2 ∧ (shortest mantissa exponent).2 ≤ 309 := by
  have found : Exists fun index =>
      (interval mantissa exponent).nearest? (coarsestGrid - 659) = some index := by
    apply Interval.exists_nearest?
    · simp only [interval]
      split <;> omega
    · have middle : (interval mantissa exponent).place (interval mantissa exponent).middle =
          2 * mantissa * 2 ^ (exponent - 1) := by
        rw [← place_eq]
        simp only [Interval.place, interval]
        push_cast
        ring
      rw [place_high, middle, add_mul, one_mul]
      exact add_lt_add_right (finest_lt least) _
  have soon : 659 < gridCount := by decide
  rcases (interval mantissa exponent).has_search soon found with ⟨inside, lowest, highest⟩
  rw [Interval.has_iff] at inside
  exact ⟨inside, lowest, highest⟩

/-- A decimal in the rounding interval of a canonical number reads as that number. -/
theorem ofDecimal_eq {mantissa coefficient : Nat} {exponent power : Int} (negative : Bool)
    (canonical : Canonical mantissa exponent) (nonzero : 0 < mantissa)
    (lowest : -400 ≤ power) (highest : power ≤ 400)
    (inside : (interval mantissa exponent).Contains (coefficient * 10 ^ power)) :
    ofDecimal negative coefficient power = .finite negative mantissa exponent := by
  have some : coefficient ≠ 0 := by
    intro none
    have lower := inside.le.1
    rw [none, Nat.cast_zero, zero_mul] at lower
    exact absurd (low_pos exponent nonzero) (not_lt.mpr lower)
  have representable : ¬power + (coefficient.log2 : Int) < -400 := by omega
  rw [ofDecimal, if_neg some, if_neg highest.not_gt, if_neg representable]
  apply ofRatio_eq_of_contains negative canonical nonzero (Nat.pow_pos (by decide))
  rw [zpow_eq_div, mul_div_assoc'] at inside
  simpa only [Nat.cast_mul, Nat.pow_eq, Nat.cast_pow, Nat.cast_ofNat] using inside

/-- An integer of more than 1024 bits is read as an infinity. -/
theorem ofDecimal_eq_infinity {coefficient : Nat} (negative : Bool) (large : 2 ^ 1024 ≤ coefficient) :
    ofDecimal negative coefficient 0 = .infinity negative := by
  have some : coefficient ≠ 0 := (Nat.lt_of_lt_of_le (Nat.pow_pos Nat.two_pos) large).ne'
  rw [ofDecimal, if_neg some, if_neg (by decide), if_neg (by omega)]
  change ofRatio negative (coefficient * 1) 1 = .infinity negative
  have bits : maxExponent + 53 = (1024 : Nat) := rfl
  apply ofRatio_eq_infinity negative Nat.one_pos
  rw [Nat.mul_one, Nat.cast_one, div_one, bits, zpow_natCast]
  exact_mod_cast large

end Double
end Oneliner
