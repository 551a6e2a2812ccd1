import Mathlib.Algebra.Order.Field.Power
import Mathlib.Data.Rat.Lemmas
import Mathlib.Tactic.FieldSimp
import Mathlib.Tactic.Linarith
import Mathlib.Tactic.Positivity
import Mathlib.Tactic.Ring
import Oneliner.Double.Shortest

namespace Oneliner
namespace Double

/-!
Rounding to the nearest number of the format.

The code rounds with naturals only.  Here sizes are rationals, so a ratio and its
form in another unit are one number.  A finite number that rounding can give is in
canonical form, and every ratio inside the rounding interval of a canonical number
is rounded to that number.  The interval is wider than half a unit on one side
only when the mantissa is the least full one; below it the units are half as large.
-/

/-- The integer powers of a base as quotients of natural ones. -/
theorem zpow_eq_div (base : Rat) (power : Int) :
    base ^ power = base ^ power.toNat / base ^ (-power).toNat := by
  rcases Int.le_total 0 power with nonnegative | nonpositive
  · have none : (-power).toNat = 0 := Int.toNat_of_nonpos (by omega)
    rw [none, pow_zero, div_one, ← zpow_natCast, Int.toNat_of_nonneg nonnegative]
  · have none : power.toNat = 0 := Int.toNat_of_nonpos nonpositive
    rw [none, pow_zero, one_div, ← zpow_natCast, Int.toNat_of_nonneg (by omega), zpow_neg, inv_inv]

theorem two_zpow_eq_double (power : Int) : (2 : Rat) ^ power = 2 * 2 ^ (power - 1) := by
  rw [mul_comm, ← zpow_add_one₀ two_ne_zero, sub_add_cancel]

/-! ### Quotients -/

theorem div_le_roundDiv (numerator denominator : Nat) :
    numerator / denominator ≤ roundDiv numerator denominator := by
  simp only [roundDiv]
  split <;> omega

theorem roundDiv_le_div (numerator denominator : Nat) :
    roundDiv numerator denominator ≤ numerator / denominator + 1 := by
  simp only [roundDiv]
  split <;> omega

/-- A natural is the rounded quotient if the quotient is at most a half away, and
less than a half when the natural is odd. -/
theorem roundDiv_eq {numerator denominator target : Nat} (positive : 0 < denominator)
    (lower : 2 * (target * denominator) ≤ 2 * numerator + denominator)
    (upper : 2 * numerator ≤ 2 * (target * denominator) + denominator)
    (odd : target % 2 = 1 ->
      2 * (target * denominator) < 2 * numerator + denominator ∧
        2 * numerator < 2 * (target * denominator) + denominator) :
    roundDiv numerator denominator = target := by
  have split := Nat.div_add_mod numerator denominator
  have less := Nat.mod_lt numerator positive
  unfold roundDiv
  generalize numerator / denominator = quotient at *
  generalize numerator % denominator = rest at *
  have above : target < quotient + 2 := by
    by_contra far
    have := Nat.mul_le_mul_right denominator (Nat.le_of_not_lt far)
    rw [Nat.add_mul, Nat.mul_comm quotient] at this
    omega
  have below : quotient < target + 1 := by
    by_contra far
    have := Nat.mul_le_mul_right denominator (Nat.le_of_not_lt far)
    rw [Nat.add_mul, Nat.mul_comm quotient] at this
    omega
  -- Only the two naturals around the quotient can be meant.
  have near : target = quotient ∨ target = quotient + 1 := by omega
  rcases near with same | next
  · subst same
    rw [Nat.mul_comm target] at lower upper odd
    simp only [Bool.or_eq_true, Bool.and_eq_true, decide_eq_true_eq]
    rw [if_pos (by omega)]
  · subst next
    rw [Nat.add_mul, Nat.mul_comm quotient] at lower upper odd
    simp only [Bool.or_eq_true, Bool.and_eq_true, decide_eq_true_eq]
    rw [if_neg (by omega)]

/-! ### Units -/

theorem inUnits_pos (numerator : Nat) {denominator : Nat} (positive : 0 < denominator) (exponent : Int) :
    0 < (inUnits numerator denominator exponent).2 :=
  Nat.mul_pos positive (Nat.pow_pos Nat.two_pos)

/-- A ratio in units of a power of two is the ratio divided by the power. -/
theorem inUnits_ratio (numerator : Nat) {denominator : Nat} (positive : 0 < denominator) (exponent : Int) :
    ((inUnits numerator denominator exponent).1 : Rat) =
      (numerator / denominator) / 2 ^ exponent * (inUnits numerator denominator exponent).2 := by
  have nonzero : (denominator : Rat) ≠ 0 := by exact_mod_cast positive.ne'
  rw [zpow_eq_div]
  simp only [inUnits, Nat.cast_mul, Nat.pow_eq, Nat.cast_pow, Nat.cast_ofNat]
  field_simp

/-- Whether the quotient in a unit is below a bound can be told from the rational. -/
theorem inUnits_div_lt (numerator : Nat) {denominator : Nat} (bound : Nat)
    (positive : 0 < denominator) (exponent : Int) :
    (inUnits numerator denominator exponent).1 / (inUnits numerator denominator exponent).2 < bound <->
      (numerator / denominator : Rat) < bound * 2 ^ exponent := by
  have unitPositive := inUnits_pos numerator positive exponent
  have castPositive : (0 : Rat) < (inUnits numerator denominator exponent).2 := by
    exact_mod_cast unitPositive
  rw [Nat.div_lt_iff_lt_mul unitPositive, ← Nat.cast_lt (α := Rat), inUnits_ratio numerator positive,
    Nat.cast_mul, mul_lt_mul_iff_left₀ castPositive, div_lt_iff₀ (by positivity)]

theorem log2_ratio {numerator denominator : Nat} (some : 0 < numerator)
    (positive : 0 < denominator) :
    (2 : Rat) ^ ((numerator.log2 : Int) - denominator.log2 - 1) < numerator / denominator ∧
      (numerator / denominator : Rat) < 2 ^ ((numerator.log2 : Int) - denominator.log2 + 1) := by
  have denominatorPositive : (0 : Rat) < denominator := by exact_mod_cast positive
  have numeratorLow : (2 : Rat) ^ (numerator.log2 : Int) ≤ numerator := by
    exact_mod_cast Nat.log2_self_le some.ne'
  have numeratorHigh : (numerator : Rat) < 2 ^ ((numerator.log2 : Int) + 1) := by
    exact_mod_cast Nat.lt_log2_self
  have denominatorLow : (2 : Rat) ^ (denominator.log2 : Int) ≤ denominator := by
    exact_mod_cast Nat.log2_self_le positive.ne'
  have denominatorHigh : (denominator : Rat) < 2 ^ ((denominator.log2 : Int) + 1) := by
    exact_mod_cast Nat.lt_log2_self
  constructor
  · rw [lt_div_iff₀ denominatorPositive]
    calc (2 : Rat) ^ ((numerator.log2 : Int) - denominator.log2 - 1) * denominator
        < 2 ^ ((numerator.log2 : Int) - denominator.log2 - 1) * 2 ^ ((denominator.log2 : Int) + 1) :=
          mul_lt_mul_of_pos_left denominatorHigh (by positivity)
      _ = 2 ^ (numerator.log2 : Int) := by
          rw [← zpow_add₀ two_ne_zero]
          congr 1
          omega
      _ ≤ numerator := numeratorLow
  · rw [div_lt_iff₀ denominatorPositive]
    calc (numerator : Rat) < 2 ^ ((numerator.log2 : Int) + 1) := numeratorHigh
      _ = 2 ^ ((numerator.log2 : Int) - denominator.log2 + 1) * 2 ^ (denominator.log2 : Int) := by
          rw [← zpow_add₀ two_ne_zero]
          congr 1
          omega
      _ ≤ 2 ^ ((numerator.log2 : Int) - denominator.log2 + 1) * denominator :=
          mul_le_mul_of_nonneg_left denominatorLow (by positivity)

theorem mantissaBound_mul (exponent : Int) :
    ((mantissaBound : Nat) : Rat) * 2 ^ exponent = 2 ^ (exponent + 53) := by
  rw [zpow_add₀ two_ne_zero, mul_comm]
  norm_num [mantissaBound]

theorem half_mantissaBound_mul (exponent : Int) :
    ((mantissaBound / 2 : Nat) : Rat) * 2 ^ exponent = 2 ^ (exponent + 52) := by
  rw [zpow_add₀ two_ne_zero, mul_comm]
  norm_num [mantissaBound]

/-- The exponent in which a size is rounded: the size is below the bound on
mantissas there, and in the upper half unless the exponent is the least one. -/
structure UnitOf (size : Rat) (exponent : Int) : Prop where
  least : minExponent ≤ exponent
  below : size < 2 ^ (exponent + 53)
  full : exponent = minExponent ∨ (2 : Rat) ^ (exponent + 52) ≤ size

theorem unitOf_unitExponent {numerator denominator : Nat} (some : 0 < numerator)
    (positive : 0 < denominator) :
    UnitOf (numerator / denominator) (unitExponent numerator denominator) := by
  rcases log2_ratio some positive with ⟨low, high⟩
  unfold unitExponent
  generalize lowest : (numerator.log2 : Int) - denominator.log2 - 53 = first
  have enough := inUnits_div_lt numerator mantissaBound positive first
  rw [mantissaBound_mul] at enough
  simp only [enough]
  generalize (numerator / denominator : Rat) = size at *
  -- The unit that the size asks for, before the least exponent is minded.
  have asked : forall exponent : Int, size < 2 ^ (exponent + 53) ->
      (2 : Rat) ^ (exponent + 52) ≤ size -> UnitOf size (max minExponent exponent) := by
    intro exponent below full
    refine ⟨le_max_left _ _, lt_of_lt_of_le below ?_, ?_⟩
    · exact zpow_le_zpow_right₀ one_le_two (by omega)
    · rcases le_total exponent minExponent with small | large
      · exact Or.inl (max_eq_left small)
      · exact Or.inr (by rw [max_eq_right large]; exact full)
  split
  · rename_i fits
    apply asked first fits
    have same : first + 52 = (numerator.log2 : Int) - denominator.log2 - 1 := by omega
    rw [same]
    exact low.le
  · rename_i large
    apply asked (first + 1)
    · have same : first + 1 + 53 = (numerator.log2 : Int) - denominator.log2 + 1 := by omega
      rw [same]
      exact high
    · have same : first + 1 + 52 = first + 53 := by omega
      rw [same]
      exact not_lt.mp large

/-- A size has only one unit. -/
theorem UnitOf.unique {size : Rat} {exponent other : Int} (unit : UnitOf size exponent)
    (second : UnitOf size other) : exponent = other := by
  have noneAbove : forall {low high : Int}, UnitOf size low -> UnitOf size high ->
      low < high -> False := by
    intro low high lowUnit highUnit less
    rcases highUnit.full with least | full
    · have := lowUnit.least
      omega
    · have step : (2 : Rat) ^ (low + 53) ≤ 2 ^ (high + 52) :=
        zpow_le_zpow_right₀ one_le_two (by omega)
      linarith [lowUnit.below]
  rcases lt_trichotomy exponent other with less | same | greater
  · exact (noneAbove unit second less).elim
  · exact same
  · exact (noneAbove second unit greater).elim

/-- The two sides on which the mantissa's unit decides: a size at most half a unit
away from the mantissa is rounded to it, if the unit is the size's own. -/
theorem roundDiv_inUnits {numerator denominator mantissa : Nat} {exponent : Int}
    (positive : 0 < denominator)
    (lower : (2 * mantissa - 1) * 2 ^ (exponent - 1) ≤ (numerator / denominator : Rat))
    (upper : (numerator / denominator : Rat) ≤ (2 * mantissa + 1) * 2 ^ (exponent - 1))
    (odd : mantissa % 2 = 1 ->
      (2 * mantissa - 1) * 2 ^ (exponent - 1) < (numerator / denominator : Rat) ∧
        (numerator / denominator : Rat) < (2 * mantissa + 1) * 2 ^ (exponent - 1)) :
    roundDiv (inUnits numerator denominator exponent).1
      (inUnits numerator denominator exponent).2 = mantissa := by
  have ratio := inUnits_ratio numerator positive exponent
  have unitPositive := inUnits_pos numerator positive exponent
  generalize (numerator / denominator : Rat) = size at *
  generalize (inUnits numerator denominator exponent).1 = scaled at *
  generalize (inUnits numerator denominator exponent).2 = unit at *
  have castPositive : (0 : Rat) < unit := by exact_mod_cast unitPositive
  have halfPositive : (0 : Rat) < 2 ^ (exponent - 1) := by positivity
  -- Twice the scaled numerator is the size in half units.
  have halves : 2 * (scaled : Rat) = size / 2 ^ (exponent - 1) * unit := by
    rw [ratio, two_zpow_eq_double exponent]
    field_simp
  rw [← le_div_iff₀ halfPositive] at lower
  rw [← div_le_iff₀ halfPositive] at upper
  apply roundDiv_eq unitPositive
  · rw [← Nat.cast_le (α := Rat)]
    push_cast
    rw [halves]
    nlinarith
  · rw [← Nat.cast_le (α := Rat)]
    push_cast
    rw [halves]
    nlinarith
  · intro isOdd
    rcases odd isOdd with ⟨lower, upper⟩
    rw [← lt_div_iff₀ halfPositive] at lower
    rw [← div_lt_iff₀ halfPositive] at upper
    constructor
    · rw [← Nat.cast_lt (α := Rat)]
      push_cast
      rw [halves]
      nlinarith
    · rw [← Nat.cast_lt (α := Rat)]
      push_cast
      rw [halves]
      nlinarith

/-! ### Canonical numbers -/

/-- The mantissas and exponents that rounding gives. -/
structure Canonical (mantissa : Nat) (exponent : Int) : Prop where
  below : mantissa < mantissaBound
  least : minExponent ≤ exponent
  greatest : exponent ≤ maxExponent
  full : exponent = minExponent ∨ mantissaBound / 2 ≤ mantissa

/-- The numbers in canonical form: all that are not finite, too. -/
def IsCanonical : Double -> Prop
  | .finite _ mantissa exponent => Canonical mantissa exponent
  | _ => True

theorem isCanonical_ofRatio (negative : Bool) (numerator : Nat) {denominator : Nat}
    (positive : 0 < denominator) : IsCanonical (ofRatio negative numerator denominator) := by
  unfold ofRatio
  split
  · exact ⟨by decide, by decide, by decide, Or.inl rfl⟩
  rename_i nonzero
  have unit := unitOf_unitExponent (Nat.pos_of_ne_zero nonzero) positive
  generalize unitExponent numerator denominator = exponent at *
  have upper : roundDiv (inUnits numerator denominator exponent).1
      (inUnits numerator denominator exponent).2 ≤ mantissaBound := by
    apply (roundDiv_le_div _ _).trans
    apply Nat.succ_le_of_lt
    rw [inUnits_div_lt _ _ positive, mantissaBound_mul]
    exact unit.below
  have lower : exponent = minExponent ∨ mantissaBound / 2 ≤
      roundDiv (inUnits numerator denominator exponent).1
        (inUnits numerator denominator exponent).2 := by
    rcases unit.full with least | full
    · exact Or.inl least
    · apply Or.inr
      refine le_trans ?_ (div_le_roundDiv _ _)
      apply Nat.le_of_not_lt
      rw [inUnits_div_lt _ _ positive, half_mantissaBound_mul]
      exact not_lt.mpr full
  have least := unit.least
  simp only
  generalize roundDiv _ _ = mantissa at *
  by_cases carried : mantissa = mantissaBound
  · rw [if_pos carried]
    split
    · exact trivial
    · refine ⟨?_, by omega, by omega, Or.inr le_rfl⟩
      exact Nat.div_lt_self (Nat.pow_pos Nat.two_pos) one_lt_two
  · rw [if_neg carried]
    split
    · exact trivial
    · exact ⟨by omega, least, by omega, lower⟩

/-! ### Rounding intervals -/

/-- The size of a place of the interval. -/
def Interval.place (around : Interval) (quarters : Nat) : Rat :=
  quarters * 2 ^ (around.exponent - 2)

/-- Whether a size lies in the interval. -/
def Interval.Contains (around : Interval) (size : Rat) : Prop :=
  if around.closed then around.place around.low ≤ size ∧ size ≤ around.place around.high
  else around.place around.low < size ∧ size < around.place around.high

theorem Interval.Contains.le {around : Interval} {size : Rat} (inside : around.Contains size) :
    around.place around.low ≤ size ∧ size ≤ around.place around.high := by
  unfold Contains at inside
  split at inside
  · exact inside
  · exact ⟨inside.1.le, inside.2.le⟩

theorem Interval.contains_of_lt {around : Interval} {size : Rat}
    (above : around.place around.low < size) (below : size < around.place around.high) :
    around.Contains size := by
  unfold Contains
  split
  · exact ⟨above.le, below.le⟩
  · exact ⟨above, below⟩

theorem Interval.Contains.lt {around : Interval} {size : Rat} (inside : around.Contains size)
    (isOpen : around.closed = false) :
    around.place around.low < size ∧ size < around.place around.high := by
  unfold Contains at inside
  rw [isOpen] at inside
  exact inside

theorem ofRatio_eq_finite {numerator denominator mantissa : Nat} {exponent : Int}
    (negative : Bool) (some : 0 < numerator) (positive : 0 < denominator)
    (unit : UnitOf (numerator / denominator) exponent) (greatest : exponent ≤ maxExponent)
    (rounded : roundDiv (inUnits numerator denominator exponent).1
      (inUnits numerator denominator exponent).2 = mantissa) (below : mantissa < mantissaBound) :
    ofRatio negative numerator denominator = .finite negative mantissa exponent := by
  have own := (unitOf_unitExponent some positive).unique unit
  simp only [ofRatio, own, rounded]
  rw [if_neg some.ne', if_neg below.ne, if_neg greatest.not_gt]

/-- A size that is rounded up to the bound on mantissas has the next exponent. -/
theorem ofRatio_eq_carried {numerator denominator : Nat} {exponent : Int}
    (negative : Bool) (some : 0 < numerator) (positive : 0 < denominator)
    (unit : UnitOf (numerator / denominator) exponent) (greatest : exponent + 1 ≤ maxExponent)
    (rounded : roundDiv (inUnits numerator denominator exponent).1
      (inUnits numerator denominator exponent).2 = mantissaBound) :
    ofRatio negative numerator denominator =
      .finite negative (mantissaBound / 2) (exponent + 1) := by
  have own := (unitOf_unitExponent some positive).unique unit
  simp only [ofRatio, own, rounded, if_true]
  rw [if_neg some.ne', if_neg greatest.not_gt]

/-- A size beyond the largest finite numbers is rounded to an infinity. -/
theorem ofRatio_eq_infinity {numerator denominator : Nat} (negative : Bool)
    (positive : 0 < denominator) (large : (2 : Rat) ^ (maxExponent + 53) ≤ numerator / denominator) :
    ofRatio negative numerator denominator = .infinity negative := by
  have some : 0 < numerator := by
    apply Nat.pos_of_ne_zero
    rintro rfl
    rw [Nat.cast_zero, zero_div] at large
    exact absurd (zpow_pos two_pos (maxExponent + 53)) (not_lt.mpr large)
  have unit := unitOf_unitExponent some positive
  have above : maxExponent < unitExponent numerator denominator := by
    have powers := (zpow_lt_zpow_iff_right₀ (one_lt_two : (1 : Rat) < 2)).mp (large.trans_lt unit.below)
    omega
  simp only [ofRatio]
  rw [if_neg some.ne']
  generalize roundDiv _ _ = mantissa
  -- A carry raises the exponent further.
  by_cases carried : mantissa = mantissaBound
  · rw [if_pos carried, if_pos (above.trans (by omega))]
  · rw [if_neg carried, if_pos above]

theorem place_eq (exponent : Int) (halves : Rat) :
    2 * halves * (2 : Rat) ^ (exponent - 2) = halves * 2 ^ (exponent - 1) := by
  have sum : exponent - 1 - 1 = exponent - 2 := by omega
  rw [two_zpow_eq_double (exponent - 1), sum]
  ring

theorem place_high (mantissa : Nat) (exponent : Int) :
    (interval mantissa exponent).place (interval mantissa exponent).high =
      (2 * mantissa + 1) * 2 ^ (exponent - 1) := by
  rw [← place_eq]
  simp only [Interval.place, interval]
  push_cast
  ring

/-- Away from the least full mantissa the interval reaches half a unit down. -/
theorem place_low {mantissa : Nat} (exponent : Int) (some : 0 < mantissa)
    (plain : ¬(mantissa = mantissaBound / 2 ∧ exponent > minExponent)) :
    (interval mantissa exponent).place (interval mantissa exponent).low =
      (2 * mantissa - 1) * 2 ^ (exponent - 1) := by
  rw [← place_eq]
  simp only [Interval.place, interval, Bool.and_eq_true, decide_eq_true_eq, if_neg plain]
  rw [Nat.cast_sub (by omega)]
  push_cast
  ring

/-- At the least full mantissa the interval reaches a quarter of a unit down, which
is half a unit of the numbers below. -/
theorem place_low_full {exponent : Int} (above : exponent > minExponent) :
    (interval (mantissaBound / 2) exponent).place (interval (mantissaBound / 2) exponent).low =
      (2 * mantissaBound - 1) * 2 ^ (exponent - 1 - 1) := by
  have sum : exponent - 1 - 1 = exponent - 2 := by omega
  simp only [Interval.place, interval, above, decide_true, Bool.and_true, if_true, sum]
  norm_num [mantissaBound]

theorem low_pos {mantissa : Nat} (exponent : Int) (some : 0 < mantissa) :
    0 < (interval mantissa exponent).place (interval mantissa exponent).low := by
  have quarters : 0 < (interval mantissa exponent).low := by
    simp only [interval]
    split <;> omega
  exact mul_pos (by exact_mod_cast quarters) (by positivity)

/-- Above the least exponent the least full mantissa is also reached from below: the
sizes there have a smaller unit, and are rounded up to the bound on mantissas. -/
theorem ofRatio_eq_half {numerator denominator : Nat} {exponent : Int} (negative : Bool)
    (some : 0 < numerator) (positive : 0 < denominator) (above : exponent > minExponent)
    (greatest : exponent ≤ maxExponent)
    (lower : (2 * mantissaBound - 1) * 2 ^ (exponent - 1 - 1) ≤ (numerator / denominator : Rat))
    (upper : (numerator / denominator : Rat) ≤ (2 * (mantissaBound / 2 : Nat) + 1) * 2 ^ (exponent - 1)) :
    ofRatio negative numerator denominator = .finite negative (mantissaBound / 2) exponent := by
  have unitPositive : (0 : Rat) < 2 ^ (exponent - 1 - 1) := by positivity
  have unitDouble := two_zpow_eq_double (exponent - 1)
  have full : (2 : Rat) ^ (exponent + 52) = 2 * mantissaBound * 2 ^ (exponent - 1 - 1) := by
    have sum : exponent + 52 = exponent - 1 - 1 + 53 + 1 := by omega
    rw [sum, zpow_add_one₀ two_ne_zero, ← mantissaBound_mul]
    ring
  have half : 2 * ((mantissaBound / 2 : Nat) : Rat) = mantissaBound := by norm_num [mantissaBound]
  have large : (1 : Rat) < mantissaBound := by norm_num [mantissaBound]
  rw [unitDouble, half] at upper
  have even : (mantissaBound / 2) % 2 = 1 -> False := by decide
  rcases le_or_gt ((2 : Rat) ^ (exponent + 52)) (numerator / denominator) with reaches | short
  · have unit : UnitOf (numerator / denominator) exponent := by
      refine ⟨above.le, ?_, Or.inr reaches⟩
      have sum : exponent + 53 = exponent + 52 + 1 := by omega
      rw [sum, zpow_add_one₀ two_ne_zero, full]
      nlinarith
    apply ofRatio_eq_finite negative some positive unit greatest
    · apply roundDiv_inUnits positive _ _ (fun odd => (even odd).elim)
      · rw [unitDouble, half]
        nlinarith
      · rw [unitDouble, half]
        exact upper
    · decide
  · have unit : UnitOf (numerator / denominator) (exponent - 1) := by
      refine ⟨by omega, ?_, Or.inr ?_⟩
      · have sum : exponent - 1 + 53 = exponent + 52 := by omega
        rw [sum]
        exact short
      · have sum : exponent - 1 + 52 + 1 = exponent + 52 := by omega
        rw [← mul_le_mul_iff_left₀ two_pos, ← zpow_add_one₀ two_ne_zero, sum, full]
        nlinarith
    have carried := ofRatio_eq_carried negative some positive unit (by omega) ?_
    · rw [carried, sub_add_cancel]
    · apply roundDiv_inUnits positive lower
      · nlinarith
      · intro odd
        exact absurd odd (by decide)

/-- Every ratio in the rounding interval of a canonical number is rounded to it. -/
theorem ofRatio_eq_of_contains {numerator denominator mantissa : Nat} {exponent : Int}
    (negative : Bool) (canonical : Canonical mantissa exponent) (nonzero : 0 < mantissa)
    (positive : 0 < denominator)
    (inside : (interval mantissa exponent).Contains (numerator / denominator)) :
    ofRatio negative numerator denominator = .finite negative mantissa exponent := by
  rcases inside.le with ⟨lower, upper⟩
  have some : 0 < numerator := by
    apply Nat.pos_of_ne_zero
    intro none
    rw [none, Nat.cast_zero, zero_div] at lower
    exact absurd (low_pos exponent nonzero) (not_lt.mpr lower)
  rw [place_high] at upper
  have castBelow : (mantissa : Rat) + 1 ≤ mantissaBound := by exact_mod_cast canonical.below
  have unitPositive : (0 : Rat) < 2 ^ (exponent - 1) := by positivity
  have double := two_zpow_eq_double exponent
  have below : (numerator / denominator : Rat) < 2 ^ (exponent + 53) := by
    rw [← mantissaBound_mul, double]
    nlinarith
  by_cases special : mantissa = mantissaBound / 2 ∧ exponent > minExponent
  · rcases special with ⟨rfl, above⟩
    rw [place_low_full above] at lower
    exact ofRatio_eq_half negative some positive above canonical.greatest lower upper
  · have isOpen : mantissa % 2 = 1 -> (interval mantissa exponent).closed = false := by
      intro odd
      simp [interval, odd]
    rw [place_low exponent nonzero special] at lower
    have unit : UnitOf (numerator / denominator) exponent := by
      refine ⟨canonical.least, below, ?_⟩
      rcases eq_or_lt_of_le canonical.least with least | above
      · exact Or.inl least.symm
      · have full : mantissaBound / 2 + 1 ≤ mantissa := by
          have := canonical.full
          omega
        have castFull : ((mantissaBound / 2 : Nat) : Rat) + 1 ≤ mantissa := by exact_mod_cast full
        apply Or.inr
        rw [← half_mantissaBound_mul, double]
        nlinarith
    apply ofRatio_eq_finite negative some positive unit canonical.greatest _ canonical.below
    apply roundDiv_inUnits positive lower upper
    intro odd
    have strict := inside.lt (isOpen odd)
    rw [place_high, place_low exponent nonzero special] at strict
    exact strict

end Double
end Oneliner
