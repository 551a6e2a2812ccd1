namespace Oneliner

/-!
Binary floating-point numbers of 64 bits, held exactly.

A finite number is a sign, a mantissa of at most 53 bits and an exponent.  The
only source of finite numbers is rounding, which takes a ratio of naturals to
the nearest number that the format has, a tie going to the even mantissa.  Sums
and products are the rounded exact results, so no operation here needs more
than arithmetic on naturals.
-/

/-- A number of the format, or the absence of one. -/
inductive Double where
  | nan
  | infinity (negative : Bool)
  /-- The number of size `mantissa * 2 ^ exponent`. -/
  | finite (negative : Bool) (mantissa : Nat) (exponent : Int)
  deriving DecidableEq, Repr

namespace Double

/-- The number of mantissas: they have 53 bits. -/
def mantissaBound : Nat := Nat.pow 2 53

/-- The exponent of the numbers next to zero. -/
def minExponent : Int := -1074

/-- The exponent of the largest finite numbers. -/
def maxExponent : Int := 971

/-- The quotient rounded to the nearest natural, a tie to the even one. -/
def roundDiv (numerator denominator : Nat) : Nat :=
  let quotient := numerator / denominator
  let doubled := 2 * (numerator % denominator)
  if doubled < denominator || (doubled = denominator && quotient % 2 = 0) then quotient
  else quotient + 1

/-- A ratio in units of `2 ^ exponent`, as a ratio again. -/
def inUnits (numerator denominator : Nat) (exponent : Int) : Nat × Nat :=
  (numerator * Nat.pow 2 (-exponent).toNat, denominator * Nat.pow 2 exponent.toNat)

/-- The unit in which a positive ratio is rounded: the smallest one that the
format has and in which the ratio is below the bound on mantissas.  The
difference of the logarithms misses it by one at most. -/
def unitExponent (numerator denominator : Nat) : Int :=
  let low : Int := (numerator.log2 : Int) - denominator.log2 - 53
  let (scaled, unit) := inUnits numerator denominator low
  max minExponent (if scaled / unit < mantissaBound then low else low + 1)

/-- The number nearest to a ratio.  A ratio too large for the format gives an
infinity, and the sign is kept also when the ratio is rounded to zero. -/
def ofRatio (negative : Bool) (numerator denominator : Nat) : Double :=
  if numerator = 0 then .finite negative 0 minExponent
  else
    let exponent := unitExponent numerator denominator
    let (scaled, unit) := inUnits numerator denominator exponent
    let mantissa := roundDiv scaled unit
    let (mantissa, exponent) :=
      if mantissa = mantissaBound then (mantissaBound / 2, exponent + 1)
      else (mantissa, exponent)
    if exponent > maxExponent then .infinity negative
    else .finite negative mantissa exponent

/-- The number nearest to `coefficient * 10 ^ exponent`.  Exponents far outside
the format are settled without the power of ten. -/
def ofDecimal (negative : Bool) (coefficient : Nat) (exponent : Int) : Double :=
  if coefficient = 0 then ofRatio negative 0 1
  else if exponent > 400 then .infinity negative
  else if exponent + coefficient.log2 < -400 then ofRatio negative 0 1
  else ofRatio negative (coefficient * Nat.pow 10 exponent.toNat) (Nat.pow 10 (-exponent).toNat)

/-- The number nearest to an integer, unless it is too large for the format. -/
def ofInt? (integer : Int) : Option Double :=
  match ofRatio (integer < 0) integer.natAbs 1 with
  | .infinity _ => none
  | number => some number

/-- The integer between a finite number and zero that is nearest to it. -/
def truncate? : Double -> Option Int
  | .finite negative mantissa exponent =>
      let size : Int := (mantissa * Nat.pow 2 exponent.toNat / Nat.pow 2 (-exponent).toNat : Nat)
      some (if negative then -size else size)
  | _ => none

def negate : Double -> Double
  | .nan => .nan
  | .infinity negative => .infinity !negative
  | .finite negative mantissa exponent => .finite (!negative) mantissa exponent

def absolute : Double -> Double
  | .nan => .nan
  | .infinity _ => .infinity false
  | .finite _ mantissa exponent => .finite false mantissa exponent

/-- Equality of numbers: both zeros are equal, and `nan` equals nothing. -/
def same : Double -> Double -> Bool
  | .infinity left, .infinity right => left = right
  | .finite _ 0 _, .finite _ 0 _ => true
  | .finite left mantissa exponent, .finite right mantissa' exponent' =>
      left = right && mantissa = mantissa' && exponent = exponent'
  | _, _ => false

/-- Exact equality with an integer. -/
def sameInt (number : Double) (integer : Int) : Bool :=
  match number with
  | .finite negative mantissa exponent =>
      mantissa * Nat.pow 2 exponent.toNat = integer.natAbs * Nat.pow 2 (-exponent).toNat &&
        (mantissa = 0 || negative = decide (integer < 0))
  | _ => false

/-- Whether the number is a zero of either sign. -/
def isZero : Double -> Bool
  | .finite _ 0 _ => true
  | _ => false

/-- A finite number in units of `2 ^ exponent`, for an exponent not above its own. -/
def signedUnits (negative : Bool) (mantissa : Nat) (exponent unit : Int) : Int :=
  let size : Int := (mantissa * Nat.pow 2 (exponent - unit).toNat : Nat)
  if negative then -size else size

/-- The rounded sum.  An exact sum of zero is negative only if both terms are. -/
def add : Double -> Double -> Double
  | .nan, _ | _, .nan => .nan
  | .infinity left, .infinity right => if left = right then .infinity left else .nan
  | .infinity left, .finite .. => .infinity left
  | .finite .., .infinity right => .infinity right
  | .finite left mantissa exponent, .finite right mantissa' exponent' =>
      let unit := min exponent exponent'
      let sum :=
        signedUnits left mantissa exponent unit + signedUnits right mantissa' exponent' unit
      let negative := if sum = 0 then left && right else decide (sum < 0)
      ofRatio negative (sum.natAbs * Nat.pow 2 unit.toNat) (Nat.pow 2 (-unit).toNat)

/-- The rounded product. -/
def mul : Double -> Double -> Double
  | .nan, _ | _, .nan => .nan
  | .infinity left, .infinity right => .infinity (left != right)
  | .infinity left, .finite right mantissa _ =>
      if mantissa = 0 then .nan else .infinity (left != right)
  | .finite left mantissa _, .infinity right =>
      if mantissa = 0 then .nan else .infinity (left != right)
  | .finite left mantissa exponent, .finite right mantissa' exponent' =>
      let unit := exponent + exponent'
      ofRatio (left != right) (mantissa * mantissa' * Nat.pow 2 unit.toNat) (Nat.pow 2 (-unit).toNat)

end Double
end Oneliner
