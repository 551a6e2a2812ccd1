import Oneliner.Double.Basic

namespace Oneliner
namespace Double

/-!
The shortest decimal that reads back.

The reals that round to a given number form an interval around it.  Of all the
grids `10 ^ k` the coarsest one with a point in that interval gives the fewest
digits, and of its points in the interval the one nearest to the number is
taken, a tie going to the even point.
-/

/-- The reals that round to a positive number.  All three places are counted in
quarters of the number's unit `2 ^ exponent`. -/
structure Interval where
  low : Nat
  middle : Nat
  high : Nat
  exponent : Int
  /-- Whether the two ends round to the number as well. -/
  closed : Bool

/-- Below a power of two the numbers lie twice as close, except next to zero. -/
def interval (mantissa : Nat) (exponent : Int) : Interval where
  low :=
    if mantissa = mantissaBound / 2 && exponent > minExponent then 4 * mantissa - 1
    else 4 * mantissa - 2
  middle := 4 * mantissa
  high := 4 * mantissa + 2
  exponent := exponent
  closed := mantissa % 2 = 0

/-- A place of the interval and the point `index` of the grid `10 ^ grid`, as
naturals in a common unit. -/
def Interval.compared (around : Interval) (grid : Int) (place index : Nat) : Nat × Nat :=
  (place * Nat.pow 2 (around.exponent - 2).toNat * Nat.pow 10 (-grid).toNat,
   index * Nat.pow 10 grid.toNat * Nat.pow 2 (2 - around.exponent).toNat)

/-- Whether the point `index` of the grid lies in the interval. -/
def Interval.has (around : Interval) (grid : Int) (index : Nat) : Bool :=
  let (low, point) := around.compared grid around.low index
  let (high, _) := around.compared grid around.high index
  if around.closed then low ≤ point && point ≤ high else low < point && point < high

/-- The point of the grid that lies in the interval and is nearest to its
middle.  Only the two neighbours of the middle need to be tried. -/
def Interval.nearest? (around : Interval) (grid : Int) : Option Nat :=
  let (middle, unit) := around.compared grid around.middle 1
  let below := middle / unit
  let doubled := 2 * (middle % unit)
  let lower := around.has grid below
  let upper := around.has grid (below + 1)
  if lower && upper then
    if doubled < unit || (doubled = unit && below % 2 = 0) then some below else some (below + 1)
  else if lower then some below
  else if upper then some (below + 1)
  else none

/-- Try grids from the given one downwards, as many as `count`. -/
def Interval.search (around : Interval) : Nat -> Int -> Nat × Int
  | 0, grid => (0, grid)
  | count + 1, grid =>
      match around.nearest? grid with
      | some index => (index, grid)
      | none => around.search count (grid - 1)

/-- The coarsest grid on which a number can have a point. -/
def coarsestGrid : Int := 309

/-- Seventeen digits always suffice, and the least number is about `10 ^ -324`. -/
def gridCount : Nat := 660

/-- The coefficient and the power of ten of the shortest decimal for a positive
number. -/
def shortest (mantissa : Nat) (exponent : Int) : Nat × Int :=
  (interval mantissa exponent).search gridCount coarsestGrid

end Double
end Oneliner
