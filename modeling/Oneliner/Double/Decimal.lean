import Oneliner.Double.Shortest
import Oneliner.Text.Basic

namespace Oneliner
namespace Double

/-!
Numbers written in decimal.

The digits are the shortest ones that read back.  Whether they are written with
a point in place or with a power of ten is a matter of style.
-/

/-- The choices in writing a decimal. -/
structure Style where
  /-- The least power of ten of a first digit that is written in place. -/
  lowest : Int
  /-- The greatest such power. -/
  highest : Int
  /-- The least number of digits in a written power of ten. -/
  powerDigits : Nat

/-- Numbers from a ten-thousandth up to sixteen digits are written in place, and
a power of ten has two digits at least. -/
def plainStyle : Style where
  lowest := -4
  highest := 15
  powerDigits := 2

/-- Digits in place, always with a point and a digit behind it. -/
def positional (digits : Text) (grid : Int) : Text :=
  if grid ≥ 0 then digits ++ List.replicate grid.toNat '0' ++ ".0".toList
  else
    let places := (-grid).toNat
    if digits.length > places then
      digits.take (digits.length - places) ++ '.' :: digits.drop (digits.length - places)
    else "0.".toList ++ List.replicate (places - digits.length) '0' ++ digits

/-- Digits with a point behind the first, followed by a power of ten. -/
def scientific (style : Style) (digits : Text) (power : Int) : Text :=
  let fraction := if digits.length > 1 then '.' :: digits.drop 1 else []
  let size := Text.ofNat power.natAbs
  digits.take 1 ++ fraction ++ ['e', if power < 0 then '-' else '+'] ++
    List.replicate (style.powerDigits - size.length) '0' ++ size

/-- The text of a positive number. -/
def sizeText (style : Style) (mantissa : Nat) (exponent : Int) : Text :=
  let (coefficient, grid) := shortest mantissa exponent
  let digits := Text.ofNat coefficient
  let power := grid + digits.length - 1
  if style.lowest ≤ power && power ≤ style.highest then positional digits grid
  else scientific style digits power

/-- The text of a number. -/
def text (style : Style) : Double -> Text
  | .nan => "nan".toList
  | .infinity negative => (if negative then "-inf" else "inf").toList
  | .finite negative mantissa exponent =>
      (if negative then ['-'] else []) ++
        (if mantissa = 0 then "0.0".toList else sizeText style mantissa exponent)

end Double
end Oneliner
