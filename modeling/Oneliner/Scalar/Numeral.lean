import Oneliner.Scalar.Basic
import Oneliner.Text.Blank
import Oneliner.Text.Digit

namespace Oneliner
namespace Numeral

/-!
Texts that read as numbers.

A numeral may have white space around it and digits of any script; both are
first brought into their plain form.  Single underscores may stand between
digits.  What reads as an integer is one, up to a limit on its digits; what
else reads as a decimal, as an infinity or as `nan` is a floating-point number.
-/

/-- White space and digits of all scripts in their plain form.  The separators
U+001C to U+001F are plain already, and not white space for a numeral. -/
def plainChar (char : Char) : Char :=
  if char.toNat < 0x80 then char
  else if Text.isBlank char then ' '
  else
    match Text.digitValue? char with
    | some value => Text.digitChar value
    | none => char

/-- Plain white space: blank, tab, line feed, vertical tab, form feed, return. -/
def isPadding (char : Char) : Bool :=
  char = ' ' || ('\t' ≤ char && char ≤ '\r')

/-- The plain form of a text, without white space around it. -/
def body (text : Text) : Text :=
  let plain := text.map plainChar
  ((plain.dropWhile isPadding).reverse.dropWhile isPadding).reverse

/-- Whether there is a minus sign in front, and what follows the sign. -/
def splitSign : Text -> Bool × Text
  | '-' :: rest => (true, rest)
  | '+' :: rest => (false, rest)
  | rest => (false, rest)

/-- Take out underscores that stand between two digits, and refuse others.  The
argument tells whether a digit comes right before. -/
def ungroup? (afterDigit : Bool) : Text -> Option Text
  | [] => some []
  | '_' :: rest =>
      if afterDigit && rest.head?.any Char.isDigit then ungroup? false rest else none
  | char :: rest => (ungroup? char.isDigit rest).map (char :: ·)

/-- The number written by decimal digits. -/
def valueOf (digits : Text) : Nat :=
  digits.foldl (fun value digit => 10 * value + (digit.toNat - '0'.toNat)) 0

/-- Digits only, and at least one. -/
def isDigits (text : Text) : Bool :=
  !text.isEmpty && text.all Char.isDigit

/-- The integer that a body writes, within the limit on digits. -/
def integer? (body : Text) : Option Int :=
  let (negative, size) := splitSign body
  (ungroup? false size).bind fun digits =>
    if isDigits digits && digits.length ≤ Scalar.digitLimit then
      let value : Int := valueOf digits
      some (if negative then -value else value)
    else none

/-- The power of ten behind a decimal: nothing, or a mark and an integer. -/
def power? : Text -> Option Int
  | [] => some 0
  | mark :: rest =>
      let (negative, digits) := splitSign rest
      if (mark = 'e' || mark = 'E') && isDigits digits then
        let value : Int := valueOf digits
        some (if negative then -value else value)
      else none

/-- Digits with at most one point among them, then a power of ten. -/
def decimal? (negative : Bool) (size : Text) : Option Double :=
  let whole := size.takeWhile Char.isDigit
  let afterWhole := size.dropWhile Char.isDigit
  let (fraction, afterFraction) :=
    match afterWhole with
    | '.' :: rest => (rest.takeWhile Char.isDigit, rest.dropWhile Char.isDigit)
    | rest => ([], rest)
  if whole.isEmpty && fraction.isEmpty then none
  else
    (power? afterFraction).map fun power =>
      Double.ofDecimal negative (valueOf (whole ++ fraction)) (power - fraction.length)

/-- The floating-point number that a body writes. -/
def double? (body : Text) : Option Double :=
  let (negative, size) := splitSign body
  let word := size.map Char.toLower
  if word = "inf".toList || word = "infinity".toList then some (.infinity negative)
  else if word = "nan".toList then some .nan
  else (ungroup? false size).bind (decimal? negative)

/-- The number that a text writes, an integer if it can be one. -/
def read? (text : Text) : Option Scalar :=
  match integer? (body text) with
  | some value => some (.int value)
  | none => (double? (body text)).map .float

end Numeral

namespace Scalar

/-- The number for which a scalar can stand, an integer if it can be one; a
scalar that stands for none stays as it is. -/
def convert : Scalar -> Scalar
  | null => null
  | bool value => int (if value then 1 else 0)
  | int value => int value
  | float value =>
      match value.truncate? with
      | some integer => int integer
      | none => float value
  | str value => (Numeral.read? value).getD (str value)

end Scalar
end Oneliner
