import Oneliner.Text.Basic

namespace Oneliner
namespace Text

/-!
Numbers in hexadecimal.
-/

/-- A number in lower-case hexadecimal, with zeros in front up to the width. -/
def hexadecimal (width number : Nat) : Text :=
  let digits := Nat.toDigits 16 number
  List.replicate (width - digits.length) '0' ++ digits

def hexValue? (char : Char) : Option Nat :=
  if '0' ≤ char && char ≤ '9' then some (char.toNat - '0'.toNat)
  else if 'a' ≤ char && char ≤ 'f' then some (char.toNat - 'a'.toNat + 10)
  else if 'A' ≤ char && char ≤ 'F' then some (char.toNat - 'A'.toNat + 10)
  else none

/-- The number that digits write, be they capitals or not. -/
def ofHexadecimal (digits : Text) : Nat :=
  digits.foldl (fun value digit => 16 * value + (hexValue? digit).getD 0) 0

end Text
end Oneliner
