import Oneliner.Text.Basic

namespace Oneliner
namespace Text

/-!
The numbers of characters.

Some numbers belong to no character: they are halves, two of which stand for a
character in other encodings.  A program can still write a half by its number.
Such a half is kept as the character of private use whose number is larger by a
fixed amount, so that a text remains a list of characters.
-/

/-- Whether the number belongs to a half. -/
def isHalf (code : Nat) : Bool :=
  0xd800 ≤ code && code ≤ 0xdfff

/-- The distance between a half and the character that is kept for it. -/
def halfOffset : Nat := 0xf0000

/-- The character with the given number, or the one that is kept for a half. -/
def charOf? (code : Nat) : Option Char :=
  if code.isValidChar then some (Char.ofNat code)
  else if isHalf code then some (Char.ofNat (code + halfOffset))
  else none

/-- The half for which a character is kept. -/
def half? (char : Char) : Option Nat :=
  let code := char.toNat - halfOffset
  if isHalf code then some code else none

/-- The number of a character, or of the half for which it is kept. -/
def codeOf (char : Char) : Nat :=
  (half? char).getD char.toNat

end Text
end Oneliner
