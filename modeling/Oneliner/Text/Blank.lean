import Oneliner.Text.Ranges

namespace Oneliner
namespace Text

/-!
White space, and texts stripped of it at both ends.

The class has the separators of every script and the four information
separators U+001C to U+001F.  The zero-width space is not in it.
-/

/-- The white space characters. -/
def blankRanges : Ranges :=
  [(0x9, 0xd), (0x1c, 0x20), (0x85, 0x85), (0xa0, 0xa0), (0x1680, 0x1680), (0x2000, 0x200a),
   (0x2028, 0x2029), (0x202f, 0x202f), (0x205f, 0x205f), (0x3000, 0x3000)]

def isBlank (char : Char) : Bool :=
  blankRanges.has char

/-- The text without white space at its beginning. -/
def trimLeft (text : Text) : Text :=
  text.dropWhile isBlank

/-- The text without white space at its end. -/
def trimRight (text : Text) : Text :=
  (text.reverse.dropWhile isBlank).reverse

/-- The text without white space at either end. -/
def trim (text : Text) : Text :=
  trimRight (trimLeft text)

end Text
end Oneliner
