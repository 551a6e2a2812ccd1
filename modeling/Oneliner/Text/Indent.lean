import Oneliner.Text.Basic

namespace Oneliner
namespace Text

/-!
Indentation by levels of four blanks.

Every line of the text is indented, the empty ones as well, so the operation
can be undone: indenting by two depths in turn is indenting by their sum.
-/

/-- The width of one level of indentation. -/
def indentWidth : Nat := 4

/-- The blanks that stand in front of a line at the given level.  Below level
zero there are none. -/
def margin (level : Int) : Text :=
  spaces (indentWidth * level.toNat)

/-- Put the margin of the given level in front of every line. -/
def indent (level : Int) (text : Text) : Text :=
  joinLines (text.lines.map (margin level ++ ·))

end Text
end Oneliner
