import Oneliner.Program.Line

namespace Oneliner
namespace Program

/-!
Outlines: lines arranged by their columns.

A line stands over all the lines after it that are indented more, up to the
first one that is not.  The arrangement is always possible; whether the columns
make sense is decided when blocks are read.
-/

/-- A line, the lines under it, and the lines after those. -/
inductive Outline where
  | empty
  | line (line : Line) (under after : Outline)
  deriving DecidableEq, Repr

namespace Outline

/-- Divide an outline in front of the first line that is not indented more than
the given width. -/
def divide (width : Nat) : Outline -> Outline × Outline
  | empty => (empty, empty)
  | line first under after =>
      if first.column.width > width then
        let (inside, outside) := after.divide width
        (line first under inside, outside)
      else (empty, line first under after)

/-- Put a line in front of an outline. -/
def push (first : Line) (later : Outline) : Outline :=
  let (under, after) := later.divide first.column.width
  line first under after

def ofLines (lines : List Line) : Outline :=
  lines.foldr push empty

end Outline
end Program
end Oneliner
