import Oneliner.Braces.Scan
import Oneliner.Repetition
import Oneliner.Scalar.Basic

namespace Oneliner
namespace Braces

/-!
Expansion and indentation of scalars, which have to be texts.
-/

/-- Expand a scalar.  Only a text has characters to go through. -/
def expandScalar : Scalar -> Except Fault Text
  | .str source => .ok (expand source)
  | other => .error (.notIterable other.typeName)

/-- Indent a scalar.  Its lines are taken before the level is looked at, so of
two faults the one about the lines is reported.  A margin is made by repeating the
blanks of one level. -/
def indentScalar (lines level : Scalar) : Except Fault Text :=
  match lines with
  | .str text =>
      match level.integer? with
      | some level =>
          match Repetition.obstacle? .longText Text.indentWidth level with
          | some fault => .error fault
          | none => .ok (text.indent level)
      | none => .error (.notCount level.typeName)
  | other => .error (.noMember other.typeName "split".toList)

end Braces
end Oneliner
