import Oneliner.Double.Decimal
import Oneliner.Text.Quoted

namespace Oneliner

/-!
Scalars: the values without parts that a program reads and writes.

A scalar has two texts.  The plain one is what is written for the scalar on its
own; the quoted one, used inside a list, differs only for texts.
-/

inductive Scalar where
  | null
  | bool (value : Bool)
  | int (value : Int)
  | float (value : Double)
  | str (value : Text)
  deriving DecidableEq, Repr

namespace Scalar

/-- The name under which messages mention the kind of a scalar. -/
def typeName : Scalar -> Text
  | null => "NoneType".toList
  | bool _ => "bool".toList
  | int _ => "int".toList
  | float _ => "float".toList
  | str _ => "str".toList

/-- The most digits that an integer may have when it is read or written. -/
def digitLimit : Nat := 4300

/-- Integers of this size and above have too many digits to be written. -/
def integerBound : Nat := Nat.pow 10 digitLimit

/-- Whether the scalar has a text. -/
def writable : Scalar -> Bool
  | int value => value.natAbs < integerBound
  | _ => true

/-- The text of the scalar on its own. -/
def text : Scalar -> Text
  | null => "None".toList
  | bool value => (if value then "True" else "False").toList
  | int value => Text.ofInt value
  | float value => value.text Double.plainStyle
  | str value => value

/-- The text of the scalar inside a list. -/
def quoted : Scalar -> Text
  | str value => Text.quoted value
  | other => other.text

/-- The integer for which the scalar can stand: truth values count as one and
zero. -/
def integer? : Scalar -> Option Int
  | int value => some value
  | bool value => some (if value then 1 else 0)
  | _ => none

/-- Whether the scalar holds as a condition: zeros and the empty text do not. -/
def holds : Scalar -> Bool
  | null => false
  | bool value => value
  | int value => value ≠ 0
  | float value => !value.isZero
  | str value => !value.isEmpty

/-- Equality of scalars: numbers of all kinds are compared by value. -/
def same : Scalar -> Scalar -> Bool
  | null, null => true
  | str left, str right => left = right
  | float left, float right => left.same right
  | float left, right => right.integer?.any left.sameInt
  | left, float right => left.integer?.any right.sameInt
  | left, right =>
      match left.integer?, right.integer? with
      | some left, some right => left = right
      | _, _ => false

end Scalar
end Oneliner
