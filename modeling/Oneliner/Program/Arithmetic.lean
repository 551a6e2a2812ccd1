import Oneliner.Program.Machine
import Oneliner.Repetition

namespace Oneliner

namespace Scalar

/-- The scalar as a floating-point number, if it is a number at all.  A large
integer may have none near it. -/
def double? : Scalar -> Option (Except Fault Double)
  | float value => some (.ok value)
  | other =>
      other.integer?.map fun value =>
        match Double.ofInt? value with
        | some double => .ok double
        | none => .error .largeInteger

/-- An operation on two numbers: on integers if both are, else on floating-point
numbers. -/
def combine (integers : Int -> Int -> Int) (doubles : Double -> Double -> Double)
    (left right : Scalar) : Option (Except Fault Scalar) :=
  match left.integer?, right.integer? with
  | some left, some right => some (.ok (int (integers left right)))
  | _, _ =>
      match left.double?, right.double? with
      | some left, some right => some do return float (doubles (<- left) (<- right))
      | _, _ => none

/-- A number as a place on the line of numbers, whose ends are the infinities.
What is not a number has none. -/
inductive Place where
  | nowhere
  | lowest
  /-- At `units * 2 ^ exponent`. -/
  | amount (units exponent : Int)
  | highest

/-- The place of a number. -/
def place? : Scalar -> Option Place
  | float .nan => some .nowhere
  | float (.infinity negative) => some (if negative then .lowest else .highest)
  | float (.finite negative mantissa exponent) =>
      some (.amount (if negative then -mantissa else mantissa) exponent)
  | other => other.integer?.map (.amount · 0)

/-- Whether one place comes before another. -/
def Place.isBefore : Place -> Place -> Bool
  | nowhere, _ | _, nowhere => false
  | lowest, lowest => false
  | lowest, _ => true
  | _, lowest => false
  | highest, _ => false
  | _, highest => true
  | amount units exponent, amount units' exponent' =>
      let unit := min exponent exponent'
      units * Nat.pow 2 (exponent - unit).toNat < units' * Nat.pow 2 (exponent' - unit).toNat

/-- Whether a scalar is less than another one, if they can be compared: numbers by
size, texts in the order of their characters. -/
def isLess? (left right : Scalar) : Option Bool :=
  match left, right with
  | str left, str right => some (decide (left.map Text.codeOf < right.map Text.codeOf))
  | left, right =>
      match left.place?, right.place? with
      | some left, some right => some (left.isBefore right)
      | _, _ => none

end Scalar

namespace Program

/-!
Operators and comparisons.
-/

namespace Run

/-- An operation on two values that must be numbers, with the symbol for it. -/
def combine (symbol : String) (integers : Int -> Int -> Int)
    (doubles : Double -> Double -> Double) (left right : Value) : Run Value :=
  let refused := fail (.operands symbol.toList left.typeName right.typeName)
  match left.scalar?, right.scalar? with
  | some left, some right =>
      match Scalar.combine integers doubles left right with
      | some result => do ofScalar (<- ofExcept result)
      | none => refused
  | _, _ => refused

/-- The sum of two values: numbers are added, sequences joined. -/
def add (left right : Value) : Run Value :=
  match left, right with
  | .scalar (.str left), .scalar (.str right) => pure (.str (left ++ right))
  | .bytes left, .bytes right => pure (.bytes (left ++ right))
  | .list left, .list right => do
      let machine <- get
      makeList (machine.items left ++ machine.items right)
  | left, right => combine "+" (· + ·) Double.add left right

/-- The difference of two numbers. -/
def subtract (left right : Value) : Run Value :=
  combine "-" (· - ·) (fun left right => left.add right.negate) left right

/-- A sequence repeated, unless the value is none. -/
def repeated? (sequence : Value) (count : Int) : Option (Run Value) :=
  match sequence with
  | .scalar (.str text) => some do return .str (<- ofExcept (Repetition.copies .longText text count))
  | .bytes value => some do return .bytes (<- ofExcept (Repetition.copies .longText value count))
  | .list index => some do
      let items := ((<- get).items index).toList
      makeList (<- ofExcept (Repetition.copies .outOfMemory items count)).toArray
  | _ => none

/-- The product of two values: numbers are multiplied, and a sequence is
repeated. -/
def times (left right : Value) : Run Value :=
  match right.integer?.bind (repeated? left), left.integer?.bind (repeated? right) with
  | some product, _ => product
  | none, some product => product
  | none, none => combine "*" (· * ·) Double.mul left right

/-- A number with a sign in front of it.  A plus makes an integer of a truth value
and otherwise leaves the number the same thing. -/
def signed (sign : Sign) (value : Value) : Run Value :=
  match sign, value.scalar?, value.integer? with
  | .plus, some (.float _), _ => pure value
  | .minus, some (.float number), _ => ofScalar (.float number.negate)
  | .plus, _, some integer => pure (.int integer)
  | .minus, _, some integer => pure (.int (-integer))
  | .plus, _, none => fail (.argumentType "+".toList value.typeName)
  | .minus, _, none => fail (.argumentType "-".toList value.typeName)

/-- Equality of values. -/
def same (left right : Value) : Run Bool := do
  match (<- get).same? left right with
  | some answer => return answer
  | none => fail .tooDeep

/-- Whether a value is, or equals, one of several, tried in order. -/
def isAmong (value : Value) : List Value -> Run Bool
  | [] => pure false
  | first :: rest => do
      if value = first then return true
      if <- same first value then return true
      isAmong value rest

/-- Take lines from the input up to the first one that equals the value. -/
def findLine (value : Value) : Run Bool :=
  modifyGet fun machine =>
    match machine.input.dropWhile (.str · ≠ value) with
    | [] => (false, { machine with input := [] })
    | _ :: rest => (true, { machine with input := rest })

/-- Whether the part occurs contiguously in the sequence. -/
def hasPart (part : List Nat) : List Nat -> Bool
  | [] => part.isEmpty
  | item :: rest => part.isPrefixOf (item :: rest) || hasPart part rest

/-- Whether a value is in another one: as a part of a text, as an item of a list
or as a line of the input. -/
def isIn (value : Value) : Value -> Run Bool
  | .scalar (.str text) =>
      match value with
      | .scalar (.str part) => return Text.hasPart part text
      | other => fail (.notPart other.typeName)
  | .bytes bytes =>
      match value, value.integer? with
      | .bytes part, _ => return hasPart part bytes
      | _, some byte =>
          if 0 ≤ byte && byte < 256 then return bytes.contains byte.toNat
          else fail .noCharacter
      | other, none => fail (.notPart other.typeName)
  | .input => findLine value
  | other => do isAmong value (<- elements other)

/-- The sum of several values and a first one. -/
def addAll (first : Value) : List Value -> Run Value
  | [] => pure first
  | next :: rest => do addAll (<- add first next) rest

/-- A value increased by another one: a list takes in the elements of the other
value, anything else is added to it. -/
def increase (value more : Value) : Run Value :=
  match value with
  | .list index => do
      (<- elements more).forM (append index)
      return value
  | other => add other more

/-- The number of items, bytes or characters of a sequence. -/
def lengthOf : Value -> Run Value
  | .scalar (.str text) => pure (.int text.length)
  | .bytes value => pure (.int value.length)
  | .list index => return .int ((<- get).items index).size
  | .range first last => pure (.int (last - first).toNat)
  | other => fail (.noLength other.typeName)

/-- Whether a value is less than another one. -/
def less (left right : Value) : Run Bool :=
  match left.scalar?, right.scalar? with
  | some left', some right' =>
      match left'.isLess? right' with
      | some answer => pure answer
      | none => fail (.operands "<".toList left.typeName right.typeName)
  | _, _ => fail (.operands "<".toList left.typeName right.typeName)

/-- Put a value into a sorted list, behind those that it does not precede. -/
def insertSorted (value : Value) : List Value -> Run (List Value)
  | [] => pure [value]
  | first :: rest => do
      if <- less value first then return value :: first :: rest
      return first :: (<- insertSorted value rest)

/-- Values in increasing order. -/
def sort (values : List Value) : Run (List Value) :=
  values.foldlM (fun sorted value => insertSorted value sorted) []

/-- The first of several values that no later one beats. -/
def best (beats : Value -> Value -> Run Bool) (first : Value) : List Value -> Run Value
  | [] => pure first
  | next :: rest => do best beats (if <- beats next first then next else first) rest

end Run
end Program
end Oneliner
