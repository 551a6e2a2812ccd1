import Oneliner.Scalar.Numeral
import Oneliner.Text.Hexadecimal

namespace Oneliner
namespace Program

/-!
Numbers in a program, read one character at a time.

An integer is written in base ten, or behind a zero and a letter in base
sixteen, eight or two.  A point or a power of ten makes a floating-point number.
Single underscores may stand between digits and behind the letter of a base.
-/

/-- The part of a number to which the next character may belong. -/
inductive Stage where
  /-- Decimal digits without a point so far. -/
  | whole
  /-- Digits of another base. -/
  | based (base : Nat)
  /-- Behind the point. -/
  | fraction
  /-- Right behind the mark of a power of ten. -/
  | mark
  /-- Right behind the sign of the power. -/
  | sign
  | power
  /-- Behind the mark of an imaginary number. -/
  | imaginary
  deriving DecidableEq, Repr

/-- What can be said of the next character beforehand. -/
inductive Demand where
  | free
  /-- It must be a digit or an underscore. -/
  | opening
  /-- It must be a digit. -/
  | digit
  deriving DecidableEq, Repr

/-- A number in the middle of being read.  The characters read are reversed and
without underscores; letters of a base are left out. -/
structure Number where
  stage : Stage
  demand : Demand
  read : Text
  deriving DecidableEq, Repr

/-- What the next character does to a number. -/
inductive Reading where
  | more (number : Number)
  /-- The number was over before the character. -/
  | over
  /-- The number was over before the mark of a power that has not followed, and
  the mark begins a word. -/
  | overAtMark (mark : Char)
  /-- There is no such number. -/
  | broken
  deriving DecidableEq, Repr

namespace Number

def start (digit : Char) : Number :=
  ⟨.whole, .free, [digit]⟩

/-- A number that begins with a point. -/
def startFraction (digit : Char) : Number :=
  ⟨.fraction, .free, [digit, '.']⟩

/-- The bases behind the letter for each of them. -/
def bases : List (Char × Nat) :=
  [('x', 16), ('X', 16), ('o', 8), ('O', 8), ('b', 2), ('B', 2)]

/-- The value of a digit in a base. -/
def digitIn? (base : Nat) (char : Char) : Option Nat :=
  (Text.hexValue? char).filter (· < base)

/-- Whether the character is a digit for the stage. -/
def acceptsDigit (stage : Stage) (char : Char) : Bool :=
  match stage with
  | .based base => (digitIn? base char).isSome
  | .imaginary => false
  | _ => char.isDigit

/-- The stage behind a digit. -/
def afterDigit : Stage -> Stage
  | .mark | .sign => .power
  | stage => stage

/-- Read a character that is no digit of the number. -/
def readOther (number : Number) (char : Char) : Reading :=
  let continued (stage : Stage) (demand : Demand) : Reading :=
    .more ⟨stage, demand, char :: number.read⟩
  let isMark := char = 'e' || char = 'E'
  let isImaginary := char = 'j' || char = 'J'
  match number.stage with
  | .whole =>
      match if number.read = ['0'] then bases.lookup char else none with
      | some base => .more ⟨.based base, .opening, []⟩
      | none =>
          if char = '_' then .more { number with demand := .digit }
          else if char = '.' then continued .fraction .free
          else if isMark then continued .mark .free
          else if isImaginary then continued .imaginary .free
          else .over
  | .based _ =>
      if char = '_' then .more { number with demand := .digit }
      else if char.isDigit then .broken
      else .over
  | .fraction =>
      if char = '_' && number.read.head?.any Char.isDigit then
        .more { number with demand := .digit }
      else if isMark then continued .mark .free
      else if isImaginary then continued .imaginary .free
      else .over
  | .mark =>
      if char = '+' || char = '-' then continued .sign .digit
      else
        match number.read with
        | mark :: _ => .overAtMark mark
        | [] => .over
  | .sign => .broken
  | .power =>
      if char = '_' then .more { number with demand := .digit }
      else if isImaginary then continued .imaginary .free
      else .over
  | .imaginary => .over

/-- Read the next character. -/
def next (number : Number) (char : Char) : Reading :=
  if acceptsDigit number.stage char then
    .more ⟨afterDigit number.stage, .free, char :: number.read⟩
  else
    match number.demand with
    | .digit => .broken
    | .opening => if char = '_' then .more { number with demand := .digit } else .broken
    | .free => number.readOther char

/-- An integer other than zero must not begin with a zero. -/
def wellBegun (number : Number) : Bool :=
  number.stage ≠ .whole || number.read.getLast? ≠ some '0' || number.read.all (· = '0')

/-- The value of a number that is over.  Imaginary numbers and integers beyond the
limit on digits have none; zeros do not count. -/
def value? (number : Number) : Option Scalar :=
  let digits := number.read.reverse
  match number.stage with
  | .whole =>
      if digits.all (· = '0') then some (.int 0) else (Numeral.integer? digits).map .int
  | .based base =>
      some (.int (digits.foldl (fun value digit => base * value + (digitIn? base digit).getD 0) 0 :
        Nat))
  | .mark => (Numeral.integer? (digits.dropLast)).map .int <|>
      (Numeral.double? digits.dropLast).map .float
  | .imaginary => none
  | _ => (Numeral.double? digits).map .float

/-- The words that may follow a number directly. -/
def followers : List Text :=
  ["and", "else", "for", "not", "or"].map String.toList

/-- The beginnings of further words that may. -/
def followerFronts : List Text :=
  ["if", "in", "is"].map String.toList

/-- Whether a word may follow a number without a blank in between. -/
def mayPrecede (word : Text) : Bool :=
  followers.contains word || followerFronts.any (·.isPrefixOf word)

end Number
end Program
end Oneliner
