import Oneliner.Text.Quoted

namespace Oneliner

/-!
What can go wrong in a program, by cause, and the message for each cause.
-/

inductive Fault where
  /-- The value has no elements to go through. -/
  | notIterable (type : Text)
  /-- A sequence is repeated by something other than an integer. -/
  | notCount (type : Text)
  | noMember (type member : Text)
  | notCallable (type : Text)
  /-- An operator does not apply to operands of these kinds. -/
  | operands (operator left right : Text)
  /-- Only a text can occur in a text. -/
  | notPart (type : Text)
  | noLength (type : Text)
  | argumentType (function type : Text)
  | argumentCount (function : Text)
  /-- Nothing can be looked up in a value of this kind. -/
  | notSubscriptable (type : Text)
  | unknownName (name : Text)
  /-- A local variable is used before it has a value. -/
  | unboundName (name : Text)
  /-- A variable of the surrounding function is used before it has a value. -/
  | unboundOuter (name : Text)
  /-- The text does not follow the grammar. -/
  | grammar
  /-- A line does not belong to any block at its column. -/
  | layout
  /-- A header is followed by no block. -/
  | missingBlock
  /-- Tabs and blanks are mixed so that columns cannot be compared. -/
  | mixedTabs
  /-- A program text contains the null character. -/
  | nullCharacter
  /-- An integer has too many digits to be written. -/
  | longInteger
  /-- A format text has a placeholder that is not understood. -/
  | placeholder
  /-- A text writes no integer. -/
  | notInteger (text : Text)
  /-- A text writes no number. -/
  | notNumber (text : Text)
  /-- What is not a number has no integer near it. -/
  | nanInteger
  | infiniteInteger
  /-- There is nothing to choose from. -/
  | noChoice (function : Text)
  /-- No character has this number. -/
  | noCharacter
  /-- A dictionary is made of pairs only. -/
  | notPair
  /-- A window onto a program does not show three characters. -/
  | shortWindow (size : Nat)
  | closedFile
  | endOfInput
  /-- An integer is too large for a floating-point number. -/
  | largeInteger
  /-- An integer is too large to count with. -/
  | largeCount
  | longText
  | outOfMemory
  | tooDeep
  deriving DecidableEq, Repr

namespace Fault

/-- The families of faults that callers tell apart. -/
inductive Kind where
  | type
  | member
  | name
  | unboundName
  | grammar
  | layout
  | tabs
  | value
  | overflow
  | memory
  | depth
  | endOfInput
  deriving DecidableEq, Repr

def kind : Fault -> Kind
  | notIterable _ | notCount _ | notCallable _ | operands .. | notPart _ | noLength _
  | argumentType .. | argumentCount _ | notSubscriptable _ => .type
  | noMember .. => .member
  | unknownName _ | unboundOuter _ => .name
  | unboundName _ => .unboundName
  | grammar | nullCharacter => .grammar
  | layout | missingBlock => .layout
  | mixedTabs => .tabs
  | longInteger | placeholder | notInteger _ | notNumber _ | nanInteger | noChoice _
  | noCharacter | notPair | shortWindow _ | closedFile => .value
  | endOfInput => .endOfInput
  | largeInteger | largeCount | longText | infiniteInteger => .overflow
  | outOfMemory => .memory
  | tooDeep => .depth

private def quotedName (name : Text) : Text :=
  '\'' :: name ++ ['\'']

def message : Fault -> Text
  | notIterable type => quotedName type ++ " object is not iterable".toList
  | notCount type => "can't multiply sequence by non-int of type ".toList ++ quotedName type
  | noMember type member =>
      quotedName type ++ " object has no attribute ".toList ++ quotedName member
  | notCallable type => quotedName type ++ " object is not callable".toList
  | operands operator left right =>
      "unsupported operand type(s) for ".toList ++ operator ++ ": ".toList ++ quotedName left ++
        " and ".toList ++ quotedName right
  | notPart type => "'in <string>' requires string as left operand, not ".toList ++ type
  | noLength type => "object of type ".toList ++ quotedName type ++ " has no len()".toList
  | argumentType function type => function ++ "() argument must not be ".toList ++ quotedName type
  | argumentCount function => function ++ "() takes a different number of arguments".toList
  | notSubscriptable type => quotedName type ++ " object is not subscriptable".toList
  | unknownName name => "name ".toList ++ quotedName name ++ " is not defined".toList
  | unboundName name =>
      "cannot access local variable ".toList ++ quotedName name ++
        " where it is not associated with a value".toList
  | unboundOuter name =>
      "cannot access free variable ".toList ++ quotedName name ++
        " where it is not associated with a value in enclosing scope".toList
  | grammar => "invalid syntax".toList
  | layout => "unexpected indent".toList
  | missingBlock => "expected an indented block".toList
  | mixedTabs => "inconsistent use of tabs and spaces in indentation".toList
  | nullCharacter => "source code string cannot contain null bytes".toList
  | longInteger =>
      ("Exceeds the limit (4300 digits) for integer string conversion; " ++
        "use sys.set_int_max_str_digits() to increase the limit").toList
  | placeholder => "unexpected placeholder in format string".toList
  | notInteger text => "invalid literal for int() with base 10: ".toList ++ Text.quoted text
  | notNumber text => "could not convert string to float: ".toList ++ Text.quoted text
  | nanInteger => "cannot convert float NaN to integer".toList
  | infiniteInteger => "cannot convert float infinity to integer".toList
  | noChoice function => function ++ "() arg is an empty sequence".toList
  | noCharacter => "chr() arg not in range(0x110000)".toList
  | notPair =>
      "dictionary update sequence element #0 has length 1; 2 is required".toList
  | shortWindow size =>
      "not enough values to unpack (expected 3, got ".toList ++ Text.ofNat size ++ [')']
  | closedFile => "I/O operation on closed file.".toList
  | endOfInput => "EOF when reading a line".toList
  | largeInteger => "int too large to convert to float".toList
  | largeCount => "cannot fit 'int' into an index-sized integer".toList
  | longText => "repeated string is too long".toList
  | outOfMemory => []
  | tooDeep => "maximum recursion depth exceeded".toList

end Fault
end Oneliner
