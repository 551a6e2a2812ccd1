import Oneliner.Program.Arithmetic
import Oneliner.Text.Blank
import Oneliner.Text.LetterCase

namespace Oneliner
namespace Program

/-!
What the functions in place do.

Some of them work through others that the program finds under global names, so a
program that gives such a name to something else changes what they do.  For
calling what they find they are given a dispatch.
-/

/-- How functions call others and run programs. -/
structure Dispatch where
  call : Value -> List Value -> Run Value
  /-- Run a program text. -/
  execute : Text -> Run Unit
  /-- Evaluate an expression text. -/
  evaluate : Text -> Run Value

/-- Fill texts into the placeholders of another one.  A placeholder is a digit in
braces; doubled braces are braces. -/
def fill? (values : List Text) : Text -> Option Text
  | [] => some []
  | '\x7b' :: '\x7b' :: rest => (fill? values rest).map ('\x7b' :: ·)
  | '\x7d' :: '\x7d' :: rest => (fill? values rest).map ('\x7d' :: ·)
  | '\x7b' :: digit :: '\x7d' :: rest =>
      if digit.isDigit then do
        let value <- values[digit.toNat - '0'.toNat]?
        (fill? values rest).map (value ++ ·)
      else none
  | char :: rest =>
      if char = '\x7b' || char = '\x7d' then none else (fill? values rest).map (char :: ·)

namespace Run

/-- The integer for which a value stands. -/
def integerOf (value : Value) : Run Int :=
  match value with
  | .scalar (.str text) =>
      match Numeral.integer? (Numeral.body text) with
      | some integer => pure integer
      | none => fail (.notInteger text)
  | .bytes bytes =>
      match Numeral.integer? (Numeral.body (bytes.map Char.ofNat)) with
      | some integer => pure integer
      | none => fail (.notInteger (bytes.map Char.ofNat))
  | .nan _ => fail .nanInteger
  | .scalar (.float number) =>
      match number.truncate? with
      | some integer => pure integer
      | none => fail .infiniteInteger
  | other =>
      match other.integer? with
      | some integer => pure integer
      | none => fail (.argumentType "int".toList other.typeName)

/-- The floating-point number for which a value stands.  What is one already stays
the same thing. -/
def floatOf (value : Value) : Run Value :=
  let ofText (text : Text) : Run Value :=
    match Numeral.double? (Numeral.body text) with
    | some number => ofScalar (.float number)
    | none => fail (.notNumber text)
  match value with
  | .scalar (.str text) => ofText text
  | .bytes bytes => ofText (bytes.map Char.ofNat)
  | .nan mark => pure (.nan mark)
  | other =>
      match other.scalar?.bind Scalar.double? with
      | some number => do ofScalar (.float (<- ofExcept number))
      | none => fail (.argumentType "float".toList other.typeName)

/-- What a value has under a name. -/
def memberOf (subject : Value) (name : Text) : Run Value :=
  let missing := fail (.noMember subject.typeName name)
  match subject, (Method.of subject).find? (·.name = name) with
  | .builtin owner, some method => pure (.builtin (.unbound owner method))
  | _, some method => pure (.method subject method)
  | .module found, none =>
      if found = "sys".toList then
        if name = "stdin".toList then pure .input
        else if name = "stdout".toList then pure (.output .out)
        else if name = "stderr".toList then pure (.output .err)
        else if name = "exit".toList then pure (.builtin .exit)
        else if name = "argv".toList then commandList
        else missing
      else if found = "os".toList && name = "close".toList then
        pure (.builtin (.otherFunction name))
      else missing
  | .record fields, none =>
      match fields.lookup name with
      | some field => pure (.scalar field)
      | none => missing
  | _, none => missing

/-- The parts of a text between marks, of which there must be one character. -/
def splitAt (text : Text) : Text -> Run Value
  | [mark] => do makeList ((Text.split mark text).map .str).toArray
  | _ => fail .placeholder

/-- Call a function that belongs to a value. -/
def callMethod (subject : Value) (method : Method) (arguments : List Value) : Run Value :=
  let lettersOf (change : Char -> Char) (bytes : List Nat) : Value :=
    .bytes (bytes.map fun byte => (change (Char.ofNat byte)).toNat)
  match subject, method, arguments with
  | .scalar (.str text), .upper, [] => return .str text.upper
  | .scalar (.str text), .lower, [] => return .str text.lower
  | .bytes bytes, .upper, [] => return lettersOf Char.toUpper bytes
  | .bytes bytes, .lower, [] => return lettersOf Char.toLower bytes
  | .scalar (.str text), .trimEnd, [] => return .str text.trimRight
  | .scalar (.str text), .trimEnd, [.scalar (.str unwanted)] =>
      return .str (text.dropEnding unwanted)
  | .scalar (.str text), .trimEnd, [.scalar .null] => return .str text.trimRight
  | .scalar (.str _), .trimEnd, [other] | .bytes _, .trimEnd, [other] =>
      fail (.argumentType method.name other.typeName)
  | .scalar (.str text), .format, values => do
      match fill? (<- values.mapM textOf) text with
      | some filled => return .str filled
      | none => fail .placeholder
  | .scalar (.str text), .padLeft, [width] =>
      match width.integer? with
      | some width => return .str (text.padLeft width.toNat)
      | none => fail (.argumentType method.name width.typeName)
  | .scalar (.str text), .split, [.scalar (.str mark)] => splitAt text mark
  | .list index, .append, [value] => do
      append index value
      return .nothing
  | .input, .readLines, [] => do makeList ((<- remainingLines).map .str).toArray
  | .output stream, .write, [.scalar (.str text)] => do
      write stream text
      return .int text.length
  | .output stream, .close, [] => do
      shut stream
      return .nothing
  | .file, .close, [] => do
      modify fun machine => { machine with fileOpen := false }
      return .nothing
  | _, _, _ => fail (.argumentCount method.name)

/-- Call a function that belongs to the values of a kind, given one of them. -/
def callUnbound (owner : Builtin) (method : Method) : List Value -> Run Value
  | [] => fail (.argumentCount method.name)
  | subject :: arguments =>
      if subject.typeName = owner.name then callMethod subject method arguments
      else fail (.argumentType method.name subject.typeName)

/-- Write a value and a newline through the stream that the system has under the
given name. -/
def emit (dispatch : Dispatch) (streamName : Text) (value : Value) : Run Value := do
  let stream <- memberOf (<- find "sys".toList) streamName
  let function <- memberOf stream "write".toList
  let text <- textOf value
  let _ <- dispatch.call function [.str (text ++ ['\n'])]
  return .nothing

/-- The number for which a value can stand: what the first kind of numbers makes of
it, else what the second one does, else the value itself. -/
def convert (dispatch : Dispatch) (value : Value) : Run Value :=
  tryCatch
    (do dispatch.call (<- find "int".toList) [value])
    fun _ =>
      tryCatch
        (do dispatch.call (<- find "float".toList) [value])
        fun _ => pure value

/-- An integer in another base, with the letter of the base. -/
def inBase (base : Nat) (letter : Char) (value : Int) : Text :=
  (if value < 0 then ['-'] else []) ++ '0' :: letter :: Nat.toDigits base value.natAbs

/-- The kind of a value, as far as it has a name. -/
def kindOf (value : Value) : Value :=
  match Builtin.inPlace? value.typeName with
  | some kind => kind
  | none => .object ("<class '".toList ++ value.typeName ++ "'>".toList)

/-- The characters of a text with their values laid open and only plain characters
left. -/
def plainText (text : Text) : Text :=
  text.flatMap fun char => if char.toNat < 0x80 then [char] else Text.numberEscape char

/-- The number of a single character or byte. -/
def ordinalOf : Value -> Run Value
  | .scalar (.str [char]) => return .int (Text.codeOf char)
  | .bytes [byte] => return .int byte
  | other => fail (.argumentType Builtin.ordinal.name other.typeName)

/-- Read a line, without its end. -/
def readLine : Run Value := do
  match <- nextLine? with
  | none => fail .endOfInput
  | some line => return .str (if line.getLast? = some '\n' then line.dropLast else line)

/-- Whether a value can be called. -/
def isCallable : Value -> Bool
  | .builtin _ | .method .. | .function _ => true
  | _ => false

/-- The text of a dictionary without entries. -/
def emptyDictionary : Text :=
  ['\x7b', '\x7d']

/-- Call a function in place. -/
def callBuiltin (dispatch : Dispatch) (function : Builtin) (arguments : List Value) : Run Value :=
  let withInteger (value : Value) (act : Int -> Run Value) : Run Value :=
    match value.integer? with
    | some integer => act integer
    | none => fail (.argumentType function.name value.typeName)
  let choose (beats : Value -> Value -> Run Bool) (values : List Value) : Run Value :=
    match values with
    | [] => fail (.noChoice function.name)
    | first :: rest => best beats first rest
  match function, arguments with
  | .out, [value] => emit dispatch "stdout".toList value
  | .err, [value] => emit dispatch "stderr".toList value
  | .outAlias, [value] => do dispatch.call (<- find "out".toList) [value]
  | .errAlias, [value] => do
      let _ <- dispatch.call (<- find "err".toList) [value]
      return .nothing
  | .convert, [value] => convert dispatch value
  | .absolute, [value] =>
      match value.scalar? with
      | some (.float number) => ofScalar (.float number.absolute)
      | _ => withInteger value fun integer => return .int integer.natAbs
  | .all, [value] => do
      let values <- elements value
      return .bool (values.all (<- get).holds)
  | .any, [value] => do
      let values <- elements value
      return .bool (values.any (<- get).holds)
  | .binary, [value] => withInteger value fun integer => return .str (inBase 2 'b' integer)
  | .octal, [value] => withInteger value fun integer => return .str (inBase 8 'o' integer)
  | .hexadecimal, [value] => withInteger value fun integer => return .str (inBase 16 'x' integer)
  | .callable, [value] => return .bool (isCallable value)
  | .character, [value] =>
      withInteger value fun integer =>
        match if integer < 0 then none else Text.charOf? integer.toNat with
        | some char => return .str [char]
        | none => fail .noCharacter
  | .evaluate, [.scalar (.str text)] => dispatch.evaluate text
  | .execute, [.scalar (.str text)] => do
      dispatch.execute text
      return .nothing
  | .exit, [] | .quit, [] => throw (.exit (.scalar .null))
  | .exit, [value] | .quit, [value] => do
      match (<- get).view value with
      | some status => throw (.exit status)
      | none => fail .tooDeep
  | .format, [value] => return .str (<- textOf value)
  | .largest, [value] => do choose (fun next first => less first next) (<- elements value)
  | .largest, first :: rest => choose (fun next first => less first next) (first :: rest)
  | .smallest, [value] => do choose less (<- elements value)
  | .smallest, first :: rest => choose less (first :: rest)
  | .length, [value] => lengthOf value
  | .ordinal, [value] => ordinalOf value
  | .print, values => do
      let texts <- values.mapM textOf
      write .out ([' '].intercalate texts ++ ['\n'])
      return .nothing
  | .quoted, [value] => return .str (<- viewOf value).quoted
  | .quotedPlain, [value] => return .str (plainText (<- viewOf value).quoted)
  | .readLine, [] => readLine
  | .readLine, [value] => do
      write .out (<- textOf value)
      readLine
  | .sorted, [value] => do makeList (<- sort (<- elements value)).toArray
  | .total, [value] => do addAll (.int 0) (<- elements value)
  | .total, [value, first] => do
      let values <- elements value
      match first with
      | .scalar (.str _) | .bytes _ => fail (.argumentType function.name first.typeName)
      | first => addAll first values
  | .bool, [] => return .bool false
  | .bool, [value] => return .bool ((<- get).holds value)
  | .dictionary, [] => return .object emptyDictionary
  | .dictionary, [value] => do
      match <- elements value with
      | [] => return .object emptyDictionary
      | _ => fail .notPair
  | .float, [] => ofScalar (.float (.ofRatio false 0 1))
  | .float, [value] => floatOf value
  | .int, [] => return .int 0
  | .int, [value] => return .int (<- integerOf value)
  | .list, [] => makeList #[]
  | .list, [value] => do makeList (<- elements value).toArray
  | .range, [last] => withInteger last fun last => return .range 0 last
  | .range, [first, last] =>
      withInteger first fun first => withInteger last fun last => return .range first last
  | .reader, [.scalar (.str usage)] => return .object usage
  | .reader, [.scalar .null] => return .object []
  | .reader, [other] => fail (.noMember other.typeName "lower".toList)
  | .str, [] => return .str []
  | .str, [value] => return .str (<- textOf value)
  | .kind, [value] => return kindOf value
  | .unbound owner method, arguments => callUnbound owner method arguments
  | _, [value] => fail (.argumentType function.name value.typeName)
  | _, _ => fail (.argumentCount function.name)

end Run
end Program
end Oneliner
