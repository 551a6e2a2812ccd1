import Oneliner.Datum
import Oneliner.Transcript

namespace Oneliner
namespace Program

/-!
Values of the language.

Lists can be changed and shared, so a list value only says which of the lists
in memory is meant.  In the same way each result that is not a number is a thing
of its own: two of them are never equal, but one of them is found in a list that
holds it.
-/

/-- Functions that belong to a value. -/
inductive Method where
  | upper
  | lower
  /-- Without certain characters at the end. -/
  | trimEnd
  /-- With placeholders filled in. -/
  | format
  /-- With blanks in front. -/
  | padLeft
  /-- The parts between marks. -/
  | split
  | append
  /-- All remaining lines of the input. -/
  | readLines
  | write
  | close
  deriving DecidableEq, Repr

/-- Functions and kinds of values that a program finds in place. -/
inductive Builtin where
  /-- Write a value and a newline on standard output. -/
  | out
  /-- Write a value and a newline on standard error. -/
  | err
  /-- Do what `out` does. -/
  | outAlias
  /-- Do what `err` does. -/
  | errAlias
  /-- The number for which a value can stand. -/
  | convert
  | absolute
  /-- Whether all elements hold. -/
  | all
  /-- Whether an element holds. -/
  | any
  | binary
  | callable
  /-- The character with a number. -/
  | character
  /-- The value of the expression that a text writes. -/
  | evaluate
  /-- Run the program that a text writes. -/
  | execute
  /-- End the session. -/
  | exit
  | format
  | hexadecimal
  | largest
  | length
  | octal
  /-- The number of a character. -/
  | ordinal
  | print
  /-- The text of a value as a program writes it. -/
  | quoted
  /-- The same, with plain characters only. -/
  | quotedPlain
  /-- End the session; this one is for people at a prompt. -/
  | quit
  | readLine
  | smallest
  | sorted
  | total
  | bool
  | dictionary
  | float
  | int
  | list
  | range
  /-- Readers of command lines. -/
  | reader
  | str
  /-- The kind of a value. -/
  | kind
  | otherFunction (name : Text)
  | otherKind (name : Text)
  /-- A function that belongs to the values of a kind, apart from them. -/
  | unbound (owner : Builtin) (method : Method)
  deriving DecidableEq, Repr

inductive Value where
  /-- A scalar that is not the absence of a number. -/
  | scalar (value : Scalar)
  /-- The absence of a number, told from others by its mark. -/
  | nan (mark : Nat)
  | bytes (value : List Nat)
  /-- The list in memory with this number. -/
  | list (index : Nat)
  /-- The integers from the first one up to the last one, which is left out. -/
  | range (first last : Int)
  | builtin (function : Builtin)
  | method (subject : Value) (method : Method)
  /-- The function in memory with this number. -/
  | function (index : Nat)
  /-- The input, line by line. -/
  | input
  | output (stream : Stream)
  /-- The startup file. -/
  | file
  | module (name : Text)
  /-- Several scalars with names. -/
  | record (fields : List (Text × Scalar))
  /-- Something of no further use that has a text. -/
  | object (text : Text)
  deriving DecidableEq, Repr

namespace Value

def nothing : Value :=
  scalar .null

def int (value : Int) : Value :=
  scalar (.int value)

def bool (value : Bool) : Value :=
  scalar (.bool value)

def str (value : Text) : Value :=
  scalar (.str value)

/-- The scalar that a value is. -/
def scalar? : Value -> Option Scalar
  | scalar value => some value
  | nan _ => some (.float .nan)
  | _ => none

def integer? (value : Value) : Option Int :=
  value.scalar?.bind Scalar.integer?

end Value

namespace Method

def name : Method -> Text
  | upper => "upper".toList
  | lower => "lower".toList
  | trimEnd => "rstrip".toList
  | format => "format".toList
  | padLeft => "rjust".toList
  | split => "split".toList
  | append => "append".toList
  | readLines => "readlines".toList
  | write => "write".toList
  | close => "close".toList

def ofTexts : List Method :=
  [upper, lower, trimEnd, format, padLeft, split]

def ofBytes : List Method :=
  [upper, lower, trimEnd]

def ofLists : List Method :=
  [append]

/-- The functions that belong to a value. -/
def of : Value -> List Method
  | .scalar (.str _) => ofTexts
  | .bytes _ => ofBytes
  | .list _ => ofLists
  | .input => [readLines]
  | .output _ => [write, close]
  | .file => [close]
  | .builtin .str => ofTexts
  | .builtin .list => ofLists
  | .builtin (.otherKind name) => if name = "bytes".toList then ofBytes else []
  | _ => []

end Method

namespace Builtin

/-- The name by which messages mention a function or a kind. -/
def name : Builtin -> Text
  | out => "out".toList
  | err => "err".toList
  | outAlias => "stdout".toList
  | errAlias => "stderr".toList
  | convert => "__try_convert_str_to_number__".toList
  | absolute => "abs".toList
  | all => "all".toList
  | any => "any".toList
  | binary => "bin".toList
  | callable => "callable".toList
  | character => "chr".toList
  | evaluate => "eval".toList
  | execute => "exec".toList
  | exit => "exit".toList
  | format => "format".toList
  | hexadecimal => "hex".toList
  | largest => "max".toList
  | length => "len".toList
  | octal => "oct".toList
  | ordinal => "ord".toList
  | print => "print".toList
  | quoted => "repr".toList
  | quotedPlain => "ascii".toList
  | quit => "quit".toList
  | readLine => "input".toList
  | smallest => "min".toList
  | sorted => "sorted".toList
  | total => "sum".toList
  | bool => "bool".toList
  | dictionary => "dict".toList
  | float => "float".toList
  | int => "int".toList
  | list => "list".toList
  | range => "range".toList
  | reader => "optparse.OptionParser".toList
  | str => "str".toList
  | kind => "type".toList
  | otherFunction name | otherKind name => name
  | unbound _ method => method.name

/-- The functions and kinds with a use that every program finds in place. -/
def common : List Builtin :=
  [absolute, all, any, binary, callable, character, evaluate, execute, format, hexadecimal,
   largest, length, octal, ordinal, print, quoted, quotedPlain, quit, readLine, smallest, sorted,
   total, bool, dictionary, float, int, list, range, str, kind]

/-- The other functions in place. -/
def otherFunctions : List Text :=
  ["__build_class__", "__import__", "aiter", "anext", "breakpoint", "compile", "delattr", "dir",
   "divmod", "getattr", "globals", "hasattr", "hash", "id", "isinstance", "issubclass", "iter",
   "locals", "next", "open", "pow", "round", "setattr", "vars"].map String.toList

/-- The other kinds of values, faults among them. -/
def otherKinds : List Text :=
  ["ArithmeticError", "AssertionError", "AttributeError", "BaseException", "BaseExceptionGroup",
   "BlockingIOError", "BrokenPipeError", "BufferError", "BytesWarning", "ChildProcessError",
   "ConnectionAbortedError", "ConnectionError", "ConnectionRefusedError", "ConnectionResetError",
   "DeprecationWarning", "EOFError", "EncodingWarning", "Exception", "ExceptionGroup",
   "FileExistsError", "FileNotFoundError", "FloatingPointError", "FutureWarning", "GeneratorExit",
   "ImportError", "ImportWarning", "IndentationError", "IndexError", "InterruptedError",
   "IsADirectoryError", "KeyError", "KeyboardInterrupt", "LookupError", "MemoryError",
   "ModuleNotFoundError", "NameError", "NotADirectoryError", "NotImplementedError", "OSError",
   "OverflowError", "PendingDeprecationWarning", "PermissionError", "ProcessLookupError",
   "RecursionError", "ReferenceError", "ResourceWarning", "RuntimeError", "RuntimeWarning",
   "StopAsyncIteration", "StopIteration", "SyntaxError", "SyntaxWarning", "SystemError",
   "SystemExit", "TabError", "TimeoutError", "TypeError", "UnboundLocalError",
   "UnicodeDecodeError", "UnicodeEncodeError", "UnicodeError", "UnicodeTranslateError",
   "UnicodeWarning", "UserWarning", "ValueError", "Warning", "ZeroDivisionError", "bytearray",
   "bytes", "classmethod", "complex", "enumerate", "filter", "frozenset", "map",
   "memoryview", "object", "property", "reversed", "set", "slice", "staticmethod", "super",
   "tuple", "zip"].map String.toList

/-- Kinds with a second name. -/
def otherNames : List (Text × Text) :=
  [("EnvironmentError".toList, "OSError".toList), ("IOError".toList, "OSError".toList)]

/-- Values in place that are neither functions nor kinds. -/
def constants : List (Text × Value) :=
  [("True".toList, .bool true), ("False".toList, .bool false), ("None".toList, .nothing),
   ("Ellipsis".toList, .object "Ellipsis".toList),
   ("NotImplemented".toList, .object "NotImplemented".toList),
   ("copyright".toList, .object "copyright".toList), ("credits".toList, .object "credits".toList),
   ("help".toList,
    .object "Type help() for interactive help, or help(object) for help about object.".toList),
   ("license".toList, .object "Type license() to see the full license text".toList)]

/-- What a program finds under a name to which it has given nothing else. -/
def inPlace? (name : Text) : Option Value :=
  match common.find? (·.name = name) with
  | some function => some (.builtin function)
  | none =>
      if otherFunctions.contains name then some (.builtin (.otherFunction name))
      else if otherKinds.contains name then some (.builtin (.otherKind name))
      else
        match otherNames.lookup name with
        | some first => some (.builtin (.otherKind first))
        | none => constants.lookup name

/-- Whether it is a kind of values rather than a function. -/
def isKind : Builtin -> Bool
  | bool | dictionary | float | int | list | range | reader | str | kind | otherKind _ => true
  | _ => false

/-- The text of a function or a kind. -/
def text (function : Builtin) : Text :=
  match function with
  | quit => "Use quit() or Ctrl-D (i.e. EOF) to exit".toList
  | unbound owner method =>
      "<method '".toList ++ method.name ++ "' of '".toList ++ owner.name ++ "' objects>".toList
  | out | err | outAlias | errAlias | convert => "<function ".toList ++ function.name ++ ['>']
  | other =>
      if other.isKind then "<class '".toList ++ other.name ++ "'>".toList
      else "<built-in function ".toList ++ other.name ++ ['>']

end Builtin

namespace Value

def typeName : Value -> Text
  | scalar value => value.typeName
  | nan _ => "float".toList
  | bytes _ => "bytes".toList
  | list _ => "list".toList
  | range .. => "range".toList
  | builtin found =>
      match found with
      | .out | .err | .outAlias | .errAlias | .convert => "function".toList
      | other => (if other.isKind then "type" else "builtin_function_or_method").toList
  | method .. => "builtin_function_or_method".toList
  | function _ => "function".toList
  | input | output _ | file => "_io.TextIOWrapper".toList
  | module _ => "module".toList
  | record _ => "Values".toList
  | object _ => "object".toList

/-- The text of a record: its fields in braces. -/
def recordText (fields : List (Text × Scalar)) : Text :=
  let entry (field : Text × Scalar) : Text :=
    Text.quoted field.1 ++ ": ".toList ++ field.2.quoted
  '\x7b' :: ", ".toList.intercalate (fields.map entry) ++ ['\x7d']

/-- The modules that are part of the language itself. -/
def innerModules : List Text :=
  ["builtins", "sys", "time"].map String.toList

def moduleText (name : Text) : Text :=
  "<module '".toList ++ name ++
    (if innerModules.contains name then "' (built-in)>" else "'>").toList

end Value
end Program
end Oneliner
