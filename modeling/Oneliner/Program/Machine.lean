import Oneliner.Action
import Oneliner.Fault
import Oneliner.Program.Stmt
import Oneliner.Program.Value

namespace Oneliner
namespace Program

/-!
The machine on which programs run: variables, lists, functions, input and
output.
-/

/-- Variables with their values. -/
abbrev Bindings := List (Text × Value)

namespace Bindings

def remove (bindings : Bindings) (name : Text) : Bindings :=
  bindings.filter (·.1 ≠ name)

/-- Give a variable a value. -/
def set (bindings : Bindings) (name : Text) (value : Value) : Bindings :=
  (name, value) :: bindings.remove name

/-- Give several variables values, one after the other. -/
def setAll (bindings : Bindings) (more : List (Text × Value)) : Bindings :=
  more.foldl (fun bindings (name, value) => bindings.set name value) bindings

end Bindings

/-- A function of a program. -/
structure Function where
  parameter : Text
  body : Stmt
  deriving Repr

structure Machine where
  globals : Bindings
  /-- The variables of the function that is running. -/
  locals : Bindings
  /-- The lists that have been made, in order. -/
  lists : Array (Array Value)
  /-- The functions that have been defined, in order. -/
  functions : Array Function
  /-- The number of results so far that are not numbers. -/
  marks : Nat
  /-- The lines of the input that have not been read. -/
  input : List Text
  /-- Whether the startup file is open. -/
  fileOpen : Bool
  /-- The streams that have been closed. -/
  shut : List Stream
  /-- The command line with which the session was begun. -/
  arguments : List Text
  /-- The list in memory that holds the command, once a program has asked for it. -/
  argumentList : Option Nat
  transcript : Transcript
  deriving Repr

/-- An action of a program. -/
abbrev Run (Result : Type) :=
  Action Machine Fault Result

/-- How deep lists can stand inside each other when they are written or compared.  Each
list takes one of the thousand calls that may be under way at a time, of which the session
takes ten. -/
def nestLimit : Nat := 990

namespace Machine

/-- The items of a list. -/
def items (machine : Machine) (index : Nat) : Array Value :=
  machine.lists.getD index #[]

/-- A value with its lists laid open, if they are not too deep for the bound.  A
list inside itself is only hinted at; `opened` are the lists around the value. -/
def viewWithin (machine : Machine) : Nat -> List Nat -> Value -> Option Datum
  | _, _, .scalar value => some (.scalar value)
  | _, _, .nan _ => some (.scalar (.float .nan))
  | _, _, .bytes value => some (.described (Text.quotedBytes value))
  | 0, _, .list _ => none
  | bound + 1, opened, .list index =>
      if opened.contains index then some (.described "[...]".toList)
      else
        ((machine.items index).toList.mapM (machine.viewWithin bound (index :: opened))).map .list
  | _, _, .range first last =>
      some (.described ("range(".toList ++ Text.ofInt first ++ ", ".toList ++ Text.ofInt last ++
        [')']))
  | _, _, .builtin function => some (.described function.text)
  | _, _, .method _ method =>
      some (.described ("<built-in method ".toList ++ method.name ++ ['>']))
  | _, _, .function _ => some (.described "<function>".toList)
  | _, _, .input => some (.described "<stdin>".toList)
  | _, _, .output _ => some (.described "<output>".toList)
  | _, _, .file => some (.described "<file>".toList)
  | _, _, .module name => some (.described (Value.moduleText name))
  | _, _, .record fields => some (.described (Value.recordText fields))
  | _, _, .object text => some (.described text)

/-- A value with its lists laid open, unless they are too deep. -/
def view (machine : Machine) (value : Value) : Option Datum :=
  machine.viewWithin nestLimit [] value

/-- Whether two ranges have the same elements. -/
def sameRange (first last first' last' : Int) : Bool :=
  let count := (last - first).toNat
  count = (last' - first').toNat && (count = 0 || first = first')

/-- Equality of values, with a bound on the depth.  Items of lists that are one
and the same thing are not looked at. -/
def sameWithin (machine : Machine) : Nat -> Value -> Value -> Option Bool
  | _, .scalar left, .scalar right => some (left.same right)
  | _, .nan _, _ | _, _, .nan _ => some false
  | _, .range first last, .range first' last' => some (sameRange first last first' last')
  | 0, .list _, .list _ => none
  | bound + 1, .list left, .list right =>
      let lefts := machine.items left
      let rights := machine.items right
      if lefts.size ≠ rights.size then some false
      else
        (lefts.toList.zip rights.toList).foldl
          (fun same (left, right) =>
            match same with
            | some true => if left = right then some true else machine.sameWithin bound left right
            | other => other)
          (some true)
  | _, left, right => some (decide (left = right))

/-- Equality of values.  It has no answer if lists are nested too deep. -/
def same? (machine : Machine) (left right : Value) : Option Bool :=
  machine.sameWithin nestLimit left right

/-- Whether a value holds as a condition. -/
def holds (machine : Machine) : Value -> Bool
  | .scalar value => value.holds
  | .bytes value => !value.isEmpty
  | .list index => !(machine.items index).isEmpty
  | .range first last => decide (first < last)
  | _ => true

end Machine

namespace Run

def fail {Result : Type} (fault : Fault) : Run Result :=
  throw (.fault fault)

def ofExcept {Result : Type} : Except Fault Result -> Run Result
  | .ok result => pure result
  | .error fault => fail fault

/-- The value of a global name: what the program has given to it, or else what is
found in place. -/
def find (name : Text) : Run Value := do
  match (<- get).globals.lookup name, Builtin.inPlace? name with
  | some value, _ => return value
  | none, some value => return value
  | none, none => fail (.unknownName name)

/-- Give a global name a value. -/
def bind (name : Text) (value : Value) : Run Unit :=
  modify fun machine => { machine with globals := machine.globals.set name value }

/-- Take a global name away. -/
def unbind (name : Text) : Run Unit :=
  modify fun machine => { machine with globals := machine.globals.remove name }

/-- The value for a scalar.  A result that is not a number gets a mark of its own. -/
def ofScalar : Scalar -> Run Value
  | .float .nan =>
      modifyGet fun machine => (.nan machine.marks, { machine with marks := machine.marks + 1 })
  | value => pure (.scalar value)

/-- A value laid open for writing. -/
def viewOf (value : Value) : Run Datum := do
  match (<- get).view value with
  | none => fail .tooDeep
  | some datum => if datum.writable then return datum else fail .longInteger

/-- The text of a value. -/
def textOf (value : Value) : Run Text := do
  return (<- viewOf value).text

/-- Write a text on a stream, which must not have been closed. -/
def write (stream : Stream) (text : Text) : Run Unit := do
  if (<- get).shut.contains stream then fail .closedFile
  else
    modify fun machine =>
      { machine with transcript := machine.transcript.write stream text }

/-- Close a stream for good. -/
def shut (stream : Stream) : Run Unit :=
  modify fun machine => { machine with shut := stream :: machine.shut }

/-- Put a new list into memory. -/
def storeList (items : Array Value) : Run Nat :=
  modifyGet fun machine =>
    (machine.lists.size, { machine with lists := machine.lists.push items })

/-- Make a new list. -/
def makeList (items : Array Value) : Run Value := do
  return .list (<- storeList items)

/-- The name of the command, which stands in front of its arguments. -/
def commandName : Text := "pype".toList

/-- The list that holds the command.  It is made when a program asks for it first, and
whoever changes it afterwards changes the command line. -/
def commandList : Run Value := do
  match (<- get).argumentList with
  | some index => return .list index
  | none => do
      let words := commandName :: (<- get).arguments
      let index <- storeList (words.map .str).toArray
      modify fun machine => { machine with argumentList := some index }
      return .list index

/-- Define a new function. -/
def makeFunction (function : Function) : Run Value :=
  modifyGet fun machine =>
    (.function machine.functions.size,
      { machine with functions := machine.functions.push function })

/-- Put a value behind the items of a list. -/
def push (index : Nat) (value : Value) : Run Unit :=
  modify fun machine =>
    { machine with lists := machine.lists.modify index (·.push value) }

/-- The most items to which a list can grow by appending. -/
def maxItems : Nat := Nat.pow 2 60 - 1

/-- Add an item at the end of a list. -/
def append (index : Nat) (value : Value) : Run Unit := do
  if ((<- get).items index).size < maxItems then push index value else fail .outOfMemory

/-- Take the next line from the input. -/
def nextLine? : Run (Option Text) :=
  modifyGet fun machine =>
    match machine.input with
    | [] => (none, machine)
    | line :: rest => (some line, { machine with input := rest })

/-- Take all remaining lines from the input. -/
def remainingLines : Run (List Text) :=
  modifyGet fun machine => (machine.input, { machine with input := [] })

/-- The startup file has been read to its end, so nothing of it is left.  Nothing
at all can be asked of it once it is closed. -/
def checkFile : Run Unit := do
  if (<- get).fileOpen then pure () else fail .closedFile

/-- Act on the remaining lines of the input, as many as `count`. -/
def forLines (act : Value -> Run Unit) : Nat -> Run Unit
  | 0 => pure ()
  | count + 1 => do
      match <- nextLine? with
      | none => pure ()
      | some line => do
          act (.str line)
          forLines act count

/-- Act on the items of a list from a position on, as many as `count`.  Items
that are added meanwhile are met as well. -/
def forItems (index : Nat) (act : Value -> Run Unit) : Nat -> Nat -> Run Unit
  | 0, _ => pure ()
  | count + 1, position => do
      match ((<- get).items index)[position]? with
      | none => pure ()
      | some item => do
          act item
          forItems index act count (position + 1)

/-- Act on consecutive integers. -/
def forIntegers (act : Value -> Run Unit) : Nat -> Int -> Run Unit
  | 0, _ => pure ()
  | count + 1, first => do
      act (.int first)
      forIntegers act count (first + 1)

/-- Act on everything that a value consists of, in order.  A list never has more
items than it has now and can grow to, and the input has no more lines than are
left. -/
def forEach (source : Value) (act : Value -> Run Unit) : Run Unit :=
  match source with
  | .scalar (.str text) => text.forM fun char => act (.str [char])
  | .bytes value => value.forM fun byte => act (.int byte)
  | .list index => do forItems index act (((<- get).items index).size + maxItems) 0
  | .range first last => forIntegers act (last - first).toNat first
  | .input => do forLines act (<- get).input.length
  | .file => checkFile
  | other => fail (.notIterable other.typeName)

/-- All that a value consists of. -/
def elements : Value -> Run (List Value)
  | .scalar (.str text) => return text.map (.str [·])
  | .bytes value => return value.map fun byte : Nat => .int byte
  | .list index => return ((<- get).items index).toList
  | .range first last =>
      return (List.range (last - first).toNat).map fun step : Nat => .int (first + step)
  | .input => return (<- remainingLines).map .str
  | .file => do
      checkFile
      return []
  | other => fail (.notIterable other.typeName)

end Run
end Program
end Oneliner
