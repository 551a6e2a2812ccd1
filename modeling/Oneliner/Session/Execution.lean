import Oneliner.Program.Evaluation
import Oneliner.Session.Basic
import Oneliner.Session.Workspace

namespace Oneliner
namespace Execution

/-!
The engine that really runs programs.

The session itself works through global names, as the programs do that it runs.
Whoever gives such a name to something else changes the course of the session.
-/

open Program
open Workspace

/-- Call what is found under a global name. -/
def callNamed (name : String) (arguments : List Value) : Run Value := do
  Dispatch.outermost.call (<- Run.find name.toList) arguments

/-- Call a function that belongs to a value. -/
def callMember (subject : Value) (name : String) (arguments : List Value) : Run Value := do
  Dispatch.outermost.call (<- Run.memberOf subject name.toList) arguments

/-- Run the startup file, close it and take its name away.  Closing fails if the
name has been bound to something else. -/
def load (execute : Text -> Run Unit) (text : Text) : Run Unit := do
  modify fun machine =>
    { machine with globals := machine.globals.set fileName .file, fileOpen := true }
  execute text
  let _ <- callMember (<- Run.find fileName) "close" []
  Run.unbind fileName

/-- Functions defined from here on look for what is in place under its name. -/
def checkPlace : Run Unit := do
  match <- Run.find placeName with
  | .module name =>
      if name = "builtins".toList then pure () else Run.fail (.unknownName "__build_class__".toList)
  | other => Run.fail (.notSubscriptable other.typeName)

/-- Make a reader of command lines.  Of all other kinds only dictionaries can be made
in the same way, and they read no command line. -/
def checkReader : Run Unit := do
  let found <- Run.find readerName
  if found = reader || found = .builtin .dictionary then pure ()
  else Run.fail (.argumentType readerName found.typeName)

/-- Put the helpers in place and get ready to read a command line. -/
def prepare : Run (Option Text) := do
  modify fun machine => { machine with globals := machine.globals.setAll helpers }
  if !(<- Run.same (<- Run.find roleName) (.str mainRole)) then return none
  checkPlace
  checkReader
  match <- Run.find versionName with
  | .scalar (.str version) =>
      let found <- Run.find readerName
      if found = reader then return some version
      else Run.fail (.noMember found.typeName "add_option".toList)
  | other => Run.fail (.operands "+".toList "str".toList other.typeName)

/-- The command line: what stands behind the command in the list that holds it, if a
program has asked for this list.  All of it must be texts. -/
def commandWords (machine : Machine) : Except Fault (List Text) :=
  match machine.argumentList with
  | none => .ok machine.arguments
  | some index =>
      ((machine.items index).toList.drop 1).mapM fun value =>
        match value with
        | .scalar (.str text) => .ok text
        | other => .error (.notSubscriptable other.typeName)

def commandLine : Run (List Text) := do
  Run.ofExcept (commandWords (<- get))

def accept (options : Command.Options) : Run Unit :=
  Run.bind optionsName (optionsRecord options)

/-- Complain and end the session, both through global names. -/
def refuse : Run Unit := do
  let _ <- callNamed "err" [.str Command.conflictText]
  let _ <- callMember (<- Run.find "sys".toList) "exit" [.int Command.conflictStatus]

/-- The characters in a list of them. -/
def charsOf (values : List Value) : Text :=
  values.flatMap fun value =>
    match value with
    | .scalar (.str text) => text
    | _ => []

/-- How many windows onto a program are asked for.  Windows are numbered by integers
only. -/
def windowCount : Value -> Run Nat
  | .range _ last => pure last.toNat
  | other => do
      match <- Run.elements other with
      | [] => pure 0
      | first :: _ => Run.fail (.operands "+".toList first.typeName "int".toList)

/-- Expand a piece of code.  Its characters and their number are found through
global names. -/
def expand (code : Text) : Run Text := do
  match <- callNamed "list" [.str code] with
  | .list index => do
      let source := charsOf ((<- get).items index).toList
      let numbering <- Run.find "range".toList
      let size <- callNamed "len" [.str code]
      let count <- windowCount (<- Dispatch.outermost.call numbering [size])
      if count ≤ source.length then return Braces.expandFront count source
      else Run.fail (.shortWindow 2)
  | other => Run.fail (.operands "+".toList "list".toList other.typeName)

def settle (script : Script) : Run Unit :=
  modify fun machine => { machine with globals := withScript script machine.globals }

/-- List the numbered lines of the program by the writer with the given name. -/
def listLines (writer : String) (number : Nat) : List Value -> Run Unit
  | [] => pure ()
  | line :: rest => do
      Run.bind "line".toList line
      Run.bind "__lineno__".toList (.int number)
      let function <- Run.find writer.toList
      let label <- callMember (<- callNamed "str" [.int number]) "rjust" [.int Script.numberWidth]
      let shown := ' ' :: (<- Run.textOf label) ++ ": ".toList ++ (<- Run.textOf line)
      let _ <- Dispatch.outermost.call function [.str shown]
      listLines writer (number + 1) rest

/-- List the program by the writer with the given name. -/
def list (writer : String) : Run Unit := do
  let _ <- callNamed writer [.str "Source:".toList]
  Run.bind "__lineno__".toList (.int 0)
  let lines <- callMember (<- Run.find programName) "split" [.str ['\n']]
  listLines writer 1 (<- Run.elements lines)
  let _ <- callNamed writer [.str []]

/-- Run the text of the program. -/
def define : Run Unit := do
  let function <- Run.find "exec".toList
  let _ <- Dispatch.outermost.call function [<- Run.find programName]

/-- Call whatever is bound to the function's name on the input. -/
def call : Run Unit := do
  let function <- Run.find functionName
  let source <- Run.memberOf (<- Run.find "sys".toList) "stdin".toList
  let _ <- Dispatch.outermost.call function [source]

/-- List the program after it has failed, unless the options tell that it was listed
before. -/
def regret : Run Unit := do
  let debug <- Run.memberOf (<- Run.find optionsName) "debug".toList
  if (<- get).holds debug then pure () else list "err"

def engine : Engine Machine Fault where
  write := fun write => Run.write write.stream write.text
  load := load Dispatch.outermost.execute
  prepare := prepare
  arguments := commandLine
  accept := accept
  refuse := refuse
  expand := expand
  settle := settle
  announce := fun _ => list "print"
  define := fun _ => define
  call := call
  regret := fun _ => regret

/-- The machine at the beginning of a session. -/
def start (arguments : List Text) (input : Text) : Machine where
  globals := initial
  locals := []
  lists := #[]
  functions := #[]
  marks := 0
  input := input.inputLines
  fileOpen := false
  shut := []
  arguments := arguments
  argumentList := none
  transcript := .empty

/-- Run a session on an input. -/
def ofSession (startup : Option Text) (width : Int) (arguments : List Text) (input : Text) :
    Except (Halt Fault) Unit × Machine :=
  (engine.session startup width).runOn (start arguments input)

end Execution
end Oneliner
