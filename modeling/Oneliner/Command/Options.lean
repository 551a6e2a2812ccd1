import Oneliner.Command.Switch

namespace Oneliner
namespace Command

/-!
The record of options that a command line stands for, and the reading of it.

Arguments are read from left to right.  Switches and pieces of code may be
mixed, a later value replaces an earlier one, and the first argument that asks
for information or that is wrong ends the reading.
-/

structure Options where
  before : Option Text
  after : Option Text
  handler : Option Text
  collect : Bool
  debug : Bool
  /-- Take the newline off every input line. -/
  trim : Bool
  /-- Turn input lines into numbers where they read as numbers. -/
  convert : Bool
  /-- The pieces of code, which are joined by blanks. -/
  code : List Text
  deriving DecidableEq, Repr

namespace Options

/-- The options of the empty command line. -/
def default : Options where
  before := none
  after := none
  handler := none
  collect := false
  debug := false
  trim := true
  convert := true
  code := []

def setCode (options : Options) (part : Section) (value : Text) : Options :=
  match part with
  | .before => { options with before := some value }
  | .after => { options with after := some value }
  | .handler => { options with handler := some value }

def setFlag (options : Options) : Flag -> Options
  | .collect => { options with collect := true }
  | .debug => { options with debug := true }
  | .keepNewlines => { options with trim := false }
  | .keepTexts => { options with convert := false }

def addCode (options : Options) (pieces : List Text) : Options :=
  { options with code := options.code ++ pieces }

end Options

/-- How one argument is to be understood, by its form alone. -/
inductive Argument where
  /-- Two hyphens: what follows is code. -/
  | terminator
  | piece (text : Text)
  /-- A name, with the value behind an equals sign if there is one. -/
  | named (name : Text) (value : Option Text)
  /-- A hyphen and at least one letter. -/
  | letters (letters : Text)
  deriving DecidableEq, Repr

namespace Argument

def ofText : Text -> Argument
  | ['-', '-'] => terminator
  | '-' :: '-' :: rest =>
      named (rest.takeWhile (· ≠ '=')) (rest.dropWhile (· ≠ '=')).tail?
  | '-' :: letter :: rest => letters (letter :: rest)
  | text => piece text

end Argument

/-- Why no options come out of a command line. -/
inductive Ending where
  | query (query : Query)
  | misuse (misuse : Misuse)
  deriving DecidableEq, Repr

/-- Options so far, and a switch that still waits for its code, under the
spelling in which it was given. -/
structure Reading where
  options : Options
  waiting : Option (Section × Text)

/-- Read a group of letters.  A switch that takes code takes the rest of the
group, unless it is the last one. -/
def readLetters (options : Options) : Text -> Except Ending Reading
  | [] => .ok ⟨options, none⟩
  | letter :: rest =>
      match Switch.ofLetter? letter with
      | none => .error (.misuse (.unknown ['-', letter]))
      | some (.query query) => .error (.query query)
      | some (.flag flag) => readLetters (options.setFlag flag) rest
      | some (.code part) =>
          if rest.isEmpty then .ok ⟨options, some (part, ['-', letter])⟩
          else .ok ⟨options.setCode part rest, none⟩

/-- Read a name with its value. -/
def readNamed (options : Options) (name : Text) (value : Option Text) : Except Ending Reading :=
  match Switch.ofName name with
  | .error misuse => .error (.misuse misuse)
  | .ok switch =>
      match switch, value with
      | .code part, some value => .ok ⟨options.setCode part value, none⟩
      | .code part, none => .ok ⟨options, some (part, Switch.spelled switch.name)⟩
      | .flag flag, none => .ok ⟨options.setFlag flag, none⟩
      | .query query, none => .error (.query query)
      | _, some _ => .error (.misuse (.unwantedValue (Switch.spelled switch.name)))

/-- Read one argument that is neither code nor the terminator. -/
def readSwitch (options : Options) : Argument -> Except Ending Reading
  | .terminator => .ok ⟨options, none⟩
  | .piece text => .ok ⟨options.addCode [text], none⟩
  | .named name value => readNamed options name value
  | .letters letters => readLetters options letters

/-- Read arguments on top of options.  A switch that waits for its code takes
the next argument, whatever it looks like. -/
def read (options : Options) : List Text -> Except Ending Options
  | [] => .ok options
  | argument :: rest =>
      if Argument.ofText argument = .terminator then .ok (options.addCode rest)
      else
        match readSwitch options (Argument.ofText argument) with
        | .error ending => .error ending
        | .ok ⟨options, none⟩ => read options rest
        | .ok ⟨options, some (part, spelling)⟩ =>
            match rest with
            | [] => .error (.misuse (.missingValue spelling))
            | value :: rest => read (options.setCode part value) rest

/-- The options that a command line stands for. -/
def Options.ofArguments (arguments : List Text) : Except Ending Options :=
  read .default arguments

namespace Options

/-- A switch that takes code, with its code, if it is given. -/
def writeCode (part : Section) : Option Text -> List Text
  | none => []
  | some value => [Switch.spelled (Switch.code part).name ++ '=' :: value]

/-- A flag, if it is given. -/
def writeFlag (flag : Flag) (given : Bool) : List Text :=
  if given then [Switch.spelled (Switch.flag flag).name] else []

/-- A command line for the options: switches first, code behind a terminator. -/
def toArguments (options : Options) : List Text :=
  writeCode .before options.before ++ writeCode .after options.after ++
    writeCode .handler options.handler ++ writeFlag .collect options.collect ++
    writeFlag .debug options.debug ++ writeFlag .keepNewlines (!options.trim) ++
    writeFlag .keepTexts (!options.convert) ++ ['-', '-'] :: options.code

end Options
end Command
end Oneliner
