import Oneliner.Command.Manual
import Oneliner.Command.Options
import Oneliner.Text.Wrap
import Oneliner.Transcript

namespace Oneliner
namespace Command

/-!
What the command says about itself: usage, help and version.

The help has two columns.  Switches stand in the left one; what they do is
filled into the right one, whose width follows the width of the terminal.
-/

/-- The line that says how the command is used. -/
def usage : Text :=
  "Usage: pype [options] [code ...]\n\n".toList

/-- The name of the command. -/
def programName : Text :=
  "pype".toList

/-- A text with the name of the command in its place. -/
def nameProgram : Text -> Text
  | '%' :: 'p' :: 'r' :: 'o' :: 'g' :: rest => programName ++ nameProgram rest
  | char :: rest => char :: nameProgram rest
  | [] => []

/-- A version, as it is printed. -/
def versionText (version : Text) : Text :=
  nameProgram (programName ++ ' ' :: version) ++ ['\n']

def description : Text :=
  ("Code:                   python code to execute on each line from stdin,\n" ++
   "                        available as the variable _. use curly braces for\n" ++
   "                        indentations. use print (print(obj) in python 3)\n" ++
   "                        or out(obj) for printing to stdout, err(obj) for\n" ++
   "                        printing to stderr, and exit() (imported from\n" ++
   "                        sys) for exit codes").toList

namespace Switch

/-- All switches, in the order in which the help shows them. -/
def inHelp : List Switch :=
  [query .version, query .help, code .before, code .after, code .handler, flag .collect,
   flag .debug, flag .keepNewlines, flag .keepTexts]

/-- The name under which the help mentions the code of a switch. -/
def valueName? : Switch -> Option Text
  | code .before => some "BEFORE".toList
  | code .after => some "AFTER".toList
  | code .handler => some "EXCEPTION".toList
  | _ => none

/-- A switch in the left column: its letter if it has one, and its name. -/
def label (switch : Switch) : Text :=
  let short :=
    match switch.letter?, switch.valueName? with
    | some letter, some value => '-' :: letter :: ' ' :: value ++ ", ".toList
    | some letter, none => '-' :: letter :: ", ".toList
    | none, _ => []
  let value :=
    match switch.valueName? with
    | some value => '=' :: value
    | none => []
  short ++ spelled switch.name ++ value

/-- What a switch does. -/
def purpose : Switch -> Text
  | query .version => "show program's version number and exit".toList
  | query .help => "show this help message and exit".toList
  | code .before => "code to execute before processing stdin".toList
  | code .after => "code to execute after processing stdin".toList
  | code .handler =>
      ("catch any exception and execute this code on errors. use e.g. \"--except pass\" to " ++
       "silently ignore exceptions. the exception is available as the variable \"e\"").toList
  | flag .collect =>
      ("stores all lines in a single array (as _), then executes user code once. --before and " ++
       "--after are incompatible with this option.").toList
  | flag .debug =>
      "debug output. Shows source and every input/output processed)".toList
  | flag .keepNewlines =>
      ("newlines at the end of input lines are stripped by default for better compatability " ++
       "with \"print\". Set this flag to disable this behaviour. Settings this flag also " ++
       "disables automatic conversion of input to floats and ints").toList
  | flag .keepTexts =>
      ("do not automatically convert numbers to ints and floats. all input (_) will be strings " ++
       "if setting this flag.").toList

end Switch

/-- The columns of the help on a terminal of the given width. -/
structure Columns where
  /-- Where the right column begins. -/
  left : Nat
  /-- The width of the right column. -/
  right : Nat

/-- The right column begins behind the longest label, but not beyond a third of
an ordinary terminal and not so far that less than twenty places are left; it
never has less than eleven. -/
def Columns.ofWidth (width : Int) : Columns :=
  let available := width - 2
  let longest : Nat := (Switch.inHelp.map (·.label.length)).foldl max 0
  let left := min ((longest : Int) + 4) (min 24 (max (available - 20) 4))
  { left := left.toNat, right := (max (available - left) 11).toNat }

/-- The help on one switch.  A label too long for its column stands alone. -/
def Columns.entry (columns : Columns) (switch : Switch) : Text :=
  let label := switch.label
  let purpose := Text.wrap columns.right switch.purpose
  let indented := purpose.map (Text.spaces columns.left ++ ·)
  let lines :=
    if label.length + 4 ≤ columns.left then
      (Text.padRight columns.left (Text.spaces 2 ++ label) ++ purpose.headD []) :: indented.drop 1
    else (Text.spaces 2 ++ label) :: indented
  lines.flatMap (· ++ ['\n'])

/-- The whole help on a terminal of the given width. -/
def help (width : Int) : Text :=
  usage ++ description ++ "\nOptions:\n".toList ++
    Switch.inHelp.flatMap (Columns.ofWidth width).entry

/-- The complaint about a wrong command line. -/
def complaint (misuse : Misuse) : Text :=
  usage ++ "pype: error: ".toList ++ misuse.message ++ ['\n']

namespace Ending

/-- The status with which the command ends. -/
def status : Ending -> Int
  | query _ => 0
  | misuse _ => 2

/-- What the command of the given version writes on a terminal of the given width
before it ends. -/
def reply (version : Text) (width : Int) : Ending -> Write
  | query .version => ⟨.out, versionText version⟩
  | query .help => ⟨.out, help width⟩
  | misuse cause => ⟨.err, complaint cause⟩

end Ending
end Command
end Oneliner
