import Oneliner.Braces.Scan
import Oneliner.Command.Options
import Oneliner.Text.Blank

namespace Oneliner

/-!
The function that carries the user's code.

A script is the user's code, expanded, together with the choices that shape
the function around it.  The function is written as a list of fragments.  Each
fragment knows where its lines come from and how deep they are indented, so
that one can tell the user's lines from those that the function adds.
-/

structure Script where
  /-- Code to run once before the first line.  It is absent if it is empty. -/
  before : Option Text
  /-- Code to run once after the last line. -/
  after : Option Text
  /-- Code to run when a fault has been caught. -/
  handler : Option Text
  main : Text
  /-- Run the main code once, on the list of all lines. -/
  collect : Bool
  debug : Bool
  trim : Bool
  convert : Bool
  deriving DecidableEq, Repr

namespace Script

/-- A piece of code, unless it is absent or empty. -/
def present (code : Option Text) : Option Text :=
  code.filter (!·.isEmpty)

/-- The main code of a command line: its pieces with blanks between them. -/
def joinCode (pieces : List Text) : Text :=
  [' '].intercalate pieces

/-- The script for options whose code has been expanded. -/
def ofExpanded (options : Command.Options) (before after handler : Option Text) (main : Text) :
    Script where
  before := before
  after := after
  handler := handler
  main := main
  collect := options.collect
  debug := options.debug
  trim := options.trim
  convert := options.convert

def ofOptions (options : Command.Options) : Script :=
  ofExpanded options ((present options.before).map Braces.expand)
    ((present options.after).map Braces.expand) ((present options.handler).map Braces.expand)
    (Braces.expand (joinCode options.code))

/-- Where the lines of a fragment come from. -/
inductive Origin where
  /-- The function itself. -/
  | frame
  /-- Lines that are there only to show what the function does. -/
  | trace
  | before
  | main
  | after
  | handler
  deriving DecidableEq, Repr

/-- Lines of one origin and one depth, and the number of newlines behind them. -/
structure Fragment where
  origin : Origin
  depth : Int
  body : Text
  newlines : Nat
  deriving DecidableEq, Repr

namespace Fragment

def text (fragment : Fragment) : Text :=
  fragment.body.indent fragment.depth ++ List.replicate fragment.newlines '\n'

/-- A line of the function itself. -/
def frame (depth : Int) (line : String) : Fragment :=
  ⟨.frame, depth, line.toList, 1⟩

/-- A line that shows what the function does. -/
def trace (depth : Int) (line : String) : Fragment :=
  ⟨.trace, depth, line.toList, 1⟩

end Fragment

open Fragment

/-- The depth of the function's own lines: one more inside a handler. -/
def depth (script : Script) : Int :=
  if script.handler.isSome then 2 else 1

/-- How all lines are read at once. -/
def collectLine (script : Script) : String :=
  if script.trim then
    if script.convert then
      "_ = [__try_convert_str_to_number__(a.rstrip('\\n')) for a in sys.stdin.readlines()]"
    else "_ = [a.rstrip('\\n') for a in sys.stdin.readlines()]"
  else "_ = sys.stdin.readlines()"

/-- The lines that show the collected input. -/
def collectTrace (script : Script) : List Fragment :=
  if script.debug then
    ["# debug mode - print input", "print('Input:')", "print(_)", "print('')"].map
      (trace script.depth)
  else []

/-- The body of a function that runs the main code once. -/
def collectBody (script : Script) : List Fragment :=
  frame script.depth script.collectLine :: script.collectTrace ++
    [frame script.depth "# 'pype' code", ⟨.main, script.depth, script.main, 1⟩]

/-- A section of code outside the loop, under its heading. -/
def sectionBody (script : Script) (origin : Origin) (heading announcement : String)
    (code : Option Text) : List Fragment :=
  match code with
  | none => []
  | some code =>
      frame script.depth heading ::
        (if script.debug then [trace script.depth announcement] else []) ++
        [⟨origin, script.depth, code, 2⟩]

/-- How a line is prepared for the main code. -/
def preparation (script : Script) : List Fragment :=
  (if script.trim then [frame (script.depth + 1) "_ = _.rstrip('\\n')"] else []) ++
    (if script.trim && script.convert then
      [frame (script.depth + 1) "_ = __try_convert_str_to_number__(_)"]
    else [])

/-- The lines that show each input line. -/
def loopTrace (script : Script) : List Fragment :=
  if script.debug then
    ["print('== input line \x7b0\x7d'.format(__lineno__))", "print('\x7b0\x7d'.format(_))\n",
     "print('== output line \x7b0\x7d'.format(__lineno__))", "__lineno__ += 1\n"].map
      (trace (script.depth + 1))
  else []

/-- The body of a function that runs the main code on each line. -/
def loopBody (script : Script) : List Fragment :=
  script.sectionBody .before "# 'before' code" "print('--before')" script.before ++
    (if script.debug then [⟨.trace, script.depth, "__lineno__ = 1".toList, 2⟩] else []) ++
    frame script.depth "for _ in stdin:" :: script.preparation ++ script.loopTrace ++
    [frame (script.depth + 1) "# 'pype' code", ⟨.main, script.depth + 1, script.main, 1⟩] ++
    script.sectionBody .after "# 'after' code" "print('--after')" script.after

/-- The handler around the body. -/
def handlerBody (script : Script) : List Fragment :=
  match script.handler with
  | none => []
  | some code => [frame 1 "except Exception, e:", ⟨.handler, 2, code, 1⟩]

/-- The fragments of the function. -/
def fragments (script : Script) : List Fragment :=
  ⟨.frame, 0, "def pype(stdin):".toList, 2⟩ ::
    (if script.handler.isSome then [frame 1 "try:"] else []) ++
    (if script.collect then script.collectBody else script.loopBody) ++
    script.handlerBody

/-- The text of the function, which ends in exactly one newline. -/
def text (script : Script) : Text :=
  Text.trim (script.fragments.flatMap Fragment.text) ++ ['\n']

end Script
end Oneliner
