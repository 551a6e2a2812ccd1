import Oneliner.Action
import Oneliner.Command.Help
import Oneliner.Script.Listing

namespace Oneliner

/-!
A whole session: startup file, command line, function, run.

A session does not run programs itself.  It is given an engine, which loads the
startup file, defines the function and calls it, each of which may end the
session early.  Whatever the engine is, the function's text is listed beforehand
in debug mode, and otherwise when defining or calling it has failed.

A startup file may give new meanings to names on which the session itself
depends, so an engine also has a say in the other steps.  In a plain engine these
steps are what they should be.
-/

/-- What a session needs for running programs. -/
structure Engine (State Cause : Type) where
  write : Write -> Action State Cause Unit
  /-- Run the text of the startup file. -/
  load : Text -> Action State Cause Unit
  /-- Get ready for a command line: the version of the command, or nothing if there
  is to be no session. -/
  prepare : Action State Cause (Option Text)
  /-- The command line as it stands by then. -/
  arguments : Action State Cause (List Text)
  /-- Take note of the options. -/
  accept : Command.Options -> Action State Cause Unit
  /-- Complain about conflicting options and end the session. -/
  refuse : Action State Cause Unit
  /-- The indented program for a piece of code. -/
  expand : Text -> Action State Cause Text
  /-- Take note of the script. -/
  settle : Script -> Action State Cause Unit
  /-- List the script before it is run. -/
  announce : Script -> Action State Cause Unit
  /-- Run the text of the script, which defines the function. -/
  define : Script -> Action State Cause Unit
  /-- Call the function on the input. -/
  call : Action State Cause Unit
  /-- List the script after it has failed, unless it was listed before. -/
  regret : Script -> Action State Cause Unit

namespace Command

/-- Code that is run outside the loop does not go with running the main code
once.  Empty code counts as none. -/
def Options.conflicting (options : Options) : Bool :=
  options.collect && (options.before.any (!·.isEmpty) || options.after.any (!·.isEmpty))

/-- The complaint about conflicting options. -/
def conflictText : Text :=
  ("Error: --before (-b) and --after (-a) options are incompatible with the " ++
    "--collect (-c) flag").toList

/-- The status with which a session with conflicting options ends. -/
def conflictStatus : Int := 100

end Command

namespace Engine

variable {State Cause : Type}

/-- End the session with a status. -/
def exit {Result : Type} (status : Int) : Action State Cause Result :=
  throw (.exit (.scalar (.int status)))

/-- The engine in which only the startup file and the function are run by others. -/
def plain (write : Write -> State -> State) (arguments : List Text)
    (load : Text -> Action State Cause Unit) (define : Script -> Action State Cause Unit)
    (call : Action State Cause Unit) : Engine State Cause where
  write := fun text => modify (write text)
  load := load
  prepare := pure (some Command.version)
  arguments := pure arguments
  accept := fun _ => pure ()
  refuse := do
    modify (write ⟨.err, Command.conflictText ++ ['\n']⟩)
    exit Command.conflictStatus
  expand := fun code => pure (Braces.expand code)
  settle := fun _ => pure ()
  announce := fun script => modify (write ⟨.out, Script.listing script.text⟩)
  define := define
  call := call
  regret := fun script =>
    if script.debug then pure () else modify (write ⟨.err, Script.listing script.text⟩)

/-- Define the function of a script and call it, with the listing before or, on
a failure, after it. -/
def perform (engine : Engine State Cause) (script : Script) : Action State Cause Unit := do
  if script.debug then engine.announce script
  tryCatch
    (do
      engine.define script
      engine.call)
    fun halt => do
      engine.regret script
      throw halt

/-- Expand a piece of code, unless it is absent. -/
def expandPresent (engine : Engine State Cause) :
    Option Text -> Action State Cause (Option Text)
  | none => pure none
  | some code => some <$> engine.expand code

/-- The script for options.  The main code is expanded last. -/
def scriptOf (engine : Engine State Cause) (options : Command.Options) :
    Action State Cause Script := do
  let before <- engine.expandPresent (Script.present options.before)
  let after <- engine.expandPresent (Script.present options.after)
  let handler <- engine.expandPresent (Script.present options.handler)
  let main <- engine.expand (Script.joinCode options.code)
  return .ofExpanded options before after handler main

/-- Carry out what has been made of the command line, on a terminal of the given width.
That leads to a script, or the session is over. -/
def carryOut (engine : Engine State Cause) (version : Text) (width : Int) :
    Except Command.Ending Command.Options -> Action State Cause (Option Script)
  | .error ending => do
      engine.write (ending.reply version width)
      exit ending.status
  | .ok options => do
      engine.accept options
      if options.conflicting then do
        engine.refuse
        return none
      else do
        let script <- engine.scriptOf options
        engine.settle script
        return some script

/-- Obey the command line, if there is to be a session. -/
def obey (engine : Engine State Cause) (width : Int) : Action State Cause (Option Script) := do
  match <- engine.prepare with
  | none => return none
  | some version => engine.carryOut version width (Command.Options.ofArguments (<- engine.arguments))

/-- All that leads to a script.  The startup file, if there is one, comes before everything
else, and its line ends are brought into one form. -/
def approach (engine : Engine State Cause) (startup : Option Text) (width : Int) :
    Action State Cause (Option Script) := do
  match startup with
  | some text => engine.load text.normalizeNewlines
  | none => pure ()
  engine.obey width

/-- Perform the script, if there is one. -/
def finish (engine : Engine State Cause) : Option Script -> Action State Cause Unit
  | none => pure ()
  | some script => engine.perform script

/-- A session. -/
def session (engine : Engine State Cause) (startup : Option Text) (width : Int) :
    Action State Cause Unit := do
  engine.finish (<- engine.approach startup width)

end Engine
end Oneliner
