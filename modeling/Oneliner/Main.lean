import Oneliner.Session.Execution

namespace Oneliner
namespace CommandLine

/-!
The command: it reads the startup file and the input, runs a session, and writes
what the session has written.
-/

/-- The startup file in the home directory, if it can be read. -/
def readStartup : IO (Option Text) := do
  match <- IO.getEnv "HOME" with
  | none => return none
  | some home =>
      try
        return some (<- IO.FS.readFile (home ++ "/.pype")).toList
      catch _ => return none

/-- All of a stream from here on. -/
partial def readAll (stream : IO.FS.Stream) (read : String) : IO String := do
  let line <- stream.getLine
  if line.isEmpty then return read else readAll stream (read ++ line)

/-- The input of a session that gets as far as reading it. -/
def readInput (arguments : List Text) : IO Text := do
  match Command.Options.ofArguments arguments with
  | .ok options =>
      if options.conflicting then return []
      else return (<- readAll (<- IO.getStdin) "").toList
  | .error _ => return []

/-- The width of the terminal. -/
def terminalWidth : IO Int := do
  match (<- IO.getEnv "COLUMNS").bind (Numeral.integer? <| Numeral.body ·.toList) with
  | some width => return width
  | none => return 80

def replay (transcript : Transcript) : IO Unit := do
  for write in transcript.writes do
    let stream <- match write.stream with
      | .out => IO.getStdout
      | .err => IO.getStderr
    stream.putStr (String.ofList write.text)

/-- The status of the command after a session. -/
def finish : Except (Halt Fault) Unit -> IO UInt32
  | .ok _ => return 0
  | .error (.exit (.scalar .null)) => return 0
  | .error (.exit (.scalar (.int status))) => return (status % 256).toNat.toUInt32
  | .error (.exit other) => do
      (<- IO.getStderr).putStrLn (String.ofList other.text)
      return 1
  | .error (.fault fault) => do
      (<- IO.getStderr).putStrLn (String.ofList fault.message)
      return 1

end CommandLine
end Oneliner

open Oneliner in
def main (arguments : List String) : IO UInt32 := do
  let arguments := arguments.map String.toList
  let startup <- CommandLine.readStartup
  let input <- CommandLine.readInput arguments
  let width <- CommandLine.terminalWidth
  let (result, machine) := Execution.ofSession startup width arguments input
  CommandLine.replay machine.transcript
  CommandLine.finish result
