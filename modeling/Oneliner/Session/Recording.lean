import Oneliner.Session.Basic

namespace Oneliner

/-!
An engine that runs nothing and records what it is asked to run.
-/

/-- What a recording engine has been asked to do. -/
structure Recording where
  transcript : Transcript
  /-- The texts that it was given, in order. -/
  texts : List Text
  /-- Whether the function was called. -/
  called : Bool
  deriving Repr

namespace Recording

def empty : Recording :=
  ⟨.empty, [], false⟩

/-- The step that a recording engine refuses. -/
inductive Refusal where
  | define
  | call
  deriving DecidableEq, Repr

def add (text : Text) (recording : Recording) : Recording :=
  { recording with texts := recording.texts ++ [text] }

/-- Fail if the given step is the one to be refused. -/
def refuse (refused : Option Refusal) (step : Refusal) : Action Recording Refusal Unit :=
  if refused = some step then throw (.fault step) else pure ()

/-- The engine that records and refuses at most one step. -/
def engine (refused : Option Refusal) (arguments : List Text) : Engine Recording Refusal :=
  .plain
    (fun write recording =>
      { recording with transcript := recording.transcript.write write.stream write.text })
    arguments
    (fun text => modify (add text))
    (fun script => do
      modify (add script.text)
      refuse refused .define)
    (do
      modify fun recording => { recording with called := true }
      refuse refused .call)

/-- The record of a session, and how it ended early if it did. -/
def ofSession (refused : Option Refusal) (startup : Option Text) (width : Int)
    (arguments : List Text) : Except (Halt Refusal) Unit × Recording :=
  ((engine refused arguments).session startup width).runOn empty

end Recording
end Oneliner
