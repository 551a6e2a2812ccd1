import Oneliner.Datum
import Oneliner.Fault

namespace Oneliner

/-!
What a program writes, on either of two streams, in the order of writing.
-/

inductive Stream where
  | out
  | err
  deriving DecidableEq, Repr

/-- One act of writing. -/
structure Write where
  stream : Stream
  text : Text
  deriving DecidableEq, Repr

/-- All that has been written, the first act first. -/
structure Transcript where
  writes : Array Write
  deriving DecidableEq, Repr

namespace Transcript

def empty : Transcript :=
  ⟨#[]⟩

def write (transcript : Transcript) (stream : Stream) (text : Text) : Transcript :=
  ⟨transcript.writes.push ⟨stream, text⟩⟩

/-- What one stream has received. -/
def on (transcript : Transcript) (stream : Stream) : Text :=
  (transcript.writes.toList.filter (·.stream = stream)).flatMap (·.text)

/-- Write a datum and a newline.  A datum without a text is refused. -/
def emit (transcript : Transcript) (stream : Stream) (datum : Datum) :
    Except Fault Transcript :=
  if datum.writable then .ok (transcript.write stream (datum.text ++ ['\n']))
  else .error .longInteger

/-- The transcript after each of several data, emitted one after the other. -/
def emissions (transcript : Transcript) : List (Stream × Datum) -> Except Fault (List Transcript)
  | [] => .ok []
  | (stream, datum) :: rest => do
      let next <- transcript.emit stream datum
      let later <- next.emissions rest
      return next :: later

end Transcript
end Oneliner
