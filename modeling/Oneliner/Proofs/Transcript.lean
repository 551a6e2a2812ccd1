import Oneliner.Transcript

namespace Oneliner
namespace Transcript

/-!
Transcripts that go on.

Nothing takes back what has been written.  So a later transcript has all that an earlier
one has, in the same order, and what each stream has received goes on in the same way.
-/

/-- What one transcript has is the beginning of another one. -/
def Begins (front whole : Transcript) : Prop :=
  front.writes.toList <+: whole.writes.toList

variable {front middle whole : Transcript}

theorem Begins.rfl : front.Begins front :=
  List.prefix_rfl

theorem Begins.trans (begins : front.Begins middle) (begins' : middle.Begins whole) :
    front.Begins whole :=
  List.IsPrefix.trans begins begins'

theorem begins_write (transcript : Transcript) (stream : Stream) (text : Text) :
    transcript.Begins (transcript.write stream text) := by
  rw [Begins, write, Array.toList_push]
  exact List.prefix_append _ _

theorem Begins.on_prefix (begins : front.Begins whole) (stream : Stream) :
    front.on stream <+: whole.on stream := by
  rcases begins with ⟨later, split⟩
  rw [on, on, ← split, List.filter_append, List.flatMap_append]
  exact List.prefix_append _ _

end Transcript
end Oneliner
