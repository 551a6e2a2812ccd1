import Oneliner.Fault

namespace Oneliner
namespace Repetition

/-!
Sequences repeated a number of times, and the limits on that.

A negative count makes no copies.  A count must fit into a machine word, whatever
is repeated; then the size of the result must do so as well, and at last there
must be memory for it.
-/

/-- Counts and sizes from this on are out of reach. -/
def wordBound : Nat := Nat.pow 2 63

/-- Sequences beyond this size do not fit in memory.  No rule of the language gives the
number: it is an assumption about the machine, which is taken to have 64 GiB. -/
def memorySize : Nat := Nat.pow 2 36

/-- Why a sequence of the given size cannot be repeated, if it cannot.  The first
argument is the fault for sizes that are out of reach. -/
def obstacle? (tooLong : Fault) (size : Nat) (count : Int) : Option Fault :=
  if count < -wordBound || count ≥ wordBound then some .largeCount
  else if size * count.toNat ≥ wordBound then some tooLong
  else if size * count.toNat > memorySize then some .outOfMemory
  else none

/-- Copies of a sequence, one behind the other. -/
def copies {Item : Type} (tooLong : Fault) (sequence : List Item) (count : Int) :
    Except Fault (List Item) :=
  match obstacle? tooLong sequence.length count with
  | some fault => .error fault
  | none => .ok (if sequence.isEmpty then [] else (List.replicate count.toNat sequence).flatten)

end Repetition
end Oneliner
