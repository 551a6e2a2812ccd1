import Oneliner.Text.Basic

namespace Oneliner
namespace Text

/-!
Properties of characters given as closed ranges of code points.
-/

/-- Closed ranges of code points, in increasing order. -/
abbrev Ranges := List (Nat × Nat)

/-- Whether some range holds the character. -/
def Ranges.has (ranges : Ranges) (char : Char) : Bool :=
  ranges.any fun (first, last) => first ≤ char.toNat && char.toNat ≤ last

end Text
end Oneliner
