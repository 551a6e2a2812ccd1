import Oneliner.Script.Basic

namespace Oneliner
namespace Script

/-!
The listing of a program: its lines with their numbers.
-/

/-- The width of a line number. -/
def numberWidth : Nat := 3

/-- One line of a listing. -/
def listingLine (number : Nat) (line : Text) : Text :=
  ' ' :: Text.padLeft numberWidth (Text.ofNat number) ++ ": ".toList ++ line ++ ['\n']

/-- Lines numbered from the given number on. -/
def listingFrom (number : Nat) : List Text -> Text
  | [] => []
  | line :: rest => listingLine number line ++ listingFrom (number + 1) rest

/-- A heading, the numbered lines, and an empty line. -/
def listing (program : Text) : Text :=
  "Source:\n".toList ++ listingFrom 1 program.lines ++ ['\n']

end Script
end Oneliner
