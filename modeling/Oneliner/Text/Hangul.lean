import Oneliner.Text.Basic

namespace Oneliner
namespace Text

/-!
The syllables of Hangul.

A syllable has a consonant in front, a vowel and possibly a consonant behind.
All combinations are characters of their own, in a row, so their letters and
their names are found by arithmetic.
-/

namespace Hangul

/-- The first syllable, and the letters in front of the first consonant, vowel
and final consonant. -/
def firstSyllable : Nat := 0xac00

def firstLead : Nat := 0x1100

def firstVowel : Nat := 0x1161

/-- One before the first final consonant: the place of no consonant at all. -/
def firstTail : Nat := 0x11a7

def leadCount : Nat := 19

def vowelCount : Nat := 21

def tailCount : Nat := 28

def syllableCount : Nat := leadCount * vowelCount * tailCount

/-- The letters of a syllable. -/
def letters? (code : Nat) : Option (List Nat) :=
  if firstSyllable ≤ code && code < firstSyllable + syllableCount then
    let index := code - firstSyllable
    let lead := firstLead + index / (vowelCount * tailCount)
    let vowel := firstVowel + index % (vowelCount * tailCount) / tailCount
    let tail := index % tailCount
    some (if tail = 0 then [lead, vowel] else [lead, vowel, firstTail + tail])
  else none

/-- The syllable that two letters, or a syllable and a final consonant, make. -/
def join? (left right : Nat) : Option Nat :=
  if firstLead ≤ left && left < firstLead + leadCount &&
      firstVowel ≤ right && right < firstVowel + vowelCount then
    some (firstSyllable + ((left - firstLead) * vowelCount + (right - firstVowel)) * tailCount)
  else if firstSyllable ≤ left && left < firstSyllable + syllableCount &&
      (left - firstSyllable) % tailCount = 0 &&
      firstTail < right && right < firstTail + tailCount then
    some (left + (right - firstTail))
  else none

/-- How consonants in front are called. -/
def leadNames : List String :=
  ["G", "GG", "N", "D", "DD", "R", "M", "B", "BB", "S", "SS", "", "J", "JJ", "C", "K", "T", "P", "H"]

def vowelNames : List String :=
  ["A", "AE", "YA", "YAE", "EO", "E", "YEO", "YE", "O", "WA", "WAE", "OE", "YO", "U", "WEO", "WE",
   "WI", "YU", "EU", "YI", "I"]

/-- How consonants behind are called, the absence of one included. -/
def tailNames : List String :=
  ["", "G", "GG", "GS", "N", "NJ", "NH", "D", "L", "LG", "LM", "LB", "LS", "LT", "LP", "LH", "M",
   "B", "BS", "S", "SS", "NG", "J", "C", "K", "T", "P", "H"]

/-- How the syllables are called, in order. -/
def syllableNames : List Text :=
  leadNames.flatMap fun lead =>
    vowelNames.flatMap fun vowel =>
      tailNames.map fun tail => lead.toList ++ vowel.toList ++ tail.toList

/-- The syllable with a name. -/
def ofName? (name : Text) : Option Nat :=
  (syllableNames.idxOf? name).map (firstSyllable + ·)

end Hangul
end Text
end Oneliner
