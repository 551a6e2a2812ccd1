import Oneliner.Text.CharacterName.Alphabets
import Oneliner.Text.CharacterName.Pictures
import Oneliner.Text.CharacterName.Second
import Oneliner.Text.CharacterName.Signs
import Oneliner.Text.Hangul
import Oneliner.Text.Hexadecimal

namespace Oneliner
namespace Text
namespace CharacterName

/-!
Characters by their names.

The names of the Latin, Greek and Cyrillic alphabets, of punctuation and symbols and of
pictures are kept in tables, in a short form that says how many words a name has in
common with the one before it, and that has small letters for the words that occur most.
Names with a number in them are made by rules.  The names of other scripts are not known
here.  Capitals and small letters are the same in a name, except in those of ideographs
and of Hangul syllables, which must be in capitals.
-/

/-- A character with the words of its name. -/
structure Entry where
  code : Nat
  words : List Text

/-- The entry in front of a table. -/
def Entry.first : Entry :=
  ⟨0, []⟩

/-- Divide an item of a table into a number in front of an equals sign, if there is
one, and the rest. -/
def numberAndRest (item : Text) : Option Nat × Text :=
  if item.contains '=' then
    (some (ofHexadecimal (item.takeWhile (· ≠ '='))), (item.dropWhile (· ≠ '=')).drop 1)
  else (none, item)

/-- The words for which small letters stand, in the order of the letters. -/
def frequentWords : List String :=
  ["ABOVE", "AND", "ARROW", "BELOW", "BLACK", "CAPITAL", "DOUBLE", "FINAL", "FORM", "HORIZONTAL",
   "INITIAL", "ISOLATED", "LEFT", "LEFTWARDS", "LETTER", "RIGHT", "RIGHTWARDS", "SIGN", "SMALL",
   "STROKE", "SYMBOL", "THREE", "TRIANGLE-HEADED", "VERTICAL", "WHITE", "WITH"]

/-- A word of a name in full. -/
def fullWord (word : Text) : Text :=
  match word with
  | [letter] =>
      if letter.isLower then
        ((frequentWords[letter.toNat - 'a'.toNat]?).map String.toList).getD word
      else word
  | _ => word

/-- The entry for an item, which is behind the given one.  An item consists of the
number of the character, unless it is the next one; a digit for the number of
words that stay; and the other words. -/
def Entry.next (entry : Entry) (item : Text) : Entry :=
  let (number, rest) := numberAndRest item
  let words :=
    match rest with
    | [] => []
    | [digit] => entry.words.take (digit.toNat - '0'.toNat)
    | digit :: later => entry.words.take (digit.toNat - '0'.toNat) ++ (split ' ' later).map fullWord
  ⟨number.getD (entry.code + 1), words⟩

/-- Look for a name, given by its words, in the items behind an entry. -/
def findBehind (name : List Text) (entry : Entry) : List Text -> Option Nat
  | [] => none
  | item :: rest =>
      let found := entry.next item
      if found.words = name then some found.code else findBehind name found rest

/-- The items of a table. -/
def items (table : List String) : List Text :=
  table.flatMap (split '|' ·.toList)

/-- The tables of names. -/
def tables : List (List String) :=
  [alphabets, signs, pictures]

/-- Look for a name in the tables. -/
def inTables? (name : Text) : Option Nat :=
  tables.findSome? fun table => findBehind (split ' ' name) .first (items table)

/-- Look for a name among the second names. -/
def second? (name : Text) : Option Nat :=
  (items secondNames).findSome? fun item =>
    let (number, rest) := numberAndRest item
    if rest = name then number else none

/-- Consecutive characters whose names differ in a number only. -/
structure Family where
  /-- What stands in front of the number. -/
  front : String
  first : Nat
  last : Nat
  /-- The number of the first character. -/
  start : Nat
  base : Nat
  /-- The least number of digits. -/
  width : Nat

/-- Characters with their own numbers in their names. -/
def Family.byCode (front : String) (first last : Nat) : Family :=
  ⟨front, first, last, first, 16, 4⟩

/-- The name of a character of a family, given its place. -/
def Family.name (family : Family) (place : Nat) : Text :=
  let digits := (Nat.toDigits family.base (family.start + place)).map Char.toUpper
  family.front.toList ++ List.replicate (family.width - digits.length) '0' ++ digits

/-- The character of a family with a name. -/
def Family.find? (family : Family) (name : Text) : Option Nat :=
  if family.front.toList.isPrefixOf name then
    ((List.range (family.last + 1 - family.first)).find? (family.name · = name)).map
      (family.first + ·)
  else none

def families : List Family :=
  [.byCode "CJK COMPATIBILITY IDEOGRAPH-" 0xf900 0xfa6d,
   .byCode "CJK COMPATIBILITY IDEOGRAPH-" 0xfa70 0xfad9,
   .byCode "CJK COMPATIBILITY IDEOGRAPH-" 0x2f800 0x2fa1d,
   .byCode "KHITAN SMALL SCRIPT CHARACTER-" 0x18b00 0x18cd5,
   .byCode "NUSHU CHARACTER-" 0x1b170 0x1b2fb,
   ⟨"TANGUT COMPONENT-", 0x18800, 0x18aff, 1, 10, 3⟩,
   ⟨"VARIATION SELECTOR-", 0xfe00, 0xfe0f, 1, 10, 1⟩,
   ⟨"VARIATION SELECTOR-", 0xe0100, 0xe01ef, 17, 10, 1⟩,
   ⟨"VS", 0xfe00, 0xfe0f, 1, 10, 1⟩,
   ⟨"VS", 0xe0100, 0xe01ef, 17, 10, 1⟩]

/-- The ranges of ideographs. -/
def ideographs : List (Nat × Nat) :=
  [(0x3400, 0x4dbf), (0x4e00, 0x9fff), (0x20000, 0x2a6df), (0x2a700, 0x2b738),
   (0x2b740, 0x2b81d), (0x2b820, 0x2cea1), (0x2ceb0, 0x2ebe0), (0x30000, 0x3134a)]

def ideographFront : Text :=
  "CJK UNIFIED IDEOGRAPH-".toList

/-- The ideograph with a name.  Its number is written in four or five digits. -/
def ideograph? (name : Text) : Option Nat :=
  let digits := name.drop ideographFront.length
  let code := ofHexadecimal digits
  if ideographFront.isPrefixOf name && (hexadecimal 4 code).map Char.toUpper = digits &&
      ideographs.any (fun (first, last) => first ≤ code && code ≤ last) then some code
  else none

def syllableFront : Text :=
  "HANGUL SYLLABLE ".toList

/-- The syllable with a name. -/
def syllable? (name : Text) : Option Nat :=
  if syllableFront.isPrefixOf name then Hangul.ofName? (name.drop syllableFront.length) else none

/-- The number of the character with a name.  No name goes over the end of a line. -/
def find? (name : Text) : Option Nat :=
  if name.contains '\n' then none
  else
    let capitals := name.map Char.toUpper
    ideograph? name <|> syllable? name <|> families.findSome? (·.find? capitals) <|>
      second? capitals <|> inTables? capitals

end CharacterName
end Text
end Oneliner
