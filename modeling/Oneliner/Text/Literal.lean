import Oneliner.Text.CharacterName
import Oneliner.Text.Code

namespace Oneliner
namespace Text

/-!
Literals: how what stands between quotation marks is read.

Reading knows more escapes than writing uses, and leaves a backslash alone when
it begins none of them.
-/

/-- How far the reading of an escape has come. -/
inductive Escape where
  | outside
  /-- Right after the backslash. -/
  | started
  /-- In an octal number that may have `left` more digits. -/
  | octal (left value : Nat)
  /-- In a hexadecimal number that must have `left + 1` more digits. -/
  | hexadecimal (left value : Nat)
  /-- In front of the brace that opens a name. -/
  | naming
  /-- In a name, of which the part that has been read is reversed. -/
  | named (read : Text)

/-- The characters that a letter after a backslash stands for. -/
def escapeLetters : List (Char × Char) :=
  [('\\', '\\'), ('\'', '\''), ('"', '"'), ('a', '\x07'), ('b', '\x08'), ('f', '\x0c'),
   ('n', '\n'), ('r', '\r'), ('t', '\t'), ('v', '\x0b')]

def octalValue? (char : Char) : Option Nat :=
  if '0' ≤ char && char ≤ '7' then some (char.toNat - '0'.toNat) else none

/-- What the escapes of a literal can write. -/
structure Alphabet (Item : Type) where
  /-- What a character outside escapes stands for. -/
  ofChar : Char -> Item
  /-- What an octal or a hexadecimal number stands for, if anything. -/
  ofNumber? : Nat -> Option Item
  /-- Whether something can also be given by a long number or by a name. -/
  wide : Bool

/-- Characters: every number must belong to one. -/
def charAlphabet : Alphabet Char :=
  ⟨id, charOf?, true⟩

/-- Bytes: larger numbers lose their higher digits. -/
def byteAlphabet : Alphabet Nat :=
  ⟨Char.toNat, fun number => some (number % 256), false⟩

/-- Read the rest of the inside of a literal.  A number that is too short or
that stands for nothing is refused, and so is a name that belongs to nothing. -/
def unescapeFrom {Item : Type} (alphabet : Alphabet Item) : Escape -> Text -> Option (List Item)
  | .outside, [] => some []
  | .octal _ value, [] => (alphabet.ofNumber? value).map ([·])
  | .started, [] | .hexadecimal .., [] | .naming, [] | .named _, [] => none
  | .outside, char :: rest =>
      if char = '\\' then unescapeFrom alphabet .started rest
      else (unescapeFrom alphabet .outside rest).map (alphabet.ofChar char :: ·)
  | .started, char :: rest =>
      match escapeLetters.lookup char, octalValue? char with
      | some meant, _ => (unescapeFrom alphabet .outside rest).map (alphabet.ofChar meant :: ·)
      | none, some digit => unescapeFrom alphabet (.octal 2 digit) rest
      | none, none =>
          if char = '\n' then unescapeFrom alphabet .outside rest
          else if char = 'x' then unescapeFrom alphabet (.hexadecimal 1 0) rest
          else if alphabet.wide && char = 'u' then unescapeFrom alphabet (.hexadecimal 3 0) rest
          else if alphabet.wide && char = 'U' then unescapeFrom alphabet (.hexadecimal 7 0) rest
          else if alphabet.wide && char = 'N' then unescapeFrom alphabet .naming rest
          else
            (unescapeFrom alphabet .outside rest).map
              (alphabet.ofChar '\\' :: alphabet.ofChar char :: ·)
  | .octal left value, char :: rest =>
      match left, octalValue? char with
      | more + 1, some digit => unescapeFrom alphabet (.octal more (8 * value + digit)) rest
      | _, _ =>
          (alphabet.ofNumber? value).bind fun meant =>
            if char = '\\' then (unescapeFrom alphabet .started rest).map (meant :: ·)
            else (unescapeFrom alphabet .outside rest).map (meant :: alphabet.ofChar char :: ·)
  | .hexadecimal left value, char :: rest =>
      (hexValue? char).bind fun digit =>
        match left with
        | more + 1 => unescapeFrom alphabet (.hexadecimal more (16 * value + digit)) rest
        | 0 =>
            (alphabet.ofNumber? (16 * value + digit)).bind fun meant =>
              (unescapeFrom alphabet .outside rest).map (meant :: ·)
  | .naming, char :: rest =>
      if char = '\x7b' then unescapeFrom alphabet (.named []) rest else none
  | .named read, char :: rest =>
      if char = '\x7d' then
        ((CharacterName.find? read.reverse).bind alphabet.ofNumber?).bind fun meant =>
          (unescapeFrom alphabet .outside rest).map (meant :: ·)
      else unescapeFrom alphabet (.named (char :: read)) rest

/-- The text that the inside of a literal stands for. -/
def unescape? (inside : Text) : Option Text :=
  unescapeFrom charAlphabet .outside inside

/-- The bytes that the inside of a literal stands for. -/
def unescapeBytes? (inside : Text) : Option (List Nat) :=
  unescapeFrom byteAlphabet .outside inside

end Text
end Oneliner
