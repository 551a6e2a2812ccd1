import Oneliner.Text.Code
import Oneliner.Text.Hexadecimal
import Oneliner.Text.Printable

namespace Oneliner
namespace Text

/-!
Quoted texts: how a text is written as a literal.

A literal is written in single quotes, or in double quotes when that saves
escaping.  What has no printed form is written by its number.
-/

/-- The quotation mark in which a text is written. -/
def quoteMark (text : Text) : Char :=
  if text.contains '\'' && !text.contains '"' then '"' else '\''

/-- A character written by its number. -/
def numberEscape (char : Char) : Text :=
  let code := codeOf char
  if code < 0x100 then '\\' :: 'x' :: hexadecimal 2 code
  else if code < 0x10000 then '\\' :: 'u' :: hexadecimal 4 code
  else '\\' :: 'U' :: hexadecimal 8 code

/-- A character as it is written between the given quotation marks. -/
def escapeChar (mark char : Char) : Text :=
  if char = mark || char = '\\' then ['\\', char]
  else if char = '\n' then ['\\', 'n']
  else if char = '\r' then ['\\', 'r']
  else if char = '\t' then ['\\', 't']
  else if isPrintable char then [char]
  else numberEscape char

/-- The text as a literal. -/
def quoted (text : Text) : Text :=
  let mark := quoteMark text
  mark :: text.flatMap (escapeChar mark) ++ [mark]

/-- The text as a literal of plain characters only. -/
def quotedPlain (text : Text) : Text :=
  let mark := quoteMark text
  let escape (char : Char) : Text :=
    if char.toNat < 0x80 then escapeChar mark char else numberEscape char
  mark :: text.flatMap escape ++ [mark]

/-- Bytes as a literal. -/
def quotedBytes (bytes : List Nat) : Text :=
  'b' :: quotedPlain (bytes.map Char.ofNat)

end Text
end Oneliner
