import Oneliner.Text.Basic

namespace Oneliner
namespace Text

/-!
Paragraphs filled into lines of bounded width.

A paragraph is cut into chunks, and a line takes chunks as long as they fit.
Lines may end at blanks, around a dash of several hyphens between words, and
after a hyphen inside a word.  A chunk that fits in no line is filled in
character by character.  Paragraphs hold ASCII characters and no white space
other than blanks.
-/

def isWordChar (char : Char) : Bool :=
  char.isAlphanum || char = '_'

def isLetter (char : Char) : Bool :=
  char.isAlpha || char = '_'

/-- The characters to which a dash can be attached. -/
def bearsDash (char : Char) : Bool :=
  isWordChar char || ['!', '"', '\'', '&', '.', ',', '?'].contains char

/-- Whether a dash of several hyphens, with a word after it, comes next. -/
def dashAhead (text : Text) : Bool :=
  let after := text.dropWhile (· = '-')
  text.length ≥ after.length + 2 && after.head?.any isWordChar

/-- Whether the reversed text ends in such a dash, attached to what is before it. -/
def dashBehind (reversed : Text) : Bool :=
  let before := reversed.dropWhile (· = '-')
  reversed.length ≥ before.length + 2 && before.head?.any bearsDash

/-- Whether the reversed text ends in a hyphen inside a word. -/
def hyphenBehind : Text -> Bool
  | '-' :: one :: two :: rest =>
      (isLetter one && isLetter two) || (bearsDash one && two = '-' && rest.head?.any isLetter)
  | _ => false

/-- Whether what comes next can follow a hyphen inside a word. -/
def wordAhead : Text -> Bool
  | one :: '-' :: two :: _ => isLetter one && isLetter two
  | one :: two :: _ => isLetter one && isLetter two
  | _ => false

/-- Whether a chunk ends between the reversed text and the text. -/
def chunkEnds (reversed text : Text) : Bool :=
  match reversed, text with
  | last :: _, next :: _ =>
      if last = ' ' || next = ' ' then last ≠ next
      else
        (bearsDash last && dashAhead text) ||
          (dashBehind reversed && isWordChar next) ||
          (hyphenBehind reversed && wordAhead text)
  | _, _ => true

/-- The chunks of the rest of a paragraph, given what comes before it and the
chunk that has been begun, both reversed. -/
def chunksFrom (before begun : Text) : Text -> List Text
  | [] => [begun.reverse]
  | char :: rest =>
      if chunkEnds before (char :: rest) then
        begun.reverse :: chunksFrom (char :: before) [char] rest
      else chunksFrom (char :: before) (char :: begun) rest

def chunks : Text -> List Text
  | [] => []
  | char :: rest => chunksFrom [char] [char] rest

/-- Filled lines, the last one first, and the line that is being filled. -/
structure Filling where
  finished : List Text
  line : Text

namespace Filling

/-- End the current line as it is, unless it is empty. -/
def endLine (filling : Filling) : Filling :=
  if filling.line.isEmpty then filling else ⟨filling.line :: filling.finished, []⟩

/-- End the current line without the blanks at its end. -/
def trimLine (filling : Filling) : Filling :=
  endLine { filling with line := dropEnding [' '] filling.line }

/-- Add a character, in a new line if the current one is full. -/
def addChar (width : Nat) (filling : Filling) (char : Char) : Filling :=
  if filling.line.length < width then { filling with line := filling.line ++ [char] }
  else { filling.endLine with line := [char] }

/-- Add a chunk.  Blanks are left out at the beginning of every line but the
first. -/
def add (width : Nat) (filling : Filling) (chunk : Text) : Filling :=
  let isSpace := chunk.head? = some ' '
  if isSpace && filling.line.isEmpty && !filling.finished.isEmpty then filling
  else if filling.line.length + chunk.length ≤ width then
    { filling with line := filling.line ++ chunk }
  else if chunk.length > width then chunk.foldl (addChar width) filling
  else if isSpace then filling.trimLine
  else { filling.trimLine with line := chunk }

end Filling

/-- The lines of a paragraph, at most `width` wide. -/
def wrap (width : Nat) (paragraph : Text) : List Text :=
  ((chunks paragraph).foldl (Filling.add width) ⟨[], []⟩).trimLine.finished.reverse

end Text
end Oneliner
