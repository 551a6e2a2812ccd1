namespace Oneliner

/-!
Texts as lists of code points, and their division into lines.

Programs, command lines and output are all texts here.  A line ends only at a
newline, so a text has exactly one line more than it has newlines, and joining
the lines with newlines gives the text back.
-/

/-- A text is the list of its code points. -/
abbrev Text := List Char

namespace Text

/-- A run of blanks. -/
def spaces (count : Nat) : Text :=
  List.replicate count ' '

/-- The parts of a text between marks of the given kind. -/
def split (mark : Char) : Text -> List Text
  | [] => [[]]
  | char :: rest =>
      if char = mark then [] :: split mark rest
      else
        match split mark rest with
        | [] => [[char]]
        | part :: later => (char :: part) :: later

/-- The lines of a text, without their newlines. -/
def lines (text : Text) : List Text :=
  split '\n' text

/-- The text whose lines are the given ones. -/
def joinLines (parts : List Text) : Text :=
  ['\n'].intercalate parts

/-- The pieces of an input stream.  Each piece keeps its newline, and a last
piece without one counts unless it is empty. -/
def inputLines : Text -> List Text
  | [] => []
  | char :: rest =>
      if char = '\n' then [char] :: inputLines rest
      else
        match inputLines rest with
        | [] => [[char]]
        | line :: later => (char :: line) :: later

/-- Carriage returns, alone or before a newline, become newlines. -/
def normalizeNewlines : Text -> Text
  | [] => []
  | '\r' :: '\n' :: rest => '\n' :: normalizeNewlines rest
  | '\r' :: rest => '\n' :: normalizeNewlines rest
  | char :: rest => char :: normalizeNewlines rest

/-- Blanks in front, up to the given width. -/
def padLeft (width : Nat) (text : Text) : Text :=
  spaces (width - text.length) ++ text

/-- Blanks behind, up to the given width. -/
def padRight (width : Nat) (text : Text) : Text :=
  text ++ spaces (width - text.length)

/-- Whether the part occurs contiguously in the text. -/
def hasPart (part : Text) : Text -> Bool
  | [] => part.isEmpty
  | char :: rest => part.isPrefixOf (char :: rest) || hasPart part rest

/-- The text without the listed characters at its end. -/
def dropEnding (unwanted : List Char) (text : Text) : Text :=
  (text.reverse.dropWhile unwanted.contains).reverse

/-- The decimal digits of a natural number. -/
def ofNat (number : Nat) : Text :=
  Nat.toDigits 10 number

/-- An integer in decimal, with a hyphen in front when it is negative. -/
def ofInt : Int -> Text
  | .ofNat number => ofNat number
  | .negSucc number => '-' :: ofNat (number + 1)

end Text
end Oneliner
