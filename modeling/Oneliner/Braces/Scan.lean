import Oneliner.Text.Indent

namespace Oneliner
namespace Braces

/-!
Programs with curly braces, turned into indented programs.

A scan reads the source one character at a time.  Each character has a role,
which depends on the state of the scan and on the next character only.  The
role decides two things independently: the piece of output that stands for the
character, and the state in which the scan goes on.  The expansion is the
concatenation of the pieces, one for each source character.

Braces have two uses.  A brace opens a block unless it groups, and it groups
inside any bracket, inside another grouping brace, and right after an equals
sign that assigns.  Every count of open brackets may fall below zero, and a
negative count is as good as a positive one: what matters is whether it is
zero.
-/

/-- What a scan knows about the characters that it has read. -/
structure Scan where
  /-- The last character read, skipped characters included. -/
  previous : Option Char
  /-- The quotation mark of the literal in which the scan stands. -/
  quote : Option Char
  /-- Only equals signs and blanks since an equals sign that assigns. -/
  declaring : Bool
  parens : Int
  squares : Int
  braces : Int
  /-- The number of open blocks. -/
  level : Int
  /-- Only blanks since a line break that was put in. -/
  atBreak : Bool
  deriving DecidableEq, Repr

namespace Scan

/-- The state before the first character. -/
def start : Scan where
  previous := none
  quote := none
  declaring := false
  parens := 0
  squares := 0
  braces := 0
  level := 0
  atBreak := false

/-- Inside any bracket or grouping brace. -/
def nested (scan : Scan) : Bool :=
  scan.braces ≠ 0 || scan.parens ≠ 0 || scan.squares ≠ 0

end Scan

/-- What a character does to the program. -/
inductive Role where
  /-- A blank after a line break that was put in. -/
  | skipped
  | openQuote
  | closeQuote
  | openParen
  | closeParen
  | openSquare
  | closeSquare
  | openGroup
  | closeGroup
  | openBlock
  | closeBlock
  | separator
  | assignment
  /-- Any other character, and every character that is escaped or quoted. -/
  | plain
  deriving DecidableEq, Repr

namespace Scan

/-- The role of a character that is neither escaped nor quoted nor itself a
quotation mark. -/
def activeRole (scan : Scan) (next : Option Char) (char : Char) : Role :=
  if char = '(' then .openParen
  else if char = ')' then .closeParen
  else if char = '[' then .openSquare
  else if char = ']' then .closeSquare
  else if char = '=' then
    if scan.previous = some '=' || next = some '=' then .plain else .assignment
  else if char = '{' then
    if scan.nested || scan.declaring then .openGroup else .openBlock
  else if char = '}' then
    if scan.nested then .closeGroup else .closeBlock
  else if char = ';' then .separator
  else .plain

/-- The role of the next character.  A quotation mark of the other kind inside
a literal is plain. -/
def role (scan : Scan) (next : Option Char) (char : Char) : Role :=
  if scan.atBreak && char = ' ' then .skipped
  else if scan.previous = some '\\' then .plain
  else
    match scan.quote with
    | some mark => if char = mark then .closeQuote else .plain
    | none =>
        if char = '\'' || char = '"' then .openQuote else scan.activeRole next char

/-- The state after a character with the given role. -/
def advance (scan : Scan) (role : Role) (char : Char) : Scan :=
  let read := { scan with previous := some char }
  if role = .skipped then read
  else
    let kept :=
      { read with
        atBreak := false
        declaring := scan.declaring && (char = '=' || char = ' ') }
    match role with
    | .skipped | .plain => kept
    | .openQuote => { kept with quote := some char }
    | .closeQuote => { kept with quote := none }
    | .openParen => { kept with parens := scan.parens + 1 }
    | .closeParen => { kept with parens := scan.parens - 1 }
    | .openSquare => { kept with squares := scan.squares + 1 }
    | .closeSquare => { kept with squares := scan.squares - 1 }
    | .openGroup => { kept with braces := scan.braces + 1 }
    | .closeGroup => { kept with braces := scan.braces - 1 }
    | .openBlock => { kept with level := scan.level + 1, atBreak := true }
    | .closeBlock => { kept with level := scan.level - 1, atBreak := true }
    | .separator => { kept with atBreak := true }
    | .assignment => { kept with declaring := true }

end Scan

/-- A line break and the margin of the line that it begins. -/
def lineBreak (level : Int) : Text :=
  '\n' :: Text.margin level

/-- The piece of output for a character with the given role.  The level is the
one after the character.  A newline of the source begins a line like any other
line break, also when it is escaped or quoted. -/
def piece (level : Int) (role : Role) (char : Char) : Text :=
  match role with
  | .skipped => []
  | .openBlock => ':' :: lineBreak level
  | .closeBlock | .separator => lineBreak level
  | _ => if char = '\n' then lineBreak level else [char]

namespace Scan

/-- Read one character: its piece of output and the state after it. -/
def step (scan : Scan) (next : Option Char) (char : Char) : Text × Scan :=
  let role := scan.role next char
  let after := scan.advance role char
  (piece after.level role char, after)

/-- The pieces for the characters of a source, in order. -/
def pieces (scan : Scan) : Text -> List Text
  | [] => []
  | char :: rest =>
      let (part, after) := scan.step rest.head? char
      part :: after.pieces rest

/-- The state after a whole source. -/
def finish (scan : Scan) : Text -> Scan
  | [] => scan
  | char :: rest => (scan.step rest.head? char).2.finish rest

end Scan

/-- The indented program for a program with braces. -/
def expand (source : Text) : Text :=
  (Scan.start.pieces source).flatten

/-- The part of the indented program that stands for the first so many characters. -/
def expandFront (count : Nat) (source : Text) : Text :=
  ((Scan.start.pieces source).take count).flatten

/-- Extending an expanded text by a further character leaves it as it is, since
only a scan decides what a character contributes. -/
def extend (expanded : Text) (_char : Text) : Text :=
  expanded

end Braces
end Oneliner
