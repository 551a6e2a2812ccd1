import Oneliner.Program.Number
import Oneliner.Program.Token
import Oneliner.Text.Identifier

namespace Oneliner
namespace Program

/-!
Logical lines: the tokens of a program, line by line, with their columns.

A scanner reads the program one character at a time.  A line goes on while a
bracket is open and after a backslash at its end.  Lines without tokens do not
count, whatever their column.  Where no token can be made out the scanner stops;
the line in which that happens ends in a broken or a severed token.
-/

/-- How far a line is indented.  Tabs count twice: as blanks up to the next
multiple of eight, and as one blank each.  Two columns can be compared if both
counts agree on the result. -/
structure Column where
  width : Nat
  narrow : Nat
  deriving DecidableEq, Repr

namespace Column

def zero : Column :=
  ⟨0, 0⟩

/-- The column behind one more character of a margin. -/
def advance (column : Column) (char : Char) : Column :=
  if char = '\t' then ⟨(column.width / 8 + 1) * 8, column.narrow + 1⟩
  else if char = '\x0c' then zero
  else ⟨column.width + 1, column.narrow + 1⟩

end Column

structure Line where
  column : Column
  tokens : List Token
  deriving DecidableEq, Repr

/-- What the scanner is in the middle of.  Texts are reversed. -/
inductive Mode where
  /-- The margin of a line without tokens so far.  If lines have been joined in it,
  the column of the first join counts unless it is zero. -/
  | margin (column : Column) (kept : Nat) (joined : Bool)
  | between
  /-- Right behind a join of two lines. -/
  | joined
  | word (read : Text) (afterNumber : Bool)
  | number (number : Number)
  /-- After a point. -/
  | dot
  /-- After an equals sign. -/
  | equals
  /-- After a plus sign. -/
  | plus
  /-- After one quotation mark. -/
  | opening (style : LiteralStyle) (mark : Char)
  /-- After two quotation marks. -/
  | opened (style : LiteralStyle) (mark : Char)
  /-- In a literal, which is long if it began with three marks. -/
  | literal (style : LiteralStyle) (mark : Char) (long : Bool) (read : Text)
  /-- After a backslash in a literal. -/
  | escape (style : LiteralStyle) (mark : Char) (long : Bool) (read : Text)
  /-- After one or two marks in a long literal. -/
  | closing (style : LiteralStyle) (mark : Char) (second : Bool) (read : Text)
  | comment
  /-- After a backslash in a margin. -/
  | marginJoin (column : Column) (kept : Nat)
  /-- After a backslash outside margins and literals. -/
  | join
  deriving DecidableEq, Repr

/-- Whether a scanner goes on. -/
inductive Progress where
  | reading
  /-- A backslash outside literals does not end its line. -/
  | severed
  /-- A literal, a number, a bracket or a character is wrong. -/
  | garbled
  deriving DecidableEq, Repr

structure Scanner where
  /-- Finished lines, the last one first. -/
  lines : List Line
  /-- The column of the current line. -/
  column : Column
  /-- The tokens of the current line, the last one first. -/
  tokens : List Token
  /-- The brackets that would close the open ones, the innermost first. -/
  closers : List Char
  mode : Mode
  progress : Progress
  deriving DecidableEq, Repr

/-- The margin at the beginning of a line. -/
def Mode.lineStart : Mode :=
  .margin .zero 0 false

namespace Scanner

def start : Scanner where
  lines := []
  column := .zero
  tokens := []
  closers := []
  mode := .lineStart
  progress := .reading

def emit (scanner : Scanner) (token : Token) : Scanner :=
  { scanner with tokens := token :: scanner.tokens, mode := .between }

/-- Read no further, since a token is wrong. -/
def garble (scanner : Scanner) : Scanner :=
  { scanner.emit .broken with progress := .garbled }

/-- Read no further, since a backslash joins nothing. -/
def sever (scanner : Scanner) : Scanner :=
  { scanner.emit .severed with progress := .severed }

/-- Finish the current line, if it has tokens. -/
def finishLine (scanner : Scanner) : Scanner :=
  if scanner.tokens.isEmpty then { scanner with mode := .lineStart }
  else
    { scanner with
      lines := ⟨scanner.column, scanner.tokens.reverse⟩ :: scanner.lines
      tokens := []
      mode := .lineStart }

/-- At a newline outside literals the line ends, unless a bracket is open. -/
def newline (scanner : Scanner) : Scanner :=
  if scanner.closers.isEmpty then scanner.finishLine else { scanner with mode := .between }

/-- Finish a number. -/
def finishNumber (scanner : Scanner) (number : Number) : Scanner :=
  if number.wellBegun then
    match number.value? with
    | some value => scanner.emit (.number value)
    | none => scanner.emit .unknown
  else scanner.garble

/-- Finish a word. -/
def finishWord (scanner : Scanner) (read : Text) (afterNumber : Bool) : Scanner :=
  if afterNumber && !Number.mayPrecede read.reverse then scanner.garble
  else scanner.emit (.ofWord read.reverse)

/-- The most brackets that can be open at once. -/
def bracketLimit : Nat := 200

/-- Read a bracket, an operator or a character that begins no token. -/
def readSymbol (scanner : Scanner) (char : Char) : Scanner :=
  match Token.brackets.lookup char, Token.symbols.lookup char with
  | some closer, _ =>
      if scanner.closers.length < bracketLimit then
        { scanner.emit (.ofBracket char) with closers := closer :: scanner.closers }
      else scanner.garble
  | none, some symbol => scanner.emit (.symbol symbol)
  | none, none =>
      if scanner.closers.head? = some char then
        { scanner.emit (.ofBracket char) with closers := scanner.closers.tail }
      else if Token.isOtherOperator char then scanner.emit .unknown
      else scanner.garble

/-- Read a character that continues no token.  A scanner that has come to its end
stays as it is. -/
def readFresh (scanner : Scanner) (char : Char) : Scanner :=
  if scanner.progress ≠ .reading then scanner
  else if char = ' ' || char = '\t' || char = '\x0c' then { scanner with mode := .between }
  else if char = '\n' then scanner.newline
  else if char = '#' then { scanner with mode := .comment }
  else if char = '\\' then { scanner with mode := .join }
  else if char = '\'' || char = '"' then { scanner with mode := .opening .plain char }
  else if char.isDigit then { scanner with mode := .number (.start char) }
  else if Text.startsName char then { scanner with mode := .word [char] false }
  else if char = '.' then { scanner with mode := .dot }
  else if char = '=' then { scanner with mode := .equals }
  else if char = '+' then { scanner with mode := .plus }
  else scanner.readSymbol char

/-- Read a character in the margin of a line. -/
def readMargin (scanner : Scanner) (column : Column) (kept : Nat) (char : Char) : Scanner :=
  if char = ' ' || char = '\t' || char = '\x0c' then
    { scanner with mode := .margin (column.advance char) kept false }
  else if char = '\n' then { scanner with mode := .lineStart }
  else if char = '\\' then
    { scanner with
      column := column
      mode := .marginJoin column (if kept = 0 then column.width else kept) }
  else { scanner with column := if kept = 0 then column else ⟨kept, kept⟩ }.readFresh char

/-- Read a character of a word, or the one behind it. -/
def readWord (scanner : Scanner) (read : Text) (afterNumber : Bool) (char : Char) : Scanner :=
  if Text.continuesName char then { scanner with mode := .word (char :: read) afterNumber }
  else
    let style? := if char = '\'' || char = '"' then LiteralStyle.ofLetters? read.reverse else none
    match style?, afterNumber with
    | some style, false => { scanner with mode := .opening style char }
    | _, _ => (scanner.finishWord read afterNumber).readFresh char

/-- Read a character of a number, or the one behind it. -/
def readNumber (scanner : Scanner) (number : Number) (char : Char) : Scanner :=
  match number.next char with
  | .more number => { scanner with mode := .number number }
  | .broken => scanner.garble
  | .over =>
      let finished := scanner.finishNumber number
      if finished.progress = .reading && char.toNat < 0x80 && Text.continuesName char then
        { finished with mode := .word [char] true }
      else finished.readFresh char
  | .overAtMark mark => (scanner.finishNumber number).readWord [mark] true char

/-- Read a character of a literal.  A short literal must not contain a newline. -/
def readLiteral (scanner : Scanner) (style : LiteralStyle) (mark : Char) (long : Bool)
    (read : Text) (char : Char) : Scanner :=
  if char = mark then
    if long then { scanner with mode := .closing style mark false read }
    else scanner.emit (.literal style read.reverse)
  else if char = '\n' && !long then scanner.garble
  else if char = '\\' then { scanner with mode := .escape style mark long read }
  else { scanner with mode := .literal style mark long (char :: read) }

/-- Read a character behind marks in a long literal, which the third one closes. -/
def readClosing (scanner : Scanner) (style : LiteralStyle) (mark : Char) (second : Bool)
    (read : Text) (char : Char) : Scanner :=
  if char = mark then
    if second then scanner.emit (.literal style read.reverse)
    else { scanner with mode := .closing style mark true read }
  else
    let marks := if second then [mark, mark] else [mark]
    scanner.readLiteral style mark true (marks ++ read) char

def read (scanner : Scanner) (char : Char) : Scanner :=
  if scanner.progress ≠ .reading then scanner
  else
    match scanner.mode with
    | .margin column kept _ => scanner.readMargin column kept char
    | .between | .joined => scanner.readFresh char
    | .word read afterNumber => scanner.readWord read afterNumber char
    | .number number => scanner.readNumber number char
    | .dot =>
        if char.isDigit then { scanner with mode := .number (.startFraction char) }
        else (scanner.emit (.symbol .dot)).readFresh char
    | .equals =>
        if char = '=' then scanner.emit (.symbol .equal)
        else (scanner.emit (.symbol .assign)).readFresh char
    | .plus =>
        if char = '=' then scanner.emit (.symbol .addAssign)
        else (scanner.emit (.symbol .add)).readFresh char
    | .opening style mark =>
        if char = mark then { scanner with mode := .opened style mark }
        else scanner.readLiteral style mark false [] char
    | .opened style mark =>
        if char = mark then { scanner with mode := .literal style mark true [] }
        else (scanner.emit (.literal style [])).readFresh char
    | .literal style mark long read => scanner.readLiteral style mark long read char
    | .escape style mark long read =>
        { scanner with mode := .literal style mark long (char :: '\\' :: read) }
    | .closing style mark second read => scanner.readClosing style mark second read char
    | .comment => if char = '\n' then scanner.newline else scanner
    | .marginJoin column kept =>
        if char = '\n' then { scanner with mode := .margin column kept true } else scanner.sever
    | .join => if char = '\n' then { scanner with mode := .joined } else scanner.sever

/-- The scanner behind the whole program.  What is still open there is wrong. -/
def finish (scanner : Scanner) : Scanner :=
  if scanner.progress ≠ .reading then scanner.finishLine
  else
    match scanner.mode with
    | .margin _ _ false => scanner
    | .margin _ _ true | .joined | .join | .marginJoin .. => scanner.sever.finishLine
    | .opening .. | .opened .. | .literal .. | .escape .. | .closing .. =>
        scanner.garble.finishLine
    | _ => (scanner.emit .unknown).finishLine

end Scanner

/-- The logical lines of a program, and whether some of it could not be read. -/
structure Lines where
  lines : List Line
  garbled : Bool
  deriving DecidableEq, Repr

namespace Lines

/-- The program with a newline at its end. -/
def closed (program : Text) : Text :=
  if program.getLast? = some '\n' then program else program ++ ['\n']

/-- Divide a program into lines.  Its last line need not end in a newline. -/
def ofText (program : Text) : Lines :=
  let scanner := ((closed program).foldl Scanner.read .start).finish
  ⟨scanner.lines.reverse, scanner.progress = .garbled⟩

/-- The most columns in which blocks can be open at once. -/
def columnLimit : Nat := 100

/-- Whether every line either begins a block or returns to the column of an open
one, given the columns of the open blocks, the innermost first. -/
def alignedFrom (opened : List Column) : List Line -> Bool
  | [] => true
  | line :: rest =>
      let remaining := opened.dropWhile (·.width > line.column.width)
      match remaining with
      | [] => false
      | column :: _ =>
          if line.column = column then alignedFrom remaining rest
          else
            remaining.length = opened.length && opened.length < columnLimit &&
              line.column.width > column.width && line.column.narrow > column.narrow &&
              alignedFrom (line.column :: remaining) rest

/-- Whether all lines stand in columns that make sense. -/
def aligned (lines : Lines) : Bool :=
  alignedFrom [.zero] lines.lines

end Lines

end Program
end Oneliner
