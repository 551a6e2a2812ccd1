import Oneliner.Fault
import Oneliner.Program.Outline
import Oneliner.Program.Stmt
import Oneliner.Text.Literal

namespace Oneliner
namespace Program

/-!
From lines to statements.

Expressions are read from the tokens of one line.  Each reading function takes a
bound on the depth of its recursion, which the number of tokens supplies.  A
line is either a complete statement or the head of a compound one, and blocks
are read along the outline.

Faults are reported in the order of the text.  A missing block is different:
if the lines are aligned and yet some later part of the text cannot be divided
into tokens, that is the fault to report.
-/

/-- What a row of literals stands for: a text with expressions in it, or bytes. -/
inductive Literal where
  | text (parts : List Expr)
  | bytes (value : List Nat)

/-- A piece of a literal whose braces enclose expressions. -/
inductive Piece where
  | plain (text : Text)
  | enclosed (text : Text)

namespace Piece

/-- Where a character of such a literal stands. -/
inductive Zone where
  | plain
  /-- In the name of a character. -/
  | name
  | enclosed

/-- Divide the inside of a literal at its braces, given what has been read of the
current piece, reversed, and where that piece stands.  Doubled braces outside
expressions are plain ones, and unless the literal is raw, so are the braces
around the name of a character. -/
def divide (raw : Bool) (read : Text) : Zone -> Text -> Option (List Piece)
  | .plain, [] | .name, [] => some [plain read.reverse]
  | .enclosed, [] => none
  | .plain, '\x7b' :: '\x7b' :: rest => divide raw ('\x7b' :: read) .plain rest
  | .plain, '\x7d' :: '\x7d' :: rest => divide raw ('\x7d' :: read) .plain rest
  | .plain, '\\' :: '\\' :: rest => divide raw ('\\' :: '\\' :: read) .plain rest
  | .plain, '\\' :: 'N' :: rest =>
      divide raw ('N' :: '\\' :: read) (if raw then .plain else .name) rest
  | .plain, char :: rest =>
      if char = '\x7b' then (divide raw [] .enclosed rest).map (plain read.reverse :: ·)
      else if char = '\x7d' then none
      else divide raw (char :: read) .plain rest
  | .name, char :: rest =>
      divide raw (char :: read) (if char = '\x7d' then .plain else .name) rest
  | .enclosed, char :: rest =>
      if char = '\x7d' then (divide raw [] .plain rest).map (enclosed read.reverse :: ·)
      else if char = '\x7b' || char = '\\' || char = '#' then none
      else divide raw (char :: read) .enclosed rest

end Piece

namespace Expr

/-- The operators between numbers: how tightly each of them binds. -/
def operator? : Token -> Option (Nat × Arithmetic)
  | .symbol .add => some (0, .add)
  | .symbol .minus => some (0, .subtract)
  | .symbol .times => some (1, .times)
  | _ => none

def relation? : Token -> Option Relation
  | .symbol .equal => some .equal
  | .keyword .within => some .within
  | _ => none

/-- The name that always stands for truth, and all others. -/
def ofName (found : Text) : Expr :=
  if found = Stmt.fixedName then constant (.bool true) else name found

/-- The text of a plain or raw literal. -/
def textOf? (style : LiteralStyle) (inside : Text) : Option Text :=
  if style.raw then some inside else Text.unescape? inside

/-- The bytes of a literal, all of whose characters must be plain. -/
def bytesOf? (style : LiteralStyle) (inside : Text) : Option (List Nat) :=
  if inside.all (·.toNat < 0x80) then
    if style.raw then some (inside.map Char.toNat) else Text.unescapeBytes? inside
  else none

/-- The tokens of the only line of a text. -/
def lineTokens? (text : Text) : Option (List Token) :=
  match (Lines.ofText ('(' :: text ++ [')'])).lines with
  | [line] => some line.tokens
  | _ => none

/-- Join two literals in a row.  Texts do not mix with bytes. -/
def joinLiterals : Literal -> Literal -> Option Literal
  | .text left, .text right => some (.text (left ++ right))
  | .bytes left, .bytes right => some (.bytes (left ++ right))
  | _, _ => none

/-- The expression for a row of literals. -/
def ofLiteral : Literal -> Expr
  | .bytes value => bytes value
  | .text parts =>
      let texts := parts.filterMap fun part =>
        match part with
        | constant (.str text) => some text
        | _ => none
      if texts.length = parts.length then constant (.str texts.flatten) else joined parts

mutual

/-- Read an expression from the front of the tokens. -/
def read (bound : Nat) (tokens : List Token) : Option (Expr × List Token) :=
  match bound with
  | 0 => none
  | bound + 1 => do
      let (first, rest) <- readSum bound tokens
      let ((relations, operands), rest) <- readRelations bound rest
      return (if relations.isEmpty then first else compare first relations operands, rest)

/-- Read comparisons with further operands. -/
def readRelations (bound : Nat) (tokens : List Token) :
    Option ((List Relation × List Expr) × List Token) :=
  match bound with
  | 0 => none
  | bound + 1 =>
      match tokens with
      | [] => some (([], []), [])
      | token :: rest =>
          match relation? token with
          | none => some (([], []), tokens)
          | some relation => do
              let (operand, rest) <- readSum bound rest
              let ((relations, operands), rest) <- readRelations bound rest
              return ((relation :: relations, operand :: operands), rest)

/-- Read operands with arithmetic between them. -/
def readSum (bound : Nat) (tokens : List Token) : Option (Expr × List Token) :=
  match bound with
  | 0 => none
  | bound + 1 => do
      let (first, rest) <- readOperand bound tokens
      readOperators bound 0 first rest

/-- Read an operand: signs, an atom, and what is attached to it. -/
def readOperand (bound : Nat) (tokens : List Token) : Option (Expr × List Token) :=
  match bound with
  | 0 => none
  | bound + 1 =>
      match tokens with
      | .symbol .add :: rest => do
          let (operand, rest) <- readOperand bound rest
          return (signed .plus operand, rest)
      | .symbol .minus :: rest => do
          let (operand, rest) <- readOperand bound rest
          return (signed .minus operand, rest)
      | .name found :: rest => readAttached bound (ofName found) rest
      | .keyword .truth :: rest => readAttached bound (constant (.bool true)) rest
      | .keyword .falsity :: rest => readAttached bound (constant (.bool false)) rest
      | .keyword .nothing :: rest => readAttached bound (constant .null) rest
      | .number value :: rest => readAttached bound (constant value) rest
      | .literal style inside :: rest => do
          let first <- readLiteral bound style inside
          let (whole, rest) <- readLiterals bound first rest
          readAttached bound (ofLiteral whole) rest
      | .symbol .openParen :: rest => do
          let (inner, rest) <- read bound rest
          match rest with
          | .symbol .closeParen :: rest => readAttached bound inner rest
          | _ => none
      | .symbol .openSquare :: .symbol .closeSquare :: rest => readAttached bound (display []) rest
      | .symbol .openSquare :: rest => do
          let (element, rest) <- read bound rest
          match rest with
          | .keyword .loop :: .name found :: .keyword .within :: rest => do
              let (source, rest) <- read bound rest
              match rest with
              | .symbol .closeSquare :: rest =>
                  readAttached bound (comprehension element found source) rest
              | _ => none
          | _ => do
              let (items, rest) <- readItems bound .closeSquare rest
              readAttached bound (display (element :: items)) rest
      | _ => none

/-- Read what one literal stands for. -/
def readLiteral (bound : Nat) (style : LiteralStyle) (inside : Text) : Option Literal :=
  match bound with
  | 0 => none
  | bound + 1 =>
      if style.bytes then (bytesOf? style inside).map .bytes
      else if style.format then do
        let parts <- (<- Piece.divide style.raw [] .plain inside).mapM fun piece =>
          match piece with
          | .plain text => (textOf? style text).map fun text => constant (.str text)
          | .enclosed text => do
              let tokens <- lineTokens? text
              match <- readOperand bound tokens with
              | (inner, []) => return joined [inner]
              | _ => none
        return .text parts
      else (textOf? style inside).map fun text => .text [constant (.str text)]

/-- Read further literals in a row. -/
def readLiterals (bound : Nat) (before : Literal) (tokens : List Token) :
    Option (Literal × List Token) :=
  match bound with
  | 0 => none
  | bound + 1 =>
      match tokens with
      | .literal style inside :: rest => do
          let next <- readLiteral bound style inside
          readLiterals bound (<- joinLiterals before next) rest
      | _ => some (before, tokens)

/-- Read the items behind a first one, with commas between them, up to the bracket
that closes them.  A comma may stand in front of the bracket. -/
def readItems (bound : Nat) (closer : Symbol) (tokens : List Token) :
    Option (List Expr × List Token) :=
  match bound with
  | 0 => none
  | bound + 1 =>
      match tokens with
      | .symbol .comma :: .symbol symbol :: rest =>
          if symbol = closer then some ([], rest)
          else do
            let (item, rest) <- read bound (.symbol symbol :: rest)
            let (items, rest) <- readItems bound closer rest
            return (item :: items, rest)
      | .symbol .comma :: rest => do
          let (item, rest) <- read bound rest
          let (items, rest) <- readItems bound closer rest
          return (item :: items, rest)
      | .symbol symbol :: rest => if symbol = closer then some ([], rest) else none
      | _ => none

/-- Read members and calls attached to an expression. -/
def readAttached (bound : Nat) (subject : Expr) (tokens : List Token) :
    Option (Expr × List Token) :=
  match bound with
  | 0 => none
  | bound + 1 =>
      match tokens with
      | .symbol .dot :: .name found :: rest => readAttached bound (member subject found) rest
      | .symbol .openParen :: .symbol .closeParen :: rest =>
          readAttached bound (call subject []) rest
      | .symbol .openParen :: rest => do
          let (first, rest) <- read bound rest
          let (others, rest) <- readItems bound .closeParen rest
          readAttached bound (call subject (first :: others)) rest
      | _ => some (subject, tokens)

/-- Read operators that bind at least as tightly as the given level, with their
right operands. -/
def readOperators (bound : Nat) (level : Nat) (left : Expr) (tokens : List Token) :
    Option (Expr × List Token) :=
  match bound with
  | 0 => none
  | bound + 1 =>
      match tokens with
      | [] => some (left, [])
      | token :: rest =>
          match operator? token with
          | none => some (left, tokens)
          | some (binding, operator) =>
              if binding < level then some (left, tokens)
              else do
                let (right, rest) <- readOperand bound rest
                let (right, rest) <- readOperators bound (binding + 1) right rest
                readOperators bound level (arithmetic operator left right) rest

end

/-- How many tokens a token may turn out to hold. -/
def weight : Token -> Nat
  | .literal _ inside => inside.length + 3
  | _ => 1

/-- A bound on the depth that is never reached: between two tokens there are at
most four calls. -/
def depthBound (tokens : List Token) : Nat :=
  6 * (tokens.foldr (weight · + ·) 0 + 1)

/-- Read an expression from the front of a line. -/
def ofFront (tokens : List Token) : Option (Expr × List Token) :=
  read (depthBound tokens) tokens

/-- Read an expression that takes up all the tokens. -/
def ofTokens (tokens : List Token) : Option Expr :=
  match ofFront tokens with
  | some (expression, []) => some expression
  | _ => none

end Expr

namespace Stmt

/-- Split off the names with equals signs behind them. -/
def targets : List Token -> List Text × List Token
  | .name name :: .symbol .assign :: rest =>
      let (names, value) := targets rest
      (name :: names, value)
  | rest => ([], rest)

/-- A statement without parts. -/
def simpleOf : List Token -> Option Stmt
  | [.keyword .pass] => some pass
  | .name name :: .symbol .addAssign :: rest => (Expr.ofTokens rest).map (increase name)
  | tokens =>
      match targets tokens with
      | ([], rest) => (Expr.ofTokens rest).map evaluate
      | (names, rest) => (Expr.ofTokens rest).map (assign names)

/-- Statements with semicolons between them, given the reversed tokens of the
one that has been begun.  A semicolon may also end the line. -/
def simplesFrom (begun : List Token) : List Token -> Option Stmt
  | [] => simpleOf begun.reverse
  | [.symbol .semicolon] => simpleOf begun.reverse
  | .symbol .semicolon :: rest => do
      let first <- simpleOf begun.reverse
      let second <- simplesFrom [] rest
      return seq first second
  | token :: rest => simplesFrom (token :: begun) rest

/-- A line of statements without parts. -/
def ofTokens (tokens : List Token) : Option Stmt :=
  simplesFrom [] tokens

end Stmt

/-- What a line is by itself.  A head may have its statement on the same line. -/
inductive Head where
  | simple (statement : Stmt)
  | condition (test : Expr) (inline : Option Stmt)
  | otherwise (inline : Option Stmt)
  | loop (name : Text) (source : Expr) (inline : Option Stmt)
  | define (name parameter : Text) (inline : Option Stmt)
  | attempt (inline : Option Stmt)
  deriving Repr

namespace Head

/-- A colon and, possibly, a statement on the same line. -/
def inlineOf : List Token -> Option (Option Stmt)
  | [.symbol .colon] => some none
  | .symbol .colon :: rest => (Stmt.ofTokens rest).map some
  | _ => none

def ofTokens : List Token -> Option Head
  | .keyword .condition :: rest => do
      let (test, rest) <- Expr.ofFront rest
      return condition test (<- inlineOf rest)
  | .keyword .otherwise :: rest => (inlineOf rest).map otherwise
  | .keyword .loop :: .name name :: .keyword .within :: rest => do
      let (source, rest) <- Expr.ofFront rest
      return loop name source (<- inlineOf rest)
  | .keyword .define :: .name name :: .symbol .openParen :: .name parameter ::
      .symbol .closeParen :: rest => (inlineOf rest).map (define name parameter)
  | .keyword .attempt :: rest => (inlineOf rest).map attempt
  | tokens => (Stmt.ofTokens tokens).map simple

/-- The heads that another branch can follow: the statement on the same line, and
what the two branches build.  The other branch of a loop is run when the loop has
come to its end. -/
def branching? : Head -> Option (Option Stmt × (Stmt -> Stmt -> Stmt))
  | condition test inline => some (inline, .condition test)
  | loop name source inline => some (inline, fun body => .seq (.loop name source body))
  | _ => none

end Head

/-- Whether a line is the head of another branch in the given column, with the
statement on the same line if there is one. -/
def Line.elseOf? (line : Line) (column : Column) : Option (Option Stmt) :=
  if line.column = column then
    match Head.ofTokens line.tokens with
    | some (.otherwise inline) => some inline
    | _ => none
  else none

/-- Whether a line begins with a backslash that joins nothing.  Such a line is
wrong in whatever column it stands. -/
def Line.isSevered (line : Line) : Bool :=
  line.tokens.head? = some .severed

namespace Outline

/-- The first line of an outline, or else the one that follows the outline. -/
def firstOr (next : Option Line) : Outline -> Option Line
  | empty => next
  | line first _ _ => some first

/-- The lines of a block stand in one column. -/
def checkColumn (column : Column) (line : Line) : Except Fault Unit :=
  if line.isSevered then .error .grammar
  else if line.column.width ≠ column.width then .error .layout
  else if line.column.narrow ≠ column.narrow then .error .mixedTabs
  else .ok ()

/-- Lines under a line that cannot have any.  If tabs make the columns
incomparable, that is the fault. -/
def unexpected (above first : Line) : Fault :=
  if first.isSevered then .grammar
  else if first.column.narrow ≤ above.column.narrow then .mixedTabs
  else .layout

/-- The fault of a head that lacks something, given the columns of the open blocks.
If the next line does not return to one of them, that is the fault. -/
def lacking (fault : Fault) (opened : List Column) : Option Line -> Fault
  | none => fault
  | some next =>
      match opened.dropWhile (·.width > next.column.width) with
      | [] => if next.isSevered then .grammar else .layout
      | column :: _ =>
          match checkColumn column next with
          | .ok _ => fault
          | .error other => other

/-- What is under the head of a compound statement, read by the given function.
There is either a statement on the head's line or a block under it. -/
def suite (head : Line) (inline : Option Stmt) (under : Outline) (opened : List Column)
    (next : Option Line) (block : List Column -> Except Fault Stmt) : Except Fault Stmt :=
  match inline, under with
  | some statement, empty => .ok statement
  | some _, line first _ _ => .error (unexpected head first)
  | none, empty => .error (lacking .missingBlock opened next)
  | none, line first _ _ =>
      if first.isSevered then .error .grammar
      else if first.column.narrow ≤ head.column.narrow then .error .mixedTabs
      else if opened.length < Lines.columnLimit then block (first.column :: opened)
      else .error .layout

/-- The block whose lines stand in the first of the open columns, and which is
followed by the given line.  A function cannot catch faults: what follows an
attempt is never accepted. -/
def block : Outline -> Option Line -> List Column -> Except Fault Stmt
  | empty, _, _ => .ok .pass
  | line first under after, next, opened => do
      checkColumn (opened.headD .zero) first
      let following := after.firstOr next
      match Head.ofTokens first.tokens with
      | none | some (.otherwise _) => .error .grammar
      | some (.simple statement) =>
          match under with
          | line second _ _ => .error (unexpected first second)
          | empty => return .seq statement (<- after.block next opened)
      | some (.define name parameter inline) => do
          let body <- suite first inline under opened following (under.block following)
          return .seq (.define name parameter body) (<- after.block next opened)
      | some (.attempt inline) => do
          let _ <- suite first inline under opened following (under.block following)
          .error (lacking .grammar opened following)
      | some head =>
          match head.branching? with
          | none => .error .grammar
          | some (inline, build) => do
              let body <- suite first inline under opened following (under.block following)
              let alone := fun _ : Unit => do
                return .seq (build body .pass) (<- after.block next opened)
              match after with
              | empty => alone ()
              | line second under' after' =>
                  match second.elseOf? (opened.headD .zero) with
                  | none => alone ()
                  | some inline' => do
                      let following' := after'.firstOr next
                      let other <- suite second inline' under' opened following'
                        (under'.block following')
                      return .seq (build body other) (<- after'.block next opened)

end Outline

/-- The statements of a program.  Its first line stands in column zero. -/
def Stmt.ofLines (program : Lines) : Except Fault Stmt :=
  match (Outline.ofLines program.lines).block none [.zero] with
  | .ok statement =>
      if statement.height > heightLimit then .error .tooDeep
      else if statement.admissible then .ok statement
      else .error .grammar
  | .error .missingBlock =>
      .error (if program.garbled && program.aligned then .grammar else .missingBlock)
  | .error fault => .error fault

/-- Read a program.  Carriage returns are line ends as well. -/
def Stmt.ofText (program : Text) : Except Fault Stmt :=
  if program.contains '\x00' then .error .nullCharacter
  else Stmt.ofLines (.ofText program.normalizeNewlines)

/-- Read an expression that stands alone, with blanks and tabs in front. -/
def Expr.ofText (text : Text) : Except Fault Expr :=
  if text.contains '\x00' then .error .nullCharacter
  else
    let trimmed := text.normalizeNewlines.dropWhile fun char => char = ' ' || char = '\t'
    match (Lines.ofText trimmed).lines with
    | [line] =>
        if line.column = .zero then
          match ofTokens line.tokens with
          | some expression =>
              if expression.height > Stmt.heightLimit then .error .tooDeep else .ok expression
          | none => .error .grammar
        else .error .layout
    | _ => .error .grammar

end Program
end Oneliner
