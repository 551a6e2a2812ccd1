import Oneliner.Scalar.Basic
import Oneliner.Text.Composition

namespace Oneliner
namespace Program

/-!
The tokens of the small language in which functions and startup files are
written.

What the language does not know, be it an operator or a number that is too
long, is kept as an unknown token.  Where no token can be made out there is a
broken or a severed one.  No rule of the grammar accepts any of them.
-/

/-- Reserved words.  Those for which the language has no use are all alike. -/
inductive Keyword where
  | pass
  | condition
  | otherwise
  | loop
  | within
  | define
  | attempt
  | truth
  | falsity
  | nothing
  | unsupported
  deriving DecidableEq, Repr

inductive Symbol where
  | openParen
  | closeParen
  | openSquare
  | closeSquare
  | dot
  | comma
  | colon
  | semicolon
  | assign
  | equal
  | add
  | addAssign
  | times
  | minus
  deriving DecidableEq, Repr

/-- How the inside of a literal is to be understood. -/
structure LiteralStyle where
  /-- Backslashes have no meaning. -/
  raw : Bool
  /-- The literal stands for bytes. -/
  bytes : Bool
  /-- Braces enclose expressions. -/
  format : Bool
  deriving DecidableEq, Repr

inductive Token where
  | name (name : Text)
  | keyword (keyword : Keyword)
  | number (value : Scalar)
  /-- A literal, with what stands between its quotation marks. -/
  | literal (style : LiteralStyle) (inside : Text)
  | symbol (symbol : Symbol)
  | unknown
  /-- A literal, a number, a bracket or a character that is wrong. -/
  | broken
  /-- A backslash that does not join two lines. -/
  | severed
  deriving DecidableEq, Repr

namespace LiteralStyle

def plain : LiteralStyle :=
  ⟨false, false, false⟩

/-- The styles by the letters in front of a literal.  Capitals mean the same. -/
def byLetters : List (Text × LiteralStyle) :=
  [("r".toList, ⟨true, false, false⟩), ("u".toList, plain), ("b".toList, ⟨false, true, false⟩),
   ("f".toList, ⟨false, false, true⟩), ("br".toList, ⟨true, true, false⟩),
   ("rb".toList, ⟨true, true, false⟩), ("fr".toList, ⟨true, false, true⟩),
   ("rf".toList, ⟨true, false, true⟩)]

def ofLetters? (letters : Text) : Option LiteralStyle :=
  byLetters.lookup (letters.map Char.toLower)

end LiteralStyle

namespace Token

/-- The reserved words with a meaning in the language. -/
def keywords : List (Text × Keyword) :=
  [("pass".toList, .pass), ("if".toList, .condition), ("else".toList, .otherwise),
   ("for".toList, .loop), ("in".toList, .within), ("def".toList, .define),
   ("try".toList, .attempt), ("True".toList, .truth), ("False".toList, .falsity),
   ("None".toList, .nothing)]

/-- The reserved words without one. -/
def otherKeywords : List Text :=
  ["and", "as", "assert", "async", "await", "break", "class", "continue", "del", "elif",
   "except", "finally", "from", "global", "import", "is", "lambda", "nonlocal", "not", "or",
   "raise", "return", "while", "with", "yield"].map String.toList

/-- The token for a run of letters, digits and underscores that begins with no
digit.  Names are compared in their common form; reserved words are not. -/
def ofWord (word : Text) : Token :=
  match keywords.lookup word with
  | some found => .keyword found
  | none =>
      if otherKeywords.contains word then .keyword .unsupported else .name (Text.common word)

/-- Symbols of one character, brackets apart. -/
def symbols : List (Char × Symbol) :=
  [(',', .comma), (':', .colon), (';', .semicolon), ('*', .times), ('-', .minus)]

/-- Brackets, with the ones that close them. -/
def brackets : List (Char × Char) :=
  [('(', ')'), ('[', ']'), ('\x7b', '\x7d')]

def ofBracket (char : Char) : Token :=
  if char = '(' then .symbol .openParen
  else if char = ')' then .symbol .closeParen
  else if char = '[' then .symbol .openSquare
  else if char = ']' then .symbol .closeSquare
  else .unknown

/-- Whether the character is punctuation for which the language has no use.
Brackets that close nothing are not. -/
def isOtherOperator (char : Char) : Bool :=
  ' ' < char && char < '\x7f' && !List.contains [')', ']', '\x7d'] char

end Token
end Program
end Oneliner
