import Oneliner.Text.Basic

namespace Oneliner
namespace Command

/-!
The switches that a command line may hold, and their names.

A switch is found by its letter, by its name, or by any beginning of its name
that no other name shares.
-/

/-- Switches that take a piece of code. -/
inductive Section where
  | before
  | after
  | handler
  deriving DecidableEq, Repr

/-- Switches that are on or off. -/
inductive Flag where
  | collect
  | debug
  | keepNewlines
  | keepTexts
  deriving DecidableEq, Repr

/-- Switches that ask for information only. -/
inductive Query where
  | version
  | help
  deriving DecidableEq, Repr

inductive Switch where
  | code (part : Section)
  | flag (flag : Flag)
  | query (query : Query)
  deriving DecidableEq, Repr

namespace Switch

/-- The name of a switch, which stands behind two hyphens. -/
def name : Switch -> Text
  | code .before => "before".toList
  | code .after => "after".toList
  | code .handler => "except".toList
  | flag .collect => "collect".toList
  | flag .debug => "debug".toList
  | flag .keepNewlines => "no-trim".toList
  | flag .keepTexts => "no-convert".toList
  | query .version => "version".toList
  | query .help => "help".toList

/-- The letter of a switch, which stands behind one hyphen. -/
def letter? : Switch -> Option Char
  | code .before => some 'b'
  | code .after => some 'a'
  | code .handler => some 'e'
  | flag .collect => some 'c'
  | flag .debug => some 'd'
  | query .help => some 'h'
  | _ => none

/-- All switches, in the order of their names. -/
def byName : List Switch :=
  [code .after, code .before, flag .collect, flag .debug, code .handler, query .help,
   flag .keepTexts, flag .keepNewlines, query .version]

def ofLetter? (letter : Char) : Option Switch :=
  byName.find? (·.letter? = some letter)

/-- The switches whose names begin with the given text. -/
def candidates (beginning : Text) : List Switch :=
  byName.filter fun switch => beginning.isPrefixOf switch.name

/-- The name as it is written on a command line. -/
def spelled (name : Text) : Text :=
  '-' :: '-' :: name

end Switch

/-- What can be wrong with a command line. -/
inductive Misuse where
  | unknown (spelling : Text)
  | ambiguous (spelling : Text) (candidates : List Text)
  | missingValue (spelling : Text)
  | unwantedValue (spelling : Text)
  deriving DecidableEq, Repr

def Misuse.message : Misuse -> Text
  | unknown spelling => "no such option: ".toList ++ spelling
  | ambiguous spelling candidates =>
      "ambiguous option: ".toList ++ spelling ++ " (".toList ++
        ", ".toList.intercalate candidates ++ "?)".toList
  | missingValue spelling => spelling ++ " option requires 1 argument".toList
  | unwantedValue spelling => spelling ++ " option does not take a value".toList

/-- The switch that a name means.  A complete name wins over longer ones. -/
def Switch.ofName (name : Text) : Except Misuse Switch :=
  match Switch.byName.find? (·.name = name) with
  | some switch => .ok switch
  | none =>
      match Switch.candidates name with
      | [switch] => .ok switch
      | [] => .error (.unknown (Switch.spelled name))
      | several =>
          .error (.ambiguous (Switch.spelled name)
            (several.map fun switch => Switch.spelled switch.name))

end Command
end Oneliner
