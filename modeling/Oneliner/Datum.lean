import Oneliner.Scalar.Numeral

namespace Oneliner

/-!
Data: scalars and nested lists of them, with their texts.
-/

/-- A scalar, a list, or something that only has a description. -/
inductive Datum where
  | scalar (value : Scalar)
  | list (items : List Datum)
  | described (text : Text)
  deriving Repr

namespace Datum

def typeName : Datum -> Text
  | scalar value => value.typeName
  | list _ => "list".toList
  | described _ => "object".toList

mutual

/-- The text of a datum inside a list. -/
def quoted : Datum -> Text
  | scalar value => value.quoted
  | list items => '[' :: quotedItems items ++ [']']
  | described text => text

/-- The texts of the items of a list, with commas between them. -/
def quotedItems : List Datum -> Text
  | [] => []
  | [item] => item.quoted
  | item :: rest => item.quoted ++ ", ".toList ++ quotedItems rest

end

/-- The text of a datum on its own. -/
def text : Datum -> Text
  | scalar value => value.text
  | other => other.quoted

mutual

/-- Whether the datum has a text, that is, whether all its integers have. -/
def writable : Datum -> Bool
  | scalar value => value.writable
  | list items => writableItems items
  | described _ => true

def writableItems : List Datum -> Bool
  | [] => true
  | item :: rest => item.writable && writableItems rest

end

/-- Scalars are converted to numbers where they can be; lists stay. -/
def convert : Datum -> Datum
  | scalar value => scalar value.convert
  | other => other

end Datum
end Oneliner
