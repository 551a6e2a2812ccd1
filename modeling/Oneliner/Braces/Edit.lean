import Oneliner.Braces.Checked

namespace Oneliner
namespace Braces

/-!
Successive changes to a program text.
-/

/-- One change to a text. -/
inductive Edit where
  | expand
  | indent (level : Scalar)
  | append (text : Text)
  deriving DecidableEq, Repr

namespace Edit

def apply (text : Text) : Edit -> Except Fault Text
  | expand => .ok (Braces.expand text)
  | indent level => indentScalar (.str text) level
  | append more => .ok (text ++ more)

/-- The text after each of the changes, made one after the other. -/
def history (text : Text) : List Edit -> Except Fault (List Text)
  | [] => .ok []
  | edit :: rest => do
      let next <- edit.apply text
      let later <- history next rest
      return next :: later

end Edit
end Braces
end Oneliner
