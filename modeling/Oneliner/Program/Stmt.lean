import Oneliner.Scalar.Basic

namespace Oneliner
namespace Program

/-!
Expressions and statements.
-/

inductive Arithmetic where
  | add
  | subtract
  | times
  deriving DecidableEq, Repr

/-- What can stand in front of a number. -/
inductive Sign where
  | plus
  | minus
  deriving DecidableEq, Repr

inductive Relation where
  | equal
  | within
  deriving DecidableEq, Repr

inductive Expr where
  | name (name : Text)
  | constant (value : Scalar)
  | bytes (value : List Nat)
  /-- A new list of the values of the items. -/
  | display (items : List Expr)
  | signed (sign : Sign) (operand : Expr)
  | arithmetic (operator : Arithmetic) (left right : Expr)
  /-- A chain of comparisons, each between an operand and the next one.  All of
  them must hold, and each operand is evaluated at most once. -/
  | compare (first : Expr) (relations : List Relation) (operands : List Expr)
  | member (subject : Expr) (name : Text)
  | call (function : Expr) (arguments : List Expr)
  /-- The list of an expression's values while a variable runs over a source. -/
  | comprehension (element : Expr) (name : Text) (source : Expr)
  /-- The texts of the parts, joined. -/
  | joined (parts : List Expr)
  deriving Repr

namespace Expr

mutual

/-- How deep expressions stand inside each other. -/
def height : Expr -> Nat
  | name _ | constant _ | bytes _ => 1
  | display items | joined items => itemsHeight items + 1
  | signed _ operand => operand.height + 1
  | arithmetic _ left right => max left.height right.height + 1
  | compare first _ operands => max first.height (itemsHeight operands) + 1
  | member subject _ => subject.height + 1
  | call function arguments => max function.height (itemsHeight arguments) + 1
  | comprehension element _ source => max element.height source.height + 1

def itemsHeight : List Expr -> Nat
  | [] => 0
  | item :: rest => max item.height (itemsHeight rest)

end

mutual

/-- The names that run in the comprehensions of an expression. -/
def running : Expr -> List Text
  | name _ | constant _ | bytes _ => []
  | display items | joined items => itemsRunning items
  | signed _ operand => operand.running
  | arithmetic _ left right => left.running ++ right.running
  | compare first _ operands => first.running ++ itemsRunning operands
  | member subject _ => subject.running
  | call function arguments => function.running ++ itemsRunning arguments
  | comprehension element found source => found :: element.running ++ source.running

def itemsRunning : List Expr -> List Text
  | [] => []
  | item :: rest => item.running ++ itemsRunning rest

end

end Expr

inductive Stmt where
  | pass
  /-- Give one value to several names, from left to right. -/
  | assign (names : List Text) (value : Expr)
  /-- Increase what a variable stands for. -/
  | increase (name : Text) (value : Expr)
  | evaluate (value : Expr)
  | seq (first second : Stmt)
  | condition (test : Expr) (yes no : Stmt)
  | loop (name : Text) (source : Expr) (body : Stmt)
  /-- Define a function with one parameter. -/
  | define (name parameter : Text) (body : Stmt)
  deriving Repr

namespace Stmt

/-- The names to which a statement may give values in its own scope. -/
def assigned : Stmt -> List Text
  | pass | evaluate _ => []
  | assign names _ => names
  | increase name _ | define name _ _ => [name]
  | seq first second => first.assigned ++ second.assigned
  | condition _ yes no => yes.assigned ++ no.assigned
  | loop name _ body => name :: body.assigned

/-- All names that are given values anywhere in a statement. -/
def bound : Stmt -> List Text
  | pass => []
  | evaluate value => value.running
  | assign names value => names ++ value.running
  | increase name value => name :: value.running
  | seq first second => first.bound ++ second.bound
  | condition test yes no => test.running ++ yes.bound ++ no.bound
  | loop name source body => name :: source.running ++ body.bound
  | define name parameter body => name :: parameter :: body.bound

/-- How deep statements and expressions stand inside each other. -/
def height : Stmt -> Nat
  | pass => 1
  | evaluate value | assign _ value | increase _ value => value.height + 1
  | seq first second => max first.height second.height
  | condition test yes no => max test.height (max yes.height no.height) + 1
  | loop _ source body => max source.height body.height + 1
  | define _ _ body => body.height + 1

/-- The most loops that can stand inside each other. -/
def loopLimit : Nat := 20

/-- Whether a statement inside so many loops keeps to the limit.  Loops around a
function do not count inside it. -/
def loopsWithin (depth : Nat) : Stmt -> Bool
  | pass | evaluate _ | assign _ _ | increase _ _ => true
  | seq first second => first.loopsWithin depth && second.loopsWithin depth
  | condition _ yes no => yes.loopsWithin depth && no.loopsWithin depth
  | loop _ _ body => depth < loopLimit && body.loopsWithin (depth + 1)
  | define _ _ body => body.loopsWithin 0

/-- The one name that can be given no value. -/
def fixedName : Text := "__debug__".toList

/-- Whether a program that follows the grammar is free of what the grammar does not
rule out. -/
def admissible (program : Stmt) : Bool :=
  !program.bound.contains fixedName && program.loopsWithin 0

/-- The most that statements and expressions can stand inside each other.  A thousand calls
may be under way at a time, and each of them counts for three levels.  Sixteen levels are
taken by the calls that lead to the reading of a program. -/
def heightLimit : Nat := 2984

end Stmt
end Program
end Oneliner
