import Oneliner.Program.Function
import Oneliner.Program.Grammar

namespace Oneliner
namespace Program

/-!
The meaning of expressions and statements.

Operands are evaluated from left to right, and what is called is looked up
before its arguments are evaluated.  A name that is assigned anywhere in a
function is a variable of that function everywhere in it; all other names are
looked up among the globals and then among what is in place.
-/

/-- Where names are looked up. -/
structure Scope where
  /-- The variables of the function, or nothing outside functions. -/
  owned : Option (List Text)
  /-- The variables of the comprehensions around, the innermost first. -/
  running : Bindings

namespace Scope

/-- The scope outside functions. -/
def global : Scope :=
  ⟨none, []⟩

/-- The scope of a function. -/
def ofFunction (function : Function) : Scope :=
  ⟨some (function.parameter :: function.body.assigned), []⟩

/-- The scope inside a comprehension. -/
def run (scope : Scope) (name : Text) (value : Value) : Scope :=
  { scope with running := (name, value) :: scope.running }

/-- Whether a name is a variable of the function. -/
def isVariable (scope : Scope) (name : Text) : Bool :=
  scope.owned.any (·.contains name)

/-- The value of a name. -/
def find (scope : Scope) (name : Text) : Run Value := do
  match scope.running.lookup name with
  | some value => return value
  | none =>
      if scope.isVariable name then
        match (<- get).locals.lookup name with
        | some value => return value
        | none =>
            Run.fail (if scope.running.isEmpty then .unboundName name else .unboundOuter name)
      else Run.find name

/-- Give a name a value. -/
def assign (scope : Scope) (value : Value) (name : Text) : Run Unit :=
  if scope.owned.isSome then
    modify fun machine => { machine with locals := machine.locals.set name value }
  else Run.bind name value

end Scope

namespace Expr

def relate (relation : Relation) (left right : Value) : Run Bool :=
  match relation with
  | .equal => Run.same left right
  | .within => Run.isIn left right

def operate (operator : Arithmetic) (left right : Value) : Run Value :=
  match operator with
  | .add => Run.add left right
  | .subtract => Run.subtract left right
  | .times => Run.times left right

mutual

def eval (dispatch : Dispatch) (scope : Scope) : Expr -> Run Value
  | name found => scope.find found
  | constant value => Run.ofScalar value
  | bytes value => return .bytes value
  | display items => do Run.makeList (<- evalItems dispatch scope items).toArray
  | signed sign operand => do Run.signed sign (<- operand.eval dispatch scope)
  | arithmetic operator left right => do
      let first <- left.eval dispatch scope
      let second <- right.eval dispatch scope
      operate operator first second
  | compare first relations operands => do
      let left <- first.eval dispatch scope
      return .bool (<- evalChain dispatch scope left relations operands)
  | member subject found => do Run.memberOf (<- subject.eval dispatch scope) found
  | call function arguments => do
      let called <- function.eval dispatch scope
      let given <- evalItems dispatch scope arguments
      dispatch.call called given
  | comprehension element found source => do
      let values <- source.eval dispatch scope
      let index <- Run.storeList #[]
      Run.forEach values fun item => do
        Run.push index (<- element.eval dispatch (scope.run found item))
      return .list index
  | joined parts => do
      let texts <- (<- evalItems dispatch scope parts).mapM Run.textOf
      return .str texts.flatten

/-- The values of several expressions. -/
def evalItems (dispatch : Dispatch) (scope : Scope) : List Expr -> Run (List Value)
  | [] => pure []
  | item :: rest => do
      let value <- item.eval dispatch scope
      let values <- evalItems dispatch scope rest
      return value :: values

/-- Whether a chain of comparisons holds that begins at the given value. -/
def evalChain (dispatch : Dispatch) (scope : Scope) (left : Value) :
    List Relation -> List Expr -> Run Bool
  | relation :: relations, operand :: operands => do
      let right <- operand.eval dispatch scope
      if <- relate relation left right then evalChain dispatch scope right relations operands
      else return false
  | _, _ => pure true

end

end Expr

namespace Stmt

def exec (dispatch : Dispatch) (scope : Scope) : Stmt -> Run Unit
  | pass => pure ()
  | assign names value => do
      let result <- value.eval dispatch scope
      names.forM (scope.assign result)
  | increase name value => do
      let old <- scope.find name
      let more <- value.eval dispatch scope
      scope.assign (<- Run.increase old more) name
  | evaluate value => do
      let _ <- value.eval dispatch scope
  | seq first second => do
      first.exec dispatch scope
      second.exec dispatch scope
  | condition test yes no => do
      let value <- test.eval dispatch scope
      if (<- get).holds value then yes.exec dispatch scope else no.exec dispatch scope
  | loop name source body => do
      let values <- source.eval dispatch scope
      Run.forEach values fun item => do
        scope.assign item name
        body.exec dispatch scope
  | define name parameter body => do
      scope.assign (<- Run.makeFunction ⟨parameter, body⟩) name

end Stmt

namespace Run

/-- Run an action with local variables of its own. -/
def withLocals {Result : Type} (locals : Bindings) (action : Run Result) : Run Result := do
  let outer := (<- get).locals
  modify fun machine => { machine with locals := locals }
  let result <- tryCatch action fun halt => do
    modify fun machine => { machine with locals := outer }
    throw halt
  modify fun machine => { machine with locals := outer }
  return result

/-- Call a function of the program. -/
def callFunction (dispatch : Dispatch) (index : Nat) (arguments : List Value) : Run Value := do
  match (<- get).functions[index]?, arguments with
  | some function, [argument] => do
      withLocals [(function.parameter, argument)]
        (function.body.exec dispatch (.ofFunction function))
      return .nothing
  | _, _ => fail (.argumentCount "function".toList)

/-- Call any value. -/
def callValue (dispatch : Dispatch) (function : Value) (arguments : List Value) : Run Value :=
  match function with
  | .builtin function => callBuiltin dispatch function arguments
  | .method subject method => callMethod subject method arguments
  | .function index => callFunction dispatch index arguments
  | other => fail (.notCallable other.typeName)

end Run

namespace Dispatch

/-- Calls that may stand inside each other down to the given depth. -/
def within : Nat -> Dispatch
  | 0 =>
      { call := fun _ _ => Run.fail .tooDeep
        execute := fun _ => Run.fail .tooDeep
        evaluate := fun _ => Run.fail .tooDeep }
  | depth + 1 =>
      { call := fun function arguments => Run.callValue (within depth) function arguments
        execute := fun text => do
          (<- Run.ofExcept (Stmt.ofText text)).exec (within depth) .global
        evaluate := fun text => do
          (<- Run.ofExcept (Expr.ofText text)).eval (within depth) .global }

/-- How deep calls can stand inside each other.  A thousand may be under way at a time, and
ten of them belong to the session itself. -/
def depthLimit : Nat := 990

/-- The dispatch of a whole session. -/
def outermost : Dispatch :=
  within depthLimit

end Dispatch
end Program
end Oneliner
