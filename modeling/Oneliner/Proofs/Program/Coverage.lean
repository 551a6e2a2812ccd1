import Oneliner.Proofs.Program.Access

namespace Oneliner

/-- Whether a text, if it is one, has no halves of characters. -/
def Scalar.isWhole : Scalar -> Bool
  | str text => text.all fun char => (Text.half? char).isNone
  | _ => true

namespace Program

/-!
Programs within the part of the language that is there in full.

Programs find more in place than there is something behind: many functions have a name and
nothing else, some do not do for every argument what they should, and a function does not
see the variables of another one in which it is defined.  So what is said of the runs of a
program is said of the language itself only if the program makes no use of the rest.  That
can be read off its words.

A program within this part mentions nothing that gives access to the input, to the command
line or to the texts of other programs.
-/

/-! ## Functions in place -/

namespace Builtin

/-- Whether a function is there in full, whatever it is called on. -/
def isComplete : Builtin -> Bool
  | out | err | outAlias | errAlias | convert | absolute | exit | length | print | quoted | total
  | bool | float | list | str => true
  | _ => false

/-- Whether a function is there in full for so many arguments. -/
def completeFor (function : Builtin) (count : Nat) : Bool :=
  match function with
  | int => count ≤ 1
  | other => other.isComplete

/-- Whether the text of a function is the same in every run.  The text of one that is
defined by a program tells where it is kept. -/
def hasText : Builtin -> Bool
  | out | err | outAlias | errAlias | convert => false
  | _ => true

theorem completeFor_of_isComplete {function : Builtin} (complete : function.isComplete = true)
    (count : Nat) : function.completeFor count = true := by
  cases function with
  | int => cases complete
  | _ => exact complete

end Builtin

/-- Whether a value is a function in place that is not there in full for one argument. -/
def Value.isPartial : Value -> Bool
  | builtin found => !found.completeFor 1
  | _ => false

/-- The functions of values that are there in full. -/
def completeMethods : List Text :=
  [Method.upper, .lower, .append, .trimEnd].map Method.name

/-! ## Names -/

/-- What the names of a program stand for. -/
structure Vocabulary where
  /-- What is found under names to which no program has given a value. -/
  found : Text -> Option Value
  /-- Whether the texts of all functions in place may be used. -/
  texts : Bool
  /-- Names that are not to be mentioned. -/
  reserved : List Text
  /-- The variables of the function in which the program stands. -/
  owned : List Text
  /-- Names of functions that programs define.  They are there to be called. -/
  defined : List Text
  /-- The variables of functions around that one. -/
  around : List Text

namespace Vocabulary

variable (known : Vocabulary)

/-- Whether nothing is found under a name.  Names with two underscores in front are left to
the language. -/
def isFree (name : Text) : Bool :=
  (known.found name).isNone && !"__".toList.isPrefixOf name

/-- Whether what is found under a name can be used as a value. -/
def isValue (name : Text) : Bool :=
  match known.found name with
  | some (.scalar _) => true
  | some (.builtin function) => function.isComplete && (known.texts || function.hasText)
  | some _ => false
  | none => known.isFree name

/-- Whether what is found under a name can be called on so many arguments. -/
def isFunction (name : Text) (count : Nat) : Bool :=
  match known.found name with
  | some (.builtin function) => function.completeFor count
  | _ => known.isValue name

/-- Whether a program may use the value of a name. -/
def value (name : Text) : Bool :=
  !known.reserved.contains name && !known.defined.contains name &&
    (known.owned.contains name || !known.around.contains name && known.isValue name)

/-- Whether a program may call a name on so many arguments. -/
def callable (name : Text) (count : Nat) : Bool :=
  !known.reserved.contains name &&
    (known.owned.contains name || !known.around.contains name && known.isFunction name count)

/-- Whether a program may give a value to a name. -/
def given (name : Text) : Bool :=
  !known.reserved.contains name

/-- The names inside a comprehension. -/
def running (name : Text) : Vocabulary :=
  { known with owned := name :: known.owned }

/-- The names inside a function. -/
def inside (parameter : Text) (assigned defined : List Text) : Vocabulary :=
  { known with
    owned := parameter :: assigned
    defined := known.defined ++ defined
    around := known.owned ++ known.around }

end Vocabulary

/-! ## Programs -/

/-- The functions that a statement defines. -/
def Stmt.defined : Stmt -> List Text
  | define name _ _ => [name]
  | seq first second => first.defined ++ second.defined
  | condition _ yes no => yes.defined ++ no.defined
  | loop _ _ body => body.defined
  | _ => []

/-- Whether an expression is a text whose placeholders are all understood. -/
def Expr.isPattern (count : Nat) : Expr -> Bool
  | constant (.str text) => (fill? (List.replicate count []) text).isSome
  | _ => false

namespace Expr

mutual

/-- Whether an expression is there in full. -/
def covered (known : Vocabulary) : Expr -> Bool
  | name found => known.value found
  | constant value => value.isWhole
  | display items | joined items => itemsCovered known items
  | signed _ operand => operand.covered known
  | arithmetic _ left right => left.covered known && right.covered known
  | compare first _ operands => first.covered known && itemsCovered known operands
  | call (name found) arguments =>
      known.callable found arguments.length && itemsCovered known arguments
  | call (member subject found) arguments =>
      (completeMethods.contains found ||
        found = Method.format.name && subject.isPattern arguments.length) &&
        subject.covered known && itemsCovered known arguments
  | comprehension element found source =>
      element.covered (known.running found) && source.covered known
  | bytes _ | member .. | call .. => false

def itemsCovered (known : Vocabulary) : List Expr -> Bool
  | [] => true
  | item :: rest => item.covered known && itemsCovered known rest

end

end Expr

/-- Whether a statement, with the functions that it defines, is there in full. -/
def Stmt.covered (known : Vocabulary) : Stmt -> Bool
  | pass => true
  | assign names value => names.all known.given && value.covered known
  | increase name value => known.value name && known.given name && value.covered known
  | evaluate value => value.covered known
  | seq first second => first.covered known && second.covered known
  | condition test yes no => test.covered known && yes.covered known && no.covered known
  | loop name source body => known.given name && source.covered known && body.covered known
  | define name parameter body =>
      known.given name && body.covered (known.inside parameter body.assigned body.defined)

/-! ## Words of such programs -/

namespace Vocabulary

/-- Whether what is found under a name can be used in one way or the other. -/
def isUsable (known : Vocabulary) (name : Text) : Bool :=
  known.isFunction name 1

theorem isUsable_of_isFunction {known : Vocabulary} {name : Text} {count : Nat}
    (function : known.isFunction name count = true) : known.isUsable name = true := by
  rw [isUsable, isFunction]
  rw [isFunction] at function
  split at function
  · rename_i found _
    cases found with
    | int => rfl
    | _ => exact function
  · exact function

theorem isUsable_of_isValue {known : Vocabulary} {name : Text} (value : known.isValue name = true) :
    known.isUsable name = true := by
  rw [isUsable, isFunction]
  split
  · rename_i found place
    rw [isValue, place] at value
    exact Builtin.completeFor_of_isComplete (Bool.and_eq_true_iff.mp value).1 1
  · exact value

/-- The words of a vocabulary are among those that are admitted. -/
structure Fits (known : Vocabulary) (words : Words) : Prop where
  own : forall {name}, known.given name = true -> known.owned.contains name = true ->
    words.used name = true
  found : forall {name}, known.given name = true -> known.isUsable name = true ->
    words.used name = true ∧ words.outer name = true
  given : forall {name}, known.given name = true -> words.given name = true
  members : ∀ name ∈ Method.format.name :: completeMethods, words.members name = true

theorem Fits.inside {known : Vocabulary} {words : Words} (fits : known.Fits words)
    (parameter : Text) (assigned defined : List Text) :
    (known.inside parameter assigned defined).Fits (words.inside parameter assigned) where
  own := fun _ member => Bool.or_eq_true_iff.mpr (.inl member)
  found := by
    intro name given usable
    have outer := (fits.found given usable).2
    exact ⟨Bool.or_eq_true_iff.mpr (.inr outer), outer⟩
  given := fun _ => rfl
  members := fits.members

section Words

variable {known : Vocabulary} {words : Words} (fits : known.Fits words) {name : Text}

include fits

theorem Fits.used_of_callable {count : Nat} (callable : known.callable name count = true) :
    words.used name = true := by
  rcases Bool.and_eq_true_iff.mp callable with ⟨given, either⟩
  rcases Bool.or_eq_true_iff.mp either with own | found
  · exact fits.own given own
  · have function := (Bool.and_eq_true_iff.mp found).2
    exact (fits.found given (isUsable_of_isFunction function)).1

theorem Fits.used_of_value (value : known.value name = true) : words.used name = true := by
  rcases Bool.and_eq_true_iff.mp value with ⟨front, either⟩
  have given := (Bool.and_eq_true_iff.mp front).1
  rcases Bool.or_eq_true_iff.mp either with own | found
  · exact fits.own given own
  · have isValue := (Bool.and_eq_true_iff.mp found).2
    exact (fits.found given (isUsable_of_isValue isValue)).1

/-- Inside a comprehension there is one more name. -/
theorem Fits.running (found : Text) :
    (known.running found).Fits { words with
      used := fun name => name == found || words.used name } where
  own := by
    intro name given member
    rcases List.mem_cons.mp (List.contains_iff_mem.mp member) with same | own
    · exact Bool.or_eq_true_iff.mpr (.inl (beq_iff_eq.mpr same))
    · exact Bool.or_eq_true_iff.mpr (.inr (fits.own given (List.contains_iff_mem.mpr own)))
  found := by
    intro name given usable
    rcases fits.found given usable with ⟨used, outer⟩
    exact ⟨Bool.or_eq_true_iff.mpr (.inr used), outer⟩
  given := fits.given
  members := fits.members

end Words

end Vocabulary

namespace Expr

mutual

theorem usesOnly_of_covered : forall (expression : Expr) {known : Vocabulary} {words : Words},
    known.Fits words -> expression.covered known = true ->
      expression.usesOnly words.used words.members = true
  | .name _, _, _, fits, covered => fits.used_of_value covered
  | .constant _, _, _, _, _ => rfl
  | .display items, _, _, fits, covered | .joined items, _, _, fits, covered =>
      itemsUseOnly_of_covered items fits covered
  | .signed _ operand, _, _, fits, covered => usesOnly_of_covered operand fits covered
  | .arithmetic _ left right, _, _, fits, covered => by
      rcases Bool.and_eq_true_iff.mp covered with ⟨leftCovered, rightCovered⟩
      exact Bool.and_eq_true_iff.mpr
        ⟨usesOnly_of_covered left fits leftCovered, usesOnly_of_covered right fits rightCovered⟩
  | .compare first _ operands, _, _, fits, covered => by
      rcases Bool.and_eq_true_iff.mp covered with ⟨firstCovered, operandsCovered⟩
      exact Bool.and_eq_true_iff.mpr ⟨usesOnly_of_covered first fits firstCovered,
        itemsUseOnly_of_covered operands fits operandsCovered⟩
  | .call (.name _) arguments, _, _, fits, covered => by
      rcases Bool.and_eq_true_iff.mp covered with ⟨callable, argumentsCovered⟩
      exact Bool.and_eq_true_iff.mpr ⟨fits.used_of_callable callable,
        itemsUseOnly_of_covered arguments fits argumentsCovered⟩
  | .call (.member subject found) arguments, _, _, fits, covered => by
      rcases Bool.and_eq_true_iff.mp covered with ⟨front, argumentsCovered⟩
      rcases Bool.and_eq_true_iff.mp front with ⟨complete, subjectCovered⟩
      have method : found ∈ Method.format.name :: completeMethods := by
        rcases Bool.or_eq_true_iff.mp complete with listed | pattern
        · exact List.mem_cons_of_mem _ (List.contains_iff_mem.mp listed)
        · rw [of_decide_eq_true (Bool.and_eq_true_iff.mp pattern).1]
          exact List.mem_cons_self
      exact Bool.and_eq_true_iff.mpr
        ⟨Bool.and_eq_true_iff.mpr ⟨fits.members found method,
          usesOnly_of_covered subject fits subjectCovered⟩,
          itemsUseOnly_of_covered arguments fits argumentsCovered⟩
  | .comprehension element found source, _, words, fits, covered => by
      rcases Bool.and_eq_true_iff.mp covered with ⟨elementCovered, sourceCovered⟩
      exact Bool.and_eq_true_iff.mpr
        ⟨usesOnly_of_covered element (fits.running found) elementCovered,
          usesOnly_of_covered source fits sourceCovered⟩

theorem itemsUseOnly_of_covered : forall (items : List Expr) {known : Vocabulary} {words : Words},
    known.Fits words -> itemsCovered known items = true ->
      itemsUseOnly words.used words.members items = true
  | [], _, _, _, _ => rfl
  | item :: rest, _, _, fits, covered => by
      rcases Bool.and_eq_true_iff.mp covered with ⟨itemCovered, restCovered⟩
      exact Bool.and_eq_true_iff.mpr
        ⟨usesOnly_of_covered item fits itemCovered, itemsUseOnly_of_covered rest fits restCovered⟩

end

end Expr

theorem Stmt.usesOnly_of_covered {known : Vocabulary} {words : Words} (fits : known.Fits words)
    {statement : Stmt} (covered : statement.covered known = true) :
    statement.usesOnly words = true := by
  induction statement generalizing known words with
  | pass => rfl
  | assign names value =>
      rcases Bool.and_eq_true_iff.mp covered with ⟨namesGiven, valueCovered⟩
      refine Bool.and_eq_true_iff.mpr
        ⟨List.all_eq_true.mpr fun name member => ?_, value.usesOnly_of_covered fits valueCovered⟩
      exact fits.given (List.all_eq_true.mp namesGiven name member)
  | increase name value =>
      rcases Bool.and_eq_true_iff.mp covered with ⟨front, valueCovered⟩
      rcases Bool.and_eq_true_iff.mp front with ⟨used, given⟩
      exact Bool.and_eq_true_iff.mpr
        ⟨Bool.and_eq_true_iff.mpr ⟨fits.used_of_value used, fits.given given⟩,
          value.usesOnly_of_covered fits valueCovered⟩
  | evaluate value => exact value.usesOnly_of_covered fits covered
  | seq first second firstUses secondUses =>
      rcases Bool.and_eq_true_iff.mp covered with ⟨firstCovered, secondCovered⟩
      exact Bool.and_eq_true_iff.mpr ⟨firstUses fits firstCovered, secondUses fits secondCovered⟩
  | condition test yes no yesUses noUses =>
      rcases Bool.and_eq_true_iff.mp covered with ⟨front, noCovered⟩
      rcases Bool.and_eq_true_iff.mp front with ⟨testCovered, yesCovered⟩
      exact Bool.and_eq_true_iff.mpr
        ⟨Bool.and_eq_true_iff.mpr ⟨test.usesOnly_of_covered fits testCovered,
          yesUses fits yesCovered⟩, noUses fits noCovered⟩
  | loop name source body bodyUses =>
      rcases Bool.and_eq_true_iff.mp covered with ⟨front, bodyCovered⟩
      rcases Bool.and_eq_true_iff.mp front with ⟨given, sourceCovered⟩
      exact Bool.and_eq_true_iff.mpr
        ⟨Bool.and_eq_true_iff.mpr ⟨fits.given given, source.usesOnly_of_covered fits sourceCovered⟩,
          bodyUses fits bodyCovered⟩
  | define name parameter body bodyUses =>
      rcases Bool.and_eq_true_iff.mp covered with ⟨given, bodyCovered⟩
      exact Bool.and_eq_true_iff.mpr ⟨fits.given given,
        bodyUses (fits.inside parameter body.assigned body.defined) bodyCovered⟩

end Program
end Oneliner
