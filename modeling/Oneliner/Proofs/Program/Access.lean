import Oneliner.Program.Evaluation

namespace Oneliner

/-- The name under which the system has a stream. -/
def Stream.memberName : Stream -> Text
  | out => "stdout".toList
  | err => "stderr".toList

namespace Program

/-!
What programs have access to.

A program reaches the input, the command line and the streams themselves only through
certain words: the members under which the system has them, the function that reads a
line, and the functions that run the text of another program.  A program without these
words never gets hold of a value that gives access to them.  It can still write by the
functions that are there for it.
-/

/-! ## Variables -/

namespace Bindings

theorem lookup_remove (bindings : Bindings) (name other : Text) :
    (bindings.remove name).lookup other = if other = name then none else bindings.lookup other := by
  induction bindings with
  | nil => simp [remove]
  | cons first rest restLookup =>
      rcases first with ⟨found, value⟩
      rw [remove] at restLookup
      by_cases removed : found = name
      · rw [remove, List.filter_cons_of_neg (by simpa using removed), restLookup]
        split
        · rfl
        · rename_i apart
          have unequal : (other == found) = false := beq_eq_false_iff_ne.mpr (removed ▸ apart)
          rw [List.lookup_cons, unequal]
      · rw [remove, List.filter_cons_of_pos (by simpa using removed), List.lookup_cons, restLookup,
          List.lookup_cons]
        by_cases same : other = found
        · subst same
          simp [removed]
        · have unequal : (other == found) = false := beq_eq_false_iff_ne.mpr same
          rw [unequal]

theorem lookup_set (bindings : Bindings) (name : Text) (value : Value) (other : Text) :
    (bindings.set name value).lookup other =
      if other = name then some value else bindings.lookup other := by
  by_cases same : other = name
  · subst same
    simp [set]
  · have unequal : (other == name) = false := beq_eq_false_iff_ne.mpr same
    rw [set, List.lookup_cons, unequal, lookup_remove, if_neg same, if_neg same]

end Bindings

/-! ## Values that give no other access -/

/-- What programs may have access to beside their own variables.  None of them runs the
text of another program. -/
structure Access where
  input : Bool
  /-- The command line. -/
  arguments : Bool
  /-- The streams, which can be closed. -/
  streams : Bool

namespace Access

/-- Access to nothing. -/
def isolated : Access := ⟨false, false, false⟩

/-- Access to everything but the input. -/
def unread : Access := ⟨false, true, true⟩

/-- Access to everything but the command line. -/
def heedless : Access := ⟨true, false, true⟩

/-- Access to everything. -/
def full : Access := ⟨true, true, true⟩

end Access

/-- Whether a function runs no texts, and reads no line without access to the input. -/
def Builtin.allowed (access : Access) : Builtin -> Bool
  | evaluate | execute => false
  | readLine => access.input
  | _ => true

/-- Whether a value gives no other access. -/
def Value.allowed (access : Access) : Value -> Bool
  | builtin found => found.allowed access
  | method (output _) .write => true
  | method subject _ => subject.allowed access
  | input => access.input
  | output _ => access.streams
  | _ => true

theorem Value.allowed_method {access : Access} {subject : Value}
    (inside : subject.allowed access = true) (method : Method) :
    (Value.method subject method).allowed access = true := by
  cases subject with
  | output stream =>
      cases method with
      | write => rfl
      | _ => exact inside
  | _ => exact inside

theorem Value.allowed_of_isolated {access : Access} {value : Value}
    (inside : value.allowed .isolated = true) : value.allowed access = true := by
  induction value with
  | builtin function =>
      cases function with
      | evaluate | execute | readLine => cases inside
      | _ => rfl
  | method subject method ofSubject =>
      cases subject with
      | output stream =>
          cases method with
          | write => rfl
          | _ => cases inside
      | _ => exact ofSubject inside
  | input | output => cases inside
  | _ => rfl

/-- The names of the functions that run texts. -/
def runningNames : List Text :=
  [Builtin.evaluate, .execute].map Builtin.name

/-- The names of the functions that some access does not admit. -/
def outsideNames : List Text :=
  runningNames ++ [Builtin.readLine.name]

/-- The member under which the system has the input. -/
def inputMember : Text := "stdin".toList

/-- The member under which the system has the command line. -/
def argumentsMember : Text := "argv".toList

/-- The members under which the system has the streams. -/
def streamMembers : List Text :=
  [Stream.out, .err].map Stream.memberName

/-- The members that some access does not admit. -/
def outsideMembers : List Text :=
  inputMember :: argumentsMember :: streamMembers

namespace Access

variable (access : Access)

/-- A name under which no function is found that gives other access. -/
def names (name : Text) : Bool :=
  !runningNames.contains name && (access.input || name ≠ Builtin.readLine.name)

/-- A member under which the system has nothing that gives other access. -/
def members (name : Text) : Bool :=
  (access.input || name ≠ inputMember) && (access.arguments || name ≠ argumentsMember) &&
    (access.streams || !streamMembers.contains name)

theorem names_of_not_mem {name : Text} (inside : name ∉ outsideNames) :
    access.names name = true := by
  simp only [outsideNames, List.mem_append, List.mem_singleton, not_or] at inside
  simp [names, inside]

theorem members_of_not_mem {name : Text} (inside : name ∉ outsideMembers) :
    access.members name = true := by
  simp only [outsideMembers, List.mem_cons, not_or] at inside
  simp [members, inside]

end Access

theorem Builtin.name_of_not_allowed {access : Access} {function : Builtin}
    (outside : function.allowed access = false) : access.names function.name = false := by
  have running : ∀ name ∈ runningNames, runningNames.contains name = true := by decide
  cases function with
  | evaluate | execute =>
      rw [Access.names, running _ (by decide)]
      rfl
  | readLine =>
      have closed : access.input = false := outside
      simp [Access.names, closed]
  | _ => cases outside

theorem Builtin.allowed_of_inPlace? {access : Access} {name : Text} {value : Value}
    (inside : access.names name = true) (found : inPlace? name = some value) :
    value.allowed access = true := by
  have constantsAllowed : ∀ entry ∈ constants, (match entry.2 with
      | .scalar _ | .object _ => true
      | _ => false) = true := by decide
  rw [inPlace?] at found
  split at found
  · rename_i function search
    cases found
    have same : function.name = name := by simpa using List.find?_some search
    cases allowed : function.allowed access with
    | true => exact allowed
    | false =>
        rw [← same, Builtin.name_of_not_allowed allowed] at inside
        cases inside
  · split at found
    · cases found
      rfl
    · split at found
      · cases found
        rfl
      · split at found
        · cases found
          rfl
        · rcases List.lookup_eq_some_iff.mp found with ⟨front, back, split, _⟩
          have plain := constantsAllowed _ (split ▸ List.mem_append_right _ List.mem_cons_self)
          cases value with
          | scalar | object => rfl
          | _ => cases plain

/-- Values of variables give no other access. -/
def Bindings.Allowed (access : Access) (bindings : Bindings) : Prop :=
  forall ⦃name value⦄, bindings.lookup name = some value -> value.allowed access = true

namespace Bindings.Allowed

variable {access : Access} {bindings : Bindings}

theorem empty : Bindings.Allowed access [] := nofun

theorem of_eq (allowed : bindings.Allowed access) {others : Bindings} (same : others = bindings) :
    others.Allowed access :=
  same ▸ allowed

theorem of_mem (inside : ∀ entry ∈ bindings, entry.2.allowed access = true) :
    bindings.Allowed access := by
  intro name value lookup
  rcases List.lookup_eq_some_iff.mp lookup with ⟨front, back, split, _⟩
  exact inside (name, value) (split ▸ List.mem_append_right _ List.mem_cons_self)

theorem set (allowed : bindings.Allowed access) (name : Text) {value : Value}
    (inside : value.allowed access = true) : (bindings.set name value).Allowed access := by
  intro other found lookup
  rw [lookup_set] at lookup
  split at lookup
  · cases lookup
    exact inside
  · exact allowed lookup

theorem remove (allowed : bindings.Allowed access) (name : Text) :
    (bindings.remove name).Allowed access := by
  intro other found lookup
  rw [lookup_remove] at lookup
  split at lookup
  · cases lookup
  · exact allowed lookup

theorem setAll (allowed : bindings.Allowed access) {more : List (Text × Value)}
    (inside : ∀ entry ∈ more, entry.2.allowed access = true) :
    (bindings.setAll more).Allowed access := by
  induction more generalizing bindings with
  | nil => exact allowed
  | cons first rest restAllowed =>
      rcases List.forall_mem_cons.mp inside with ⟨firstInside, restInside⟩
      exact restAllowed (allowed.set first.1 firstInside) restInside

theorem cons (allowed : bindings.Allowed access) (name : Text) {value : Value}
    (inside : value.allowed access = true) : Bindings.Allowed access ((name, value) :: bindings) := by
  intro other found lookup
  rw [List.lookup_cons] at lookup
  split at lookup
  · cases lookup
    exact inside
  · exact allowed lookup

end Bindings.Allowed

/-! ## Words of a program -/

/-- Words that a program may have. -/
structure Words where
  /-- Names whose values it may use. -/
  used : Text -> Bool
  /-- Names to which it may give values. -/
  given : Text -> Bool
  /-- Names whose values its functions may use without giving them values themselves. -/
  outer : Text -> Bool
  members : Text -> Bool

namespace Words

/-- Words inside a function with a parameter and other variables. -/
def inside (words : Words) (parameter : Text) (assigned : List Text) : Words where
  used := fun name => (parameter :: assigned).contains name || words.outer name
  given := fun _ => true
  outer := words.outer
  members := words.members

/-- Words that all belong to two collections are among those of a third one. -/
structure Meet (words words' common : Words) : Prop where
  used : forall {name}, words.used name = true -> words'.used name = true ->
    common.used name = true
  given : forall {name}, words.given name = true -> words'.given name = true ->
    common.given name = true
  outer : forall {name}, words.outer name = true -> words'.outer name = true ->
    common.outer name = true
  members : forall {name}, words.members name = true -> words'.members name = true ->
    common.members name = true

theorem Meet.inside {words words' common : Words} (meet : words.Meet words' common)
    (parameter : Text) (assigned : List Text) :
    (words.inside parameter assigned).Meet (words'.inside parameter assigned)
      (common.inside parameter assigned) where
  used := by
    intro name used used'
    rcases Bool.or_eq_true_iff.mp used with own | outer
    · exact Bool.or_eq_true_iff.mpr (.inl own)
    · refine Bool.or_eq_true_iff.mpr ((Bool.or_eq_true_iff.mp used').imp_right fun outer' => ?_)
      exact meet.outer outer outer'
  given := fun _ _ => rfl
  outer := meet.outer
  members := meet.members

/-- Where all words may be used in functions, they are among the words of a function. -/
theorem meet_inside {words : Words}
    (flat : forall {name}, words.used name = true -> words.outer name = true) (parameter : Text)
    (assigned : List Text) : words.Meet words (words.inside parameter assigned) :=
  ⟨fun used _ => Bool.or_eq_true_iff.mpr (.inr (flat used)), fun _ _ => rfl, fun _ => id,
    fun _ => id⟩

end Words

namespace Expr

mutual

/-- Whether an expression has only names and members that are admitted. -/
def usesOnly (names members : Text -> Bool) : Expr -> Bool
  | name found => names found
  | constant _ | bytes _ => true
  | display items | joined items => itemsUseOnly names members items
  | signed _ operand => operand.usesOnly names members
  | arithmetic _ left right => left.usesOnly names members && right.usesOnly names members
  | compare first _ operands =>
      first.usesOnly names members && itemsUseOnly names members operands
  | member subject found => members found && subject.usesOnly names members
  | call function arguments =>
      function.usesOnly names members && itemsUseOnly names members arguments
  | comprehension element found source =>
      element.usesOnly (fun name => name == found || names name) members &&
        source.usesOnly names members

def itemsUseOnly (names members : Text -> Bool) : List Expr -> Bool
  | [] => true
  | item :: rest => item.usesOnly names members && itemsUseOnly names members rest

end

end Expr

namespace Stmt

/-- Whether a statement, with the functions that it defines, has only words that are
admitted. -/
def usesOnly (words : Words) : Stmt -> Bool
  | pass => true
  | assign found value => found.all words.given && value.usesOnly words.used words.members
  | increase found value =>
      words.used found && words.given found && value.usesOnly words.used words.members
  | evaluate value => value.usesOnly words.used words.members
  | seq first second => first.usesOnly words && second.usesOnly words
  | condition test yes no =>
      test.usesOnly words.used words.members && yes.usesOnly words && no.usesOnly words
  | loop found source body =>
      words.given found && source.usesOnly words.used words.members && body.usesOnly words
  | define found parameter body =>
      words.given found && body.usesOnly (words.inside parameter body.assigned)

end Stmt

section Words

mutual

/-- What has only names and members of two collections has only those that belong to both. -/
theorem Expr.usesOnly_meet {names names' common members members' common' : Text -> Bool}
    (meet : forall {name}, names name = true -> names' name = true -> common name = true)
    (meet' : forall {name}, members name = true -> members' name = true -> common' name = true) :
    forall expression : Expr, expression.usesOnly names members = true ->
      expression.usesOnly names' members' = true -> expression.usesOnly common common' = true
  | .name _, plain, plain' => meet plain plain'
  | .constant _, plain, _ | .bytes _, plain, _ => plain
  | .display items, plain, plain' | .joined items, plain, plain' =>
      Expr.itemsUseOnly_meet meet meet' items plain plain'
  | .signed _ operand, plain, plain' => Expr.usesOnly_meet meet meet' operand plain plain'
  | .arithmetic _ left right, plain, plain' => by
      rcases Bool.and_eq_true_iff.mp plain with ⟨leftPlain, rightPlain⟩
      rcases Bool.and_eq_true_iff.mp plain' with ⟨leftPlain', rightPlain'⟩
      exact Bool.and_eq_true_iff.mpr ⟨Expr.usesOnly_meet meet meet' left leftPlain leftPlain',
        Expr.usesOnly_meet meet meet' right rightPlain rightPlain'⟩
  | .compare first _ operands, plain, plain' => by
      rcases Bool.and_eq_true_iff.mp plain with ⟨firstPlain, operandsPlain⟩
      rcases Bool.and_eq_true_iff.mp plain' with ⟨firstPlain', operandsPlain'⟩
      exact Bool.and_eq_true_iff.mpr ⟨Expr.usesOnly_meet meet meet' first firstPlain firstPlain',
        Expr.itemsUseOnly_meet meet meet' operands operandsPlain operandsPlain'⟩
  | .member subject _, plain, plain' => by
      rcases Bool.and_eq_true_iff.mp plain with ⟨memberPlain, subjectPlain⟩
      rcases Bool.and_eq_true_iff.mp plain' with ⟨memberPlain', subjectPlain'⟩
      exact Bool.and_eq_true_iff.mpr ⟨meet' memberPlain memberPlain',
        Expr.usesOnly_meet meet meet' subject subjectPlain subjectPlain'⟩
  | .call function arguments, plain, plain' => by
      rcases Bool.and_eq_true_iff.mp plain with ⟨functionPlain, argumentsPlain⟩
      rcases Bool.and_eq_true_iff.mp plain' with ⟨functionPlain', argumentsPlain'⟩
      exact Bool.and_eq_true_iff.mpr
        ⟨Expr.usesOnly_meet meet meet' function functionPlain functionPlain',
          Expr.itemsUseOnly_meet meet meet' arguments argumentsPlain argumentsPlain'⟩
  | .comprehension element found source, plain, plain' => by
      rcases Bool.and_eq_true_iff.mp plain with ⟨elementPlain, sourcePlain⟩
      rcases Bool.and_eq_true_iff.mp plain' with ⟨elementPlain', sourcePlain'⟩
      have within : forall {name}, (name == found || names name) = true ->
          (name == found || names' name) = true -> (name == found || common name) = true := by
        intro name either either'
        rcases Bool.or_eq_true_iff.mp either with same | plain
        · exact Bool.or_eq_true_iff.mpr (.inl same)
        · exact Bool.or_eq_true_iff.mpr ((Bool.or_eq_true_iff.mp either').imp_right (meet plain))
      exact Bool.and_eq_true_iff.mpr
        ⟨Expr.usesOnly_meet within meet' element elementPlain elementPlain',
          Expr.usesOnly_meet meet meet' source sourcePlain sourcePlain'⟩

theorem Expr.itemsUseOnly_meet {names names' common members members' common' : Text -> Bool}
    (meet : forall {name}, names name = true -> names' name = true -> common name = true)
    (meet' : forall {name}, members name = true -> members' name = true -> common' name = true) :
    forall items : List Expr, Expr.itemsUseOnly names members items = true ->
      Expr.itemsUseOnly names' members' items = true ->
        Expr.itemsUseOnly common common' items = true
  | [], plain, _ => plain
  | item :: rest, plain, plain' => by
      rcases Bool.and_eq_true_iff.mp plain with ⟨itemPlain, restPlain⟩
      rcases Bool.and_eq_true_iff.mp plain' with ⟨itemPlain', restPlain'⟩
      exact Bool.and_eq_true_iff.mpr ⟨Expr.usesOnly_meet meet meet' item itemPlain itemPlain',
        Expr.itemsUseOnly_meet meet meet' rest restPlain restPlain'⟩

end

theorem Stmt.usesOnly_meet {words words' common : Words} (meet : words.Meet words' common)
    {statement : Stmt} (plain : statement.usesOnly words = true)
    (plain' : statement.usesOnly words' = true) : statement.usesOnly common = true := by
  have both : forall {words words' common : Words}, words.Meet words' common ->
      forall {expression : Expr}, expression.usesOnly words.used words.members = true ->
        expression.usesOnly words'.used words'.members = true ->
          expression.usesOnly common.used common.members = true :=
    fun meet => Expr.usesOnly_meet meet.used meet.members _
  induction statement generalizing words words' common with
  | pass => rfl
  | assign found value =>
      rcases Bool.and_eq_true_iff.mp plain with ⟨namesPlain, valuePlain⟩
      rcases Bool.and_eq_true_iff.mp plain' with ⟨namesPlain', valuePlain'⟩
      refine Bool.and_eq_true_iff.mpr
        ⟨List.all_eq_true.mpr fun name member => ?_, both meet valuePlain valuePlain'⟩
      exact meet.given (List.all_eq_true.mp namesPlain name member)
        (List.all_eq_true.mp namesPlain' name member)
  | increase found value =>
      rcases Bool.and_eq_true_iff.mp plain with ⟨namePlain, valuePlain⟩
      rcases Bool.and_eq_true_iff.mp plain' with ⟨namePlain', valuePlain'⟩
      rcases Bool.and_eq_true_iff.mp namePlain with ⟨used, given⟩
      rcases Bool.and_eq_true_iff.mp namePlain' with ⟨used', given'⟩
      exact Bool.and_eq_true_iff.mpr
        ⟨Bool.and_eq_true_iff.mpr ⟨meet.used used used', meet.given given given'⟩,
          both meet valuePlain valuePlain'⟩
  | evaluate value => exact both meet plain plain'
  | seq first second firstMeet secondMeet =>
      rcases Bool.and_eq_true_iff.mp plain with ⟨firstPlain, secondPlain⟩
      rcases Bool.and_eq_true_iff.mp plain' with ⟨firstPlain', secondPlain'⟩
      exact Bool.and_eq_true_iff.mpr
        ⟨firstMeet meet firstPlain firstPlain', secondMeet meet secondPlain secondPlain'⟩
  | condition test yes no yesMeet noMeet =>
      rcases Bool.and_eq_true_iff.mp plain with ⟨front, noPlain⟩
      rcases Bool.and_eq_true_iff.mp front with ⟨testPlain, yesPlain⟩
      rcases Bool.and_eq_true_iff.mp plain' with ⟨front', noPlain'⟩
      rcases Bool.and_eq_true_iff.mp front' with ⟨testPlain', yesPlain'⟩
      exact Bool.and_eq_true_iff.mpr ⟨Bool.and_eq_true_iff.mpr
        ⟨both meet testPlain testPlain', yesMeet meet yesPlain yesPlain'⟩,
          noMeet meet noPlain noPlain'⟩
  | loop found source body bodyMeet =>
      rcases Bool.and_eq_true_iff.mp plain with ⟨front, bodyPlain⟩
      rcases Bool.and_eq_true_iff.mp front with ⟨namePlain, sourcePlain⟩
      rcases Bool.and_eq_true_iff.mp plain' with ⟨front', bodyPlain'⟩
      rcases Bool.and_eq_true_iff.mp front' with ⟨namePlain', sourcePlain'⟩
      exact Bool.and_eq_true_iff.mpr ⟨Bool.and_eq_true_iff.mpr
        ⟨meet.given namePlain namePlain', both meet sourcePlain sourcePlain'⟩,
          bodyMeet meet bodyPlain bodyPlain'⟩
  | define found parameter body bodyMeet =>
      rcases Bool.and_eq_true_iff.mp plain with ⟨namePlain, bodyPlain⟩
      rcases Bool.and_eq_true_iff.mp plain' with ⟨namePlain', bodyPlain'⟩
      exact Bool.and_eq_true_iff.mpr ⟨meet.given namePlain namePlain',
        bodyMeet (meet.inside parameter body.assigned) bodyPlain bodyPlain'⟩

/-- Where more words are admitted, all that was admitted still is. -/
theorem Stmt.usesOnly_mono {words wider : Words} (below : words.Meet words wider)
    {statement : Stmt} (plain : statement.usesOnly words = true) :
    statement.usesOnly wider = true :=
  Stmt.usesOnly_meet below plain plain

/-- Variables are among the names to which a statement gives values. -/
theorem Stmt.given_of_mem_assigned {words : Words} {statement : Stmt}
    (plain : statement.usesOnly words = true) {name : Text} (member : name ∈ statement.assigned) :
    words.given name = true := by
  induction statement with
  | pass | evaluate => cases member
  | assign found value =>
      exact List.all_eq_true.mp (Bool.and_eq_true_iff.mp plain).1 name member
  | increase found value =>
      rw [List.mem_singleton.mp member]
      exact (Bool.and_eq_true_iff.mp (Bool.and_eq_true_iff.mp plain).1).2
  | seq first second firstGiven secondGiven =>
      rcases Bool.and_eq_true_iff.mp plain with ⟨plainFirst, plainSecond⟩
      exact (List.mem_append.mp member).elim (firstGiven plainFirst) (secondGiven plainSecond)
  | condition test yes no yesGiven noGiven =>
      rcases Bool.and_eq_true_iff.mp plain with ⟨front, plainNo⟩
      rcases Bool.and_eq_true_iff.mp front with ⟨_, plainYes⟩
      exact (List.mem_append.mp member).elim (yesGiven plainYes) (noGiven plainNo)
  | loop found source body bodyGiven =>
      rcases Bool.and_eq_true_iff.mp plain with ⟨front, plainBody⟩
      rcases List.mem_cons.mp member with rfl | inside
      · exact (Bool.and_eq_true_iff.mp front).1
      · exact bodyGiven plainBody inside
  | define found parameter body =>
      rw [List.mem_singleton.mp member]
      exact (Bool.and_eq_true_iff.mp plain).1

end Words

/-- Words with which a program outside functions keeps to its access. -/
def Access.words (access : Access) : Words where
  used := access.names
  given := fun _ => true
  outer := access.names
  members := access.members

/-- Whether a function keeps to its access. -/
def Function.keepsTo (access : Access) (function : Function) : Bool :=
  function.body.usesOnly (access.words.inside function.parameter function.body.assigned)

end Program
end Oneliner
