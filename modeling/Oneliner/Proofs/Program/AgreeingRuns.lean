import Oneliner.Proofs.Program.AgreeingCalls

namespace Oneliner
namespace Program

/-!
Expressions and statements that keep to their access.

A program runs in two scopes that agree on the names that it mentions.  The calls in it end
up in functions in place, or in functions of the program, whose bodies have scopes of their
own.
-/

open Run (Inside AllInside)

/-! ## Scopes -/

/-- Two scopes in which visible names mean the same. -/
structure Scope.Alike (access : Access) (hidden : List Text) (scope scope' : Scope) : Prop where
  owned : scope'.owned.isSome = scope.owned.isSome
  own : forall {name}, name ∉ hidden -> scope'.isVariable name = scope.isVariable name
  running : scope'.running = scope.running
  allowed : scope.running.Allowed access

/-- What the names stand for in a scope gives no other access: they run in a comprehension,
or they are not hidden, and what is found elsewhere under one is admitted. -/
def Scope.Admits (access : Access) (hidden : List Text) (scope : Scope) (used : Text -> Bool) :
    Prop :=
  forall {name}, used name = true ->
    (scope.running.lookup name).isSome = true ∨
      name ∉ hidden ∧ (scope.isVariable name = true ∨ access.names name = true)

/-- Inside functions a name can be given a value.  Outside, the global names must then
still be as they may be. -/
def Scope.MayAssign (access : Access) (globals : Bindings -> Prop) (scope : Scope) (name : Text) :
    Prop :=
  scope.owned.isSome = false -> forall {bindings value}, globals bindings ->
    value.allowed access = true -> globals (bindings.set name value)

/-- Words with which a statement keeps to its access in a scope. -/
structure Words.Keep (access : Access) (hidden : List Text) (scope : Scope) (words : Words) :
    Prop where
  used : scope.Admits access hidden words.used
  given : forall {name}, words.given name = true -> name ∉ hidden
  outer : forall {name}, words.outer name = true -> access.names name = true
  members : forall {name}, words.members name = true -> access.members name = true

/-- With nothing hidden, the words of an access keep to it in any scope. -/
theorem Words.keep_words {access : Access} {scope : Scope} :
    access.words.Keep access [] scope where
  used := fun used => .inr ⟨List.not_mem_nil, .inr used⟩
  given := fun _ => List.not_mem_nil
  outer := id
  members := id

namespace Scope

variable {access : Access} {globals : Bindings -> Prop} {hidden : List Text}
  {scope scope' : Scope}

theorem mayAssign_of_owned (owned : scope.owned.isSome = true) (name : Text) :
    scope.MayAssign access globals name := by
  intro outside
  rw [owned] at outside
  cases outside

theorem Alike.refl (running : scope.running = []) : scope.Alike access hidden scope :=
  ⟨rfl, fun _ => rfl, rfl, running ▸ Bindings.Allowed.empty⟩

theorem Alike.run (alike : scope.Alike access hidden scope') (name : Text) {value : Value}
    (inside : Inside access value) :
    (scope.run name value).Alike access hidden (scope'.run name value) :=
  ⟨alike.owned, alike.own, congrArg ((name, value) :: ·) alike.running,
    alike.allowed.cons name inside⟩

theorem Admits.run {used : Text -> Bool} (admits : scope.Admits access hidden used) (name : Text)
    (value : Value) :
    (scope.run name value).Admits access hidden fun other => other == name || used other := by
  intro other plain
  change (other == name || used other) = true at plain
  rw [Scope.run, List.lookup_cons]
  by_cases same : other = name
  · rw [beq_iff_eq.mpr same]
    exact .inl rfl
  · have unequal : (other == name) = false := beq_eq_false_iff_ne.mpr same
    rw [unequal, Bool.false_or] at plain
    rw [unequal]
    exact admits plain

theorem Alike.find (alike : scope.Alike access hidden scope')
    (known : forall {bindings}, globals bindings -> bindings.Allowed access) {used : Text -> Bool}
    (admits : scope.Admits access hidden used) {name : Text} (plain : used name = true) :
    Agree access globals hidden (Inside access) (scope.find name) (scope'.find name) := by
  have admitted := admits plain
  rw [Scope.find, Scope.find, alike.running]
  cases found : scope.running.lookup name with
  | some value => exact Agree.pure (alike.allowed found)
  | none =>
      rw [found] at admitted
      rcases admitted.resolve_left Bool.noConfusion with ⟨visible, inside⟩
      simp only [alike.own visible]
      split
      · refine Agree.get fun machine other _ like => ?_
        rw [like.same visible]
        cases value : machine.locals.lookup name with
        | some found => exact Agree.pure (like.allowed visible value)
        | none => exact Agree.fail _
      · rename_i free
        exact Run.alone_find known (inside.resolve_left free)

theorem Alike.assign (alike : scope.Alike access hidden scope') {name : Text}
    (may : scope.MayAssign access globals name) {value : Value} (inside : Inside access value)
    (visible : name ∉ hidden) :
    Agree access globals hidden (fun _ => True) (scope.assign value name)
      (scope'.assign value name) := by
  rw [Scope.assign, Scope.assign, alike.owned]
  split
  · intro machine other sound like
    have kept : forall bindings : Bindings, ∀ hiddenName ∈ hidden,
        (bindings.set name value).lookup hiddenName = bindings.lookup hiddenName := by
      intro bindings hiddenName member
      rw [Bindings.lookup_set, if_neg]
      rintro rfl
      exact visible member
    refine ⟨.ok (), { machine with locals := machine.locals.set name value },
      { other with locals := other.locals.set name value }, rfl, rfl,
      ⟨sound.globals, sound.lists, sound.functions, sound.unasked⟩, ?_,
      ⟨kept _, fun _ => rfl, List.suffix_rfl, rfl, .rfl, fun _ => rfl⟩,
      ⟨kept _, fun _ => rfl, List.suffix_rfl, rfl, .rfl, fun _ => rfl⟩, fun _ _ => trivial⟩
    refine ⟨?_, fun shown => ?_, fun shown found lookup => ?_, like.input, like.arguments⟩
    · rw [like.rest]
      rfl
    · rw [Bindings.lookup_set, Bindings.lookup_set, like.same shown]
    · rw [Bindings.lookup_set] at lookup
      split at lookup
      · cases lookup
        exact inside
      · exact like.allowed shown lookup
  · rename_i outside
    exact Run.alone_bind fun known => may (Bool.eq_false_iff.mpr outside) known inside

end Scope

/-! ## Expressions -/

section Runs

variable {access : Access} {globals : Bindings -> Prop} {hidden : List Text} {dispatch : Dispatch}

namespace Expr

theorem alone_operate (operator : Arithmetic) (left right : Value) :
    Alone access globals hidden (Inside access) (operate operator left right) := by
  cases operator with
  | add => exact Run.alone_add left right
  | subtract => exact Run.alone_combine _ _ _ left right
  | times => exact Run.alone_times left right

theorem alone_relate (relation : Relation) (left : Value) {right : Value}
    (inside : Inside access right) :
    Alone access globals hidden (fun _ => True) (relate relation left right) := by
  cases relation with
  | equal => exact Run.alone_same left right
  | within => exact Run.alone_isIn left inside

variable {members : Text -> Bool}

mutual

theorem agree_eval (quiet : dispatch.Sound access globals)
    (keeps : forall {name}, members name = true -> access.members name = true) :
    forall (expression : Expr) {scope scope' : Scope} {used : Text -> Bool},
      scope.Alike access hidden scope' -> scope.Admits access hidden used ->
        expression.usesOnly used members = true ->
          Agree access globals hidden (Inside access) (expression.eval dispatch scope)
            (expression.eval dispatch scope')
  | .name found, scope, scope', used, alike, admits, plain => alike.find quiet.found admits plain
  | .constant value, _, _, _, _, _, _ => Run.alone_ofScalar value
  | .bytes value, _, _, _, _, _, _ => Agree.pure rfl
  | .display items, scope, scope', used, alike, admits, plain =>
      (agree_evalItems quiet keeps items alike admits plain).bind fun values inside =>
        Run.alone_makeList inside
  | .signed sign operand, scope, scope', used, alike, admits, plain =>
      (agree_eval quiet keeps operand alike admits plain).bind fun _ inside =>
        Run.alone_signed sign inside
  | .arithmetic operator left right, scope, scope', used, alike, admits, plain => by
      rcases Bool.and_eq_true_iff.mp plain with ⟨leftPlain, rightPlain⟩
      refine (agree_eval quiet keeps left alike admits leftPlain).bind fun first _ => ?_
      exact (agree_eval quiet keeps right alike admits rightPlain).bind fun second _ =>
        alone_operate operator first second
  | .compare first relations operands, scope, scope', used, alike, admits, plain => by
      rcases Bool.and_eq_true_iff.mp plain with ⟨firstPlain, operandsPlain⟩
      refine (agree_eval quiet keeps first alike admits firstPlain).bind fun left _ => ?_
      exact (agree_evalChain quiet keeps operands alike admits operandsPlain left relations).bind
        fun _ _ => Agree.pure rfl
  | .member subject found, scope, scope', used, alike, admits, plain => by
      rcases Bool.and_eq_true_iff.mp plain with ⟨memberPlain, subjectPlain⟩
      exact (agree_eval quiet keeps subject alike admits subjectPlain).bind fun _ inside =>
        Run.alone_memberOf inside fun _ => keeps memberPlain
  | .call function arguments, scope, scope', used, alike, admits, plain => by
      rcases Bool.and_eq_true_iff.mp plain with ⟨functionPlain, argumentsPlain⟩
      refine (agree_eval quiet keeps function alike admits functionPlain).bind
        fun called calledInside => ?_
      exact (agree_evalItems quiet keeps arguments alike admits argumentsPlain).bind
        fun given givenInside => quiet.call calledInside givenInside
  | .comprehension element found source, scope, scope', used, alike, admits, plain => by
      rcases Bool.and_eq_true_iff.mp plain with ⟨elementPlain, sourcePlain⟩
      refine (agree_eval quiet keeps source alike admits sourcePlain).bind fun values inside => ?_
      refine (Run.alone_storeList fun _ member => absurd member (Array.not_mem_empty _)).bind
        fun index _ => ?_
      refine (Run.agree_forEach (fun item itemInside => ?_) inside).bind fun _ _ => Agree.pure rfl
      exact (agree_eval quiet keeps element (alike.run found itemInside) (admits.run found item)
        elementPlain).bind fun _ valueInside => Run.alone_push index valueInside
  | .joined parts, scope, scope', used, alike, admits, plain => by
      refine (agree_evalItems quiet keeps parts alike admits plain).bind fun values _ => ?_
      exact (Agree.mapM fun value _ => Run.alone_textOf value).bind fun _ _ => Agree.pure rfl

theorem agree_evalItems (quiet : dispatch.Sound access globals)
    (keeps : forall {name}, members name = true -> access.members name = true) :
    forall (items : List Expr) {scope scope' : Scope} {used : Text -> Bool},
      scope.Alike access hidden scope' -> scope.Admits access hidden used ->
        itemsUseOnly used members items = true ->
          Agree access globals hidden (AllInside access) (evalItems dispatch scope items)
            (evalItems dispatch scope' items)
  | [], _, _, _, _, _, _ => Agree.pure nofun
  | item :: rest, scope, scope', used, alike, admits, plain => by
      rcases Bool.and_eq_true_iff.mp plain with ⟨itemPlain, restPlain⟩
      refine (agree_eval quiet keeps item alike admits itemPlain).bind fun value inside => ?_
      exact (agree_evalItems quiet keeps rest alike admits restPlain).bind fun values valuesInside =>
        Agree.pure (List.forall_mem_cons.mpr ⟨inside, valuesInside⟩)

theorem agree_evalChain (quiet : dispatch.Sound access globals)
    (keeps : forall {name}, members name = true -> access.members name = true) :
    forall (operands : List Expr) {scope scope' : Scope} {used : Text -> Bool},
      scope.Alike access hidden scope' -> scope.Admits access hidden used ->
        itemsUseOnly used members operands = true ->
          forall (left : Value) (relations : List Relation),
            Agree access globals hidden (fun _ => True)
              (evalChain dispatch scope left relations operands)
              (evalChain dispatch scope' left relations operands)
  | [], _, _, _, _, _, _, _, relations => by
      cases relations <;> exact Agree.pure trivial
  | operand :: rest, scope, scope', used, alike, admits, plain, left, relations => by
      cases relations with
      | nil => exact Agree.pure trivial
      | cons relation later =>
          rcases Bool.and_eq_true_iff.mp plain with ⟨operandPlain, restPlain⟩
          refine (agree_eval quiet keeps operand alike admits operandPlain).bind
            fun right inside => ?_
          refine (alone_relate relation left inside).bind fun holds _ => ?_
          split
          · exact agree_evalChain quiet keeps rest alike admits restPlain right later
          · exact Agree.pure trivial

end

end Expr

variable (quiet : dispatch.Sound access globals)

include quiet

/-! ## Statements -/

theorem Stmt.agree_exec (statement : Stmt) {scope scope' : Scope}
    (alike : scope.Alike access hidden scope') {words : Words}
    (keep : words.Keep access hidden scope)
    (may : ∀ name ∈ statement.assigned, scope.MayAssign access globals name)
    (plain : statement.usesOnly words = true) :
    Agree access globals hidden (fun _ => True) (statement.exec dispatch scope)
      (statement.exec dispatch scope') := by
  have evaluated : forall {expression : Expr},
      expression.usesOnly words.used words.members = true ->
        Agree access globals hidden (Inside access) (expression.eval dispatch scope)
          (expression.eval dispatch scope') :=
    fun {expression} => expression.agree_eval quiet keep.members alike keep.used
  induction statement with
  | pass => exact Agree.pure trivial
  | assign names value =>
      rcases Bool.and_eq_true_iff.mp plain with ⟨namesPlain, valuePlain⟩
      refine (evaluated valuePlain).bind fun result inside => ?_
      exact Agree.forM fun name member => alike.assign (may name member) inside
        (keep.given (List.all_eq_true.mp namesPlain name member))
  | increase name value =>
      rcases Bool.and_eq_true_iff.mp plain with ⟨namePlain, valuePlain⟩
      rcases Bool.and_eq_true_iff.mp namePlain with ⟨used, given⟩
      refine (alike.find quiet.found keep.used used).bind fun old oldInside => ?_
      refine (evaluated valuePlain).bind fun more moreInside => ?_
      exact (Run.alone_increase oldInside moreInside).bind fun _ inside =>
        alike.assign (may name List.mem_cons_self) inside (keep.given given)
  | evaluate value => exact (evaluated plain).bind fun _ _ => Agree.pure trivial
  | seq first second firstAgree secondAgree =>
      rcases Bool.and_eq_true_iff.mp plain with ⟨firstPlain, secondPlain⟩
      rcases List.forall_mem_append.mp may with ⟨firstMay, secondMay⟩
      exact (firstAgree firstMay firstPlain).bind fun _ _ => secondAgree secondMay secondPlain
  | condition test yes no yesAgree noAgree =>
      rcases Bool.and_eq_true_iff.mp plain with ⟨branches, noPlain⟩
      rcases Bool.and_eq_true_iff.mp branches with ⟨testPlain, yesPlain⟩
      rcases List.forall_mem_append.mp may with ⟨yesMay, noMay⟩
      refine (evaluated testPlain).bind fun value _ => ?_
      refine Agree.get fun machine other _ like => ?_
      rw [like.holds_eq]
      split
      · exact yesAgree yesMay yesPlain
      · exact noAgree noMay noPlain
  | loop name source body bodyAgree =>
      rcases Bool.and_eq_true_iff.mp plain with ⟨head, bodyPlain⟩
      rcases Bool.and_eq_true_iff.mp head with ⟨namePlain, sourcePlain⟩
      rcases List.forall_mem_cons.mp may with ⟨nameMay, bodyMay⟩
      refine (evaluated sourcePlain).bind fun values inside => ?_
      exact Run.agree_forEach (fun item itemInside =>
        (alike.assign nameMay itemInside (keep.given namePlain)).bind fun _ _ =>
          bodyAgree bodyMay bodyPlain) inside
  | define name parameter body =>
      rcases Bool.and_eq_true_iff.mp plain with ⟨namePlain, bodyPlain⟩
      have below : (words.inside parameter body.assigned).Meet
          (words.inside parameter body.assigned)
          (access.words.inside parameter body.assigned) := by
        refine ⟨fun used _ => ?_, fun _ _ => rfl, fun _ => keep.outer, fun _ => keep.members⟩
        exact Bool.or_eq_true_iff.mpr ((Bool.or_eq_true_iff.mp used).imp_right keep.outer)
      have keeps : Function.keepsTo access ⟨parameter, body⟩ = true :=
        Stmt.usesOnly_mono below bodyPlain
      exact (Run.alone_makeFunction keeps).bind fun function inside =>
        alike.assign (may name List.mem_cons_self) inside (keep.given namePlain)

/-! ## Calls -/

omit quiet in
/-- An action with variables of its own gives those around it back. -/
theorem Run.runOn_withLocals {Result : Type} (locals : Bindings) (action : Run Result)
    (machine : Machine) :
    (withLocals locals action).runOn machine =
      ((action.runOn { machine with locals := locals }).1,
        { (action.runOn { machine with locals := locals }).2 with locals := machine.locals }) := by
  rw [withLocals, Action.runOn_bind_ok (Action.runOn_get machine)]
  rw [Action.runOn_bind_ok (Action.runOn_modify _ machine), Action.runOn_bind, Action.runOn_tryCatch]
  rcases action.runOn { machine with locals := locals } with ⟨result, later⟩
  cases result <;> rfl

omit quiet in
/-- An action with variables of its own does not depend on those around it. -/
theorem Run.agree_withLocals {Result : Type} {good : Result -> Prop} {locals : Bindings}
    (inside : locals.Allowed access) {action action' : Run Result}
    (agree : Agree access globals [] good action action') :
    Agree access globals hidden good (withLocals locals action) (withLocals locals action') := by
  intro machine other sound like
  have own : Machine.Like access [] { machine with locals := locals }
      { other with locals := locals } := by
    refine ⟨?_, fun _ => rfl, fun _ _ found => inside found, like.input, like.arguments⟩
    rw [like.rest]
    rfl
  have ownSound : Machine.Sound access globals { machine with locals := locals } :=
    ⟨sound.globals, sound.lists, sound.functions, sound.unasked⟩
  rcases agree _ _ ownSound own with
    ⟨result, later, later', run, run', laterSound, laterLike, leads, leads', holds⟩
  refine ⟨result, { later with locals := machine.locals }, { later' with locals := other.locals },
    ?_, ?_, ⟨laterSound.globals, laterSound.lists, laterSound.functions, laterSound.unasked⟩, ?_,
    ⟨fun _ _ => rfl, leads.unread, leads.suffix, leads.arguments, leads.begins, leads.shut⟩,
    ⟨fun _ _ => rfl, leads'.unread, leads'.suffix, leads'.arguments, leads'.begins, leads'.shut⟩,
    holds⟩
  · rw [runOn_withLocals, run]
  · rw [runOn_withLocals, run']
  · refine ⟨?_, like.same, like.allowed, laterLike.input, laterLike.arguments⟩
    rw [laterLike.rest]
    rfl

omit quiet in
/-- Words of a function's body in the scope of the function. -/
theorem Words.keep_inside (function : Function) :
    (access.words.inside function.parameter function.body.assigned).Keep access []
      (.ofFunction function) where
  used := by
    intro name used
    exact .inr ⟨List.not_mem_nil, Bool.or_eq_true_iff.mp used⟩
  given := fun _ => List.not_mem_nil
  outer := id
  members := id

theorem Run.alone_callFunction (index : Nat) {arguments : List Value}
    (hold : AllInside access arguments) :
    Alone access globals hidden (Inside access) (callFunction dispatch index arguments) := by
  refine Agree.get fun machine other sound like => ?_
  rw [like.functions_eq]
  split
  · rename_i function argument found
    have given : Bindings.Allowed access [(function.parameter, argument)] :=
      Bindings.Allowed.empty.cons function.parameter (hold argument List.mem_cons_self)
    have body : Alone access globals [] (fun _ => True)
        (function.body.exec dispatch (.ofFunction function)) :=
      function.body.agree_exec quiet (.refl rfl) (Words.keep_inside function)
        (fun name _ => Scope.mayAssign_of_owned rfl name)
        (sound.functions (Array.mem_of_getElem? found))
    exact (agree_withLocals given body).bind fun _ _ => Agree.pure rfl
  · exact Agree.fail _

theorem Run.alone_callValue {function : Value} (inside : Inside access function)
    {arguments : List Value} (hold : AllInside access arguments) :
    Alone access globals hidden (Inside access) (callValue dispatch function arguments) := by
  rw [callValue.eq_def]
  split
  · exact alone_callBuiltin quiet inside hold
  · exact alone_callMethod inside hold
  · exact alone_callFunction quiet _ hold
  · exact Agree.fail _

end Runs

/-- All calls of programs that keep to their access do so, down to any depth. -/
theorem Dispatch.sound_within {access : Access} {globals : Bindings -> Prop}
    (known : forall {bindings}, globals bindings -> bindings.Allowed access) (depth : Nat) :
    (within depth).Sound access globals := by
  induction depth with
  | zero => exact ⟨known, fun _ _ => Agree.fail _⟩
  | succ depth shallower =>
      exact ⟨known, fun inside hold => Run.alone_callValue shallower inside hold⟩

end Program
end Oneliner
