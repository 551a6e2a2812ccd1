import Oneliner.Proofs.Session.Frame

namespace Oneliner
namespace Script

/-!
The code of a function that has its turn first.

A function that runs its code once gets to it at once.  A function with a loop gets to
the code in front of the loop, or else to the code for the first line, or else, without
any lines, to the code behind the loop.
-/

open Program
open Sections (subject)

/-! ## Words of the whole body -/

theorem tame_followedBy (first later : Stmt) :
    (first.followedBy later).tame = (first.tame && later.tame) :=
  Stmt.usesOnly_followedBy _ first later

theorem followedBy_assoc (first second third : Stmt) :
    (first.followedBy second).followedBy third = first.followedBy (second.followedBy third) := by
  induction first with
  | pass => rfl
  | seq first rest _ restAssoc => rw [Stmt.followedBy, Stmt.followedBy, restAssoc, Stmt.followedBy]
  | evaluate | assign | increase | condition | loop | define => rfl

/-- Names to which the function's own lines give values. -/
def ownNames : List Text :=
  [subject, counterName]

/-- Whether a statement only does what the function's own lines may do. -/
def isOwn (statement : Stmt) : Bool :=
  statement.tame && statement.assigned.all ownNames.contains

theorem isOwn_iff {statement : Stmt} :
    isOwn statement = true ↔
      statement.tame = true ∧ ∀ name ∈ statement.assigned, name ∈ ownNames := by
  rw [isOwn, Bool.and_eq_true, List.all_eq_true]
  simp only [List.contains_eq_mem, decide_eq_true_eq]

/-- Lines that only do what the function's own lines may do. -/
theorem isOwn_ownStmt {fragments : List Fragment}
    (own : ∀ fragment ∈ fragments, isOwn (Stmt.ofTextD fragment.body) = true) :
    isOwn (ownStmt fragments) = true := by
  induction fragments with
  | nil => rfl
  | cons first rest restOwn =>
      rcases List.forall_mem_cons.mp own with ⟨firstOwn, others⟩
      rcases isOwn_iff.mp firstOwn with ⟨firstTame, firstNames⟩
      rcases isOwn_iff.mp (restOwn others) with ⟨restTame, restNames⟩
      change isOwn ((Stmt.ofTextD first.body).followedBy (ownStmt rest)) = true
      rw [isOwn_iff, tame_followedBy, firstTame, restTame, Stmt.assigned_followedBy]
      exact ⟨rfl, List.forall_mem_append.mpr ⟨firstNames, restNames⟩⟩

/-- All lines that the function may have of its own. -/
def frameLines : List Text :=
  ["# 'before' code", "print('--before')", "__lineno__ = 1", "_ = _.rstrip('\\n')",
    "_ = __try_convert_str_to_number__(_)", "print('== input line \x7b0\x7d'.format(__lineno__))",
    "print('\x7b0\x7d'.format(_))\n", "print('== output line \x7b0\x7d'.format(__lineno__))",
    "__lineno__ += 1\n", "# 'pype' code", "# 'after' code", "print('--after')",
    "# debug mode - print input", "print('Input:')", "print(_)", "print('')"].map String.toList

theorem isOwn_frameLines : ∀ line ∈ frameLines, isOwn (Stmt.ofTextD line) = true := by
  have quiet := ofTextD_heading
  simp only [List.forall_mem_cons] at quiet
  simp only [frameLines, List.map_cons, List.map_nil, List.forall_mem_cons, quiet, ofTextD_print,
    ofTextD_format, ofTextD_counter, ofTextD_line]
  decide

theorem isOwn_of_frameLines {fragments : List Fragment}
    (lines : ∀ fragment ∈ fragments, fragment.body ∈ frameLines) :
    isOwn (ownStmt fragments) = true :=
  isOwn_ownStmt fun fragment member => isOwn_frameLines _ (lines fragment member)

section Own

variable (script : Script)

theorem isOwn_beforeOwn : isOwn (ownStmt script.beforeOwn) = true := by
  apply isOwn_of_frameLines
  rw [beforeOwn]
  cases script.debug <;> decide

theorem isOwn_counterOwn : isOwn (ownStmt script.counterOwn) = true := by
  apply isOwn_of_frameLines
  rw [counterOwn]
  cases script.debug <;> decide

theorem isOwn_lineOwn : isOwn (ownStmt script.lineOwn) = true := by
  apply isOwn_of_frameLines
  rw [lineOwn]
  cases script.trim <;> cases script.convert <;> cases script.debug <;> decide

theorem isOwn_afterOwn : isOwn (ownStmt script.afterOwn) = true := by
  apply isOwn_of_frameLines
  rw [afterOwn]
  cases script.debug <;> decide

theorem isOwn_collectOwn : isOwn (ownStmt script.collectOwn) = true := by
  have line : isOwn (Stmt.ofTextD (Fragment.frame 1 script.collectLine).body) = true := by
    have read : Stmt.ofTextD (Fragment.frame 1 script.collectLine).body =
        .seq script.collectStmt .pass := ofTextD_collectLine script
    rw [read, collectStmt, collectExpr, itemExpr]
    cases script.trim <;> cases script.convert <;> decide
  have others : ∀ fragment ∈ (if script.debug then
      ["# debug mode - print input", "print('Input:')", "print(_)", "print('')"].map (.trace 1)
    else []) ++ [Fragment.frame 1 "# 'pype' code"], fragment.body ∈ frameLines := by
    cases script.debug <;> decide
  apply isOwn_ownStmt
  rw [collectOwn]
  exact List.forall_mem_cons.mpr
    ⟨line, fun fragment member => isOwn_frameLines _ (others fragment member)⟩

end Own

section Body

variable {script : Script} {before main after : Stmt}

theorem assigned_followedBy_subset {first later : Stmt} {names : List Text}
    (firstWithin : first.assigned ⊆ names) (laterWithin : later.assigned ⊆ names) :
    (first.followedBy later).assigned ⊆ names := by
  rw [Stmt.assigned_followedBy]
  exact List.append_subset.mpr ⟨firstWithin, laterWithin⟩

/-- The body gives values to names of its own and to those of its sections. -/
theorem assigned_assembled_subset :
    (script.assembled before main after).assigned ⊆
      ownNames ++ (before.assigned ++ main.assigned ++ after.assigned) := by
  generalize whole : ownNames ++ (before.assigned ++ main.assigned ++ after.assigned) = names
  have within : ownNames ++ (before.assigned ++ main.assigned ++ after.assigned) ⊆ names := by
    rw [whole]
    exact List.Subset.refl names
  simp only [List.append_subset] at within
  rcases within with ⟨own, ⟨inBefore, inMain⟩, inAfter⟩
  have ownWithin : forall {fragments}, isOwn (ownStmt fragments) = true ->
      (ownStmt fragments).assigned ⊆ names :=
    fun isOwn name member => own ((isOwn_iff.mp isOwn).2 name member)
  have turn : (script.turnStmt main).assigned ⊆ names :=
    assigned_followedBy_subset (ownWithin script.isOwn_lineOwn) inMain
  have opening : (script.openingStmt before).assigned ⊆ names := by
    rw [openingStmt]
    cases script.before with
    | none => exact ownWithin script.isOwn_counterOwn
    | some =>
        exact assigned_followedBy_subset (ownWithin script.isOwn_beforeOwn)
          (assigned_followedBy_subset inBefore (ownWithin script.isOwn_counterOwn))
  have closing : (script.closingStmt after).assigned ⊆ names := by
    rw [closingStmt]
    cases script.after with
    | none => exact List.nil_subset names
    | some => exact assigned_followedBy_subset (ownWithin script.isOwn_afterOwn) inAfter
  have loop : (Stmt.seq (.seq (.loop ['_'] (.name "stdin".toList) (script.turnStmt main)) .pass)
      (script.closingStmt after)).assigned ⊆ names := by
    simp only [Stmt.assigned, List.append_nil]
    exact List.append_subset.mpr ⟨List.cons_subset.mpr ⟨own (by decide), turn⟩, closing⟩
  rw [assembled]
  split
  · exact assigned_followedBy_subset (ownWithin script.isOwn_collectOwn) inMain
  · exact assigned_followedBy_subset opening loop

theorem tame_assembled (beforeTame : before.tame = true) (mainTame : main.tame = true)
    (afterTame : after.tame = true) : (script.assembled before main after).tame = true := by
  have both : forall {first later : Stmt}, first.tame = true -> later.tame = true ->
      (first.followedBy later).tame = true := by
    intro first later firstTame laterTame
    rw [tame_followedBy, firstTame, laterTame]
    rfl
  have own : forall {fragments}, isOwn (ownStmt fragments) = true ->
      (ownStmt fragments).tame = true := fun isOwn => (isOwn_iff.mp isOwn).1
  have turn : (script.turnStmt main).tame = true := both (own script.isOwn_lineOwn) mainTame
  have opening : (script.openingStmt before).tame = true := by
    rw [openingStmt]
    cases script.before with
    | none => exact own script.isOwn_counterOwn
    | some => exact both (own script.isOwn_beforeOwn) (both beforeTame (own script.isOwn_counterOwn))
  have closing : (script.closingStmt after).tame = true := by
    rw [closingStmt]
    cases script.after with
    | none => rfl
    | some => exact both (own script.isOwn_afterOwn) afterTame
  have source : Access.full.names "stdin".toList = true := by decide
  have loop : (Stmt.seq (.seq (.loop ['_'] (.name "stdin".toList) (script.turnStmt main)) .pass)
      (script.closingStmt after)).tame = true := by
    rw [Stmt.tame, Stmt.usesOnly, Stmt.usesOnly, Stmt.usesOnly]
    exact Bool.and_eq_true_iff.mpr ⟨Bool.and_eq_true_iff.mpr
      ⟨Bool.and_eq_true_iff.mpr ⟨source, turn⟩, rfl⟩, closing⟩
  rw [assembled]
  split
  · exact both (own script.isOwn_collectOwn) mainTame
  · exact both opening loop

/-- The function with the given sections. -/
def functionOf (script : Script) (before main after : Stmt) : Function :=
  ⟨inputMember, script.assembled before main after⟩

theorem isVariable_functionOf {name : Text} :
    (Scope.ofFunction (script.functionOf before main after)).isVariable name = true ↔
      name = inputMember ∨ name ∈ (script.assembled before main after).assigned := by
  simp [Scope.isVariable, Scope.ofFunction, functionOf]

/-- A name that neither the function nor its code gives values to is a global one. -/
theorem isVariable_functionOf_eq_false {name : Text} (apart : name ∉ inputMember :: ownNames)
    (unassigned : name ∉ before.assigned ++ main.assigned ++ after.assigned) :
    (Scope.ofFunction (script.functionOf before main after)).isVariable name = false := by
  rw [List.mem_cons, not_or] at apart
  rw [Bool.eq_false_iff]
  intro owned
  rcases isVariable_functionOf.mp owned with same | assigned
  · exact apart.1 same
  · exact (List.mem_append.mp (assigned_assembled_subset assigned)).elim apart.2 unassigned

theorem subject_mem_assigned : subject ∈ (script.assembled before main after).assigned := by
  rw [assembled]
  split
  · have line : Stmt.ofTextD (Fragment.frame 1 script.collectLine).body =
        .seq script.collectStmt .pass := ofTextD_collectLine script
    rw [Stmt.assigned_followedBy, collectOwn]
    apply List.mem_append_left
    change subject ∈ ((Stmt.ofTextD (Fragment.frame 1 script.collectLine).body).followedBy _).assigned
    rw [Stmt.assigned_followedBy, line]
    exact List.mem_append_left _ List.mem_cons_self
  · rw [Stmt.assigned_followedBy]
    exact List.mem_append_right _ (List.mem_append_left _ (List.mem_append_left _ List.mem_cons_self))

/-- The line that starts counting makes the number of the line a variable. -/
theorem counterName_mem_assigned (debug : script.debug = true) (collect : script.collect = false) :
    counterName ∈ (script.assembled before main after).assigned := by
  have counted : counterName ∈ (ownStmt script.counterOwn).assigned := by
    rw [counterOwn, debug, if_pos rfl, ownStmt, List.foldr_cons, Stmt.assigned_followedBy,
      ofTextD_counter.1]
    exact List.mem_cons_self
  have opening : counterName ∈ (script.openingStmt before).assigned := by
    rw [openingStmt]
    cases script.before with
    | none => exact counted
    | some =>
        rw [Stmt.assigned_followedBy, Stmt.assigned_followedBy]
        exact List.mem_append_right _ (List.mem_append_right _ counted)
  rw [assembled, collect, if_neg Bool.false_ne_true, Stmt.assigned_followedBy]
  exact List.mem_append_left _ opening

/-- The function's own lines run in the scope of the function, if its code does not give
values to the names that they use. -/
theorem hosts_functionOf
    (unassigned : ∀ name ∈ script.frameNames,
      name ∉ before.assigned ++ main.assigned ++ after.assigned) :
    script.Hosts (.ofFunction (script.functionOf before main after)) where
  owned := rfl
  subject := isVariable_functionOf.mpr (.inr subject_mem_assigned)
  running := rfl
  free := by
    have apart : ∀ name ∈ script.frameNames, name ∉ inputMember :: ownNames := by
      rw [frameNames]
      cases script.debug <;> cases script.trim <;> cases script.convert <;> cases script.collect <;>
        decide
    exact fun name member => isVariable_functionOf_eq_false (apart name member) (unassigned name member)

end Body

/-! ## Code that has its turn first -/

/-- The statement at which the code is entered that has its turn first, for the lines of
an input. -/
inductive Leads (script : Script) (before main after : Stmt) : List Text -> Stmt -> Prop
  | once {lines : List Text} (collect : script.collect = true) : Leads script before main after lines main
  | front {lines : List Text} (rest : Stmt) (collect : script.collect = false)
      (present : script.before.isSome = true) :
      Leads script before main after lines (before.followedBy rest)
  | line {line : Text} {rest : List Text} (collect : script.collect = false)
      (absent : script.before = none) : Leads script before main after (line :: rest) main
  | back (collect : script.collect = false) (absent : script.before = none)
      (present : script.after.isSome = true) : Leads script before main after [] after

section Reaching

variable {script : Script} {before main after : Stmt}
  (unassigned : ∀ name ∈ script.frameNames,
    name ∉ before.assigned ++ main.assigned ++ after.assigned)
  {machine : Machine} (equipped : Equipped machine.globals)
  (isOpen : script.debug = true -> Stream.out ∉ machine.shut) {depth : Nat}

include unassigned equipped isOpen

theorem exists_reaches_once (collect : script.collect = true)
    (areLines : ∀ line ∈ machine.input, line.IsInputLine) :
    Exists fun later => (script.assembled before main after).Reaches (.within (depth + 2))
      (.ofFunction (script.functionOf before main after)) machine main later := by
  rcases @exists_runOn_collectOwn _ _ (hosts_functionOf unassigned) machine equipped isOpen depth
    collect areLines with ⟨later, run⟩
  rw [assembled, if_pos collect]
  exact ⟨later, .followedBy run .here⟩

theorem exists_reaches_front (collect : script.collect = false)
    (present : script.before.isSome = true) :
    Exists fun rest => Exists fun later =>
      (script.assembled before main after).Reaches (.within (depth + 2))
        (.ofFunction (script.functionOf before main after)) machine (before.followedBy rest) later := by
  have quiet := ofTextD_heading "# 'before' code" (by decide)
  rcases @exists_runOn_announcement _ _ (hosts_functionOf unassigned) machine equipped isOpen
    (depth + 1) _ _ _ quiet ofTextD_print.1 with ⟨later, run⟩
  rcases Option.isSome_iff_exists.mp present with ⟨code, present⟩
  have opening : script.openingStmt before = (ownStmt script.beforeOwn).followedBy
      (before.followedBy (ownStmt script.counterOwn)) := by
    rw [openingStmt, present]
  rw [assembled, collect, opening, if_neg Bool.false_ne_true, followedBy_assoc, followedBy_assoc]
  exact ⟨_, later, .followedBy run .here⟩

omit equipped isOpen in
/-- Without code in front of it, the loop is the first thing. -/
theorem exists_runOn_opening (absent : script.before = none) :
    Exists fun later =>
      ((script.openingStmt before).exec (.within (depth + 2))
          (.ofFunction (script.functionOf before main after))).runOn machine = (.ok (), later) ∧
        (script.debug = true -> later.locals.lookup counterName = some (.int 1)) ∧
        later.locals.lookup inputMember = machine.locals.lookup inputMember ∧
        later = { machine with locals := later.locals } := by
  rcases @exists_runOn_counterOwn _ _ (hosts_functionOf unassigned) machine (depth + 1) with
    ⟨later, run, counted, names, rest⟩
  rw [openingStmt, absent]
  exact ⟨later, run, counted, names inputMember (by decide), rest⟩

omit unassigned equipped isOpen in
theorem runOn_source {machine : Machine} (source : machine.locals.lookup inputMember = some .input) :
    ((Expr.name "stdin".toList).eval (.within depth)
        (.ofFunction (script.functionOf before main after))).runOn machine = (.ok .input, machine) :=
  Scope.runOn_find_local rfl (isVariable_functionOf.mpr (.inl rfl)) source

theorem exists_reaches_line (collect : script.collect = false) (absent : script.before = none)
    (source : machine.locals.lookup inputMember = some .input) {line : Text} {rest : List Text}
    (lines : machine.input = line :: rest) :
    Exists fun later => (script.assembled before main after).Reaches (.within (depth + 2))
      (.ofFunction (script.functionOf before main after)) machine main later := by
  have hosts := hosts_functionOf unassigned
  rcases @exists_runOn_opening _ before main after unassigned machine depth absent with
    ⟨opened, run, counted, kept, same⟩
  -- The first line is taken from the input and becomes the subject.
  let taken : Machine := { opened with input := rest }
  let facing : Machine := { taken with locals := taken.locals.set subject (.str line) }
  have globals : opened.globals = machine.globals := by rw [same]
  have shut : opened.shut = machine.shut := by rw [same]
  have input : opened.input = line :: rest := by rw [same, lines]
  have assigned : ((Scope.ofFunction (script.functionOf before main after)).assign (.str line)
      subject).runOn taken = (.ok (), facing) := runOn_assign hosts.toPrepares _ _
  have found : facing.locals.lookup subject = some (.str line) := by
    rw [Bindings.lookup_set, if_pos rfl]
  have counter : script.debug = true -> facing.locals.lookup counterName = some (.int 1) := by
    intro debug
    rw [Bindings.lookup_set, if_neg (by decide), counted debug]
  rcases @exists_runOn_lineOwn _ _ hosts facing (globals ▸ equipped) (shut ▸ isOpen) depth _ found
    (fun debug => isVariable_functionOf.mpr (.inr (counterName_mem_assigned debug collect)))
    counter with ⟨later, ownRun⟩
  have evaluated := @runOn_source script before main after (depth + 2) opened (kept.trans source)
  rw [assembled, collect, if_neg Bool.false_ne_true]
  refine ⟨later, .followedBy run (.first (.first (.turn evaluated ?_ assigned (.followedBy ownRun .here))))⟩
  exact @Run.Meets.line _ 0 _ _ _ _ rfl input

theorem exists_reaches_back (collect : script.collect = false) (absent : script.before = none)
    (present : script.after.isSome = true)
    (source : machine.locals.lookup inputMember = some .input) (empty : machine.input = []) :
    Exists fun later => (script.assembled before main after).Reaches (.within (depth + 2))
      (.ofFunction (script.functionOf before main after)) machine after later := by
  have hosts := hosts_functionOf unassigned
  rcases @exists_runOn_opening _ before main after unassigned machine depth absent with
    ⟨opened, run, counted, kept, same⟩
  have globals : opened.globals = machine.globals := by rw [same]
  have shut : opened.shut = machine.shut := by rw [same]
  have input : opened.input = [] := by rw [same, empty]
  have quiet := ofTextD_heading "# 'after' code" (by decide)
  rcases @exists_runOn_announcement _ _ hosts opened (globals ▸ equipped) (shut ▸ isOpen)
    (depth + 1) _ _ _ quiet ofTextD_print.2.1 with ⟨later, ownRun⟩
  have evaluated := @runOn_source script before main after (depth + 2) opened (kept.trans source)
  -- Without lines, the loop does nothing.
  have looped : ((Stmt.seq (.loop ['_'] (.name "stdin".toList) (script.turnStmt main)) .pass).exec
      (.within (depth + 2)) (.ofFunction (script.functionOf before main after))).runOn opened =
        (.ok (), opened) := by
    have nothing : ((Stmt.loop ['_'] (.name "stdin".toList) (script.turnStmt main)).exec
        (.within (depth + 2)) (.ofFunction (script.functionOf before main after))).runOn opened =
          (.ok (), opened) := by
      rw [Stmt.exec, Action.runOn_bind_ok evaluated, Run.forEach,
        Action.runOn_bind_ok (Action.runOn_get opened), input]
      rfl
    rw [Stmt.exec, Action.runOn_bind_ok nothing]
    rfl
  rcases Option.isSome_iff_exists.mp present with ⟨code, present⟩
  have closing : script.closingStmt after = (ownStmt script.afterOwn).followedBy after := by
    rw [closingStmt, present]
  rw [assembled, collect, if_neg Bool.false_ne_true, closing]
  exact ⟨later, .followedBy run (.second looped (.followedBy ownRun .here))⟩

/-- The code that has its turn first is reached, if any has. -/
theorem exists_reaches (source : machine.locals.lookup inputMember = some .input)
    (areLines : ∀ line ∈ machine.input, line.IsInputLine)
    (turn : script.collect = true ∨ script.before.isSome = true ∨ machine.input ≠ [] ∨
      script.after.isSome = true) :
    Exists fun other => Exists fun later => script.Leads before main after machine.input other ∧
      (script.assembled before main after).Reaches (.within (depth + 2))
        (.ofFunction (script.functionOf before main after)) machine other later := by
  cases collect : script.collect with
  | true =>
      rcases @exists_reaches_once _ before _ after unassigned machine equipped isOpen depth collect areLines
        with ⟨later, reaches⟩
      exact ⟨main, later, .once collect, reaches⟩
  | false =>
      cases front : script.before with
      | some code =>
          have present : script.before.isSome = true := by rw [front]; rfl
          rcases @exists_reaches_front _ before main after unassigned machine equipped isOpen depth collect
            present with ⟨rest, later, reaches⟩
          exact ⟨_, later, .front rest collect present, reaches⟩
      | none =>
          cases input : machine.input with
          | cons line rest =>
              rcases @exists_reaches_line _ before main after unassigned machine equipped isOpen depth
                collect front source _ _ input with ⟨later, reaches⟩
              exact ⟨main, later, .line collect front, reaches⟩
          | nil =>
              have present : script.after.isSome = true := by
                rw [collect, front, input] at turn
                simpa using turn
              rcases @exists_reaches_back _ before main after unassigned machine equipped isOpen depth
                collect front present source input with ⟨later, reaches⟩
              exact ⟨after, later, .back collect front present, reaches⟩

end Reaching

end Script
end Oneliner
