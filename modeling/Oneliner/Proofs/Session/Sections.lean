import Oneliner.Proofs.Program.Streaming
import Oneliner.Proofs.Script.Reading
import Oneliner.Proofs.Text.Input

namespace Oneliner

open Program

/-!
Code that works line by line, without a function around it.

The sections share one set of variables, and the main one is run on each reading of
the input in turn.  The function of a script does the same: its loop takes the lines
from the input, and its first statements make readings of them.
-/

/-- The sections of a program that works line by line. -/
structure Sections where
  before : Stmt
  main : Stmt
  after : Stmt

namespace Sections

/-- The name of the current reading. -/
def subject : Text := ['_']

/-- All sections share the variables to which one of them gives values. -/
def scope (sections : Sections) : Scope :=
  ⟨some (subject :: (sections.before.assigned ++ sections.main.assigned ++
    sections.after.assigned)), []⟩

/-- Run the main section on one reading. -/
def step (sections : Sections) (dispatch : Dispatch) (scope : Scope) (reading : Scalar) :
    Run Unit := do
  scope.assign (<- Run.ofScalar reading) subject
  sections.main.exec dispatch scope

/-- Run all sections, with variables of their own. -/
def run (sections : Sections) (dispatch : Dispatch) (readings : List Scalar) : Run Unit :=
  Run.withLocals [] do
    sections.before.exec dispatch sections.scope
    readings.forM (sections.step dispatch sections.scope)
    sections.after.exec dispatch sections.scope

end Sections

namespace Script

/-- What a line of the input is for the main code: the line as it is, or without its
newline, or the number that it writes. -/
def reading (script : Script) (line : Text) : Scalar :=
  if script.trim then
    if script.convert then (Scalar.str line.unended).convert else .str line.unended
  else .str line

/-- The name of the function that makes numbers of lines. -/
def convertName : Text := Builtin.convert.name

/-- Global names under which the function of a script finds what makes numbers of lines. -/
structure Converts (globals : Bindings) : Prop where
  convert : globals.lookup convertName = some (.builtin .convert)
  int : globals.lookup "int".toList = none
  float : globals.lookup "float".toList = none

/-- Global names under which the function of a script finds what it needs, and nothing
beside it that has access to the input. -/
structure Supplied (globals : Bindings) : Prop extends Converts globals where
  isolated : globals.Allowed .isolated

theorem Supplied.quiet {globals : Bindings} (supplied : Supplied globals) (depth : Nat) :
    (Dispatch.within depth).Sound .isolated (· = globals) := by
  apply Dispatch.sound_within
  rintro _ rfl
  exact supplied.isolated

end Script

/-! ## From lines to readings -/

theorem Program.Bindings.set_set (bindings : Bindings) (name : Text) (value other : Value) :
    (bindings.set name value).set name other = bindings.set name other := by
  have same : Bindings.remove ((name, value) :: bindings.remove name) name =
      bindings.remove name := by
    simp [Bindings.remove]
  rw [Bindings.set, Bindings.set, same, Bindings.set]

namespace Script

open Sections (subject)

/-- A scope in which the function of a script prepares its lines. -/
structure Prepares (scope : Scope) : Prop where
  owned : scope.owned.isSome = true
  subject : scope.isVariable subject = true
  running : scope.running = []

/-- The machine with a reading as its subject. -/
def facing (machine : Machine) (reading : Scalar) : Machine :=
  { machine with
    locals := machine.locals.set subject (.marked machine.marks reading)
    marks := Value.marksAfter machine.marks reading }

section Lines

variable {scope : Scope} (prepares : Prepares scope) {machine : Machine} {depth : Nat}

include prepares

theorem runOn_assign (value : Value) (name : Text) :
    (scope.assign value name).runOn machine =
      (.ok (), { machine with locals := machine.locals.set name value }) := by
  rw [Scope.assign, if_pos prepares.owned]
  rfl

theorem runOn_findSubject {value : Value} (found : machine.locals.lookup subject = some value) :
    (scope.find subject).runOn machine = (.ok value, machine) :=
  Scope.runOn_find_local (by rw [prepares.running]; rfl) prepares.subject found

/-- A statement that gives the subject a value. -/
theorem runOn_assignSubject {dispatch : Dispatch} {expression : Expr} {value : Value}
    {later : Machine}
    (evaluated : (expression.eval dispatch scope).runOn machine = (.ok value, later)) :
    ((Stmt.assign [subject] expression).exec dispatch scope).runOn machine =
      (.ok (), { later with locals := later.locals.set subject value }) := by
  rw [Stmt.exec, Action.runOn_bind_ok evaluated]
  change (scope.assign value subject >>= fun _ => pure ()).runOn later = _
  rw [Action.runOn_bind_ok (runOn_assign prepares value subject)]
  rfl

theorem runOn_trimStmt {line : Text} (found : machine.locals.lookup subject = some (.str line)) :
    (trimStmt.exec (.within (depth + 1)) scope).runOn machine =
      (.ok (), { machine with
        locals := machine.locals.set subject (.str (line.dropEnding ['\n'])) }) := by
  apply runOn_assignSubject prepares
  have function : ((Expr.member (.name subject) "rstrip".toList).eval (.within (depth + 1))
      scope).runOn machine = (.ok (.method (.str line) .trimEnd), machine) := by
    rw [Expr.eval, Expr.eval, Action.runOn_bind_ok (runOn_findSubject prepares found)]
    rfl
  change ((Expr.call (.member (.name subject) _) _).eval _ scope).runOn machine = _
  rw [Expr.eval, Action.runOn_bind_ok function]
  rfl

theorem runOn_convertStmt (free : scope.isVariable convertName = false)
    (converts : Converts machine.globals) {text : Text}
    (found : machine.locals.lookup subject = some (.str text)) :
    (convertStmt.exec (.within (depth + 2)) scope).runOn machine =
      (.ok (), { machine with
        locals := machine.locals.set subject (.marked machine.marks (Scalar.str text).convert)
        marks := Value.marksAfter machine.marks (Scalar.str text).convert }) := by
  have function : (scope.find convertName).runOn machine = (.ok (.builtin .convert), machine) :=
    Scope.runOn_find_global (by rw [prepares.running]; rfl) free converts.convert
  have arguments : (Expr.evalItems (.within (depth + 2)) scope [.name subject]).runOn machine =
      (.ok [.str text], machine) := by
    rw [Expr.evalItems, Expr.eval, Action.runOn_bind_ok (runOn_findSubject prepares found)]
    rfl
  have converted : ((Expr.call (.name convertName) [.name subject]).eval (.within (depth + 2))
      scope).runOn machine =
        (.ok (.marked machine.marks (Scalar.str text).convert),
          { machine with marks := Value.marksAfter machine.marks (Scalar.str text).convert }) := by
    rw [Expr.eval, Expr.eval, Action.runOn_bind_ok function, Action.runOn_bind_ok arguments,
      ← Run.runOn_ofScalar, ← Run.runOn_convert converts.int converts.float depth]
    rfl
  exact runOn_assignSubject prepares converted

theorem runOn_step (sections : Sections) (dispatch : Dispatch) (reading : Scalar) :
    (sections.step dispatch scope reading).runOn machine =
      (sections.main.exec dispatch scope).runOn (facing machine reading) := by
  rw [Sections.step, Action.runOn_bind_ok (Run.runOn_ofScalar reading machine),
    Action.runOn_bind_ok (runOn_assign prepares _ _)]
  rfl

theorem runOn_find_facing (reading : Scalar) :
    (scope.find subject).runOn (facing machine reading) =
      (.ok (.marked machine.marks reading), facing machine reading) :=
  runOn_findSubject prepares (by rw [facing, Bindings.lookup_set, if_pos rfl])

/-- The function's statements make a reading of a line, and then run the main code. -/
theorem runOn_lineStmt (sections : Sections) (script : Script)
    (free : scope.isVariable convertName = false) (converts : Converts machine.globals) {line : Text} (isLine : line.IsInputLine) :
    (do
      scope.assign (.str line) subject
      (script.lineStmt sections.main).exec (.within (depth + 2)) scope : Run Unit).runOn machine =
        (sections.step (.within (depth + 2)) scope (script.reading line)).runOn machine := by
  have lookup : forall value, (machine.locals.set subject value).lookup subject = some value := by
    intro value
    rw [Bindings.lookup_set, if_pos rfl]
  rw [Action.runOn_bind_ok (runOn_assign prepares _ _), runOn_step prepares, lineStmt, reading]
  cases script.trim with
  | false => rfl
  | true =>
      have trimmed : (trimStmt.exec (.within (depth + 2)) scope).runOn
          { machine with locals := machine.locals.set subject (.str line) } =
            (.ok (), { machine with locals := machine.locals.set subject (.str line.unended) }) := by
        rw [runOn_trimStmt prepares (lookup _), isLine.dropEnding, Bindings.set_set]
      cases script.convert with
      | false =>
          change ((Stmt.seq trimStmt sections.main).exec _ scope).runOn _ = _
          rw [Stmt.exec, Action.runOn_bind_ok trimmed]
          rfl
      | true =>
          have converted := @runOn_convertStmt scope prepares
            { machine with locals := machine.locals.set subject (.str line.unended) } depth free
            converts _ (lookup (.str line.unended))
          change ((Stmt.seq trimStmt (.seq convertStmt sections.main)).exec _ scope).runOn _ = _
          rw [Stmt.exec, Action.runOn_bind_ok trimmed, Stmt.exec, Action.runOn_bind_ok converted,
            Bindings.set_set]
          rfl

end Lines

end Script

/-! ## The function of a script -/

namespace Sections

/-- Names that code in the sections must not mention: that of the input, and that of
the function which makes numbers of lines. -/
def hiddenNames : List Text :=
  [inputMember, Script.convertName]

/-- Words of sections that have no access to the input beside their readings. -/
def words (sections : Sections) : Words where
  used := fun name => !hiddenNames.contains name &&
    (sections.scope.isVariable name || Access.isolated.names name)
  given := fun name => !hiddenNames.contains name
  outer := Access.isolated.names
  members := Access.isolated.members

/-- Sections that have no access to the input beside their readings. -/
structure Supported (sections : Sections) : Prop where
  before : sections.before.usesOnly sections.words = true
  main : sections.main.usesOnly sections.words = true
  after : sections.after.usesOnly sections.words = true

theorem not_mem_hiddenNames {name : Text} (apart : (!hiddenNames.contains name) = true) :
    name ∉ hiddenNames := by
  simpa using apart

/-- The function that a script makes of the sections. -/
def function (sections : Sections) (script : Script) : Function :=
  ⟨inputMember, script.bodyStmt sections.before sections.main sections.after⟩

theorem mem_assigned_lineStmt {script : Script} {main : Stmt} {name : Text} :
    name ∈ subject :: (script.lineStmt main).assigned ↔ name ∈ subject :: main.assigned := by
  rw [Script.lineStmt]
  cases script.trim <;> cases script.convert <;>
    simp [Stmt.assigned, Script.trimStmt, Script.convertStmt, subject]

theorem mem_assigned_function {sections : Sections} {script : Script} {name : Text} :
    name ∈ (sections.function script).body.assigned ↔
      name ∈ subject :: (sections.before.assigned ++ sections.main.assigned ++
        sections.after.assigned) := by
  have inLoop := @mem_assigned_lineStmt script sections.main name
  simp only [function, Script.bodyStmt, Stmt.assigned_followedBy, Stmt.assigned, List.append_nil,
    List.mem_append, List.cons_append, List.mem_cons] at inLoop ⊢
  have same : (['_'] : Text) = subject := rfl
  rw [same]
  tauto

section Function

variable {sections : Sections} (supported : sections.Supported) (script : Script)

include supported

theorem visible_of_mem_assigned {name : Text}
    (member : name ∈ (sections.function script).body.assigned) : name ∉ hiddenNames := by
  rcases List.mem_cons.mp (mem_assigned_function.mp member) with rfl | inSections
  · decide
  · apply not_mem_hiddenNames
    rcases List.mem_append.mp inSections with earlier | inAfter
    · rcases List.mem_append.mp earlier with inBefore | inMain
      · exact Stmt.given_of_mem_assigned supported.before inBefore
      · exact Stmt.given_of_mem_assigned supported.main inMain
    · exact Stmt.given_of_mem_assigned supported.after inAfter

omit supported in
theorem isVariable_scope {name : Text} :
    sections.scope.isVariable name = true ↔
      name ∈ (sections.function script).body.assigned := by
  rw [mem_assigned_function]
  simp [Scope.isVariable, scope]

omit supported in
theorem isVariable_function {name : Text} :
    (Scope.ofFunction (sections.function script)).isVariable name = true ↔
      name = inputMember ∨ name ∈ (sections.function script).body.assigned := by
  simp [Scope.isVariable, Scope.ofFunction, function]

omit supported in
/-- Inside the function all visible names mean what they mean in the sections. -/
theorem scope_alike :
    (Scope.ofFunction (sections.function script)).Alike .isolated hiddenNames sections.scope := by
  refine ⟨rfl, fun {name} visible => ?_, rfl, .empty⟩
  have apart : name ≠ inputMember := fun same => visible (same ▸ List.mem_cons_self)
  rw [Bool.eq_iff_iff, isVariable_scope script, isVariable_function script]
  exact ⟨.inr, fun either => either.resolve_left apart⟩

omit supported in
/-- Inside the function the sections have no more access than by themselves. -/
theorem keep_words :
    sections.words.Keep .isolated hiddenNames (.ofFunction (sections.function script)) where
  used := by
    intro name used
    rcases Bool.and_eq_true_iff.mp used with ⟨visible, either⟩
    refine .inr ⟨not_mem_hiddenNames visible, (Bool.or_eq_true_iff.mp either).imp_left fun own => ?_⟩
    exact (isVariable_function script).mpr (.inr ((isVariable_scope script).mp own))
  given := not_mem_hiddenNames
  outer := id
  members := id

omit supported in
theorem prepares : Script.Prepares (Scope.ofFunction (sections.function script)) :=
  ⟨rfl, (isVariable_function script).mpr (.inr (mem_assigned_function.mpr List.mem_cons_self)), rfl⟩

theorem isVariable_convertName :
    (Scope.ofFunction (sections.function script)).isVariable Script.convertName = false := by
  rw [Bool.eq_false_iff]
  intro owned
  rcases (isVariable_function script).mp owned with same | assigned
  · exact absurd same (by decide)
  · exact visible_of_mem_assigned supported script assigned (by decide)

/-- The function itself has no access to the input but through its parameter. -/
theorem keepsTo_function : (sections.function script).keepsTo .isolated = true := by
  rw [Function.keepsTo]
  generalize all : Access.isolated.words.inside (sections.function script).parameter
    (sections.function script).body.assigned = words
  have own : Access.isolated.words.Meet Access.isolated.words words :=
    all ▸ Words.meet_inside id _ _
  have meet : sections.words.Meet sections.words words := by
    rw [← all]
    refine ⟨fun used _ => ?_, fun _ _ => rfl, fun _ => id, fun _ => id⟩
    have either := (Bool.and_eq_true_iff.mp used).2
    refine Bool.or_eq_true_iff.mpr ((Bool.or_eq_true_iff.mp either).imp_left fun own => ?_)
    exact List.contains_iff_mem.mpr (List.mem_cons_of_mem _ ((isVariable_scope script).mp own))
  have main := Stmt.usesOnly_mono meet supported.main
  have line : (script.lineStmt sections.main).usesOnly words = true := by
    have trim : Script.trimStmt.usesOnly words = true := Stmt.usesOnly_mono own (by decide)
    have convert : Script.convertStmt.usesOnly words = true := Stmt.usesOnly_mono own (by decide)
    rw [Script.lineStmt]
    cases script.trim <;> cases script.convert <;> simp [Stmt.usesOnly, main, trim, convert]
  have source : words.used inputMember = true := by
    simp [← all, Words.inside, function]
  have given : words.given subject = true := by
    rw [← all]
    rfl
  change (Stmt.followedBy _ _).usesOnly _ = true
  rw [Stmt.usesOnly_followedBy]
  simp only [Stmt.usesOnly, Bool.and_true, Bool.and_eq_true]
  exact ⟨Stmt.usesOnly_mono meet supported.before, ⟨⟨given, source⟩, line⟩,
    Stmt.usesOnly_mono meet supported.after⟩

end Function

section Runs

variable {globals : Bindings} (supplied : Script.Supplied globals) {sections : Sections}
  (supported : sections.Supported) (depth : Nat) (script : Script)

include supplied supported

omit supported in
/-- A section does the same inside the function as by itself. -/
theorem agree_section {statement : Stmt} (plain : statement.usesOnly sections.words = true) :
    Agree .isolated (· = globals) hiddenNames (fun _ => True)
      (statement.exec (.within depth) (.ofFunction (sections.function script)))
      (statement.exec (.within depth) sections.scope) :=
  statement.agree_exec (supplied.quiet depth) (scope_alike script) (keep_words script)
    (fun name _ => Scope.mayAssign_of_owned rfl name) plain

theorem agree_step (reading : Scalar) :
    Agree .isolated (· = globals) hiddenNames (fun _ => True)
      (sections.step (.within depth) (.ofFunction (sections.function script)) reading)
      (sections.step (.within depth) sections.scope reading) := by
  refine (Run.alone_ofScalar reading).bind fun value inside => ?_
  exact ((scope_alike script).assign (Scope.mayAssign_of_owned rfl _) inside (by decide)).bind
    fun _ _ => agree_section supplied depth script supported.main

/-- The loop over the input runs the main code on the readings of its lines. -/
theorem runOn_loop {lines : List Text} (areLines : ∀ line ∈ lines, line.IsInputLine)
    {machine other : Machine} (given : machine.input = lines)
    (sound : machine.Sound .isolated (· = globals))
    (like : machine.Like .isolated hiddenNames other) :
    ∃ (result : Except (Halt Fault) Unit) (later later' : Machine),
      (Run.forLines (fun item => do
          (Scope.ofFunction (sections.function script)).assign item subject
          (script.lineStmt sections.main).exec (.within (depth + 2))
            (.ofFunction (sections.function script))) lines.length).runOn machine =
          (result, later) ∧
        ((lines.map script.reading).forM
          (sections.step (.within (depth + 2)) sections.scope)).runOn other = (result, later') ∧
        later.Sound .isolated (· = globals) ∧ later.Like .isolated hiddenNames later' ∧
        later.shut = machine.shut := by
  induction lines generalizing machine other with
  | nil => exact ⟨.ok (), machine, other, rfl, rfl, sound, like, rfl⟩
  | cons line rest restRuns =>
      rcases List.forall_mem_cons.mp areLines with ⟨isLine, restLines⟩
      let next : Machine := { machine with input := rest }
      have nextSound : next.Sound .isolated (· = globals) :=
        sound.place machine.locals rest machine.arguments
      have nextLike : next.Like .isolated hiddenNames other := by
        refine ⟨?_, like.same, like.allowed, nofun, nofun⟩
        rw [like.rest]
        rfl
      have same : next.globals = globals := sound.globals
      have prepared := @Script.runOn_lineStmt _ (prepares script) next depth sections script
        (isVariable_convertName supported script) (same ▸ supplied.toConverts) line isLine
      rcases agree_step supplied supported (depth + 2) script (script.reading line) next other
          nextSound nextLike with
        ⟨result, later, later', run, run', laterSound, laterLike, leads, _⟩
      rw [← prepared] at run
      rw [List.length_cons, Run.forLines, Action.runOn_bind_ok (Run.runOn_nextLine? given)]
      cases result with
      | error halt =>
          exact ⟨.error halt, later, later', Action.runOn_bind_error run,
            Action.runOn_bind_error run', laterSound, laterLike, leads.shut rfl⟩
      | ok =>
          rcases restRuns restLines (leads.unread rfl) laterSound laterLike with
            ⟨result, last, last', restRun, restRun', lastSound, lastLike, shut⟩
          exact ⟨result, last, last', (Action.runOn_bind_ok run).trans restRun,
            (Action.runOn_bind_ok run').trans restRun', lastSound, lastLike,
            shut.trans (leads.shut rfl)⟩

omit supplied supported in
/-- The loop takes its lines from the input. -/
theorem runOn_loopStmt {machine : Machine}
    (source : machine.locals.lookup inputMember = some .input) :
    ((Stmt.loop subject (.name inputMember) (script.lineStmt sections.main)).exec (.within depth)
        (.ofFunction (sections.function script))).runOn machine =
      (Run.forLines (fun item => do
        (Scope.ofFunction (sections.function script)).assign item subject
        (script.lineStmt sections.main).exec (.within depth)
          (.ofFunction (sections.function script))) machine.input.length).runOn machine := by
  have owned := (@isVariable_function sections script inputMember).mpr (.inl rfl)
  rw [Stmt.exec, Expr.eval, Action.runOn_bind_ok (Scope.runOn_find_local rfl owned source),
    Run.forEach, Action.runOn_bind_ok (Action.runOn_get machine)]

/-- The statements of the function do what the sections do. -/
theorem runOn_body {machine other : Machine} (areLines : ∀ line ∈ machine.input, line.IsInputLine)
    (sound : machine.Sound .isolated (· = globals))
    (like : machine.Like .isolated hiddenNames other)
    (source : machine.locals.lookup inputMember = some .input) :
    ∃ (result : Except (Halt Fault) Unit) (later later' : Machine),
      ((sections.function script).body.exec (.within (depth + 2))
          (.ofFunction (sections.function script))).runOn machine = (result, later) ∧
        (do
          sections.before.exec (.within (depth + 2)) sections.scope
          (machine.input.map script.reading).forM (sections.step (.within (depth + 2)) sections.scope)
          sections.after.exec (.within (depth + 2)) sections.scope : Run Unit).runOn other =
            (result, later') ∧
        later.Sound .isolated (· = globals) ∧ later.Like .isolated hiddenNames later' ∧
        later.shut = machine.shut := by
  have body : (sections.function script).body.exec (.within (depth + 2))
      (.ofFunction (sections.function script)) = (do
        sections.before.exec (.within (depth + 2)) (.ofFunction (sections.function script))
        (Stmt.loop subject (.name inputMember) (script.lineStmt sections.main)).exec
          (.within (depth + 2)) (.ofFunction (sections.function script))
        sections.after.exec (.within (depth + 2)) (.ofFunction (sections.function script))) := by
    change (Stmt.followedBy _ _).exec _ _ = _
    rw [Stmt.exec_followedBy]
    simp only [Stmt.exec, bind_assoc, pure_bind]
    rfl
  rw [body]
  rcases agree_section supplied (depth + 2) script supported.before machine other sound
      like with
    ⟨result, later, later', run, run', laterSound, laterLike, leads, _⟩
  cases result with
  | error halt =>
      exact ⟨.error halt, later, later', Action.runOn_bind_error run,
        Action.runOn_bind_error run', laterSound, laterLike, leads.shut rfl⟩
  | ok =>
      have unread : later.input = machine.input := leads.unread rfl
      have source : later.locals.lookup inputMember = some .input :=
        (leads.hidden inputMember (by decide)).trans source
      have loopStmt := @runOn_loopStmt sections (depth + 2) script later source
      rw [unread] at loopStmt
      rcases runOn_loop supplied supported depth script areLines unread laterSound laterLike with
        ⟨result, last, last', loop, loop', lastSound, lastLike, lastShut⟩
      have loop := loopStmt.trans loop
      have shut := lastShut.trans (leads.shut rfl)
      rw [Action.runOn_bind_ok run, Action.runOn_bind_ok run']
      cases result with
      | error halt =>
          exact ⟨.error halt, last, last', Action.runOn_bind_error loop,
            Action.runOn_bind_error loop', lastSound, lastLike, shut⟩
      | ok =>
          rw [Action.runOn_bind_ok loop, Action.runOn_bind_ok loop']
          rcases agree_section supplied (depth + 2) script supported.after last last'
              lastSound lastLike with
            ⟨result, final, final', run, run', finalSound, finalLike, leads, _⟩
          exact ⟨result, final, final', run, run', finalSound, finalLike,
            (leads.shut rfl).trans shut⟩

/-- Calling the function on the input does what the sections do on its readings, without an
input and a command line, and leaves the global names and the streams as they are. -/
theorem runOn_callFunction {machine : Machine} (sound : machine.Sound .isolated (· = globals))
    (areLines : ∀ line ∈ machine.input, line.IsInputLine) {index : Nat}
    (found : machine.functions[index]? = some (sections.function script)) :
    ∃ (result : Except (Halt Fault) Unit) (last : Machine) (rest arguments : List Text),
      (sections.run (.within (depth + 2)) (machine.input.map script.reading)).runOn
          { machine with input := [], arguments := [] } = (result, last) ∧
        (Run.callFunction (.within (depth + 2)) index [.input]).runOn machine =
          (result.map fun _ => .nothing, { last with input := rest, arguments := arguments }) ∧
        last.globals = globals ∧ last.shut = machine.shut := by
  have hidden : forall {name}, name ∉ hiddenNames ->
      List.lookup name [(inputMember, Value.input)] = none := by
    intro name visible
    have apart : name ≠ inputMember := fun same => visible (same ▸ List.mem_cons_self)
    rw [List.lookup_cons, beq_eq_false_iff_ne.mpr apart]
    rfl
  have like : Machine.Like .isolated hiddenNames
      { machine with locals := [(inputMember, .input)] }
      { machine with locals := [], input := [], arguments := [] } := by
    refine ⟨rfl, fun visible => (hidden visible).symm, fun visible value lookup => ?_, nofun, nofun⟩
    rw [hidden visible] at lookup
    cases lookup
  rcases @runOn_body _ supplied _ supported depth script
      { machine with locals := [(inputMember, .input)] } _ areLines
      (sound.place [(inputMember, .input)] machine.input machine.arguments) like rfl with
    ⟨result, later, later', run, run', laterSound, laterLike, shut⟩
  have same := laterLike.rest
  refine ⟨result, { later' with locals := machine.locals }, later.input, later.arguments, ?_, ?_, ?_, ?_⟩
  · rw [Sections.run, Run.runOn_withLocals]
    exact congrArg (fun outcome => (outcome.1, { outcome.2 with locals := machine.locals })) run'
  · have parameter : (sections.function script).parameter = inputMember := rfl
    rw [Run.runOn_callFunction found, parameter, Action.runOn_bind, Run.runOn_withLocals]
    change _ = (_, { later' with
      locals := machine.locals, input := later.input, arguments := later.arguments })
    rw [same]
    rw [run]
    cases result <;> rfl
  · exact laterLike.globals_eq.trans laterSound.globals
  · exact laterLike.shut_eq.trans shut

end Runs

end Sections
end Oneliner
