import Oneliner.Proofs.Program.AgreeingRuns
import Oneliner.Proofs.Session.Prelude

namespace Oneliner
namespace Execution

open Program
open Workspace
open Run (Inside AllInside)

/-!
Sessions apart from what lies outside.

A session works through global names.  As long as none of them gives access to what lies
outside, all that it does around its function is the same whatever that is: it runs the
startup file, gets ready, expands the code and lists the text.  It is left open what comes
of running the startup file.

The command line is read once, on the way to the script.  If it lies outside, it is still
the one with which the session began.
-/

/-! ## Calls through names -/

section Calls

variable {access : Access} {globals : Bindings -> Prop} {hidden : List Text}
  (known : forall {bindings}, globals bindings -> bindings.Allowed access)

include known

theorem sound_outermost : Dispatch.outermost.Sound access globals :=
  Dispatch.sound_within known Dispatch.depthLimit

theorem alone_findNamed {name : Text} (plain : name ∉ outsideNames) :
    Alone access globals hidden (Inside access) (Run.find name) :=
  Run.alone_find known (access.names_of_not_mem plain)

theorem alone_callNamed {name : String} (plain : name.toList ∉ outsideNames) {arguments : List Value}
    (hold : AllInside access arguments) :
    Alone access globals hidden (Inside access) (callNamed name arguments) :=
  (alone_findNamed known plain).bind fun _ inside => (sound_outermost known).call inside hold

theorem alone_callMember {subject : Value} (inside : Inside access subject) {name : String}
    (plain : name.toList ∉ outsideMembers) {arguments : List Value}
    (hold : AllInside access arguments) :
    Alone access globals hidden (Inside access) (callMember subject name arguments) :=
  (Run.alone_memberOf inside fun _ => access.members_of_not_mem plain).bind fun _ inside =>
    (sound_outermost known).call inside hold

/-! ## Listings -/

variable (kept : forall {bindings : Bindings} {name : Text} {value : Value}, name ∈ listingNames ->
  Inside access value -> globals bindings -> globals (bindings.set name value))

include kept

theorem alone_listLines {writer : String} (plain : writer.toList ∉ outsideNames) (number : Nat)
    {lines : List Value} (hold : AllInside access lines) :
    Alone access globals hidden (fun _ => True) (listLines writer number lines) := by
  induction lines generalizing number with
  | nil => exact Agree.pure trivial
  | cons line rest restAlone =>
      rcases List.forall_mem_cons.mp hold with ⟨lineInside, restInside⟩
      refine (Run.alone_bind (kept (by decide) lineInside)).bind fun _ _ => ?_
      refine (Run.alone_bind (kept (by decide) rfl)).bind fun _ _ => ?_
      refine (alone_findNamed known plain).bind fun function inside => ?_
      refine (alone_callNamed known (by decide) (List.forall_mem_singleton.mpr rfl)).bind
        fun text textInside => ?_
      refine (alone_callMember known textInside (by decide)
        (List.forall_mem_singleton.mpr rfl)).bind fun label _ => ?_
      refine (Run.alone_textOf label).bind fun _ _ => ?_
      refine (Run.alone_textOf line).bind fun _ _ => ?_
      exact ((sound_outermost known).call inside (List.forall_mem_singleton.mpr rfl)).bind
        fun _ _ => restAlone (number + 1) restInside

theorem alone_list {writer : String} (plain : writer.toList ∉ outsideNames) :
    Alone access globals hidden (fun _ => True) (list writer) := by
  refine (alone_callNamed known plain (List.forall_mem_singleton.mpr rfl)).bind fun _ _ => ?_
  refine (Run.alone_bind (kept (by decide) rfl)).bind fun _ _ => ?_
  refine (alone_findNamed known (by decide)).bind fun program programInside => ?_
  refine (alone_callMember known programInside (by decide)
    (List.forall_mem_singleton.mpr rfl)).bind fun lines linesInside => ?_
  refine (Run.alone_elements linesInside).bind fun values hold => ?_
  refine (alone_listLines known kept plain 1 hold).bind fun _ _ => ?_
  exact (alone_callNamed known plain (List.forall_mem_singleton.mpr rfl)).bind
    fun _ _ => Agree.pure trivial

theorem alone_regret : Alone access globals hidden (fun _ => True) regret := by
  refine (alone_findNamed known (by decide)).bind fun options inside => ?_
  refine (Run.alone_memberOf inside fun _ => access.members_of_not_mem (by decide)).bind
    fun debug _ => ?_
  refine Agree.get fun machine other _ like => ?_
  rw [like.holds_eq]
  split
  · exact Agree.pure trivial
  · exact alone_list known kept (by decide)

end Calls

/-! ## The steps of a session -/

section Steps

variable {access : Access}

/-- A step that does the same whatever lies outside, with global names that give no other
access. -/
abbrev AloneStep {Result : Type} (access : Access) (good : Result -> Prop)
    (action : Run Result) : Prop :=
  Alone access (Bindings.Allowed access) [] good action

/-- A program whose words keep to the access does so when its text is run. -/
theorem alone_execute {text : Text} {program : Stmt} (read : Stmt.ofText text = .ok program)
    (plain : program.usesOnly access.words = true) (depth : Nat) :
    AloneStep access (fun _ => True) ((Dispatch.within (depth + 1)).execute text) := by
  have quiet : (Dispatch.within depth).Sound access (Bindings.Allowed access) :=
    Dispatch.sound_within id depth
  have may : ∀ name ∈ program.assigned,
      Scope.global.MayAssign access (Bindings.Allowed access) name :=
    fun name _ _ _ _ known inside => known.set name inside
  change AloneStep _ _ (do (<- Run.ofExcept (Stmt.ofText text)).exec (.within depth) .global)
  rw [read]
  exact program.agree_exec quiet (.refl rfl) Words.keep_words may plain

theorem alone_load {execute : Text -> Run Unit} {text : Text}
    (runs : AloneStep access (fun _ => True) (execute text)) :
    AloneStep access (fun _ => True) (load execute text) := by
  have opened : AloneStep access (fun _ => True) (modify fun machine : Machine =>
      { machine with globals := machine.globals.set fileName .file, fileOpen := true }) :=
    Agree.modified (fun _ _ _ _ => rfl) (fun _ => ⟨.rfl, rfl⟩) fun _ sound =>
      ⟨sound.globals.set _ rfl, sound.lists, sound.functions, sound.unasked⟩
  refine opened.bind fun _ _ => ?_
  refine runs.bind fun _ _ => ?_
  refine (alone_findNamed id (by decide)).bind fun _ inside => ?_
  refine (alone_callMember id inside (by decide) (List.forall_mem_nil _)).bind fun _ _ => ?_
  exact Run.alone_unbind fun known => known.remove fileName

theorem alone_checkPlace : AloneStep access (fun _ => True) checkPlace := by
  refine (alone_findNamed id (by decide)).bind fun found _ => ?_
  cases found with
  | module name =>
      simp only []
      split
      · exact Agree.pure trivial
      · exact Agree.fail _
  | _ => exact Agree.fail _

theorem alone_checkReader : AloneStep access (fun _ => True) checkReader := by
  refine (alone_findNamed id (by decide)).bind fun found _ => ?_
  split
  · exact Agree.pure trivial
  · exact Agree.fail _

theorem alone_prepare : AloneStep access (fun _ => True) prepare := by
  have helped : AloneStep access (fun _ => True) (modify fun machine : Machine =>
      { machine with globals := machine.globals.setAll helpers }) :=
    Agree.modified (fun _ _ _ _ => rfl) (fun _ => ⟨.rfl, rfl⟩) fun _ sound =>
      sound.withGlobals (allowed_helpers sound.globals)
  refine helped.bind fun _ _ => ?_
  refine (alone_findNamed id (by decide)).bind fun role _ => ?_
  refine (Run.alone_same role (.str mainRole)).bind fun same _ => ?_
  split
  · exact Agree.pure trivial
  · refine alone_checkPlace.bind fun _ _ => ?_
    refine alone_checkReader.bind fun _ _ => ?_
    refine (alone_findNamed id (by decide)).bind fun version _ => ?_
    split
    · refine (alone_findNamed id (by decide)).bind fun found _ => ?_
      split
      · exact Agree.pure trivial
      · exact Agree.fail _
    · exact Agree.fail _

theorem alone_accept (options : Command.Options) :
    AloneStep access (fun _ => True) (accept options) :=
  Run.alone_bind fun known => known.set optionsName rfl

theorem alone_refuse : AloneStep access (fun _ => True) refuse := by
  refine (alone_callNamed id (by decide) (List.forall_mem_singleton.mpr rfl)).bind fun _ _ => ?_
  refine (alone_findNamed id (by decide)).bind fun system inside => ?_
  exact (alone_callMember id inside (by decide) (List.forall_mem_singleton.mpr rfl)).bind
    fun _ _ => Agree.pure trivial

theorem alone_windowCount {numbers : Value} (inside : Inside access numbers) :
    AloneStep access (fun _ => True) (windowCount numbers) := by
  rw [windowCount.eq_def]
  split
  · exact Agree.pure trivial
  · refine (Run.alone_elements inside).bind fun values _ => ?_
    split
    · exact Agree.pure trivial
    · exact Agree.fail _

theorem alone_expand (code : Text) : AloneStep access (fun _ => True) (expand code) := by
  refine (alone_callNamed id (by decide) (List.forall_mem_singleton.mpr rfl)).bind fun listed _ => ?_
  split
  · refine Agree.get fun machine other _ like => ?_
    rw [like.items_eq]
    refine (alone_findNamed id (by decide)).bind fun numbering numberingInside => ?_
    refine (alone_callNamed id (by decide) (List.forall_mem_singleton.mpr rfl)).bind
      fun size sizeInside => ?_
    refine ((sound_outermost id).call numberingInside
      (List.forall_mem_singleton.mpr sizeInside)).bind fun numbers inside => ?_
    refine (alone_windowCount inside).bind fun count _ => ?_
    split
    · exact Agree.pure trivial
    · exact Agree.fail _
  · exact Agree.fail _

theorem alone_expandPresent (code : Option Text) :
    AloneStep access (fun _ => True) (engine.expandPresent code) := by
  cases code with
  | none => exact Agree.pure trivial
  | some code =>
      rw [Engine.expandPresent, map_eq_pure_bind]
      exact (alone_expand code).bind fun _ _ => Agree.pure trivial

theorem alone_scriptOf (options : Command.Options) :
    AloneStep access (fun _ => True) (engine.scriptOf options) := by
  refine (alone_expandPresent _).bind fun before _ => ?_
  refine (alone_expandPresent _).bind fun after _ => ?_
  refine (alone_expandPresent _).bind fun handler _ => ?_
  exact (alone_expand _).bind fun main _ => Agree.pure trivial

/-- A command line that does not lie outside is the same on both machines. -/
theorem alone_commandLine (reads : access.arguments = true) :
    AloneStep access (fun _ => True) commandLine := by
  refine Agree.get fun machine other _ like => ?_
  have same : commandWords other = commandWords machine := by
    rw [commandWords, commandWords, like.argumentList_eq, like.items_eq, like.arguments reads]
  rw [same]
  exact Agree.ofExcept fun _ _ => trivial

end Steps

/-! ## Up to the script -/

/-- Global names with which a script is run, and that give no other access. -/
structure Settled (access : Access) (script : Script) (bindings : Bindings) : Prop where
  allowed : bindings.Allowed access
  program : bindings.lookup programName = some (.str script.text)
  function : bindings.lookup functionName = none

section Settled

variable {access : Access} {script : Script}

theorem settled_withScript {bindings : Bindings} (allowed : bindings.Allowed access) :
    Settled access script (withScript script bindings) where
  allowed := allowed_withScript script allowed
  program := lookup_programName script bindings
  function := by
    have both : withScript script bindings =
        ((bindings.setAll (scriptBindings script)).remove functionName).remove "args".toList := rfl
    rw [both, Bindings.lookup_remove, if_neg (by decide), Bindings.lookup_remove, if_pos rfl]

theorem Settled.set {bindings : Bindings} {name : Text} {value : Value}
    (listing : name ∈ listingNames) (inside : Inside access value)
    (settled : Settled access script bindings) :
    Settled access script (bindings.set name value) := by
  have apart : ∀ name ∈ listingNames, programName ≠ name ∧ functionName ≠ name := by decide
  constructor
  · exact settled.allowed.set name inside
  · rw [Bindings.lookup_set, if_neg (apart name listing).1, settled.program]
  · rw [Bindings.lookup_set, if_neg (apart name listing).2, settled.function]

end Settled

/-- What has come of the way to a script on two machines: the same script, if there is one,
and machines that agree again. -/
structure Approached (access : Access) (result : Except (Halt Fault) (Option Script))
    (machine other later later' : Machine) : Prop where
  sound : later.Sound access (Bindings.Allowed access)
  like : later.Like access [] later'
  leads : machine.Leads access [] later
  leads' : other.Leads access [] later'
  settled : forall script, result = .ok (some script) -> Settled access script later.globals

/-- Two runs of an action come to the same script. -/
def Approaches (access : Access) (action : Run (Option Script)) (machine other : Machine) : Prop :=
  ∃ (result : Except (Halt Fault) (Option Script)) (later later' : Machine),
    action.runOn machine = (result, later) ∧ action.runOn other = (result, later') ∧
      Approached access result machine other later later'

section Approach

variable {access : Access} {machine other : Machine}
  (sound : machine.Sound access (Bindings.Allowed access)) (like : machine.Like access [] other)

include sound like

/-- Steps that lead to no script. -/
theorem approaches_of_alone {action : Run (Option Script)}
    (alone : AloneStep access (· = none) action) : Approaches access action machine other := by
  rcases alone machine other sound like with
    ⟨result, later, later', run, run', sound, like, leads, leads', nothing⟩
  refine ⟨result, later, later', run, run', sound, like, leads, leads', fun script found => ?_⟩
  cases nothing _ found

/-- Steps in front of others. -/
theorem approaches_bind {Result : Type} {good : Result -> Prop} {action : Run Result}
    (alone : AloneStep access good action) {next : Result -> Run (Option Script)}
    (rest : forall result later later', good result -> later.Sound access (Bindings.Allowed access) ->
      later.Like access [] later' -> machine.Leads access [] later -> other.Leads access [] later' ->
        Approaches access (next result) later later') :
    Approaches access (action >>= next) machine other := by
  rcases alone machine other sound like with
    ⟨result, later, later', run, run', sound, like, leads, leads', holds⟩
  cases result with
  | error halt =>
      exact ⟨.error halt, later, later', Action.runOn_bind_error run, Action.runOn_bind_error run',
        sound, like, leads, leads', nofun⟩
  | ok value =>
      rcases rest value later later' (holds value rfl) sound like leads leads' with
        ⟨result, last, last', run₂, run₂', done⟩
      exact ⟨result, last, last', (Action.runOn_bind_ok run).trans run₂,
        (Action.runOn_bind_ok run').trans run₂', done.sound, done.like, leads.trans done.leads,
        leads'.trans done.leads', done.settled⟩

theorem approaches_settle (script : Script) :
    Approaches access (do settle script; return some script) machine other := by
  have settled : Settled access script (withScript script machine.globals) :=
    settled_withScript sound.globals
  have leads : forall machine : Machine, machine.Leads access []
      { machine with globals := withScript script machine.globals } :=
    fun _ => ⟨fun _ _ => rfl, fun _ => rfl, List.suffix_rfl, rfl, .rfl, fun _ => rfl⟩
  refine ⟨.ok (some script), _, _, rfl, rfl, sound.withGlobals settled.allowed,
    ⟨?_, like.same, like.allowed, like.input, like.arguments⟩, leads machine, leads other, ?_⟩
  · rw [like.rest]
    rfl
  · rintro _ ⟨⟩
    exact settled

theorem approaches_carryOut (version : Text) (width : Int)
    (outcome : Except Command.Ending Command.Options) :
    Approaches access (engine.carryOut version width outcome) machine other := by
  cases outcome with
  | error ending =>
      apply approaches_of_alone sound like
      exact (Run.alone_write _ _).bind fun _ _ => Agree.throw _
  | ok options =>
      refine approaches_bind sound like (alone_accept options) fun _ later later' _ sound like _ _ => ?_
      cases options.conflicting with
      | true =>
          exact approaches_of_alone sound like (alone_refuse.bind fun _ _ => Agree.pure rfl)
      | false =>
          refine approaches_bind sound like (alone_scriptOf options) ?_
          intro script later later' _ sound like _ _
          exact approaches_settle sound like script

variable (same : access.arguments = false ->
  Command.Options.ofArguments other.arguments = Command.Options.ofArguments machine.arguments)

include same

theorem approaches_obey (width : Int) :
    Approaches access (engine.obey width) machine other := by
  refine approaches_bind sound like alone_prepare fun version later later' _ sound like leads leads' => ?_
  cases version with
  | none => exact approaches_of_alone sound like (Agree.pure rfl)
  | some version =>
      cases reads : access.arguments with
      | true =>
          exact approaches_bind sound like (alone_commandLine reads) fun _ _ _ _ sound like _ _ =>
            approaches_carryOut sound like version width _
      | false =>
          -- Nobody has asked for the command line, so it is the one of the beginning.
          have told : commandWords later = .ok machine.arguments := by
            rw [commandWords, sound.unasked reads, leads.arguments]
          have told' : commandWords later' = .ok other.arguments := by
            rw [commandWords, like.argumentList_eq, sound.unasked reads, leads'.arguments]
          rcases approaches_carryOut sound like version width
            (Command.Options.ofArguments machine.arguments) with ⟨result, last, last', run, run', done⟩
          refine ⟨result, last, last', ?_, ?_, done⟩
          · rw [← run]
            exact Action.runOn_bind_ok (runOn_commandLine told)
          · rw [← run', ← same reads]
            exact Action.runOn_bind_ok (runOn_commandLine told')

/-- Sessions with command lines of which the same is made come to the same script. -/
theorem approaches_approach {execute : Text -> Run Unit} {startup : Option Text}
    (starts : ∀ text ∈ startup, AloneStep access (fun _ => True) (execute text.normalizeNewlines))
    (define call : Run Unit) (width : Int) :
    Approaches access ((engineWith execute define call).approach startup width) machine other := by
  have obeyed : forall {later later' : Machine}, later.Sound access (Bindings.Allowed access) ->
      later.Like access [] later' -> machine.Leads access [] later ->
      other.Leads access [] later' ->
        Approaches access ((engineWith execute define call).obey width) later later' := by
    intro later later' sound like leads leads'
    refine approaches_obey sound like (fun closed => ?_) width
    rw [leads.arguments, leads'.arguments, same closed]
  cases startup with
  | none => exact obeyed sound like .refl .refl
  | some text =>
      exact approaches_bind sound like (alone_load (starts text rfl))
        fun _ later later' _ sound like leads leads' => obeyed sound like leads leads'

end Approach

theorem sound_start {access : Access} (arguments : List Text) (input : Text) :
    (start arguments input).Sound access (Bindings.Allowed access) :=
  ⟨allowed_initial, nofun, nofun, fun _ => rfl⟩

end Execution
end Oneliner
