import Oneliner.Proofs.Action
import Oneliner.Proofs.Program.Access
import Oneliner.Proofs.Transcript

namespace Oneliner
namespace Program

/-!
Two runs that agree.

A program that keeps to its access does the same whatever lies outside: another input,
another command line, other values of local variables that it does not mention.  This is
stated of two runs at once.  The machines agree but for what lies outside before the runs,
and so they do afterwards, with the same result.  What the global names may be is a
parameter, which the runs keep.

An access to everything leaves nothing outside.  The two runs are then one and the same,
and what is left to say is that it keeps the machine sound.
-/

/-! ## Machines that agree -/

/-- What a machine holds gives no other access, and the global names are as they may be. -/
structure Machine.Sound (access : Access) (globals : Bindings -> Prop) (machine : Machine) :
    Prop where
  globals : globals machine.globals
  lists : forall {items}, items ∈ machine.lists -> forall {value}, value ∈ items ->
    value.allowed access = true
  functions : forall {function}, function ∈ machine.functions -> function.keepsTo access = true
  /-- Nobody has asked for a command line that lies outside. -/
  unasked : access.arguments = false -> machine.argumentList = none

/-- The machine with other local variables, another input and another command line. -/
def Machine.place (machine : Machine) (locals : Bindings) (input arguments : List Text) : Machine :=
  { machine with locals := locals, input := input, arguments := arguments }

/-- Two machines that are the same apart from hidden variables and what lies outside. -/
structure Machine.Like (access : Access) (hidden : List Text) (machine other : Machine) : Prop where
  rest : other = machine.place other.locals other.input other.arguments
  same : forall {name}, name ∉ hidden -> other.locals.lookup name = machine.locals.lookup name
  allowed : forall {name}, name ∉ hidden -> forall {value},
    machine.locals.lookup name = some value -> value.allowed access = true
  input : access.input = true -> other.input = machine.input
  arguments : access.arguments = true -> other.arguments = machine.arguments

/-- A machine on which something more may have been written. -/
structure Machine.Writes (machine later : Machine) : Prop where
  begins : machine.transcript.Begins later.transcript
  shut : later.shut = machine.shut

/-- What a run leaves as it was: hidden variables, what lies outside, and what had been
written. -/
structure Machine.Leads (access : Access) (hidden : List Text) (machine later : Machine) : Prop where
  hidden : ∀ name ∈ hidden, later.locals.lookup name = machine.locals.lookup name
  unread : access.input = false -> later.input = machine.input
  suffix : later.input <:+ machine.input
  arguments : later.arguments = machine.arguments
  begins : machine.transcript.Begins later.transcript
  shut : access.streams = false -> later.shut = machine.shut

/-- Two actions do the same on machines that agree, and a result of them is a good one. -/
def Agree {Result : Type} (access : Access) (globals : Bindings -> Prop) (hidden : List Text)
    (good : Result -> Prop) (action action' : Run Result) : Prop :=
  forall machine other : Machine, machine.Sound access globals ->
    machine.Like access hidden other ->
      ∃ (result : Except (Halt Fault) Result) (later later' : Machine),
        action.runOn machine = (result, later) ∧ action'.runOn other = (result, later') ∧
          later.Sound access globals ∧ later.Like access hidden later' ∧
          machine.Leads access hidden later ∧ other.Leads access hidden later' ∧
          forall value, result = .ok value -> good value

/-- An action does the same whatever lies outside. -/
abbrev Alone {Result : Type} (access : Access) (globals : Bindings -> Prop) (hidden : List Text)
    (good : Result -> Prop) (action : Run Result) : Prop :=
  Agree access globals hidden good action action

namespace Machine

/-! ## Small facts about them -/

theorem viewWithin_place (machine : Machine) (locals : Bindings) (input arguments : List Text)
    (bound : Nat) :
    (machine.place locals input arguments).viewWithin bound = machine.viewWithin bound := by
  induction bound with
  | zero =>
      funext opened value
      cases value <;> rfl
  | succ bound shallower =>
      funext opened value
      cases value with
      | list index =>
          rw [viewWithin, shallower, viewWithin]
          rfl
      | _ => rfl

theorem sameWithin_place (machine : Machine) (locals : Bindings) (input arguments : List Text)
    (bound : Nat) :
    (machine.place locals input arguments).sameWithin bound = machine.sameWithin bound := by
  induction bound with
  | zero =>
      funext left right
      cases left <;> cases right <;> rfl
  | succ bound shallower =>
      funext left right
      cases left with
      | list index =>
          cases right with
          | list index' =>
              rw [sameWithin, shallower, sameWithin]
              rfl
          | _ => rfl
      | _ => cases right <;> rfl

namespace Like

variable {access : Access} {hidden : List Text} {machine other : Machine}

/-- What is equal after any placement is equal of machines that are alike. -/
theorem congr {Part : Type} (like : machine.Like access hidden other) {part : Machine -> Part}
    (placed : forall locals input arguments,
      part (machine.place locals input arguments) = part machine) :
    part other = part machine := by
  rw [like.rest]
  exact placed _ _ _

section Parts

variable (like : machine.Like access hidden other)

include like

theorem globals_eq : other.globals = machine.globals :=
  like.congr fun _ _ _ => rfl

theorem items_eq : other.items = machine.items :=
  like.congr fun _ _ _ => rfl

theorem functions_eq : other.functions = machine.functions :=
  like.congr fun _ _ _ => rfl

theorem fileOpen_eq : other.fileOpen = machine.fileOpen :=
  like.congr fun _ _ _ => rfl

theorem shut_eq : other.shut = machine.shut :=
  like.congr fun _ _ _ => rfl

theorem argumentList_eq : other.argumentList = machine.argumentList :=
  like.congr fun _ _ _ => rfl

theorem transcript_eq : other.transcript = machine.transcript :=
  like.congr fun _ _ _ => rfl

theorem view_eq : other.view = machine.view := by
  apply like.congr
  intro locals input arguments
  funext value
  rw [view, viewWithin_place, view]

theorem same?_eq : other.same? = machine.same? := by
  apply like.congr
  intro locals input arguments
  funext left right
  rw [same?, sameWithin_place, same?]

theorem holds_eq : other.holds = machine.holds := by
  apply like.congr
  intro locals input arguments
  funext value
  cases value <;> rfl

/-- The same variables and the same outside around another machine. -/
theorem around (later : Machine) :
    (later.place machine.locals machine.input machine.arguments).Like access hidden
      (later.place other.locals other.input other.arguments) :=
  ⟨rfl, like.same, like.allowed, like.input, like.arguments⟩

theorem symm : other.Like access hidden machine where
  rest := by
    rw [like.rest]
    rfl
  same := fun visible => (like.same visible).symm
  allowed := by
    intro name visible value found
    rw [like.same visible] at found
    exact like.allowed visible found
  input := fun open' => (like.input open').symm
  arguments := fun open' => (like.arguments open').symm

/-- A machine that is like another one is also like itself. -/
theorem left : machine.Like access hidden machine :=
  ⟨rfl, fun _ => rfl, like.allowed, fun _ => rfl, fun _ => rfl⟩

end Parts

theorem refl (allowed : machine.locals.Allowed access) : machine.Like access [] machine :=
  ⟨rfl, fun _ => rfl, fun _ _ found => allowed found, fun _ => rfl, fun _ => rfl⟩

end Like

namespace Leads

variable {access : Access} {hidden : List Text} {machine later last : Machine}

theorem refl : machine.Leads access hidden machine :=
  ⟨fun _ _ => rfl, fun _ => rfl, List.suffix_rfl, rfl, .rfl, fun _ => rfl⟩

theorem trans (leads : machine.Leads access hidden later) (leads' : later.Leads access hidden last) :
    machine.Leads access hidden last where
  hidden := fun name member => (leads'.hidden name member).trans (leads.hidden name member)
  unread := fun closed => (leads'.unread closed).trans (leads.unread closed)
  suffix := leads'.suffix.trans leads.suffix
  arguments := leads'.arguments.trans leads.arguments
  begins := leads.begins.trans leads'.begins
  shut := fun closed => (leads'.shut closed).trans (leads.shut closed)

/-- Nothing of what is to be left changes. -/
theorem around {changed : Machine} (begins : machine.transcript.Begins changed.transcript)
    (shut : access.streams = false -> changed.shut = machine.shut) :
    machine.Leads access hidden
      (changed.place machine.locals machine.input machine.arguments) :=
  ⟨fun _ _ => rfl, fun _ => rfl, List.suffix_rfl, rfl, begins, shut⟩

end Leads

namespace Sound

variable {access : Access} {globals known : Bindings -> Prop} {machine : Machine}
  (sound : machine.Sound access globals)

include sound

theorem mono (weaker : forall {bindings}, globals bindings -> known bindings) :
    machine.Sound access known :=
  ⟨weaker sound.globals, sound.lists, sound.functions, sound.unasked⟩

theorem place (locals : Bindings) (input arguments : List Text) :
    (machine.place locals input arguments).Sound access globals :=
  ⟨sound.globals, sound.lists, sound.functions, sound.unasked⟩

theorem items {index : Nat} {value : Value} (member : value ∈ machine.items index) :
    value.allowed access = true := by
  rw [Machine.items, Array.getD_eq_getD_getElem?] at member
  cases found : machine.lists[index]? with
  | none =>
      rw [found] at member
      cases Array.not_mem_empty _ member
  | some items =>
      rw [found] at member
      exact sound.lists (Array.mem_of_getElem? found) member

/-- New or longer lists of values that give no other access. -/
theorem withLists {lists : Array (Array Value)}
    (kept : forall {items}, items ∈ lists -> forall {value}, value ∈ items ->
      value.allowed access = true) :
    ({ machine with lists := lists } : Machine).Sound access globals :=
  ⟨sound.globals, kept, sound.functions, sound.unasked⟩

/-- A machine is sound with just the names that it has. -/
theorem own : machine.Sound access (· = machine.globals) :=
  ⟨rfl, sound.lists, sound.functions, sound.unasked⟩

theorem withGlobals {bindings : Bindings} (kept : known bindings) :
    ({ machine with globals := bindings } : Machine).Sound access known :=
  ⟨kept, sound.lists, sound.functions, sound.unasked⟩

end Sound

end Machine

/-! ## Actions that agree -/

namespace Agree

variable {Result Next : Type} {access : Access} {globals : Bindings -> Prop} {hidden : List Text}
  {good : Result -> Prop} {good' : Next -> Prop}

theorem pure {result : Result} (holds : good result) :
    Alone access globals hidden good (Pure.pure result) := by
  intro machine other sound like
  refine ⟨.ok result, machine, other, rfl, rfl, sound, like, .refl, .refl, ?_⟩
  rintro _ ⟨⟩
  exact holds

theorem throw (halt : Halt Fault) : Alone access globals hidden good (MonadExcept.throw halt) :=
  fun machine other sound like =>
    ⟨.error halt, machine, other, rfl, rfl, sound, like, .refl, .refl, nofun⟩

theorem fail (fault : Fault) : Alone access globals hidden good (Run.fail fault) :=
  throw (.fault fault)

theorem bind {action action' : Run Result} {next next' : Result -> Run Next}
    (first : Agree access globals hidden good action action')
    (rest : forall result, good result ->
      Agree access globals hidden good' (next result) (next' result)) :
    Agree access globals hidden good' (action >>= next) (action' >>= next') := by
  intro machine other sound like
  rcases first machine other sound like with
    ⟨result, later, later', run, run', sound, like, leads, leads', holds⟩
  cases result with
  | error halt =>
      exact ⟨.error halt, later, later', Action.runOn_bind_error run,
        Action.runOn_bind_error run', sound, like, leads, leads', nofun⟩
  | ok value =>
      rw [Action.runOn_bind_ok run, Action.runOn_bind_ok run']
      rcases rest value (holds value rfl) later later' sound like with
        ⟨result, last, last', run, run', sound, like, more, more', holds⟩
      exact ⟨result, last, last', run, run', sound, like, leads.trans more, leads'.trans more', holds⟩

theorem tryCatch {action action' : Run Result} {handler handler' : Halt Fault -> Run Result}
    (first : Agree access globals hidden good action action')
    (rest : forall halt, Agree access globals hidden good (handler halt) (handler' halt)) :
    Agree access globals hidden good (MonadExcept.tryCatch action handler)
      (MonadExcept.tryCatch action' handler') := by
  intro machine other sound like
  rcases first machine other sound like with
    ⟨result, later, later', run, run', sound, like, leads, leads', holds⟩
  rw [Action.runOn_tryCatch, Action.runOn_tryCatch, run, run']
  cases result with
  | error halt =>
      rcases rest halt later later' sound like with
        ⟨result, last, last', run, run', sound, like, more, more', holds⟩
      exact ⟨result, last, last', run, run', sound, like, leads.trans more, leads'.trans more', holds⟩
  | ok value => exact ⟨.ok value, later, later', rfl, rfl, sound, like, leads, leads', holds⟩

/-- Actions may look at the machine, as long as they do the same afterwards. -/
theorem get {next next' : Machine -> Run Result}
    (agree : forall machine other : Machine, machine.Sound access globals ->
      machine.Like access hidden other ->
        Agree access globals hidden good (next machine) (next' other)) :
    Agree access globals hidden good (MonadState.get >>= next) (MonadState.get >>= next') := by
  intro machine other sound like
  rw [Action.runOn_bind_ok (Action.runOn_get _), Action.runOn_bind_ok (Action.runOn_get _)]
  exact agree machine other sound like machine other sound like

/-- An action may change what neither is hidden nor lies outside. -/
theorem modifyGet {change : Machine -> Result × Machine}
    (apart : forall (machine : Machine) locals input arguments,
      change (machine.place locals input arguments) =
        ((change machine).1, (change machine).2.place locals input arguments))
    (writes : forall machine : Machine, machine.Writes (change machine).2)
    (kept : forall machine : Machine, machine.Sound access globals ->
      (change machine).2.Sound access globals ∧ good (change machine).1) :
    Alone access globals hidden good (MonadState.modifyGet change) := by
  intro machine other sound like
  rcases kept machine sound with ⟨changed, holds⟩
  have own : change machine = _ := apart machine machine.locals machine.input machine.arguments
  have others := apart machine other.locals other.input other.arguments
  rw [← like.rest] at others
  refine ⟨.ok (change machine).1, _, _, ?_, ?_, changed.place _ _ _, like.around _,
    .around (writes machine).begins fun _ => (writes machine).shut, .around ?_ fun _ => ?_, ?_⟩
  · rw [Action.runOn_modifyGet]
    exact congrArg (fun pair => (Except.ok (change machine).1, pair.2)) own
  · rw [Action.runOn_modifyGet, others]
  · rw [like.transcript_eq]
    exact (writes machine).begins
  · rw [like.shut_eq]
    exact (writes machine).shut
  · rintro _ ⟨⟩
    exact holds

theorem modified {change : Machine -> Machine}
    (apart : forall (machine : Machine) locals input arguments,
      change (machine.place locals input arguments) =
        (change machine).place locals input arguments)
    (writes : forall machine : Machine, machine.Writes (change machine))
    (kept : forall machine : Machine, machine.Sound access globals ->
      (change machine).Sound access globals) :
    Alone access globals hidden (fun _ => True) (modify change) :=
  modifyGet (fun machine locals input arguments =>
      Prod.ext rfl (apart machine locals input arguments)) writes
    fun machine sound => ⟨kept machine sound, trivial⟩

/-- An action may take lines from an input to which it has access. -/
theorem read (change : List Text -> Result × List Text) (open' : access.input = true)
    (suffix : forall lines, (change lines).2 <:+ lines)
    (holds : forall lines, good (change lines).1) :
    Alone access globals hidden good (MonadState.modifyGet fun machine : Machine =>
      ((change machine.input).1, { machine with input := (change machine.input).2 })) := by
  intro machine other sound like
  have same := like.input open'
  refine ⟨.ok (change machine.input).1, { machine with input := (change machine.input).2 },
    { other with input := (change machine.input).2 }, rfl, ?_, ?_, ?_, ?_, ?_, ?_⟩
  · rw [Action.runOn_modifyGet, same]
  · exact ⟨sound.globals, sound.lists, sound.functions, sound.unasked⟩
  · refine ⟨?_, like.same, like.allowed, fun _ => rfl, like.arguments⟩
    rw [like.rest]
    rfl
  · refine ⟨fun _ _ => rfl, fun closed => ?_, suffix _, rfl, .rfl, fun _ => rfl⟩
    rw [open'] at closed
    cases closed
  · refine ⟨fun _ _ => rfl, fun closed => ?_, same ▸ suffix _, rfl, .rfl, fun _ => rfl⟩
    rw [open'] at closed
    cases closed
  · rintro _ ⟨⟩
    exact holds _

theorem ofExcept {result : Except Fault Result} (holds : forall value, result = .ok value -> good value) :
    Alone access globals hidden good (Run.ofExcept result) := by
  cases result with
  | error fault => exact fail fault
  | ok value => exact pure (holds value rfl)

theorem mapM {Item : Type} {items : List Item} {act act' : Item -> Run Result}
    (agree : forall item, item ∈ items -> Agree access globals hidden good (act item) (act' item)) :
    Agree access globals hidden (fun results => forall result, result ∈ results -> good result)
      (items.mapM act) (items.mapM act') := by
  induction items with
  | nil => exact pure nofun
  | cons item rest restAgree =>
      rw [List.mapM_cons, List.mapM_cons]
      refine bind (agree item List.mem_cons_self) fun result holds => ?_
      refine bind (restAgree fun item member => agree item (List.mem_cons_of_mem _ member))
        fun results hold => pure ?_
      exact List.forall_mem_cons.mpr ⟨holds, hold⟩

theorem forM {Item : Type} {items : List Item} {act act' : Item -> Run Unit}
    (agree : forall item, item ∈ items ->
      Agree access globals hidden (fun _ => True) (act item) (act' item)) :
    Agree access globals hidden (fun _ => True) (items.forM act) (items.forM act') := by
  induction items with
  | nil => exact pure trivial
  | cons item rest restAgree =>
      exact bind (agree item List.mem_cons_self) fun _ _ =>
        restAgree fun item member => agree item (List.mem_cons_of_mem _ member)

end Agree

/-! ## Actions of the machine -/

namespace Run

variable {access : Access} {globals : Bindings -> Prop} {hidden : List Text}

/-- The values of a program that keeps to its access. -/
abbrev Inside (access : Access) (value : Value) : Prop :=
  value.allowed access = true

/-- All of several values are such. -/
abbrev AllInside (access : Access) (values : List Value) : Prop :=
  ∀ value ∈ values, Inside access value

theorem allInside_map {Item : Type} (items : List Item) {make : Item -> Value}
    (inside : forall item, Inside access (make item)) : AllInside access (items.map make) := by
  intro value member
  rcases List.mem_map.mp member with ⟨item, _, rfl⟩
  exact inside item

theorem alone_find (known : forall {bindings}, globals bindings -> bindings.Allowed access)
    {name : Text} (inside : access.names name = true) :
    Alone access globals hidden (Inside access) (Run.find name) := by
  refine Agree.get fun machine other sound like => ?_
  rw [like.globals_eq]
  cases found : machine.globals.lookup name with
  | some value => exact Agree.pure (known sound.globals found)
  | none =>
      cases inPlace : Builtin.inPlace? name with
      | some value => exact Agree.pure (Builtin.allowed_of_inPlace? inside inPlace)
      | none => exact Agree.fail _

theorem alone_bind {name : Text} {value : Value}
    (kept : forall {bindings}, globals bindings -> globals (bindings.set name value)) :
    Alone access globals hidden (fun _ => True) (Run.bind name value) :=
  Agree.modified (fun _ _ _ _ => rfl) (fun _ => ⟨.rfl, rfl⟩) fun _ sound =>
    sound.withGlobals (kept sound.globals)

theorem alone_unbind {name : Text}
    (kept : forall {bindings}, globals bindings -> globals (bindings.remove name)) :
    Alone access globals hidden (fun _ => True) (Run.unbind name) :=
  Agree.modified (fun _ _ _ _ => rfl) (fun _ => ⟨.rfl, rfl⟩) fun _ sound =>
    sound.withGlobals (kept sound.globals)

theorem alone_ofScalar (value : Scalar) :
    Alone access globals hidden (Inside access) (ofScalar value) := by
  rw [ofScalar.eq_def]
  split
  · refine Agree.modifyGet (fun _ _ _ _ => rfl) (fun _ => ⟨.rfl, rfl⟩) fun machine sound => ⟨?_, rfl⟩
    exact ⟨sound.globals, sound.lists, sound.functions, sound.unasked⟩
  · exact Agree.pure rfl

theorem alone_viewOf (value : Value) :
    Alone access globals hidden (fun _ => True) (viewOf value) := by
  refine Agree.get fun machine other _ like => ?_
  rw [like.view_eq]
  cases machine.view value with
  | none => exact Agree.fail _
  | some datum =>
      simp only []
      split
      · exact Agree.pure trivial
      · exact Agree.fail _

theorem alone_textOf (value : Value) :
    Alone access globals hidden (fun _ => True) (textOf value) :=
  (alone_viewOf value).bind fun _ _ => Agree.pure trivial

theorem alone_write (stream : Stream) (text : Text) :
    Alone access globals hidden (fun _ => True) (write stream text) := by
  refine Agree.get fun machine other _ like => ?_
  rw [like.shut_eq]
  split
  · exact Agree.fail _
  · exact Agree.modified (fun _ _ _ _ => rfl)
      (fun machine => ⟨machine.transcript.begins_write stream text, rfl⟩) fun _ sound =>
        ⟨sound.globals, sound.lists, sound.functions, sound.unasked⟩

/-- Streams are closed by those who have access to them. -/
theorem alone_shut (open' : access.streams = true) (stream : Stream) :
    Alone access globals hidden (fun _ => True) (shut stream) := by
  intro machine other sound like
  have leads : forall machine : Machine, machine.Leads access hidden
      (Machine.place { machine with shut := stream :: machine.shut } machine.locals machine.input
        machine.arguments) := by
    refine fun machine => .around .rfl fun closed => ?_
    rw [open'] at closed
    cases closed
  refine ⟨.ok (), _, _, rfl, rfl, ⟨sound.globals, sound.lists, sound.functions, sound.unasked⟩,
    ⟨?_, like.same, like.allowed, like.input, like.arguments⟩, leads machine, leads other,
    fun _ _ => trivial⟩
  rw [like.rest]
  rfl

theorem alone_storeList {items : Array Value} (inside : ∀ value ∈ items, Inside access value) :
    Alone access globals hidden (fun _ => True) (storeList items) := by
  refine Agree.modifyGet (fun _ _ _ _ => rfl) (fun _ => ⟨.rfl, rfl⟩) fun machine sound =>
    ⟨sound.withLists ?_, trivial⟩
  intro found member value
  rcases Array.mem_push.mp member with old | rfl
  · exact sound.lists old
  · exact inside value

theorem alone_makeArray {items : Array Value} (inside : ∀ value ∈ items, Inside access value) :
    Alone access globals hidden (Inside access) (makeList items) :=
  (alone_storeList inside).bind fun _ _ => Agree.pure rfl

theorem alone_makeList {items : List Value} (inside : AllInside access items) :
    Alone access globals hidden (Inside access) (makeList items.toArray) :=
  alone_makeArray fun value member => inside value (List.mem_toArray.mp member)

theorem alone_makeFunction {function : Function} (keeps : function.keepsTo access = true) :
    Alone access globals hidden (Inside access) (makeFunction function) := by
  refine Agree.modifyGet (fun _ _ _ _ => rfl) (fun _ => ⟨.rfl, rfl⟩) fun machine sound =>
    ⟨⟨sound.globals, sound.lists, ?_, sound.unasked⟩, rfl⟩
  intro other member
  rcases Array.mem_push.mp member with old | rfl
  · exact sound.functions old
  · exact keeps

/-- The list of the command line is made for those who have access to it. -/
theorem alone_commandList (open' : access.arguments = true) :
    Alone access globals hidden (Inside access) commandList := by
  refine Agree.get fun machine other _ like => ?_
  rw [like.argumentList_eq]
  cases machine.argumentList with
  | some index => exact Agree.pure rfl
  | none =>
      refine Agree.get fun machine other _ like => ?_
      rw [like.arguments open']
      refine (alone_storeList fun value member => ?_).bind fun index _ => ?_
      · exact allInside_map _ (fun _ => rfl) value (List.mem_toArray.mp member)
      · have noted : Alone access globals hidden (fun _ => True) (modify fun machine : Machine =>
            { machine with argumentList := some index }) := by
          refine Agree.modified (fun _ _ _ _ => rfl) (fun _ => ⟨.rfl, rfl⟩) fun _ sound => ?_
          refine ⟨sound.globals, sound.lists, sound.functions, fun closed => ?_⟩
          rw [open'] at closed
          cases closed
        exact noted.bind fun _ _ => Agree.pure rfl

theorem alone_push (index : Nat) {value : Value} (inside : Inside access value) :
    Alone access globals hidden (fun _ => True) (push index value) := by
  refine Agree.modified (fun _ _ _ _ => rfl) (fun _ => ⟨.rfl, rfl⟩) fun machine sound =>
    sound.withLists ?_
  intro items member value' inItems
  rcases Array.mem_iff_getElem?.mp member with ⟨position, found⟩
  rw [Array.getElem?_modify] at found
  split at found
  · rcases Option.map_eq_some_iff.mp found with ⟨old, oldFound, rfl⟩
    rcases Array.mem_push.mp inItems with inOld | rfl
    · exact sound.lists (Array.mem_of_getElem? oldFound) inOld
    · exact inside
  · exact sound.lists (Array.mem_of_getElem? found) inItems

theorem alone_append (index : Nat) {value : Value} (inside : Inside access value) :
    Alone access globals hidden (fun _ => True) (append index value) := by
  refine Agree.get fun machine other _ like => ?_
  rw [like.items_eq]
  split
  · exact alone_push index inside
  · exact Agree.fail _

theorem alone_nextLine? (open' : access.input = true) :
    Alone access globals hidden (fun _ => True) nextLine? := by
  have reading : nextLine? = (modifyGet fun machine : Machine =>
      (machine.input.head?, { machine with input := machine.input.tail }) : Run (Option Text)) := by
    rw [nextLine?]
    congr 1
    funext machine
    rcases machine with ⟨_, _, _, _, _, _ | _⟩ <;> rfl
  rw [reading]
  exact Agree.read (fun lines => (lines.head?, lines.tail)) open' List.tail_suffix fun _ => trivial

theorem alone_remainingLines (open' : access.input = true) :
    Alone access globals hidden (fun _ => True) remainingLines :=
  Agree.read (fun lines => (lines, [])) open' (fun _ => List.nil_suffix) fun _ => trivial

theorem alone_checkFile : Alone access globals hidden (fun _ => True) checkFile := by
  refine Agree.get fun machine other _ like => ?_
  rw [like.fileOpen_eq]
  split
  · exact Agree.pure trivial
  · exact Agree.fail _

section Loops

variable {act act' : Value -> Run Unit}
  (agree : forall item, Inside access item ->
    Agree access globals hidden (fun _ => True) (act item) (act' item))

include agree

theorem agree_forLines (open' : access.input = true) (count : Nat) :
    Agree access globals hidden (fun _ => True) (forLines act count) (forLines act' count) := by
  induction count with
  | zero => exact Agree.pure trivial
  | succ count later =>
      refine (alone_nextLine? open').bind fun found _ => ?_
      cases found with
      | none => exact Agree.pure trivial
      | some line => exact (agree (.str line) rfl).bind fun _ _ => later

theorem agree_forItems (index count position : Nat) :
    Agree access globals hidden (fun _ => True) (forItems index act count position)
      (forItems index act' count position) := by
  induction count generalizing position with
  | zero => exact Agree.pure trivial
  | succ count later =>
      refine Agree.get fun machine other sound like => ?_
      rw [like.items_eq]
      cases found : (machine.items index)[position]? with
      | none => exact Agree.pure trivial
      | some item =>
          exact (agree item (sound.items (Array.mem_of_getElem? found))).bind fun _ _ =>
            later (position + 1)

theorem agree_forIntegers (count : Nat) (first : Int) :
    Agree access globals hidden (fun _ => True) (forIntegers act count first)
      (forIntegers act' count first) := by
  induction count generalizing first with
  | zero => exact Agree.pure trivial
  | succ count later => exact (agree (.int first) rfl).bind fun _ _ => later (first + 1)

/-- What is done with each item agrees, and so does all of it. -/
theorem agree_forEach {source : Value} (inside : Inside access source) :
    Agree access globals hidden (fun _ => True) (forEach source act) (forEach source act') := by
  rw [forEach.eq_def, forEach.eq_def]
  split
  · exact Agree.forM fun char _ => agree (.str [char]) rfl
  · exact Agree.forM fun byte _ => agree (.int byte) rfl
  · refine Agree.get fun machine other _ like => ?_
    rw [like.items_eq]
    exact agree_forItems agree _ _ _
  · exact agree_forIntegers agree _ _
  · have open' : access.input = true := inside
    refine Agree.get fun machine other _ like => ?_
    rw [like.input open']
    exact agree_forLines agree open' _
  · exact alone_checkFile
  · exact Agree.fail _

end Loops

theorem alone_elements {source : Value} (inside : Inside access source) :
    Alone access globals hidden (AllInside access) (elements source) := by
  rw [elements.eq_def]
  split
  · exact Agree.pure (allInside_map _ fun _ => rfl)
  · exact Agree.pure (allInside_map _ fun _ => rfl)
  · refine Agree.get fun machine other sound like => ?_
    rw [like.items_eq]
    exact Agree.pure fun value member => sound.items (Array.mem_toList_iff.mp member)
  · exact Agree.pure (allInside_map _ fun _ => rfl)
  · exact (alone_remainingLines inside).bind fun lines _ =>
      Agree.pure (allInside_map _ fun _ => rfl)
  · exact alone_checkFile.bind fun _ _ => Agree.pure nofun
  · exact Agree.fail _

end Run

/-- Values that keep to the access are found under global names and can be called. -/
structure Dispatch.Sound (access : Access) (globals : Bindings -> Prop) (dispatch : Dispatch) :
    Prop where
  found : forall {bindings}, globals bindings -> bindings.Allowed access
  call : forall {hidden : List Text} {function : Value} {arguments : List Value},
    Run.Inside access function -> Run.AllInside access arguments ->
      Alone access globals hidden (Run.Inside access) (dispatch.call function arguments)

end Program
end Oneliner
