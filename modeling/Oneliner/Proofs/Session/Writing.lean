import Oneliner.Proofs.Program.Steps
import Oneliner.Proofs.Program.Tameness
import Oneliner.Session.Execution

namespace Oneliner

open Program

/-!
Writing through global names.

A value is written by looking up the system, a stream of it and the function that
writes, so all of them must be found where they are expected.
-/

/-! ## Streams of the system -/

namespace Program

/-- The machine after a text has been written. -/
def Machine.written (machine : Machine) (stream : Stream) (text : Text) : Machine :=
  { machine with transcript := machine.transcript.write stream text }

/-- The machine after a global name has been given a value. -/
def Machine.bound (machine : Machine) (name : Text) (value : Value) : Machine :=
  { machine with globals := machine.globals.set name value }

namespace Run

theorem runOn_bind (name : Text) (value : Value) (machine : Machine) :
    (Run.bind name value).runOn machine = (.ok (), machine.bound name value) := rfl

theorem runOn_textOf_str (text : Text) (machine : Machine) :
    (textOf (.str text)).runOn machine = (.ok text, machine) := rfl

theorem runOn_textOf_nat {number : Nat} (short : number < Scalar.integerBound) (machine : Machine) :
    (textOf (.int number)).runOn machine = (.ok (Text.ofNat number), machine) := by
  have writable : (Scalar.int number).writable = true := by
    rw [Scalar.writable, Int.natAbs_natCast]
    exact decide_eq_true short
  rw [@runOn_textOf (.int number) (.int number) rfl writable]
  rfl

theorem runOn_textOf_long {number : Nat} (long : Scalar.integerBound ≤ number) (machine : Machine) :
    (textOf (.int number)).runOn machine = (.error (.fault .longInteger), machine) := by
  have view : machine.view (.int number) = some (.scalar (.int number)) := by
    rw [Machine.view, Machine.viewWithin.eq_def]
    rfl
  have unwritable : (Datum.scalar (.int number)).writable = false := by
    rw [Datum.writable, Scalar.writable, Int.natAbs_natCast]
    exact decide_eq_false (Nat.not_lt.mpr long)
  have viewed : (viewOf (.int number)).runOn machine = (.error (.fault .longInteger), machine) := by
    rw [viewOf, Action.runOn_bind_ok (Action.runOn_get machine), view]
    simp only [unwritable]
    rfl
  exact Action.runOn_bind_error viewed

section Streams

variable {machine : Machine} {stream : Stream}

theorem runOn_write (isOpen : stream ∉ machine.shut) (text : Text) :
    (write stream text).runOn machine = (.ok (), machine.written stream text) := by
  rw [write, Action.runOn_bind_ok (Action.runOn_get machine),
    if_neg (by simpa using isOpen)]
  rfl

theorem runOn_write_shut (isShut : stream ∈ machine.shut) (text : Text) :
    (write stream text).runOn machine = (.error (.fault .closedFile), machine) := by
  rw [write, Action.runOn_bind_ok (Action.runOn_get machine),
    if_pos (by simpa using isShut)]
  rfl

variable (system : machine.globals.lookup "sys".toList = some (.module "sys".toList)) (depth : Nat)
  {value : Value} {text : Text} (readable : (textOf value).runOn machine = (.ok text, machine))

include system readable

/-- A value is written by calling what the system has for that. -/
theorem runOn_emit_eq :
    (emit (.within (depth + 1)) stream.memberName value).runOn machine =
      (do
        write stream (text ++ ['\n'])
        return .nothing : Run Value).runOn machine := by
  have member : memberOf (.output stream) "write".toList = pure (.method (.output stream) .write) :=
    rfl
  have called : (Dispatch.within (depth + 1)).call (.method (.output stream) .write)
      [.str (text ++ ['\n'])] = (do
        write stream (text ++ ['\n'])
        return .int (text ++ ['\n']).length) := rfl
  rw [emit, Action.runOn_bind_ok (runOn_find_global system), memberOf_system, pure_bind, member,
    pure_bind, Action.runOn_bind_ok readable, called, bind_assoc]
  simp only [pure_bind]

theorem runOn_emit (isOpen : stream ∉ machine.shut) :
    (emit (.within (depth + 1)) stream.memberName value).runOn machine =
      (.ok .nothing, machine.written stream (text ++ ['\n'])) := by
  rw [runOn_emit_eq system depth readable, Action.runOn_bind_ok (runOn_write isOpen _)]
  rfl

end Streams

end Run
end Program

namespace Transcript

theorem on_write (transcript : Transcript) (stream : Stream) (text : Text) (other : Stream) :
    (transcript.write stream text).on other =
      transcript.on other ++ if stream = other then text else [] := by
  rw [write, on, on, Array.toList_push, List.filter_append, List.flatMap_append]
  congr 1
  by_cases same : stream = other <;> simp [same]

end Transcript

namespace Execution

/-! ## Writers -/

/-- The functions by which a text is listed: one for complaints, and one for all else. -/
inductive Writer where
  | err
  | print

namespace Writer

def name : Writer -> String
  | err => "err"
  | print => "print"

def function : Writer -> Builtin
  | err => .err
  | print => .print

def stream : Writer -> Stream
  | err => .err
  | print => .out

/-- What is to be found under global names. -/
def needs : Writer -> List (Text × Option Value)
  | err =>
      [("sys".toList, some (.module "sys".toList)), ("err".toList, some (.builtin .err)),
       ("str".toList, none)]
  | print => [("print".toList, none), ("str".toList, none)]

end Writer

/-- Global names through which the listing is written. -/
def Lists (writer : Writer) (globals : Bindings) : Prop :=
  ∀ entry ∈ writer.needs, globals.lookup entry.1 = entry.2

/-- Names that are bound while a text is listed. -/
def listingNames : List Text :=
  ["line".toList, "__lineno__".toList]

theorem Writer.needs_apart (writer : Writer) : ∀ entry ∈ writer.needs, entry.1 ∉ listingNames := by
  cases writer <;> decide

namespace Lists

variable {writer : Writer} {globals : Bindings} (lists : Lists writer globals)

include lists

theorem set {name : Text} (listing : name ∈ listingNames) (value : Value) :
    Lists writer (globals.set name value) := by
  intro entry member
  have apart : entry.1 ≠ name := fun same => writer.needs_apart entry member (same ▸ listing)
  rw [Bindings.lookup_set, if_neg apart, lists entry member]

theorem str : globals.lookup "str".toList = none := by
  cases writer with
  | err => exact lists ("str".toList, none) (by decide)
  | print => exact lists ("str".toList, none) (by decide)

end Lists

theorem Lists.system {globals : Bindings} (lists : Lists .err globals) :
    globals.lookup "sys".toList = some (.module "sys".toList) :=
  lists (_, _) List.mem_cons_self

theorem inPlace?_print : Builtin.inPlace? "print".toList = some (.builtin .print) := by decide

theorem runOn_find_writer {writer : Writer} {machine : Machine} (lists : Lists writer machine.globals) :
    (Run.find writer.name.toList).runOn machine = (.ok (.builtin writer.function), machine) := by
  cases writer with
  | err =>
      exact Run.runOn_find_global (lists ("err".toList, some (.builtin .err)) (by decide))
  | print =>
      exact Run.runOn_find_inPlace (lists ("print".toList, none) (by decide)) inPlace?_print

/-- How deep calls can stand inside each other in what the session calls. -/
def innerDepth : Nat :=
  Dispatch.depthLimit - 1

section Writers

variable {writer : Writer} {machine : Machine} (lists : Lists writer machine.globals)

include lists

theorem runOn_call_writer_eq (text : Text) :
    (Dispatch.outermost.call (.builtin writer.function) [.str text]).runOn machine =
      (do
        Run.write writer.stream (text ++ ['\n'])
        return .nothing : Run Value).runOn machine := by
  cases writer with
  | err =>
      exact @Run.runOn_emit_eq machine .err lists.system (innerDepth - 1) _ _
        (Run.runOn_textOf_str text machine)
  | print =>
      have alone : [' '].intercalate [text] = text := by simp
      have called : Dispatch.outermost.call (.builtin .print) [.str text] = (do
          Run.write .out ([' '].intercalate [text] ++ ['\n'])
          return .nothing) := rfl
      change (Dispatch.outermost.call (.builtin .print) [.str text]).runOn machine = _
      rw [called, alone]
      rfl

theorem runOn_call_writer (isOpen : writer.stream ∉ machine.shut) (text : Text) :
    (Dispatch.outermost.call (.builtin writer.function) [.str text]).runOn machine =
      (.ok .nothing, machine.written writer.stream (text ++ ['\n'])) := by
  rw [runOn_call_writer_eq lists, Action.runOn_bind_ok (Run.runOn_write isOpen _)]
  rfl

theorem runOn_callWriter (isOpen : writer.stream ∉ machine.shut) (text : Text) :
    (callNamed writer.name [.str text]).runOn machine =
      (.ok .nothing, machine.written writer.stream (text ++ ['\n'])) := by
  rw [callNamed, Action.runOn_bind_ok (runOn_find_writer lists)]
  exact runOn_call_writer lists isOpen text

theorem runOn_callWriter_shut (isShut : writer.stream ∈ machine.shut) (text : Text) :
    (callNamed writer.name [.str text]).runOn machine =
      (.error (.fault .closedFile), machine) := by
  rw [callNamed, Action.runOn_bind_ok (runOn_find_writer lists), runOn_call_writer_eq lists]
  exact Action.runOn_bind_error (Run.runOn_write_shut isShut _)

end Writers

theorem inPlace?_str : Builtin.inPlace? "str".toList = some (.builtin .str) := by decide

theorem runOn_callStr {machine : Machine} (free : machine.globals.lookup "str".toList = none)
    {number : Nat} (short : number < Scalar.integerBound) :
    (callNamed "str" [.int number]).runOn machine = (.ok (.str (Text.ofNat number)), machine) := by
  rw [callNamed, Action.runOn_bind_ok (Run.runOn_find_inPlace free inPlace?_str)]
  change (do return .str (<- Run.textOf (.int number)) : Run Value).runOn machine = _
  rw [Action.runOn_bind_ok (Run.runOn_textOf_nat short machine)]
  rfl

theorem runOn_callStr_long {machine : Machine} (free : machine.globals.lookup "str".toList = none)
    {number : Nat} (long : Scalar.integerBound ≤ number) :
    (callNamed "str" [.int number]).runOn machine = (.error (.fault .longInteger), machine) := by
  rw [callNamed, Action.runOn_bind_ok (Run.runOn_find_inPlace free inPlace?_str)]
  exact Action.runOn_bind_error (Run.runOn_textOf_long long machine)

theorem runOn_padLeft (width : Nat) (text : Text) (machine : Machine) :
    (callMember (.str text) "rjust" [.int width]).runOn machine =
      (.ok (.str (Text.padLeft width text)), machine) := rfl

/-! ## The listing -/

/-- The machine on which a line is listed. -/
def numbered (machine : Machine) (number : Nat) (line : Text) : Machine :=
  (machine.bound "line".toList (.str line)).bound "__lineno__".toList (.int number)

/-- One line of the listing. -/
theorem runOn_listLines_cons {writer : Writer} {machine : Machine} (lists : Lists writer machine.globals)
    (isOpen : writer.stream ∉ machine.shut) {number : Nat} (short : number < Scalar.integerBound) (line : Text) (rest : List Value) :
    (listLines writer.name number (.str line :: rest)).runOn machine =
      (listLines writer.name (number + 1) rest).runOn
        ((numbered machine number line).written writer.stream (Script.listingLine number line)) := by
  have lists : Lists writer (numbered machine number line).globals :=
    (lists.set (by decide) _).set (by decide) _
  have written := runOn_call_writer lists isOpen
    (' ' :: Text.padLeft Script.numberWidth (Text.ofNat number) ++ ": ".toList ++ line)
  rw [listLines, Action.runOn_bind_ok (Run.runOn_bind _ _ _),
    Action.runOn_bind_ok (Run.runOn_bind _ _ _), ← numbered,
    Action.runOn_bind_ok (runOn_find_writer lists),
    Action.runOn_bind_ok (runOn_callStr lists.str short), Action.runOn_bind_ok (runOn_padLeft _ _ _),
    Action.runOn_bind_ok (Run.runOn_textOf_str _ _), Action.runOn_bind_ok (Run.runOn_textOf_str _ _)]
  exact Action.runOn_bind_ok written

/-- A line whose number cannot be written. -/
theorem runOn_listLines_long {writer : Writer} {machine : Machine} (lists : Lists writer machine.globals)
    {number : Nat} (long : Scalar.integerBound ≤ number) (line : Text) (rest : List Value) :
    (listLines writer.name number (.str line :: rest)).runOn machine =
      (.error (.fault .longInteger), numbered machine number line) := by
  have lists : Lists writer (numbered machine number line).globals :=
    (lists.set (by decide) _).set (by decide) _
  rw [listLines, Action.runOn_bind_ok (Run.runOn_bind _ _ _),
    Action.runOn_bind_ok (Run.runOn_bind _ _ _), ← numbered,
    Action.runOn_bind_ok (runOn_find_writer lists)]
  exact Action.runOn_bind_error (runOn_callStr_long lists.str long)

/-- What a listing leaves behind: a text has been written, the names that it does not use
have kept their values, and nothing runs texts that did not before. -/
structure Listed (stream : Stream) (machine : Machine) (text : Text) (later : Machine) : Prop where
  written : later.transcript.on stream = machine.transcript.on stream ++ text
  other : forall other, other ≠ stream -> later.transcript.on other = machine.transcript.on other
  names : forall name, name ∉ listingNames -> later.globals.lookup name = machine.globals.lookup name
  rest : later = { machine with
    globals := later.globals, lists := later.lists, transcript := later.transcript }
  tame : machine.Tame Bindings.Tame -> later.Tame Bindings.Tame

namespace Listed

variable {stream : Stream} {machine later last : Machine} {text more : Text}

theorem refl (stream : Stream) (machine : Machine) : Listed stream machine [] machine :=
  ⟨(List.append_nil _).symm, fun _ _ => rfl, fun _ _ => rfl, rfl, id⟩

theorem trans (first : Listed stream machine text later) (second : Listed stream later more last) :
    Listed stream machine (text ++ more) last where
  written := by rw [second.written, first.written, List.append_assoc]
  other := fun other apart => (second.other other apart).trans (first.other other apart)
  names := fun name apart => (second.names name apart).trans (first.names name apart)
  rest := by rw [second.rest, first.rest]
  tame := fun tame => second.tame (first.tame tame)

theorem shut_eq (listed : Listed stream machine text later) : later.shut = machine.shut := by
  rw [listed.rest]

theorem lists {writer : Writer} (listed : Listed stream machine text later)
    (lists : Lists writer machine.globals) : Lists writer later.globals := by
  intro entry member
  rw [listed.names _ (writer.needs_apart entry member), lists entry member]

theorem of_written (stream : Stream) (machine : Machine) (text : Text) :
    Listed stream machine text (machine.written stream text) where
  written := by rw [Machine.written, Transcript.on_write, if_pos rfl]
  other := by
    intro other apart
    rw [Machine.written, Transcript.on_write, if_neg apart.symm, List.append_nil]
  names := fun _ _ => rfl
  rest := rfl
  tame := fun tame => ⟨⟨tame.globals, tame.lists, tame.functions, tame.unasked⟩, tame.locals,
    tame.lines⟩

/-- A name of the listing may get a value without anything being written. -/
theorem of_bound (stream : Stream) (machine : Machine) {name : Text} (listing : name ∈ listingNames)
    {value : Value} (harmless : Run.Inside .full value) :
    Listed stream machine [] (machine.bound name value) where
  written := (List.append_nil _).symm
  other := fun _ _ => rfl
  names := by
    intro other apart
    rw [Machine.bound, Bindings.lookup_set, if_neg]
    rintro rfl
    exact apart listing
  rest := rfl
  tame := fun tame => ⟨tame.toSound.withGlobals (tame.globals.set name harmless), tame.locals,
    tame.lines⟩

end Listed

/-- What comes of listing lines from a number on, and what is written.  A number that cannot
be written puts an end to it. -/
def linesOutcome (number : Nat) : List Text -> Except (Halt Fault) Unit × Text
  | [] => (.ok (), [])
  | line :: rest =>
      if number < Scalar.integerBound then
        (linesOutcome (number + 1) rest).map id (Script.listingLine number line ++ ·)
      else (.error (.fault .longInteger), [])

theorem linesOutcome_of_short {number : Nat} {lines : List Text}
    (short : number + lines.length ≤ Scalar.integerBound) :
    linesOutcome number lines = (.ok (), Script.listingFrom number lines) := by
  induction lines generalizing number with
  | nil => rfl
  | cons line rest ih =>
      rw [List.length_cons] at short
      rw [linesOutcome, if_pos (by omega), ih (by omega)]
      rfl

/-- What comes of listing a program on a stream, which may be closed, and what is written. -/
def listingOutcome (isShut : Bool) (program : Text) : Except (Halt Fault) Unit × Text :=
  if isShut then (.error (.fault .closedFile), [])
  else
    match linesOutcome 1 program.lines with
    | (.ok (), written) => (.ok (), "Source:\n".toList ++ written ++ ['\n'])
    | (.error halt, written) => (.error halt, "Source:\n".toList ++ written)

theorem listingOutcome_of_short {program : Text}
    (short : program.lines.length < Scalar.integerBound) :
    listingOutcome false program = (.ok (), Script.listing program) := by
  rw [listingOutcome, linesOutcome_of_short (by omega)]
  rfl

section Listings

variable {writer : Writer} {machine : Machine} (lists : Lists writer machine.globals)

include lists

theorem runOn_listLines (isOpen : writer.stream ∉ machine.shut) (number : Nat) (lines : List Text) :
    Exists fun later =>
      (listLines writer.name number (lines.map .str)).runOn machine =
          ((linesOutcome number lines).1, later) ∧
        Listed writer.stream machine (linesOutcome number lines).2 later := by
  induction lines generalizing machine number with
  | nil => exact ⟨machine, rfl, .refl _ _⟩
  | cons line rest restListed =>
      have named := (@Listed.of_bound writer.stream machine "line".toList (by decide)
        (.str line) rfl).trans
        (@Listed.of_bound writer.stream _ "__lineno__".toList (by decide) (.int number) rfl)
      by_cases short : number < Scalar.integerBound
      · have first := named.trans (.of_written writer.stream (numbered machine number line)
          (Script.listingLine number line))
        rcases restListed (first.lists lists) isOpen (number + 1) with ⟨later, run, restText⟩
        rw [linesOutcome, if_pos short]
        refine ⟨later, ?_, first.trans restText⟩
        rw [List.map_cons, runOn_listLines_cons lists isOpen short]
        exact run
      · rw [linesOutcome, if_neg short]
        exact ⟨_, runOn_listLines_long lists (Nat.not_lt.mp short) _ _, named⟩

/-- The whole listing of the program on an open stream. -/
theorem runOn_list_open {program : Text} (isOpen : writer.stream ∉ machine.shut)
    (found : machine.globals.lookup Workspace.programName = some (.str program)) :
    Exists fun later =>
      (list writer.name).runOn machine = ((listingOutcome false program).1, later) ∧
        Listed writer.stream machine (listingOutcome false program).2 later := by
  -- The heading is written, and the lines of the program become a list.
  let headed := machine.written writer.stream ("Source:".toList ++ ['\n'])
  let counted := headed.bound "__lineno__".toList (.int 0)
  let divided : Machine :=
    { counted with lists := counted.lists.push (program.lines.map Value.str).toArray }
  have heading : Listed writer.stream machine ("Source:".toList ++ ['\n']) headed :=
    .of_written writer.stream machine _
  have counting : Listed writer.stream headed [] divided := by
    have bound := @Listed.of_bound writer.stream headed "__lineno__".toList (by decide) (.int 0) rfl
    refine ⟨bound.written, bound.other, bound.names, rfl, fun tame => ?_⟩
    have kept := bound.tame tame
    refine ⟨kept.toSound.withLists ?_, kept.locals, kept.lines⟩
    intro items member value inItems
    rcases Array.mem_push.mp member with old | rfl
    · exact tame.lists old inItems
    · rcases List.mem_map.mp (List.mem_toArray.mp inItems) with ⟨line, _, rfl⟩
      rfl
  have program' : counted.globals.lookup Workspace.programName = some (.str program) := by
    change (machine.globals.set _ _).lookup _ = _
    rw [Bindings.lookup_set, if_neg (by decide), found]
  have split : (callMember (.str program) "split" [.str ['\n']]).runOn counted =
      (.ok (.list counted.lists.size), divided) := rfl
  have items : (Run.elements (.list counted.lists.size)).runOn divided =
      (.ok (program.lines.map .str), divided) := by
    rw [Run.elements, Action.runOn_bind_ok (Action.runOn_get divided)]
    have last : divided.items counted.lists.size = (program.lines.map Value.str).toArray := by
      simp [divided, Machine.items]
    rw [last]
    rfl
  have begun := heading.trans counting
  rcases runOn_listLines (begun.lists lists) isOpen 1 program.lines with ⟨listed, run, lines⟩
  have whole := begun.trans lines
  rw [list, Action.runOn_bind_ok (runOn_callWriter lists isOpen _),
    Action.runOn_bind_ok (Run.runOn_bind _ _ _),
    Action.runOn_bind_ok (Run.runOn_find_global program'), Action.runOn_bind_ok split,
    Action.runOn_bind_ok items, listingOutcome, if_neg Bool.false_ne_true]
  -- An empty line follows only if all the lines have been listed.
  rcases outcome : linesOutcome 1 program.lines with ⟨result, written⟩
  rw [outcome] at run whole
  cases result with
  | error => exact ⟨listed, Action.runOn_bind_error run, whole⟩
  | ok =>
      refine ⟨listed.written writer.stream ([] ++ ['\n']), ?_,
        whole.trans (.of_written writer.stream listed ([] ++ ['\n']))⟩
      have still : writer.stream ∉ listed.shut := whole.shut_eq ▸ isOpen
      rw [Action.runOn_bind_ok run, Action.runOn_bind_ok (runOn_callWriter (whole.lists lists) still _)]
      rfl

/-- The listing of the program, whether the stream is open or not. -/
theorem runOn_list_outcome {program : Text}
    (found : machine.globals.lookup Workspace.programName = some (.str program)) :
    Exists fun later =>
      (list writer.name).runOn machine =
          ((listingOutcome (machine.shut.contains writer.stream) program).1, later) ∧
        Listed writer.stream machine
          (listingOutcome (machine.shut.contains writer.stream) program).2 later := by
  cases shut : machine.shut.contains writer.stream with
  | true =>
      have isShut : writer.stream ∈ machine.shut := List.contains_iff_mem.mp shut
      refine ⟨machine, ?_, .refl _ _⟩
      rw [list]
      exact Action.runOn_bind_error (runOn_callWriter_shut lists isShut _)
  | false => exact runOn_list_open lists (by simpa using shut) found

theorem runOn_list {program : Text} (isOpen : writer.stream ∉ machine.shut)
    (found : machine.globals.lookup Workspace.programName = some (.str program))
    (short : program.lines.length < Scalar.integerBound) :
    Exists fun later => (list writer.name).runOn machine = (.ok (), later) ∧
      Listed writer.stream machine (Script.listing program) later := by
  have listed := runOn_list_open lists isOpen found
  rwa [listingOutcome_of_short short] at listed

end Listings

section Failures

variable {machine : Machine} (lists : Lists .err machine.globals) {program : Text}
  (found : machine.globals.lookup Workspace.programName = some (.str program))
  {options : Command.Options}
  (chosen : machine.globals.lookup Workspace.optionsName = some (Workspace.optionsRecord options))
  (quiet : options.debug = false)

include lists found chosen quiet

/-- After a failure the program is listed, unless it was listed before. -/
theorem runOn_regret_outcome :
    Exists fun later =>
      regret.runOn machine = ((listingOutcome (machine.shut.contains .err) program).1, later) ∧
        Listed .err machine (listingOutcome (machine.shut.contains .err) program).2 later := by
  have member : Run.memberOf (Workspace.optionsRecord options) "debug".toList =
      pure (.bool false) := by
    rw [← quiet]
    rfl
  rw [regret, Action.runOn_bind_ok (Run.runOn_find_global chosen), member, pure_bind,
    Action.runOn_bind_ok (Action.runOn_get machine)]
  exact @runOn_list_outcome .err machine lists program found

theorem runOn_regret (isOpen : Stream.err ∉ machine.shut)
    (short : program.lines.length < Scalar.integerBound) :
    Exists fun later => regret.runOn machine = (.ok (), later) ∧
      Listed .err machine (Script.listing program) later := by
  have listed := runOn_regret_outcome lists found chosen quiet
  have shut : machine.shut.contains .err = false := by simpa using isOpen
  rwa [shut, listingOutcome_of_short short] at listed

end Failures

end Execution
end Oneliner
