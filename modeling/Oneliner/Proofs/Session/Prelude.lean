import Oneliner.Proofs.Program.Coverage
import Oneliner.Proofs.Session.Writing

namespace Oneliner
namespace Execution

open Program
open Workspace

/-!
A session up to the point where its function is called.

As long as the names on which it depends have their first meanings, the session does
what a plain one does.  What it leaves behind is the code that it has expanded, in lists
of characters, and the names of what it knows.
-/

/-! ## Names -/

/-- The global names before a script is there. -/
def placed : Bindings :=
  initial.setAll helpers

/-- The names that a session gives to what it knows of a script, or takes away. -/
def scriptNames : List Text :=
  ["before_code".toList, "after_code".toList, "except_code".toList, "indented_code".toList,
    "i".toList, programName, functionName, "args".toList]

/-- The global names with which a script is run. -/
def runGlobals (options : Command.Options) : Bindings :=
  withScript (.ofOptions options) (placed.set optionsName (optionsRecord options))

theorem lookup_setAll {bindings more : Bindings} {name : Text}
    (apart : ∀ entry ∈ more, entry.1 ≠ name) :
    (bindings.setAll more).lookup name = bindings.lookup name := by
  induction more generalizing bindings with
  | nil => rfl
  | cons first rest restLookup =>
      rcases List.forall_mem_cons.mp apart with ⟨firstApart, restApart⟩
      have step : bindings.setAll (first :: rest) = (bindings.set first.1 first.2).setAll rest := rfl
      rw [step, restLookup restApart, Bindings.lookup_set, if_neg firstApart.symm]

theorem lookup_setAll_last (bindings more : Bindings) (name : Text) (value : Value) :
    (bindings.setAll (more ++ [(name, value)])).lookup name = some value := by
  have step : bindings.setAll (more ++ [(name, value)]) = (bindings.setAll more).set name value :=
    List.foldl_append
  rw [step, Bindings.lookup_set, if_pos rfl]

/-- Of several variables with different names, each has its value in the end. -/
theorem lookup_setAll_of_mem {bindings more : Bindings} (different : (more.map Prod.fst).Nodup)
    {entry : Text × Value} (member : entry ∈ more) :
    (bindings.setAll more).lookup entry.1 = some entry.2 := by
  induction more generalizing bindings with
  | nil => cases member
  | cons first rest restLookup =>
      rcases List.nodup_cons.mp different with ⟨fresh, restDifferent⟩
      have step : bindings.setAll (first :: rest) = (bindings.set first.1 first.2).setAll rest := rfl
      rw [step]
      rcases List.mem_cons.mp member with rfl | later
      · have apart : ∀ other ∈ rest, other.1 ≠ entry.1 :=
          fun other inRest same => fresh (same ▸ List.mem_map_of_mem inRest)
        rw [lookup_setAll apart, Bindings.lookup_set, if_pos rfl]
      · exact restLookup restDifferent later

theorem mem_codeBinding {name : String} {code : Option Text} {entry : Text × Value}
    (member : entry ∈ codeBinding name code) :
    entry.1 = name.toList ∧ entry.2.allowed .isolated = true := by
  cases code with
  | none => cases member
  | some text =>
      rw [List.mem_singleton.mp member]
      exact ⟨rfl, rfl⟩

theorem mem_scriptBindings {script : Script} {entry : Text × Value}
    (member : entry ∈ scriptBindings script) :
    entry.1 ∈ scriptNames ∧ entry.2.allowed .isolated = true := by
  have names : ∀ name ∈ ["before_code", "after_code", "except_code", "indented_code", "i",
      "__pypefn__"], name.toList ∈ scriptNames := by decide
  rw [scriptBindings, List.mem_append] at member
  rcases member with code | known
  · rcases List.mem_append.mp code with outside | handler
    · rcases List.mem_append.mp outside with before | after
      · rcases mem_codeBinding before with ⟨same, inside⟩
        exact ⟨same ▸ names _ (by decide), inside⟩
      · rcases mem_codeBinding after with ⟨same, inside⟩
        exact ⟨same ▸ names _ (by decide), inside⟩
    · rcases mem_codeBinding handler with ⟨same, inside⟩
      exact ⟨same ▸ names _ (by decide), inside⟩
  · simp only [List.mem_cons, List.not_mem_nil, or_false] at known
    rcases known with rfl | rfl | rfl
    · exact ⟨names "indented_code" (by decide), rfl⟩
    · exact ⟨names "i" (by decide), rfl⟩
    · exact ⟨names "__pypefn__" (by decide), rfl⟩

/-- The names that the session binds or takes away for a script. -/
def takenNames (script : Script) : List Text :=
  (scriptBindings script).map Prod.fst ++ removed

/-- All other names keep their values. -/
theorem lookup_withScript_of_not_taken {script : Script} (globals : Bindings) {name : Text}
    (apart : name ∉ takenNames script) :
    (withScript script globals).lookup name = globals.lookup name := by
  rw [takenNames, List.mem_append, not_or] at apart
  have unequal : ∀ other ∈ removed, name ≠ other := fun other member same => apart.2 (same ▸ member)
  have both : withScript script globals =
      ((globals.setAll (scriptBindings script)).remove functionName).remove "args".toList := rfl
  rw [both, Bindings.lookup_remove, if_neg (unequal _ (by decide)), Bindings.lookup_remove,
    if_neg (unequal _ (by decide)), lookup_setAll]
  exact fun entry member same => apart.1 (same ▸ List.mem_map_of_mem member)

/-- Names that have nothing to do with the script keep their values. -/
theorem lookup_withScript (script : Script) (globals : Bindings) {name : Text}
    (apart : name ∉ scriptNames) : (withScript script globals).lookup name = globals.lookup name := by
  apply lookup_withScript_of_not_taken
  rw [takenNames, List.mem_append, not_or]
  constructor
  · intro member
    rcases List.mem_map.mp member with ⟨entry, inScript, rfl⟩
    exact apart (mem_scriptBindings inScript).1
  · have names : ∀ other ∈ removed, other ∈ scriptNames := by decide
    exact fun member => apart (names name member)

theorem lookup_programName (script : Script) (globals : Bindings) :
    (withScript script globals).lookup programName = some (.str script.text) := by
  have both : withScript script globals =
      ((globals.setAll (scriptBindings script)).remove functionName).remove "args".toList := rfl
  rw [both, Bindings.lookup_remove, if_neg (by decide), Bindings.lookup_remove, if_neg (by decide)]
  have last : Exists fun more => scriptBindings script = more ++ [(programName, .str script.text)] :=
    ⟨_, (List.append_assoc _ [_, _] [_]).symm⟩
  rcases last with ⟨more, last⟩
  rw [last, lookup_setAll_last]

theorem lookup_runGlobals (options : Command.Options) {name : Text}
    (apart : name ∉ optionsName :: scriptNames) :
    (runGlobals options).lookup name = placed.lookup name := by
  rw [List.mem_cons, not_or] at apart
  rw [runGlobals, lookup_withScript _ _ apart.2, Bindings.lookup_set, if_neg apart.1]

theorem lookup_optionsName (options : Command.Options) :
    (runGlobals options).lookup optionsName = some (optionsRecord options) := by
  rw [runGlobals, lookup_withScript _ _ (by decide), Bindings.lookup_set, if_pos rfl]

/-! ## Names that give no access -/

section Allowed

variable {access : Access} {globals : Bindings}

theorem allowed_helpers (allowed : globals.Allowed access) :
    (globals.setAll helpers).Allowed access := by
  have inside : ∀ entry ∈ helpers, entry.2.allowed .isolated = true := by decide
  exact allowed.setAll fun entry member => Value.allowed_of_isolated (inside entry member)

theorem allowed_withScript (script : Script) (allowed : globals.Allowed access) :
    (withScript script globals).Allowed access := by
  have both : withScript script globals =
      ((globals.setAll (scriptBindings script)).remove functionName).remove "args".toList := rfl
  rw [both]
  refine ((allowed.setAll fun entry member => ?_).remove _).remove _
  exact Value.allowed_of_isolated (mem_scriptBindings member).2

theorem allowed_initial : initial.Allowed access := by
  have inside : ∀ entry ∈ initial, entry.2.allowed .isolated = true := by decide
  exact .of_mem fun entry member => Value.allowed_of_isolated (inside entry member)

theorem allowed_runGlobals (options : Command.Options) : (runGlobals options).Allowed access :=
  allowed_withScript _ ((allowed_helpers allowed_initial).set _ rfl)

/-- What is found under a name to which no program has given a value. -/
def foundFirst (name : Text) : Option Value :=
  (placed.lookup name).or (Builtin.inPlace? name)

/-- The functions that give access to something are not there in full. -/
theorem names_of_isUsable {known : Vocabulary} (first : known.found = foundFirst) {name : Text}
    (usable : known.isUsable name = true) : access.names name = true := by
  have incomplete : ∀ name ∈ outsideNames, (foundFirst name).any Value.isPartial = true := by
    decide
  apply access.names_of_not_mem
  intro outside
  rcases (Option.any_eq_true _ _).mp (incomplete name outside) with ⟨value, found, isPartial⟩
  rw [Vocabulary.isUsable, Vocabulary.isFunction, first, found] at usable
  cases value with
  | builtin function =>
      change function.completeFor 1 = true at usable
      rw [Value.isPartial, usable] at isPartial
      cases isPartial
  | _ => cases isPartial

theorem members_of_complete : ∀ name ∈ Method.format.name :: completeMethods,
    access.members name = true := by
  have apart : ∀ name ∈ Method.format.name :: completeMethods, name ∉ outsideMembers := by decide
  exact fun name member => access.members_of_not_mem (apart name member)

end Allowed

/-! ## Getting ready -/

/-- Names through which a session finds what it needs. -/
def sessionNames : List Text :=
  [roleName, placeName, readerName, versionName] ++
    ["list", "range", "len", "print", "str", "exec", "sys"].map String.toList

/-- The names on which a session depends have their first meanings. -/
def Intact (globals : Bindings) : Prop :=
  ∀ name ∈ sessionNames, globals.lookup name = initial.lookup name

theorem intact_initial : Intact initial :=
  fun _ _ => rfl

theorem lookup_helpers {globals : Bindings} {name : Text} (apart : name ∉ helpers.map Prod.fst) :
    (globals.setAll helpers).lookup name = globals.lookup name :=
  lookup_setAll fun _ member same => apart (same ▸ List.mem_map_of_mem member)

theorem lookup_helper {globals : Bindings} {entry : Text × Value} (member : entry ∈ helpers) :
    (globals.setAll helpers).lookup entry.1 = some entry.2 :=
  lookup_setAll_of_mem (by decide) member

/-- The helpers leave all names alone on which a session depends. -/
theorem Intact.lookup_helped {globals : Bindings} (intact : Intact globals) {name : Text}
    (member : name ∈ sessionNames) : (globals.setAll helpers).lookup name = initial.lookup name := by
  have apart : ∀ name ∈ sessionNames, name ∉ helpers.map Prod.fst := by decide
  rw [lookup_helpers (apart name member), intact name member]

theorem runOn_prepare {machine : Machine} (intact : Intact machine.globals) :
    prepare.runOn machine =
      (.ok (some Command.version), { machine with globals := machine.globals.setAll helpers }) := by
  have helped : (modify fun machine : Machine =>
      { machine with globals := machine.globals.setAll helpers } : Run Unit).runOn machine =
        (.ok (), { machine with globals := machine.globals.setAll helpers }) := rfl
  rw [prepare, Action.runOn_bind_ok helped]
  generalize same : ({ machine with globals := machine.globals.setAll helpers } : Machine) = ready
  have names : ∀ name ∈ sessionNames, ready.globals.lookup name = initial.lookup name := by
    rw [← same]
    exact fun _ => intact.lookup_helped
  have firsts : initial.lookup roleName = some (.str mainRole) ∧
      initial.lookup placeName = some (.module "builtins".toList) ∧
      initial.lookup readerName = some reader ∧
      initial.lookup versionName = some (.str Command.version) := by
    decide
  rcases firsts with ⟨roleFirst, placeFirst, readerFirst, versionFirst⟩
  have role : (Run.find roleName).runOn ready = (.ok (.str mainRole), ready) :=
    Run.runOn_find_global ((names _ (by decide)).trans roleFirst)
  have known : (Run.same (.str mainRole) (.str mainRole)).runOn ready = (.ok true, ready) := rfl
  have place : checkPlace.runOn ready = (.ok (), ready) := by
    rw [checkPlace,
      Action.runOn_bind_ok (Run.runOn_find_global ((names _ (by decide)).trans placeFirst))]
    rfl
  have found : (Run.find readerName).runOn ready = (.ok reader, ready) :=
    Run.runOn_find_global ((names _ (by decide)).trans readerFirst)
  have checked : checkReader.runOn ready = (.ok (), ready) := by
    rw [checkReader, Action.runOn_bind_ok found]
    rfl
  have version : (Run.find versionName).runOn ready = (.ok (.str Command.version), ready) :=
    Run.runOn_find_global ((names _ (by decide)).trans versionFirst)
  rw [Action.runOn_bind_ok role, Action.runOn_bind_ok known, Bool.not_true, if_neg Bool.false_ne_true,
    Action.runOn_bind_ok place, Action.runOn_bind_ok checked, Action.runOn_bind_ok version]
  change (do
    let found <- Run.find readerName
    if found = reader then return some Command.version
    else Run.fail (.noMember found.typeName "add_option".toList) : Run (Option Text)).runOn ready = _
  rw [Action.runOn_bind_ok found, if_pos rfl]
  rfl

/-! ## Expanding code -/

/-- The machine after it has made a list of the characters of a piece of code. -/
def withCode (machine : Machine) (code : Text) : Machine :=
  { machine with
    lists := machine.lists.push (code.map fun char => Value.str [char]).toArray }

theorem length_pieces (scan : Braces.Scan) (code : Text) :
    (scan.pieces code).length = code.length := by
  induction code generalizing scan with
  | nil => rfl
  | cons char rest restLength => rw [Braces.Scan.pieces, List.length_cons, restLength, List.length_cons]

theorem expandFront_length (code : Text) : Braces.expandFront code.length code = Braces.expand code := by
  rw [Braces.expandFront, Braces.expand, ← length_pieces .start code, List.take_length]

theorem charsOf_chars (code : Text) :
    charsOf (code.map fun char => Value.str [char]) = code := by
  induction code with
  | nil => rfl
  | cons char rest restChars => exact congrArg (char :: ·) restChars

/-- Names of functions in place by which code is expanded. -/
def expandingNames : List Text :=
  ["list".toList, "range".toList, "len".toList]

theorem runOn_expand {machine : Machine}
    (free : ∀ name ∈ expandingNames, machine.globals.lookup name = none) (code : Text) :
    (expand code).runOn machine = (.ok (Braces.expand code), withCode machine code) := by
  have listKnown : Builtin.inPlace? "list".toList = some (.builtin .list) := by decide
  have lengthKnown : Builtin.inPlace? "len".toList = some (.builtin .length) := by decide
  have rangeKnown : Builtin.inPlace? "range".toList = some (.builtin .range) := by decide
  have listed : (callNamed "list" [.str code]).runOn machine =
      (.ok (.list machine.lists.size), withCode machine code) := by
    rw [callNamed,
      Action.runOn_bind_ok (Run.runOn_find_inPlace (free _ (by decide)) listKnown)]
    rfl
  have free : ∀ name ∈ expandingNames, (withCode machine code).globals.lookup name = none := free
  have counted : (callNamed "len" [.str code]).runOn (withCode machine code) =
      (.ok (.int code.length), withCode machine code) := by
    rw [callNamed,
      Action.runOn_bind_ok (Run.runOn_find_inPlace (free _ (by decide)) lengthKnown)]
    rfl
  have items : (withCode machine code).items machine.lists.size =
      (code.map fun char => Value.str [char]).toArray := by
    simp [withCode, Machine.items]
  have numbering : (Run.find "range".toList).runOn (withCode machine code) =
      (.ok (.builtin .range), withCode machine code) :=
    Run.runOn_find_inPlace (free _ (by decide)) rangeKnown
  have numbered : (Dispatch.outermost.call (.builtin .range) [.int code.length]).runOn
      (withCode machine code) = (.ok (.range 0 code.length), withCode machine code) := rfl
  rw [expand, Action.runOn_bind_ok listed]
  simp only []
  rw [Action.runOn_bind_ok (Action.runOn_get _), items, charsOf_chars,
    Action.runOn_bind_ok numbering, Action.runOn_bind_ok counted, Action.runOn_bind_ok numbered,
    windowCount, pure_bind, Int.toNat_natCast, if_pos (Nat.le_refl _), expandFront_length]
  rfl

/-! ## The whole prelude -/

/-- The characters of pieces of code, in lists. -/
def charLists (codes : List Text) : Array (Array Value) :=
  (codes.map fun code => (code.map fun char => Value.str [char]).toArray).toArray

/-- The pieces of code that are expanded, in order. -/
def codes (options : Command.Options) : List Text :=
  (Script.present options.before).toList ++ (Script.present options.after).toList ++
    (Script.present options.handler).toList ++ [Script.joinCode options.code]

theorem withCodes_eq (codes : List Text) (machine : Machine) :
    codes.foldl withCode machine =
      { machine with lists := machine.lists ++ charLists codes } := by
  induction codes generalizing machine with
  | nil => simp [charLists]
  | cons code rest restLists =>
      rw [List.foldl_cons, restLists, withCode]
      simp [charLists]

theorem runOn_expandPresent {machine : Machine}
    (free : ∀ name ∈ expandingNames, machine.globals.lookup name = none) (code : Option Text) :
    (engine.expandPresent code).runOn machine =
      (.ok (code.map Braces.expand), code.toList.foldl withCode machine) := by
  cases code with
  | none => rfl
  | some code =>
      have mapped : engine.expandPresent (some code) =
          expand code >>= fun expanded => pure (some expanded) := map_eq_pure_bind _ _
      rw [mapped, Action.runOn_bind_ok (runOn_expand free code)]
      rfl

theorem runOn_scriptOf {machine : Machine}
    (free : ∀ name ∈ expandingNames, machine.globals.lookup name = none)
    (options : Command.Options) :
    (engine.scriptOf options).runOn machine =
      (.ok (.ofOptions options), (codes options).foldl withCode machine) := by
  have later : forall (codes : List Text) {machine : Machine},
      (∀ name ∈ expandingNames, machine.globals.lookup name = none) ->
        ∀ name ∈ expandingNames, (codes.foldl withCode machine).globals.lookup name = none := by
    intro codes machine free
    rw [withCodes_eq]
    exact free
  have beforeFree := later (Script.present options.before).toList free
  have afterFree := later (Script.present options.after).toList beforeFree
  have handlerFree := later (Script.present options.handler).toList afterFree
  rw [Engine.scriptOf, codes, List.foldl_append, List.foldl_append, List.foldl_append,
    Action.runOn_bind_ok (runOn_expandPresent free _),
    Action.runOn_bind_ok (runOn_expandPresent beforeFree _),
    Action.runOn_bind_ok (runOn_expandPresent afterFree _)]
  exact Action.runOn_bind_ok (runOn_expand handlerFree _)

/-- The machine on which a script is run, made from one on which nothing has been read. -/
def readied (options : Command.Options) (machine : Machine) : Machine :=
  { machine with
    globals := withScript (.ofOptions options)
      ((machine.globals.setAll helpers).set optionsName (optionsRecord options))
    lists := machine.lists ++ charLists (codes options) }

/-- Names that have nothing to do with the session keep their values. -/
theorem lookup_readied {options : Command.Options} (machine : Machine) {name : Text}
    (apart : name ∉ optionsName :: helpers.map Prod.fst) (free : name ∉ takenNames (.ofOptions options)) :
    (readied options machine).globals.lookup name = machine.globals.lookup name := by
  rw [List.mem_cons, not_or] at apart
  change (withScript _ _).lookup name = _
  rw [lookup_withScript_of_not_taken _ free, Bindings.lookup_set, if_neg apart.1,
    lookup_helpers apart.2]

/-- The machine on which the helpers are in place. -/
def helped (machine : Machine) : Machine :=
  { machine with globals := machine.globals.setAll helpers }

/-- The machine that has taken note of options. -/
def accepted (options : Command.Options) (machine : Machine) : Machine :=
  { helped machine with globals := (helped machine).globals.set optionsName (optionsRecord options) }

theorem runOn_accept (options : Command.Options) (machine : Machine) :
    (accept options).runOn (helped machine) = (.ok (), accepted options machine) := rfl

/-- The steps that lead from options to a script. -/
theorem runOn_translate {machine : Machine} (intact : Intact machine.globals)
    (options : Command.Options) :
    (engine.scriptOf options).runOn (accepted options machine) =
      (.ok (.ofOptions options), (codes options).foldl withCode (accepted options machine)) := by
  apply runOn_scriptOf
  have names : ∀ name ∈ expandingNames,
      name ≠ optionsName ∧ name ∈ sessionNames ∧ initial.lookup name = none := by
    decide
  intro name member
  rcases names name member with ⟨apart, needed, first⟩
  change ((machine.globals.setAll helpers).set _ _).lookup name = none
  rw [Bindings.lookup_set, if_neg apart, intact.lookup_helped needed, first]

theorem runOn_settle (options : Command.Options) (machine : Machine) :
    (settle (.ofOptions options)).runOn ((codes options).foldl withCode (accepted options machine)) =
      (.ok (), readied options machine) := by
  rw [withCodes_eq]
  rfl

/-- The engine in which it is left open what comes of running the text of the startup file,
of running the text of a script and of calling the function. -/
def engineWith (execute : Text -> Run Unit) (define call : Run Unit) : Engine Machine Fault :=
  { engine with load := load execute, define := fun _ => define, call := call }

theorem runOn_commandLine {machine : Machine} {arguments : List Text}
    (told : commandWords machine = .ok arguments) :
    commandLine.runOn machine = (.ok arguments, machine) := by
  rw [commandLine, Action.runOn_bind_ok (Action.runOn_get machine), told]
  rfl

section Obeying

variable {machine : Machine} (intact : Intact machine.globals) {arguments : List Text}
  (told : commandWords machine = .ok arguments) (width : Int)

include intact told

/-- The command line is taken as it stands by then. -/
theorem runOn_obeyTold (execute : Text -> Run Unit) (define call : Run Unit) :
    ((engineWith execute define call).obey width).runOn machine =
      ((engineWith execute define call).carryOut Command.version width
        (Command.Options.ofArguments arguments)).runOn (helped machine) := by
  have prepared : (engineWith execute define call).prepare.runOn machine =
      (.ok (some Command.version), helped machine) := runOn_prepare intact
  have asked : (engineWith execute define call).arguments.runOn (helped machine) =
      (.ok arguments, helped machine) := @runOn_commandLine (helped machine) _ told
  rw [Engine.obey, Action.runOn_bind_ok prepared]
  exact Action.runOn_bind_ok asked

variable {options : Command.Options}
  (chosen : Command.Options.ofArguments arguments = .ok options)
  (fitting : options.conflicting = false)

include chosen fitting

/-- A session with options that go together comes to its script on the machine that is ready
for it. -/
theorem runOn_obeyWith (execute : Text -> Run Unit) (define call : Run Unit) :
    ((engineWith execute define call).obey width).runOn machine =
      (.ok (some (.ofOptions options)), readied options machine) := by
  have taken : ((engineWith execute define call).accept options).runOn (helped machine) =
      (.ok (), accepted options machine) := runOn_accept options machine
  have translated :
      ((engineWith execute define call).scriptOf options).runOn (accepted options machine) =
        (.ok (.ofOptions options), (codes options).foldl withCode (accepted options machine)) :=
    runOn_translate intact options
  have settled : ((engineWith execute define call).settle (.ofOptions options)).runOn
      ((codes options).foldl withCode (accepted options machine)) = (.ok (), readied options machine) :=
    runOn_settle options machine
  rw [runOn_obeyTold intact told, chosen, Engine.carryOut, Action.runOn_bind_ok taken,
    if_neg (by rw [fitting]; exact Bool.false_ne_true), Action.runOn_bind_ok translated,
    Action.runOn_bind_ok settled]
  rfl

theorem runOn_obey :
    (engine.obey width).runOn machine = (.ok (some (.ofOptions options)), readied options machine) :=
  runOn_obeyWith intact told width chosen fitting Dispatch.outermost.execute define call

end Obeying

/-- The machine on which a script is run without a startup file. -/
def ready (options : Command.Options) (arguments : List Text) (input : Text) : Machine :=
  { start arguments input with
    globals := runGlobals options
    lists := charLists (codes options) }

/-- Without a startup file, a session with options that go together runs its script on
the machine that is ready for it. -/
theorem ofSession_eq_perform (width : Int) {arguments : List Text} {options : Command.Options}
    (chosen : Command.Options.ofArguments arguments = .ok options)
    (fitting : options.conflicting = false) (input : Text) :
    ofSession none width arguments input =
      (engine.perform (.ofOptions options)).runOn (ready options arguments input) := by
  have same : readied options (start arguments input) = ready options arguments input := by
    simp [readied, start, ready, runGlobals, placed]
  rw [← same]
  exact Action.runOn_bind_ok
    (@runOn_obey (start arguments input) intact_initial _ rfl width _ chosen fitting)

end Execution
end Oneliner
