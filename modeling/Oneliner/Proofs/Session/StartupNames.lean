import Oneliner.Proofs.Script.Validity
import Oneliner.Proofs.Session.Arrival
import Oneliner.Proofs.Session.Startup

namespace Oneliner
namespace Execution

open Program
open Workspace

/-!
Names of the startup file in the code of a session.

Between the startup file and the call of the function the session gives values to names
of its own and takes some names away.  All other names of the startup file keep their
values, and the function cannot change them as long as no texts are run in it.
-/

/-! ## Tame names -/

/-- Getting ready for a script brings in nothing that runs texts. -/
theorem tame_readied {machine : Machine} (tame : machine.Tame Bindings.Tame)
    (options : Command.Options) : (readied options machine).Tame Bindings.Tame where
  globals := allowed_withScript _ ((allowed_helpers tame.globals).set optionsName rfl)
  locals := tame.locals
  lists := by
    intro items member value inItems
    rcases Array.mem_append.mp member with old | code
    · exact tame.lists old inItems
    · rcases List.mem_map.mp (List.mem_toArray.mp code) with ⟨code, _, rfl⟩
      rcases List.mem_map.mp (List.mem_toArray.mp inItems) with ⟨char, _, rfl⟩
      rfl
  functions := tame.functions
  unasked := tame.unasked
  lines := tame.lines

theorem tame_defined {machine : Machine} (tame : machine.Tame Bindings.Tame) {function : Function}
    (harmless : function.body.tame = true) : (defined machine function).Tame Bindings.Tame where
  globals := tame.globals.set functionName rfl
  locals := tame.locals
  lists := tame.lists
  functions := by
    intro other member
    rcases Array.mem_push.mp member with old | rfl
    · exact tame.functions old
    · exact Stmt.usesOnly_mono (Words.meet_inside id _ _) harmless
  unasked := tame.unasked
  lines := tame.lines

/-! ## Names that are not free for a startup file -/

/-- Names that a startup file had better leave alone: those of the helpers and of the
function's own variables, those with two underscores in front, and all that have a
meaning from the start. -/
def reserved (name : Text) : Bool :=
  ["out", "err", "stdout", "stderr", "stdin", "_"].any (·.toList = name) ||
    "__".toList.isPrefixOf name || (Builtin.inPlace? name).isSome || (initial.lookup name).isSome

/-- Names that the session itself binds or takes away after the startup file. -/
def overwrittenNames (options : Command.Options) : List Text :=
  takenNames (.ofOptions options) ++ if options.debug then listingNames else []

/-- Names on which a session depends after the startup file. -/
def keptNames : List Text :=
  fileName :: sessionNames ++ ["int".toList, "float".toList]

/-- None of these names is free for a startup file, nor are those of the helpers and of the
function's own variables. -/
theorem eq_fileName_or_reserved : ∀ name ∈ keptNames ++
    ((optionsName :: helpers.map Prod.fst) ++ (inputMember :: Script.ownNames)),
      name = fileName ∨ reserved name = true := by
  decide +kernel

/-- What holds of the global names while a startup file is run. -/
structure Kept (globals : Bindings) : Prop where
  tame : globals.Tame
  same : ∀ name ∈ keptNames, globals.lookup name = (initial.set fileName .file).lookup name

/-- A startup file that runs through, runs no texts of its own, and only gives values to
names that are free for it. -/
structure Starts (text : Text) (words : List Text) (input : Text) (program : Stmt)
    (loaded : Machine) : Prop where
  read : Stmt.ofText text.normalizeNewlines = .ok program
  tame : program.tame = true
  free : ∀ name ∈ program.assigned, reserved name = false ∧ name ≠ fileName
  run : (program.exec (.within innerDepth) .global).runOn (opened words input) = (.ok (), loaded)

namespace Starts

variable {text input : Text} {words : List Text} {program : Stmt} {loaded : Machine}
  (starts : Starts text words input program loaded)

theorem tame_opened (words : List Text) (input : Text) : (opened words input).Tame Kept where
  globals := ⟨allowed_initial.set fileName rfl, fun _ _ => rfl⟩
  locals := .empty
  lists := fun member => absurd member (Array.not_mem_empty _)
  functions := fun member => absurd member (Array.not_mem_empty _)
  unasked := fun _ => rfl
  lines := fun _ => Text.isInputLine_of_mem

include starts

/-- The startup file leaves the names alone on which the session depends. -/
theorem tame_loaded : loaded.Tame Kept := by
  have may : ∀ name ∈ program.assigned, Scope.global.MayAssign .full Kept name := by
    intro name member _ bindings value kept harmless
    rcases starts.free name member with ⟨unreserved, apart⟩
    refine ⟨kept.tame.set name harmless, fun other inKept => ?_⟩
    have unequal : other ≠ name := by
      rintro rfl
      rcases eq_fileName_or_reserved other (List.mem_append_left _ inKept) with same | isReserved
      · exact apart same
      · exact Bool.false_ne_true (unreserved.symm.trans isReserved)
    rw [Bindings.lookup_set, if_neg unequal, kept.same other inKept]
  have quiet := @Dispatch.sound_within .full Kept Kept.tame innerDepth
  exact ((Stmt.alone_exec quiet (.refl rfl) may starts.tame).later (tame_opened words input)
    starts.run).1

theorem lookup_loaded {name : Text} (member : name ∈ keptNames) :
    loaded.globals.lookup name = (initial.set fileName .file).lookup name :=
  starts.tame_loaded.globals.same name member

theorem lookup_closed_loaded {name : Text} (member : name ∈ keptNames) (apart : name ≠ fileName) :
    (closed loaded).globals.lookup name = initial.lookup name := by
  rw [lookup_closed loaded apart, starts.lookup_loaded member, Bindings.lookup_set, if_neg apart]

theorem intact : Intact (closed loaded).globals := by
  have within : ∀ name ∈ sessionNames, name ∈ keptNames ∧ name ≠ fileName := by decide
  exact fun name member => starts.lookup_closed_loaded (within name member).1 (within name member).2

theorem ofSession_eq (width : Int) :
    ofSession (some text) width words input =
      (engine.obey width >>= engine.finish).runOn (closed loaded) := by
  have run : (Dispatch.outermost.execute text.normalizeNewlines).runOn (opened words input) =
      (.ok (), loaded) := by
    change (Run.ofExcept (Stmt.ofText text.normalizeNewlines) >>= fun program =>
      program.exec (.within innerDepth) .global).runOn (opened words input) = _
    rw [starts.read]
    exact starts.run
  have file : loaded.globals.lookup fileName = some .file := by
    rw [starts.lookup_loaded (by decide), Bindings.lookup_set, if_pos rfl]
  have approached : (engine.approach (some text) width).runOn (start words input) =
      (engine.obey width).runOn (closed loaded) := runOn_approach_some run file define call width
  rw [ofSession, Engine.session, Action.runOn_bind, approached, ← Action.runOn_bind]

/-- After the startup file nothing is left that runs texts. -/
theorem tame_closed : (closed loaded).Tame Bindings.Tame :=
  have tame := starts.tame_loaded
  ⟨⟨tame.globals.tame.remove fileName, tame.lists, tame.functions, tame.unasked⟩, tame.locals,
    tame.lines⟩

end Starts

/-! ## Sessions that get to their code -/

/-- A command line whose sections fit, run no texts of their own and leave the names alone
that the function's own lines use. -/
structure Calls (arguments : List Text) (options : Command.Options) (before main after : Stmt) :
    Prop where
  chosen : Command.Options.ofArguments arguments = .ok options
  fitting : options.conflicting = false
  handler : Script.present options.handler = none
  fit : (Script.ofOptions options).SectionsFit before main after
  busy : ¬(options.collect = false ∧ options.trim = false ∧ options.debug = false ∧ main = .pass)
  tame : before.tame = true ∧ main.tame = true ∧ after.tame = true
  unassigned : ∀ name ∈ (Script.ofOptions options).frameNames,
    name ∉ before.assigned ++ main.assigned ++ after.assigned
  short : options.debug = true ->
    (Script.ofOptions options).text.lines.length < Scalar.integerBound

theorem Calls.exists_ofText {arguments : List Text} {options : Command.Options}
    {before main after : Stmt} (calls : Calls arguments options before main after) :
    Exists fun sections : Stmt × Stmt × Stmt =>
      (before.Alike sections.1 ∧ main.Alike sections.2.1 ∧ after.Alike sections.2.2) ∧
        Stmt.ofText (Script.ofOptions options).text = .ok (Script.definition
          ((Script.ofOptions options).assembled sections.1 sections.2.1 sections.2.2)) := by
  have unhandled : (Script.ofOptions options).handler = none := by
    rw [Script.ofOptions, Script.ofExpanded, calls.handler]
    rfl
  cases collect : options.collect with
  | false =>
      have filled : Script.linesAt 2 (Script.ofOptions options).inside ≠ [] := by
        rw [Ne, Script.linesAt_inside_eq_nil_iff calls.fit collect]
        exact fun idle => calls.busy ⟨collect, idle⟩
      exact Script.exists_ofText_loop unhandled calls.fit collect filled
  | true =>
      have alone : (Script.ofOptions options).after = none := by
        have agrees := calls.fitting
        rw [Command.Options.conflicting, collect, Bool.true_and, Bool.or_eq_false_iff] at agrees
        rw [Script.ofOptions, Script.ofExpanded, Script.present_eq_none_iff.mpr agrees.2]
        rfl
      rcases Script.exists_ofText_collect unhandled calls.fit collect alone with ⟨other, alike, read⟩
      exact ⟨(before, other, after), ⟨.refl before, alike, .refl after⟩, read⟩

/-- The machine on which the body of a function is run on the input. -/
def begun (machine : Machine) : Machine :=
  { machine with locals := [(inputMember, .input)] }

section Names

variable {options : Command.Options} {machine later : Machine} {function : Function}
  (announced : Announced (.ofOptions options) (readied options machine) later)

include announced

/-- A name with which the session has nothing to do has the same value when the function
is called. -/
theorem lookup_defined {name : Text} (apart : name ∉ optionsName :: helpers.map Prod.fst)
    (free : name ∉ overwrittenNames options) :
    (defined later function).globals.lookup name = machine.globals.lookup name := by
  rw [overwrittenNames, List.mem_append, not_or] at free
  have other : name ≠ functionName := by
    rintro rfl
    exact free.1 (List.mem_append_right _ List.mem_cons_self)
  have unlisted : (Script.ofOptions options).debug = true -> name ∉ listingNames := by
    intro debug member
    have debug : options.debug = true := debug
    rw [debug] at free
    exact free.2 member
  change (later.globals.set _ _).lookup name = _
  rw [Bindings.lookup_set, if_neg other, announced.names unlisted, lookup_readied machine apart free.1]

omit announced in
theorem not_mem_overwrittenNames {name : Text} (apart : name ∉ scriptNames ++ listingNames) :
    name ∉ overwrittenNames options := by
  rw [List.mem_append, not_or] at apart
  have names : ∀ other ∈ removed, other ∈ scriptNames := by decide
  rw [overwrittenNames, takenNames, List.mem_append, List.mem_append, not_or, not_or]
  refine ⟨⟨?_, fun member => apart.1 (names name member)⟩, ?_⟩
  · intro member
    rcases List.mem_map.mp member with ⟨entry, inScript, rfl⟩
    exact apart.1 (mem_scriptBindings inScript).1
  · split
    · exact apart.2
    · exact List.not_mem_nil

theorem lookup_defined_convert :
    (defined later function).globals.lookup Script.convertName = some (.builtin .convert) := by
  have helped : (machine.globals.setAll helpers).lookup Script.convertName =
      some (.builtin .convert) := @lookup_helper _ (Script.convertName, _) (by decide)
  have ready : (readied options machine).globals.lookup Script.convertName =
      some (.builtin .convert) := by
    change (withScript _ _).lookup _ = _
    rw [lookup_withScript _ _ (by decide), Bindings.lookup_set, if_neg (by decide), helped]
  change (later.globals.set _ _).lookup _ = _
  rw [Bindings.lookup_set, if_neg (by decide), announced.names fun _ => by decide, ready]

end Names

/-- The function's own lines find what they need behind a startup file. -/
theorem Starts.equipped {text input : Text} {words : List Text} {program : Stmt}
    {loaded later : Machine} (starts : Starts text words input program loaded) {options : Command.Options} {function : Function}
    (announced : Announced (.ofOptions options) (readied options (closed loaded)) later) :
    Script.Equipped (defined later function).globals := by
  have names : ∀ name ∈ ["int", "float", "print", "sys"].map String.toList,
      name ∈ keptNames ∧ name ≠ fileName ∧ name ∉ optionsName :: helpers.map Prod.fst ∧
        name ∉ scriptNames ++ listingNames := by
    decide
  have first : ∀ name ∈ ["int", "float", "print", "sys"].map String.toList,
      (defined later function).globals.lookup name = initial.lookup name := by
    intro name member
    rcases names name member with ⟨kept, apart, unhelped, unscripted⟩
    rw [lookup_defined announced unhelped (not_mem_overwrittenNames unscripted),
      starts.lookup_closed_loaded kept apart]
  exact ⟨⟨lookup_defined_convert announced, first _ (by decide), first _ (by decide)⟩,
    first _ (by decide), first _ (by decide)⟩

/-! ## Names of the startup file -/

/-- The value of a name is the same wherever a statement of a function is reached. -/
theorem find_of_reaches {function : Function} {machine : Machine}
    (tame : (begun machine).Tame Bindings.Tame) (harmless : function.body.tame = true) {name : Text}
    {value : Value} (found : machine.globals.lookup name = some value)
    (free : (Scope.ofFunction function).isVariable name = false) {depth : Nat} {other : Stmt}
    {later : Machine}
    (reaches : function.body.Reaches (.within depth) (.ofFunction function) (begun machine) other
      later) :
    ((Scope.ofFunction function).find name).runOn later = (.ok value, later) ∧
      forall {expression : Expr} {result : Except (Halt Fault) Value} {after : Machine},
        expression.tame = true ->
        (expression.eval (.within depth) (.ofFunction function)).runOn later = (result, after) ->
          ((Scope.ofFunction function).find name).runOn after = (.ok value, after) := by
  let keeps (globals : Bindings) : Prop := globals.Tame ∧ globals.lookup name = some value
  have quiet := @Dispatch.sound_within .full keeps (fun kept => kept.1) depth
  have alike : (Scope.ofFunction function).Alike .full [] (.ofFunction function) := .refl rfl
  have first : (begun machine).Tame keeps :=
    ⟨⟨⟨tame.globals, found⟩, tame.lists, tame.functions, tame.unasked⟩, tame.locals, tame.lines⟩
  have kept : later.Tame keeps :=
    reaches.tame quiet alike (fun name _ => Scope.mayAssign_of_owned rfl name) harmless first
  refine ⟨Scope.runOn_find_global rfl free kept.globals.2, ?_⟩
  intro expression result after expressionTame evaluated
  have still := ((Expr.alone_eval quiet alike expressionTame).keeps kept).1
  rw [evaluated] at still
  exact Scope.runOn_find_global rfl free still.globals.2

/-- A name of the startup file has its value wherever code of the session is reached, and
the code that has its turn first is reached, unless the session uses the name itself. -/
theorem startup_name_reaches_code {text input : Text} {words : List Text} {program : Stmt}
    {loaded : Machine} (starts : Starts text words input program loaded) {arguments : List Text}
    (told : commandWords loaded = .ok arguments) {options : Command.Options}
    {before main after : Stmt} (calls : Calls arguments options before main after)
    (isOpen : options.debug = true -> Stream.out ∉ loaded.shut) {name : Text}
    (bound : name ∈ program.assigned) {value : Value}
    (found : loaded.globals.lookup name = some value) (free : name ∉ overwrittenNames options)
    (unassigned : name ∉ before.assigned ++ main.assigned ++ after.assigned) (width : Int) :
    ∃ (sections : Stmt × Stmt × Stmt) (machine : Machine) (index : Nat),
      let function := (Script.ofOptions options).functionOf sections.1 sections.2.1 sections.2.2
      (before.Alike sections.1 ∧ main.Alike sections.2.1 ∧ after.Alike sections.2.2) ∧
        ofSession (some text) width words input = (conclude index).runOn machine ∧
        machine.functions[index]? = some function ∧
        ((Script.ofOptions options).collect = true ∨ (Script.ofOptions options).before.isSome = true ∨
            loaded.input ≠ [] ∨ (Script.ofOptions options).after.isSome = true ->
          Exists fun other => Exists fun later =>
            (Script.ofOptions options).Leads sections.1 sections.2.1 sections.2.2 loaded.input other ∧
              function.body.Reaches (.within innerDepth) (.ofFunction function) (begun machine) other
                later) ∧
        forall {other : Stmt} {later : Machine},
          function.body.Reaches (.within innerDepth) (.ofFunction function) (begun machine) other later ->
            ((Scope.ofFunction function).find name).runOn later = (.ok value, later) ∧
              forall {expression : Expr} {result : Except (Halt Fault) Value} {after : Machine},
                expression.tame = true ->
                  (expression.eval (.within innerDepth) (.ofFunction function)).runOn later =
                      (result, after) ->
                    ((Scope.ofFunction function).find name).runOn after = (.ok value, after) := by
  rcases starts.free name bound with ⟨unreserved, notFile⟩
  have apart : name ∉ (optionsName :: helpers.map Prod.fst) ++ (inputMember :: Script.ownNames) := by
    intro member
    rcases eq_fileName_or_reserved name (List.mem_append_right _ member) with same | isReserved
    · exact notFile same
    · exact Bool.false_ne_true (unreserved.symm.trans isReserved)
  rw [List.mem_append, not_or] at apart
  rcases calls.exists_ofText with ⟨⟨before', main', after'⟩, ⟨beforeAlike, mainAlike, afterAlike⟩, read⟩
  let function := (Script.ofOptions options).functionOf before' main' after'
  rcases @exists_runOn_obey (closed loaded) starts.intact _ told width _ calls.chosen calls.fitting
    function read isOpen calls.short with ⟨later, announced, run⟩
  have harmless : function.body.tame = true := Script.tame_assembled
    ((beforeAlike.words _).trans calls.tame.1) ((mainAlike.words _).trans calls.tame.2.1)
    ((afterAlike.words _).trans calls.tame.2.2)
  have tame := tame_defined (announced.tame (tame_readied starts.tame_closed options)) harmless
  have begunTame : (begun (defined later function)).Tame Bindings.Tame :=
    ⟨tame.toSound.place _ _ _, Bindings.Allowed.empty.cons inputMember rfl, tame.lines⟩
  have sameAssigned : before'.assigned ++ main'.assigned ++ after'.assigned =
      before.assigned ++ main.assigned ++ after.assigned := by
    rw [beforeAlike.assigned, mainAlike.assigned, afterAlike.assigned]
  have global : (Scope.ofFunction function).isVariable name = false :=
    Script.isVariable_functionOf_eq_false apart.2 (sameAssigned ▸ unassigned)
  have known : (defined later function).globals.lookup name = some value := by
    rw [lookup_defined announced apart.1 free, lookup_closed loaded notFile, found]
  have rest : later.functions.size = (closed loaded).functions.size ∧
      later.input = loaded.input ∧ later.shut = loaded.shut := by
    rw [announced.rest]
    exact ⟨rfl, rfl, rfl⟩
  have index : (defined later function).functions[(closed loaded).functions.size]? = some function := by
    rw [← rest.1]
    exact functions_defined later function
  refine ⟨(before', main', after'), defined later function, (closed loaded).functions.size,
    ⟨beforeAlike, mainAlike, afterAlike⟩, (starts.ofSession_eq width).trans run, index, ?_,
    find_of_reaches begunTame harmless known global⟩
  intro turn
  have equipped : Script.Equipped (begun (defined later function)).globals :=
    @Starts.equipped _ _ _ _ _ _ starts _ function announced
  have input : (begun (defined later function)).input = loaded.input := rest.2.1
  rw [← input] at turn ⊢
  exact @Script.exists_reaches _ before' main' after' (by rw [sameAssigned]; exact calls.unassigned)
    (begun (defined later function)) equipped (rest.2.2 ▸ isOpen) (innerDepth - 2) rfl begunTame.lines
    turn

/-- The options of a command line that writes a name of the startup file. -/
def writingOptions : Command.Options :=
  { Command.Options.default with code := ["out(x)".toList] }

/-- The machine behind a startup file that gives a value to one name. -/
def markedMachine : Machine :=
  { opened ["out(x)".toList] "1\n".toList with
    globals := (initial.set fileName .file).set ['x'] (.int 5) }

/-- Two names that are free for a startup file. -/
theorem reserved_eq_false : ∀ name ∈ [['x'], ['i']], reserved name = false := by
  decide +kernel

theorem startup_name_reaches_code_marked :
    Starts "x = 5\n".toList ["out(x)".toList] "1\n".toList
        (.seq (.assign [['x']] (.constant (.int 5))) .pass) markedMachine ∧
      ∃ (machine : Machine) (index : Nat) (function : Function) (other : Stmt) (later : Machine),
        ofSession (some "x = 5\n".toList) 80 ["out(x)".toList] "1\n".toList =
            (conclude index).runOn machine ∧
          machine.functions[index]? = some function ∧
          function.body.Reaches (.within innerDepth) (.ofFunction function) (begun machine) other later ∧
          ((Scope.ofFunction function).find ['x']).runOn later = (.ok (.int 5), later) := by
  have isLine : Script.IsLine "x = 5\n".toList [.name ['x'], .symbol .assign, .number (.int 5)] := by
    decide +kernel
  have free : reserved ['x'] = false ∧ ['x'] ≠ fileName :=
    ⟨reserved_eq_false _ List.mem_cons_self, by decide⟩
  have starts : Starts "x = 5\n".toList ["out(x)".toList] "1\n".toList
      (.seq (.assign [['x']] (.constant (.int 5))) .pass) markedMachine :=
    ⟨isLine.ofText rfl (by decide) (by decide), by decide, List.forall_mem_singleton.mpr free, rfl⟩
  have calls : Calls ["out(x)".toList] writingOptions
      (.ofTextD (Script.ofOptions writingOptions).beforeCode)
      (.ofTextD (Script.ofOptions writingOptions).mainCode)
      (.ofTextD (Script.ofOptions writingOptions).afterCode) :=
    ⟨by decide +kernel, by decide, by decide,
      by decide +kernel, fun idle => Bool.noConfusion idle.2.1,
      by decide +kernel, by decide +kernel, nofun⟩
  have written : markedMachine.globals.lookup ['x'] = some (.int 5) := by decide
  rcases startup_name_reaches_code starts rfl calls nofun (by decide) written (by decide +kernel)
    (by decide +kernel) 80 with ⟨sections, machine, index, _, run, found, first, reads⟩
  rcases first (.inr (.inr (.inl (by decide)))) with ⟨other, later, _, reaches⟩
  exact ⟨starts, machine, index, _, other, later, run, found, reaches, (reads reaches).1⟩

/-- The options of a command line that writes a name which the session uses itself. -/
def countingOptions : Command.Options :=
  { Command.Options.default with code := ["out(i)".toList] }

set_option maxRecDepth 40000 in
/-- A name that is free for a startup file may have another value in the code: the session
has given it one of its own in between. -/
theorem startup_name_overwritten :
    reserved ['i'] = false ∧ ['i'] ∈ overwrittenNames countingOptions ∧
      ['i'] ∉ (Stmt.ofTextD (Script.ofOptions countingOptions).mainCode).assigned ∧
      (Stmt.ofTextD "i = 5\n".toList).assigned = [['i']] ∧
      (ofSession (some "i = 5\n".toList) 80 ["out(i)".toList] "1\n".toList).2.transcript.on .out =
        "0\n".toList :=
  ⟨reserved_eq_false _ (by decide), by decide +kernel⟩

end Execution
end Oneliner
