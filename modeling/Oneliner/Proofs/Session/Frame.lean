import Oneliner.Proofs.Program.Reaching
import Oneliner.Proofs.Scalar.Numeral
import Oneliner.Proofs.Script.Assembly
import Oneliner.Proofs.Session.CollectMode

namespace Oneliner

/-!
How the function of a script gets to its code.

In front of each section stand lines of the function's own.  They prepare the input, and
in debug mode they print it.  They run through as long as the names that they use have
their first meanings, so the first section that has its turn is reached.
-/

open Program

/-! ## Lists of scalars -/

namespace Program

theorem Machine.viewWithin_of_scalar {machine : Machine} {value : Value} {scalar : Scalar}
    (stands : value.scalar? = some scalar) (bound : Nat) (opened : List Nat) :
    machine.viewWithin bound opened value = some (.scalar scalar) := by
  rw [Machine.viewWithin.eq_def]
  cases value with
  | scalar => exact congrArg (·.map Datum.scalar) stands
  | nan => exact congrArg (·.map Datum.scalar) stands
  | _ => cases stands

theorem Machine.mapM_viewWithin_row (machine : Machine) (bound marks : Nat) (opened : List Nat)
    (scalars : List Scalar) :
    (Value.row marks scalars).mapM (machine.viewWithin bound opened) =
      some (scalars.map Datum.scalar) := by
  induction scalars generalizing marks with
  | nil => rfl
  | cons first rest restViews =>
      rw [Value.row, List.mapM_cons, viewWithin_of_scalar (Value.scalar?_marked _ _), restViews]
      rfl

theorem Datum.writableItems_scalars {scalars : List Scalar}
    (writable : ∀ scalar ∈ scalars, scalar.writable = true) :
    Datum.writableItems (scalars.map .scalar) = true := by
  induction scalars with
  | nil => rfl
  | cons first rest restWritable =>
      rcases List.forall_mem_cons.mp writable with ⟨firstWritable, others⟩
      rw [List.map_cons, Datum.writableItems, Datum.writable, firstWritable, restWritable others]
      rfl

/-- A list of scalars that can be written can be written itself. -/
theorem Run.exists_runOn_textOf_list {machine : Machine} {index marks : Nat} {scalars : List Scalar}
    (items : machine.items index = (Value.row marks scalars).toArray)
    (writable : ∀ scalar ∈ scalars, scalar.writable = true) :
    Exists fun text => (textOf (.list index)).runOn machine = (.ok text, machine) := by
  have view : machine.view (.list index) = some (.list (scalars.map .scalar)) := by
    change ((machine.items index).toList.mapM
      (machine.viewWithin Execution.innerDepth [index])).map Datum.list = _
    rw [items, List.toList_toArray, Machine.mapM_viewWithin_row]
    rfl
  have viewed : (viewOf (.list index)).runOn machine =
      (.ok (.list (scalars.map .scalar)), machine) := by
    rw [viewOf, Action.runOn_bind_ok (Action.runOn_get machine), view]
    simp only [Datum.writable, Datum.writableItems_scalars writable, if_true]
    rfl
  refine ⟨(Datum.list (scalars.map .scalar)).text, ?_⟩
  rw [textOf, Action.runOn_bind_ok viewed]
  rfl

end Program

namespace Script

open Sections (subject)

/-! ## Names -/

/-- Names that the function's own lines use. -/
def frameNames (script : Script) : List Text :=
  (if script.debug then ["print".toList] else []) ++
    (if script.trim && script.convert then [convertName] else []) ++
    if script.collect then ["sys".toList] else []

/-- Global names under which the function's own lines find what they need. -/
structure Equipped (globals : Bindings) : Prop extends Converts globals where
  print : globals.lookup "print".toList = none
  system : globals.lookup "sys".toList = some (.module "sys".toList)

/-- A scope in which the function's own lines run. -/
structure Hosts (script : Script) (scope : Scope) : Prop extends Prepares scope where
  free : ∀ name ∈ script.frameNames, scope.isVariable name = false

namespace Hosts

variable {script : Script} {scope : Scope} (hosts : script.Hosts scope)

include hosts

theorem print (debug : script.debug = true) : scope.isVariable "print".toList = false := by
  apply hosts.free
  rw [frameNames, debug]
  exact List.mem_append_left _ (List.mem_append_left _ List.mem_cons_self)

theorem convert (trim : script.trim = true) (convert : script.convert = true) :
    scope.isVariable convertName = false := by
  apply hosts.free
  rw [frameNames, trim, convert]
  exact List.mem_append_left _ (List.mem_append_right _ List.mem_cons_self)

theorem system (collect : script.collect = true) : scope.isVariable "sys".toList = false := by
  apply hosts.free
  rw [frameNames, collect]
  exact List.mem_append_right _ List.mem_cons_self

end Hosts

/-! ## Printing -/

/-- The name of the number of the current line. -/
def counterName : Text := "__lineno__".toList

/-- The statement that prints the value of an expression. -/
def printStmt (expression : Expr) : Stmt :=
  .seq (.evaluate (.call (.name "print".toList) [expression])) .pass

/-- A text with a value filled in. -/
def formatExpr (text name : Text) : Expr :=
  .call (.member (.constant (.str text)) "format".toList) [.name name]

section Printing

variable {script : Script} {scope : Scope} (hosts : script.Hosts scope) (debug : script.debug = true)
  {machine : Machine} (free : machine.globals.lookup "print".toList = none)
  (isOpen : Stream.out ∉ machine.shut) {depth : Nat}

include hosts debug free isOpen

theorem runOn_printStmt {expression : Expr} {value : Value} {text : Text}
    (evaluated : (expression.eval (.within (depth + 1)) scope).runOn machine = (.ok value, machine))
    (readable : (Run.textOf value).runOn machine = (.ok text, machine)) :
    ((printStmt expression).exec (.within (depth + 1)) scope).runOn machine =
      (.ok (), machine.written .out (text ++ ['\n'])) := by
  have function : (scope.find "print".toList).runOn machine = (.ok (.builtin .print), machine) := by
    rw [Scope.find, hosts.running]
    change (if scope.isVariable "print".toList then _ else _ : Run Value).runOn machine = _
    rw [hosts.print debug]
    exact Run.runOn_find_inPlace free Execution.inPlace?_print
  have arguments : (Expr.evalItems (.within (depth + 1)) scope [expression]).runOn machine =
      (.ok [value], machine) := by
    rw [Expr.evalItems, Action.runOn_bind_ok evaluated]
    rfl
  have texts : ([value].mapM Run.textOf).runOn machine = (.ok [text], machine) := by
    rw [List.mapM_cons, Action.runOn_bind_ok readable]
    rfl
  have alone : [' '].intercalate [text] = text := by simp
  have printed : ((Dispatch.within (depth + 1)).call (.builtin .print) [value]).runOn machine =
      (.ok .nothing, machine.written .out (text ++ ['\n'])) := by
    change (do
      let texts <- [value].mapM Run.textOf
      Run.write .out ([' '].intercalate texts ++ ['\n'])
      return .nothing : Run Value).runOn machine = _
    rw [Action.runOn_bind_ok texts, alone, Action.runOn_bind_ok (Run.runOn_write isOpen _)]
    rfl
  have called : ((Expr.call (.name "print".toList) [expression]).eval (.within (depth + 1))
      scope).runOn machine = (.ok .nothing, machine.written .out (text ++ ['\n'])) := by
    rw [Expr.eval, Expr.eval, Action.runOn_bind_ok function, Action.runOn_bind_ok arguments, printed]
  have statement : ((Stmt.evaluate (.call (.name "print".toList) [expression])).exec
      (.within (depth + 1)) scope).runOn machine = (.ok (), machine.written .out (text ++ ['\n'])) :=
    Action.runOn_bind_ok called
  rw [printStmt, Stmt.exec, Action.runOn_bind_ok statement]
  rfl

theorem runOn_printText (text : Text) :
    ((printStmt (.constant (.str text))).exec (.within (depth + 1)) scope).runOn machine =
      (.ok (), machine.written .out (text ++ ['\n'])) := by
  have evaluated : ((Expr.constant (.str text)).eval (.within (depth + 1)) scope).runOn machine =
      (.ok (.str text), machine) := rfl
  exact runOn_printStmt hosts debug free isOpen evaluated (Run.runOn_textOf_str text machine)

end Printing

/-- A text with one place to fill in is filled by a value that can be written. -/
theorem call_format (depth : Nat) (text : Text) (values : List Value) :
    (Dispatch.within (depth + 1)).call (.method (.str text) .format) values = (do
      match fill? (<- values.mapM Run.textOf) text with
      | some filled => return .str filled
      | none => Run.fail .placeholder) := rfl

theorem runOn_formatExpr {scope : Scope} {machine : Machine} {depth : Nat} {text name filled : Text}
    {value : Value} {scalar : Scalar}
    (found : (scope.find name).runOn machine = (.ok value, machine))
    (stands : value.scalar? = some scalar) (writable : scalar.writable = true)
    (fills : fill? [scalar.text] text = some filled) :
    ((formatExpr text name).eval (.within (depth + 1)) scope).runOn machine =
      (.ok (.str filled), machine) := by
  have function : ((Expr.member (.constant (.str text)) "format".toList).eval (.within (depth + 1))
      scope).runOn machine = (.ok (.method (.str text) .format), machine) := rfl
  have arguments : (Expr.evalItems (.within (depth + 1)) scope [.name name]).runOn machine =
      (.ok [value], machine) := by
    rw [Expr.evalItems, Expr.eval, Action.runOn_bind_ok found]
    rfl
  have texts : ([value].mapM Run.textOf).runOn machine = (.ok [scalar.text], machine) := by
    rw [List.mapM_cons, Action.runOn_bind_ok (Run.runOn_textOf stands writable machine)]
    rfl
  rw [formatExpr, Expr.eval, Action.runOn_bind_ok function, Action.runOn_bind_ok arguments,
    call_format, Action.runOn_bind_ok texts, fills]
  rfl

/-- What is filled in can be printed. -/
theorem runOn_printFormat {script : Script} {scope : Scope} (hosts : script.Hosts scope)
    (debug : script.debug = true) {machine : Machine}
    (free : machine.globals.lookup "print".toList = none) (isOpen : Stream.out ∉ machine.shut)
    {depth : Nat} {text name filled : Text} {value : Value} {scalar : Scalar}
    (found : (scope.find name).runOn machine = (.ok value, machine))
    (stands : value.scalar? = some scalar) (writable : scalar.writable = true)
    (fills : fill? [scalar.text] text = some filled) :
    ((printStmt (formatExpr text name)).exec (.within (depth + 1)) scope).runOn machine =
      (.ok (), machine.written .out (filled ++ ['\n'])) :=
  runOn_printStmt hosts debug free isOpen (runOn_formatExpr found stands writable fills)
    (Run.runOn_textOf_str filled machine)

/-! ## The function's own lines -/

theorem exec_ownStmt_append (dispatch : Dispatch) (scope : Scope) (front back : List Fragment) :
    (ownStmt (front ++ back)).exec dispatch scope =
      (do
        (ownStmt front).exec dispatch scope
        (ownStmt back).exec dispatch scope) := by
  induction front with
  | nil => exact (pure_bind () fun _ => (ownStmt back).exec dispatch scope).symm
  | cons first rest restExec =>
      change ((Stmt.ofTextD first.body).followedBy (ownStmt (rest ++ back))).exec dispatch scope =
        (do
          ((Stmt.ofTextD first.body).followedBy (ownStmt rest)).exec dispatch scope
          (ownStmt back).exec dispatch scope)
      rw [Stmt.exec_followedBy, Stmt.exec_followedBy, restExec, bind_assoc]

theorem exec_ownStmt_cons (dispatch : Dispatch) (scope : Scope) (first : Fragment)
    (rest : List Fragment) :
    (ownStmt (first :: rest)).exec dispatch scope =
      (do
        (Stmt.ofTextD first.body).exec dispatch scope
        (ownStmt rest).exec dispatch scope) :=
  Stmt.exec_followedBy dispatch scope _ _

/-- The tokens of a line that prints. -/
def printTokens (argument : List Token) : List Token :=
  [.name "print".toList, .symbol .openParen] ++ argument ++ [.symbol .closeParen]

def formatTokens (text name : Text) : List Token :=
  [.literal .plain text, .symbol .dot, .name "format".toList, .symbol .openParen, .name name,
    .symbol .closeParen]

/-- The function's own lines in debug mode. -/
theorem isLine_debugLines :
    (IsLine "print('--before')".toList (printTokens [.literal .plain "--before".toList]) ∧
      IsLine "print('--after')".toList (printTokens [.literal .plain "--after".toList]) ∧
      IsLine "print('Input:')".toList (printTokens [.literal .plain "Input:".toList]) ∧
      IsLine "print(_)".toList (printTokens [.name subject]) ∧
      IsLine "print('')".toList (printTokens [.literal .plain []])) ∧
    (IsLine "print('== input line \x7b0\x7d'.format(__lineno__))".toList
        (printTokens (formatTokens "== input line \x7b0\x7d".toList counterName)) ∧
      IsLine "print('\x7b0\x7d'.format(_))\n".toList
        (printTokens (formatTokens "\x7b0\x7d".toList subject)) ∧
      IsLine "print('== output line \x7b0\x7d'.format(__lineno__))".toList
        (printTokens (formatTokens "== output line \x7b0\x7d".toList counterName))) ∧
    IsLine "__lineno__ = 1".toList [.name counterName, .symbol .assign, .number (.int 1)] ∧
      IsLine "__lineno__ += 1\n".toList
        [.name counterName, .symbol .addAssign, .number (.int 1)] := by
  iterate 16 rw [String.toList_ofList]
  decide +kernel

theorem ofTextD_print :
    Stmt.ofTextD "print('--before')".toList = printStmt (.constant (.str "--before".toList)) ∧
      Stmt.ofTextD "print('--after')".toList = printStmt (.constant (.str "--after".toList)) ∧
      Stmt.ofTextD "print('Input:')".toList = printStmt (.constant (.str "Input:".toList)) ∧
      Stmt.ofTextD "print(_)".toList = printStmt (.name subject) ∧
      Stmt.ofTextD "print('')".toList = printStmt (.constant (.str [])) := by
  rcases isLine_debugLines.1 with ⟨before, after, title, value, blank⟩
  exact ⟨before.ofTextD rfl (by decide) (by decide), after.ofTextD rfl (by decide) (by decide),
    title.ofTextD rfl (by decide) (by decide), value.ofTextD rfl (by decide) (by decide),
    blank.ofTextD rfl (by decide) (by decide)⟩

theorem ofTextD_format :
    Stmt.ofTextD "print('== input line \x7b0\x7d'.format(__lineno__))".toList =
        printStmt (formatExpr "== input line \x7b0\x7d".toList counterName) ∧
      Stmt.ofTextD "print('\x7b0\x7d'.format(_))\n".toList =
        printStmt (formatExpr "\x7b0\x7d".toList subject) ∧
      Stmt.ofTextD "print('== output line \x7b0\x7d'.format(__lineno__))".toList =
        printStmt (formatExpr "== output line \x7b0\x7d".toList counterName) := by
  rcases isLine_debugLines.2.1 with ⟨input, value, output⟩
  exact ⟨input.ofTextD rfl (by decide) (by decide), value.ofTextD rfl (by decide) (by decide),
    output.ofTextD rfl (by decide) (by decide)⟩

theorem ofTextD_counter :
    Stmt.ofTextD "__lineno__ = 1".toList =
        .seq (.assign [counterName] (.constant (.int 1))) .pass ∧
      Stmt.ofTextD "__lineno__ += 1\n".toList =
        .seq (.increase counterName (.constant (.int 1))) .pass := by
  rcases isLine_debugLines.2.2 with ⟨first, next⟩
  exact ⟨first.ofTextD rfl (by decide) (by decide), next.ofTextD rfl (by decide) (by decide)⟩

theorem ofTextD_line :
    Stmt.ofTextD "_ = _.rstrip('\\n')".toList = .seq trimStmt .pass ∧
      Stmt.ofTextD "_ = __try_convert_str_to_number__(_)".toList = .seq convertStmt .pass := by
  rcases readsAs_ownLines with ⟨_, _, trim, convert⟩
  have plain : ∀ text ∈ ["_ = _.rstrip('\\n')".toList,
      "_ = __try_convert_str_to_number__(_)".toList], '\x00' ∉ text ∧ '\r' ∉ text := by
    iterate 2 rw [String.toList_ofList]
    decide
  have trimming := trim.isLine (plain _ List.mem_cons_self) rfl
  have converting := convert.isLine (plain _ (List.mem_cons_of_mem _ List.mem_cons_self)) rfl
  exact ⟨trimming.ofTextD headOf_trimLine (by decide) (by decide),
    converting.ofTextD headOf_convertLine (by decide) (by decide)⟩

/-- Headings say nothing. -/
theorem ofTextD_heading : ∀ heading ∈ ["# 'before' code", "# 'after' code", "# 'pype' code",
    "# debug mode - print input"], Stmt.ofTextD heading.toList = .pass := by
  decide +kernel

/-! ## Runs of the function's own lines -/

section Runs

variable {script : Script} {scope : Scope} (hosts : script.Hosts scope) {machine : Machine}
  (equipped : Equipped machine.globals)
  (isOpen : script.debug = true -> Stream.out ∉ machine.shut) {depth : Nat}

include hosts

theorem runOn_findLocal {name : Text} {value : Value} (owned : scope.isVariable name = true)
    (found : machine.locals.lookup name = some value) :
    (scope.find name).runOn machine = (.ok value, machine) :=
  Scope.runOn_find_local (by rw [hosts.running]; rfl) owned found

include equipped isOpen

/-- The lines above a section outside the loop run through. -/
theorem exists_runOn_announcement {heading line : String} {text : Text}
    (quiet : Stmt.ofTextD heading.toList = .pass)
    (meaning : Stmt.ofTextD line.toList = printStmt (.constant (.str text))) :
    Exists fun later =>
      ((ownStmt (.frame 1 heading :: if script.debug then [.trace 1 line] else [])).exec
          (.within (depth + 1)) scope).runOn machine = (.ok (), later) := by
  have silent : (Stmt.ofTextD (Fragment.frame 1 heading).body) = .pass := quiet
  rw [exec_ownStmt_cons, silent]
  cases debug : script.debug with
  | false => exact ⟨machine, rfl⟩
  | true =>
      have printed := @runOn_printText _ _ hosts debug machine equipped.print
        (isOpen debug) depth text
      have printing : Stmt.ofTextD (Fragment.trace 1 line).body =
          printStmt (.constant (.str text)) := meaning
      refine ⟨machine.written .out (text ++ ['\n']), ?_⟩
      rw [Stmt.exec, pure_bind, if_pos rfl, exec_ownStmt_cons, printing, Action.runOn_bind_ok printed]
      rfl

omit equipped isOpen in
/-- The line that starts counting sets the number of the line. -/
theorem exists_runOn_counterOwn :
    Exists fun later =>
      ((ownStmt script.counterOwn).exec (.within (depth + 1)) scope).runOn machine = (.ok (), later) ∧
        (script.debug = true -> later.locals.lookup counterName = some (.int 1)) ∧
        (forall name, name ≠ counterName -> later.locals.lookup name = machine.locals.lookup name) ∧
        later = { machine with locals := later.locals } := by
  rw [counterOwn]
  cases debug : script.debug with
  | false => exact ⟨machine, rfl, Bool.noConfusion, fun _ _ => rfl, rfl⟩
  | true =>
      refine ⟨{ machine with locals := machine.locals.set counterName (.int 1) }, ?_, ?_, ?_, rfl⟩
      · have assigned := @runOn_assign scope hosts.toPrepares machine (.int 1) counterName
        have statement : ((Stmt.assign [counterName] (.constant (.int 1))).exec (.within (depth + 1))
            scope).runOn machine =
              (.ok (), { machine with locals := machine.locals.set counterName (.int 1) }) := by
          change (scope.assign (.int 1) counterName >>= fun _ => pure ()).runOn machine = _
          rw [Action.runOn_bind_ok assigned]
          rfl
        rw [if_pos rfl, exec_ownStmt_cons, ofTextD_counter.1, Stmt.exec, bind_assoc,
          Action.runOn_bind_ok statement]
        rfl
      · intro _
        rw [Bindings.lookup_set, if_pos rfl]
      · intro name apart
        rw [Bindings.lookup_set, if_neg apart]

omit isOpen in
/-- The lines that prepare an input line leave a value that can be written. -/
theorem exists_runOn_preparation {line : Text}
    (found : machine.locals.lookup subject = some (.str line)) :
    Exists fun later =>
      ((ownStmt ((if script.trim then [.frame 2 "_ = _.rstrip('\\n')"] else []) ++
          (if script.trim && script.convert then [.frame 2 "_ = __try_convert_str_to_number__(_)"]
            else []))).exec (.within (depth + 2)) scope).runOn machine = (.ok (), later) ∧
        (Exists fun value => later.locals.lookup subject = some value ∧
          Exists fun scalar => value.scalar? = some scalar ∧ scalar.writable = true) ∧
        (forall name, name ≠ subject -> later.locals.lookup name = machine.locals.lookup name) ∧
        later = { machine with locals := later.locals, marks := later.marks } := by
  have trimming : Stmt.ofTextD (Fragment.frame 2 "_ = _.rstrip('\\n')").body = .seq trimStmt .pass :=
    ofTextD_line.1
  have converting : Stmt.ofTextD (Fragment.frame 2 "_ = __try_convert_str_to_number__(_)").body =
      .seq convertStmt .pass := ofTextD_line.2
  rw [exec_ownStmt_append]
  cases trim : script.trim with
  | false =>
      exact ⟨machine, rfl, ⟨_, found, .str line, rfl, rfl⟩, fun _ _ => rfl, rfl⟩
  | true =>
      let trimmed : Machine := { machine with
        locals := machine.locals.set subject (.str (line.dropEnding ['\n'])) }
      have trimRun : (trimStmt.exec (.within (depth + 2)) scope).runOn machine = (.ok (), trimmed) :=
        runOn_trimStmt hosts.toPrepares found
      have trimFound : trimmed.locals.lookup subject = some (.str (line.dropEnding ['\n'])) := by
        rw [Bindings.lookup_set, if_pos rfl]
      have kept : forall name, name ≠ subject ->
          trimmed.locals.lookup name = machine.locals.lookup name := by
        intro name apart
        rw [Bindings.lookup_set, if_neg apart]
      have first : ((ownStmt [.frame 2 "_ = _.rstrip('\\n')"]).exec (.within (depth + 2)) scope).runOn
          machine = (.ok (), trimmed) := by
        rw [exec_ownStmt_cons, trimming, Stmt.exec, bind_assoc, Action.runOn_bind_ok trimRun]
        rfl
      rw [if_pos rfl, Action.runOn_bind_ok first]
      cases convert : script.convert with
      | false => exact ⟨trimmed, rfl, ⟨_, trimFound, _, rfl, rfl⟩, kept, rfl⟩
      | true =>
          let number := (Scalar.str (line.dropEnding ['\n'])).convert
          let converted : Machine := { trimmed with
            locals := trimmed.locals.set subject (.marked trimmed.marks number)
            marks := Value.marksAfter trimmed.marks number }
          have convertRun : (convertStmt.exec (.within (depth + 2)) scope).runOn trimmed =
              (.ok (), converted) :=
            @runOn_convertStmt _ hosts.toPrepares trimmed _ (hosts.convert trim convert)
              equipped.toConverts _ trimFound
          refine ⟨converted, ?_, ⟨.marked trimmed.marks number, ?_, number, Value.scalar?_marked _ _,
            Scalar.writable_convert_str _⟩, ?_, rfl⟩
          · change ((ownStmt [.frame 2 "_ = __try_convert_str_to_number__(_)"]).exec _ scope).runOn
              trimmed = _
            rw [exec_ownStmt_cons, converting, Stmt.exec, bind_assoc, Action.runOn_bind_ok convertRun]
            rfl
          · change (trimmed.locals.set subject _).lookup subject = _
            rw [Bindings.lookup_set, if_pos rfl]
          · intro name apart
            change (trimmed.locals.set subject _).lookup name = _
            rw [Bindings.lookup_set, if_neg apart, kept name apart]

/-- The lines that print an input line in debug mode run through. -/
theorem exists_runOn_trace (debug : script.debug = true) {value : Value} {scalar : Scalar}
    (owned : scope.isVariable counterName = true)
    (found : machine.locals.lookup subject = some value) (stands : value.scalar? = some scalar)
    (writable : scalar.writable = true)
    (counter : machine.locals.lookup counterName = some (.int 1)) :
    Exists fun later =>
      ((ownStmt (["print('== input line \x7b0\x7d'.format(__lineno__))", "print('\x7b0\x7d'.format(_))\n",
          "print('== output line \x7b0\x7d'.format(__lineno__))", "__lineno__ += 1\n"].map
            (.trace 2))).exec (.within (depth + 1)) scope).runOn machine = (.ok (), later) := by
  have one : (Scalar.int 1).writable = true := by
    have small : (1 : Nat) < Scalar.integerBound :=
      Nat.lt_of_lt_of_le (by decide : 1 < 10 ^ 1) (Scalar.pow_le_integerBound (by decide))
    rw [Scalar.writable, Int.natAbs_one]
    exact decide_eq_true small
  rcases ofTextD_format with ⟨input, line, output⟩
  let first := machine.written .out ("== input line 1".toList ++ ['\n'])
  let second := first.written .out (scalar.text ++ ['\n'])
  let third := second.written .out ("== output line 1".toList ++ ['\n'])
  have firstRun : ((printStmt (formatExpr "== input line \x7b0\x7d".toList counterName)).exec
      (.within (depth + 1)) scope).runOn machine = (.ok (), first) :=
    runOn_printFormat hosts debug equipped.print (isOpen debug)
      (runOn_findLocal hosts owned counter) rfl one rfl
  have secondRun : ((printStmt (formatExpr "\x7b0\x7d".toList subject)).exec
      (.within (depth + 1)) scope).runOn first = (.ok (), second) := by
    have filled : fill? [scalar.text] "\x7b0\x7d".toList = some scalar.text := by
      change some (scalar.text ++ []) = _
      rw [List.append_nil]
    exact @runOn_printFormat _ _ hosts debug first equipped.print (isOpen debug) _ _ _ _ _ _
      (runOn_findLocal hosts hosts.subject found) stands writable filled
  have thirdRun : ((printStmt (formatExpr "== output line \x7b0\x7d".toList counterName)).exec
      (.within (depth + 1)) scope).runOn second = (.ok (), third) :=
    @runOn_printFormat _ _ hosts debug second equipped.print (isOpen debug) _ _ _ _ _ _
      (runOn_findLocal hosts owned counter) rfl one rfl
  have counting : ((Stmt.increase counterName (.constant (.int 1))).exec (.within (depth + 1))
      scope).runOn third =
        (.ok (), { third with locals := third.locals.set counterName (.int 2) }) := by
    rw [Stmt.exec, Action.runOn_bind_ok (@runOn_findLocal _ _ hosts third _ _ owned counter)]
    exact runOn_assign hosts.toPrepares (.int 2) counterName
  refine ⟨{ third with locals := third.locals.set counterName (.int 2) }, ?_⟩
  have lines : (ownStmt (["print('== input line \x7b0\x7d'.format(__lineno__))",
      "print('\x7b0\x7d'.format(_))\n", "print('== output line \x7b0\x7d'.format(__lineno__))",
      "__lineno__ += 1\n"].map (.trace 2))).exec (.within (depth + 1)) scope = (do
        (printStmt (formatExpr "== input line \x7b0\x7d".toList counterName)).exec (.within (depth + 1)) scope
        (printStmt (formatExpr "\x7b0\x7d".toList subject)).exec (.within (depth + 1)) scope
        (printStmt (formatExpr "== output line \x7b0\x7d".toList counterName)).exec (.within (depth + 1)) scope
        (Stmt.seq (.increase counterName (.constant (.int 1))) .pass).exec (.within (depth + 1)) scope
        pure ()) := by
    rw [← input, ← line, ← output, ← ofTextD_counter.2]
    simp only [List.map_cons, List.map_nil, exec_ownStmt_cons]
    rfl
  rw [lines, Action.runOn_bind_ok firstRun, Action.runOn_bind_ok secondRun,
    Action.runOn_bind_ok thirdRun, Stmt.exec, bind_assoc, Action.runOn_bind_ok counting]
  rfl

/-- The lines above the main code inside the loop run through. -/
theorem exists_runOn_lineOwn {line : Text} (found : machine.locals.lookup subject = some (.str line))
    (owned : script.debug = true -> scope.isVariable counterName = true)
    (counter : script.debug = true -> machine.locals.lookup counterName = some (.int 1)) :
    Exists fun later =>
      ((ownStmt script.lineOwn).exec (.within (depth + 2)) scope).runOn machine = (.ok (), later) := by
  rcases @exists_runOn_preparation _ _ hosts _ equipped depth _ found with
    ⟨prepared, prepareRun, ⟨value, valueFound, scalar, stands, writable⟩, names, rest⟩
  have heading : (ownStmt [.frame 2 "# 'pype' code"]).exec (.within (depth + 2)) scope = pure () := by
    have quiet : Stmt.ofTextD (Fragment.frame 2 "# 'pype' code").body = .pass :=
      ofTextD_heading "# 'pype' code" (by decide)
    rw [exec_ownStmt_cons, quiet]
    rfl
  have globals : prepared.globals = machine.globals := by rw [rest]
  have shut : prepared.shut = machine.shut := by rw [rest]
  rw [lineOwn, exec_ownStmt_append, exec_ownStmt_append, heading]
  simp only [bind_assoc]
  rw [Action.runOn_bind_ok prepareRun]
  cases debug : script.debug with
  | false => exact ⟨prepared, rfl⟩
  | true =>
      have counted : prepared.locals.lookup counterName = some (.int 1) := by
        rw [names counterName (by decide), counter debug]
      rcases @exists_runOn_trace _ _ hosts prepared (globals ▸ equipped) (shut ▸ isOpen) (depth + 1)
        debug _ _
        (owned debug) valueFound stands writable counted with ⟨later, traced⟩
      refine ⟨later, ?_⟩
      rw [if_pos rfl, Action.runOn_bind_ok traced]
      rfl

omit hosts equipped isOpen in
theorem writable_reading (script : Script) (line : Text) : (script.reading line).writable = true := by
  rw [reading]
  split
  · split
    · exact Scalar.writable_convert_str _
    · rfl
  · rfl

/-- The lines above the code that is run once run through. -/
theorem exists_runOn_collectOwn (collect : script.collect = true)
    (areLines : ∀ line ∈ machine.input, line.IsInputLine) :
    Exists fun later =>
      ((ownStmt script.collectOwn).exec (.within (depth + 2)) scope).runOn machine =
        (.ok (), later) := by
  rcases @exists_runOn_collectExpr scope hosts.toPrepares machine depth (hosts.system collect)
    equipped.system equipped.toConverts script hosts.convert areLines with ⟨earlier, collected⟩
  let gathered := Machine.withRow { machine with input := [], lists := earlier }
    (machine.input.map script.reading)
  let named : Machine := { gathered with locals := gathered.locals.set subject (.list earlier.size) }
  have assigned : (script.collectStmt.exec (.within (depth + 2)) scope).runOn machine =
      (.ok (), named) := runOn_assignSubject hosts.toPrepares collected
  have line : Stmt.ofTextD (Fragment.frame 1 script.collectLine).body =
      .seq script.collectStmt .pass := ofTextD_collectLine script
  have heading : (ownStmt [.frame 1 "# 'pype' code"]).exec (.within (depth + 2)) scope = pure () := by
    have quiet : Stmt.ofTextD (Fragment.frame 1 "# 'pype' code").body = .pass :=
      ofTextD_heading "# 'pype' code" (by decide)
    rw [exec_ownStmt_cons, quiet]
    rfl
  rw [collectOwn, exec_ownStmt_append, exec_ownStmt_cons, heading, line, Stmt.exec]
  simp only [bind_assoc]
  rw [Action.runOn_bind_ok assigned]
  cases debug : script.debug with
  | false => exact ⟨named, rfl⟩
  | true =>
      rcases ofTextD_print with ⟨_, _, title, value, blank⟩
      have comment : Stmt.ofTextD "# debug mode - print input".toList = .pass :=
        ofTextD_heading "# debug mode - print input" (by decide)
      have free : named.globals.lookup "print".toList = none := equipped.print
      let first := named.written .out ("Input:".toList ++ ['\n'])
      have items : first.items earlier.size =
          (Value.row machine.marks (machine.input.map script.reading)).toArray :=
        Machine.items_push_size { machine with input := [], lists := earlier } _
      have writable : ∀ scalar ∈ machine.input.map script.reading, scalar.writable = true := by
        intro scalar member
        rcases List.mem_map.mp member with ⟨line, _, rfl⟩
        exact script.writable_reading line
      rcases Run.exists_runOn_textOf_list items writable with ⟨text, readable⟩
      have found : first.locals.lookup subject = some (.list earlier.size) := by
        change (gathered.locals.set subject _).lookup subject = _
        rw [Bindings.lookup_set, if_pos rfl]
      have evaluated : ((Expr.name subject).eval (.within (depth + 2)) scope).runOn first =
          (.ok (.list earlier.size), first) := runOn_findLocal hosts hosts.subject found
      let second := first.written .out (text ++ ['\n'])
      have firstRun : ((printStmt (.constant (.str "Input:".toList))).exec (.within (depth + 2))
          scope).runOn named = (.ok (), first) := runOn_printText hosts debug free (isOpen debug) _
      have secondRun : ((printStmt (.name subject)).exec (.within (depth + 2)) scope).runOn first =
          (.ok (), second) :=
        @runOn_printStmt _ _ hosts debug first free (isOpen debug) _ _ _ _ evaluated readable
      have thirdRun : ((printStmt (.constant (.str []))).exec (.within (depth + 2)) scope).runOn
          second = (.ok (), second.written .out ([] ++ ['\n'])) :=
        @runOn_printText _ _ hosts debug second free (isOpen debug) _ []
      refine ⟨second.written .out ([] ++ ['\n']), ?_⟩
      have lines : (ownStmt (["# debug mode - print input", "print('Input:')", "print(_)",
          "print('')"].map (.trace 1))).exec (.within (depth + 2)) scope = (do
            Stmt.pass.exec (.within (depth + 2)) scope
            (printStmt (.constant (.str "Input:".toList))).exec (.within (depth + 2)) scope
            (printStmt (.name subject)).exec (.within (depth + 2)) scope
            (printStmt (.constant (.str []))).exec (.within (depth + 2)) scope
            pure ()) := by
        rw [← comment, ← title, ← value, ← blank]
        simp only [List.map_cons, List.map_nil, exec_ownStmt_cons]
        rfl
      rw [Stmt.exec, pure_bind, if_pos rfl, lines, Stmt.exec, pure_bind]
      simp only [bind_assoc]
      rw [Action.runOn_bind_ok firstRun, Action.runOn_bind_ok secondRun, Action.runOn_bind_ok thirdRun]
      rfl

end Runs

end Script
end Oneliner
