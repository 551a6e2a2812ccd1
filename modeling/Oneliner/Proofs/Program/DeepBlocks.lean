import Oneliner.Proofs.Program.DeepReading

namespace Oneliner
namespace Program

/-!
Statements and blocks of a program whose literals are deeper.

Lines of one shape are heads of one kind, and the blocks under them are of one shape
again.  The columns are the same, so whatever can be read with its own literals can
be read with deeper ones.
-/

/-! ## Statements of one shape -/

namespace Stmt

/-- The statements are equally deep, give values to the same names, and have the same loops
inside each other and the same words. -/
structure Alike (statement other : Stmt) : Prop where
  height : other.height = statement.height
  bound : other.bound = statement.bound
  loops : forall depth, other.loopsWithin depth = statement.loopsWithin depth
  assigned : other.assigned = statement.assigned
  words : forall words, other.usesOnly words = statement.usesOnly words

namespace Alike

variable {statement other first first' second second' : Stmt} {value value' : Expr}

theorem refl (statement : Stmt) : Alike statement statement :=
  ⟨rfl, rfl, fun _ => rfl, rfl, fun _ => rfl⟩

theorem evaluate (alike : value.Alike value') : Alike (.evaluate value) (.evaluate value') :=
  ⟨congrArg (· + 1) alike.height, alike.running, fun _ => rfl, rfl, fun _ => alike.words _ _⟩

theorem assign (names : List Text) (alike : value.Alike value') :
    Alike (.assign names value) (.assign names value') :=
  ⟨congrArg (· + 1) alike.height, congrArg (names ++ ·) alike.running, fun _ => rfl, rfl,
    fun words => congrArg (names.all words.given && ·) (alike.words _ _)⟩

theorem increase (name : Text) (alike : value.Alike value') :
    Alike (.increase name value) (.increase name value') :=
  ⟨congrArg (· + 1) alike.height, congrArg (name :: ·) alike.running, fun _ => rfl, rfl,
    fun words => congrArg (words.used name && words.given name && ·) (alike.words _ _)⟩

theorem seq (alike : Alike first first') (alike' : Alike second second') :
    Alike (.seq first second) (.seq first' second') := by
  refine ⟨?_, ?_, fun depth => ?_, ?_, fun words => ?_⟩
  · simp only [Stmt.height, alike.height, alike'.height]
  · simp only [Stmt.bound, alike.bound, alike'.bound]
  · simp only [Stmt.loopsWithin, alike.loops, alike'.loops]
  · simp only [Stmt.assigned, alike.assigned, alike'.assigned]
  · simp only [Stmt.usesOnly, alike.words, alike'.words]

theorem condition (test : value.Alike value') (alike : Alike first first')
    (alike' : Alike second second') :
    Alike (.condition value first second) (.condition value' first' second') := by
  refine ⟨?_, ?_, fun depth => ?_, ?_, fun words => ?_⟩
  · simp only [Stmt.height, test.height, alike.height, alike'.height]
  · simp only [Stmt.bound, test.running, alike.bound, alike'.bound]
  · simp only [Stmt.loopsWithin, alike.loops, alike'.loops]
  · simp only [Stmt.assigned, alike.assigned, alike'.assigned]
  · simp only [Stmt.usesOnly, test.words, alike.words, alike'.words]

theorem loop (name : Text) (source : value.Alike value') (alike : Alike statement other) :
    Alike (.loop name value statement) (.loop name value' other) := by
  refine ⟨?_, ?_, fun depth => ?_, ?_, fun words => ?_⟩
  · simp only [Stmt.height, source.height, alike.height]
  · simp only [Stmt.bound, source.running, alike.bound]
  · simp only [Stmt.loopsWithin, alike.loops]
  · simp only [Stmt.assigned, alike.assigned]
  · simp only [Stmt.usesOnly, source.words, alike.words]

theorem define (name parameter : Text) (alike : Alike statement other) :
    Alike (.define name parameter statement) (.define name parameter other) := by
  refine ⟨?_, ?_, fun depth => ?_, rfl, fun words => ?_⟩
  · simp only [Stmt.height, alike.height]
  · simp only [Stmt.bound, alike.bound]
  · simp only [Stmt.loopsWithin, alike.loops]
  · simp only [Stmt.usesOnly, alike.words, alike.assigned]

end Alike

/-! ## Reading statements -/

theorem targets_deepen (level : Int) (tokens : List Token) :
    targets (tokens.map (Token.deepen level)) =
      ((targets tokens).1, (targets tokens).2.map (Token.deepen level)) := by
  fun_induction targets tokens with
  | case1 name rest names value split later =>
      rw [split] at later
      simp only [List.map_cons, Token.deepen, targets, later]
  | case2 rest notTarget =>
      rw [targets]
      intro name tail same
      rcases Expr.exists_of_map_deepen same (fun _ _ => Token.noConfusion) with ⟨_, rfl⟩
      rcases Expr.exists_of_map_deepen (List.cons.inj same).2 (fun _ _ => Token.noConfusion) with
        ⟨_, rfl⟩
      exact notTarget _ _ rfl

variable {tokens begun : List Token} {statement : Stmt}

theorem simpleOf_deepened (level : Int) (found : simpleOf tokens = some statement) :
    Exists fun other => simpleOf (tokens.map (Token.deepen level)) = some other ∧
      statement.Alike other := by
  rw [simpleOf.eq_def] at found
  split at found
  · cases found
    exact ⟨.pass, rfl, .refl .pass⟩
  · rename_i name rest
    rcases Option.map_eq_some_iff.mp found with ⟨value, whole, rfl⟩
    rcases Expr.ofTokens_deepened level whole with ⟨value', whole', alike⟩
    refine ⟨.increase name value', ?_, .increase name alike⟩
    simp only [List.map_cons, Token.deepen, simpleOf, whole', Option.map_some]
  · rename_i notPass notIncrease
    have notPass' : tokens.map (Token.deepen level) = [.keyword .pass] -> False := by
      intro same
      rcases Expr.exists_of_map_deepen same (fun _ _ => Token.noConfusion) with ⟨rest, rfl⟩
      rw [List.map_eq_nil_iff.mp (List.cons.inj same).2] at notPass
      exact notPass rfl
    have notIncrease' : forall name tail, tokens.map (Token.deepen level) =
        .name name :: .symbol .addAssign :: tail -> False := by
      intro name tail same
      rcases Expr.exists_of_map_deepen same (fun _ _ => Token.noConfusion) with ⟨_, rfl⟩
      rcases Expr.exists_of_map_deepen (List.cons.inj same).2 (fun _ _ => Token.noConfusion) with
        ⟨_, rfl⟩
      exact notIncrease _ _ rfl
    rw [simpleOf.eq_3 _ notPass' notIncrease', targets_deepen]
    split at found
    · rename_i rest divided
      rcases Option.map_eq_some_iff.mp found with ⟨value, whole, rfl⟩
      rcases Expr.ofTokens_deepened level whole with ⟨value', whole', alike⟩
      rw [divided]
      exact ⟨.evaluate value', by simp only [whole', Option.map_some], .evaluate alike⟩
    · rename_i names rest filled divided
      rcases Option.map_eq_some_iff.mp found with ⟨value, whole, rfl⟩
      rcases Expr.ofTokens_deepened level whole with ⟨value', whole', alike⟩
      rw [divided]
      refine ⟨.assign names value', ?_, .assign names alike⟩
      cases names with
      | nil => exact (filled rfl).elim
      | cons => simp only [whole', Option.map_some]

theorem simplesFrom_deepened (level : Int) (found : simplesFrom begun tokens = some statement) :
    Exists fun other =>
      simplesFrom (begun.map (Token.deepen level)) (tokens.map (Token.deepen level)) = some other ∧
        statement.Alike other := by
  fun_induction simplesFrom begun tokens generalizing statement with
  | case1 begun | case2 begun =>
      rcases simpleOf_deepened level found with ⟨other, read, alike⟩
      rw [List.map_reverse] at read
      exact ⟨other, read, alike⟩
  | case3 begun rest notLast later =>
      simp only [Option.bind_eq_bind, Option.bind_eq_some_iff] at found
      rcases found with ⟨first, readFirst, second, readSecond, same⟩
      cases same
      rcases simpleOf_deepened level readFirst with ⟨first', readFirst', firstAlike⟩
      rcases later readSecond with ⟨second', readSecond', secondAlike⟩
      rw [List.map_reverse] at readFirst'
      refine ⟨.seq first' second', ?_, .seq firstAlike secondAlike⟩
      rw [List.map_cons, Expr.deepen_symbol, simplesFrom, readFirst']
      · rw [List.map_nil] at readSecond'
        simp only [readSecond', Option.bind_eq_bind, Option.bind_some]
        rfl
      · exact fun empty => notLast (List.map_eq_nil_iff.mp empty)
  | case4 begun token rest notLast notSemicolon later =>
      rcases later found with ⟨other, read, alike⟩
      refine ⟨other, ?_, alike⟩
      rw [List.map_cons, simplesFrom]
      · exact read
      · intro last empty
        exact notLast (Expr.eq_of_deepen_eq last nofun) (List.map_eq_nil_iff.mp empty)
      · exact fun semicolon => notSemicolon (Expr.eq_of_deepen_eq semicolon nofun)

theorem ofTokens_deepened (level : Int) (found : ofTokens tokens = some statement) :
    Exists fun other => ofTokens (tokens.map (Token.deepen level)) = some other ∧
      statement.Alike other :=
  simplesFrom_deepened level found

end Stmt

/-! ## Heads of one kind -/

namespace Head

/-- Heads of one kind with statements and expressions of one shape. -/
inductive Alike : Head -> Head -> Prop
  | simple {statement other : Stmt} (alike : statement.Alike other) :
      Alike (.simple statement) (.simple other)
  | condition {test test' : Expr} {inline inline' : Option Stmt} (testAlike : test.Alike test')
      (alike : Option.Rel Stmt.Alike inline inline') :
      Alike (.condition test inline) (.condition test' inline')
  | otherwise {inline inline' : Option Stmt} (alike : Option.Rel Stmt.Alike inline inline') :
      Alike (.otherwise inline) (.otherwise inline')
  | loop (name : Text) {source source' : Expr} {inline inline' : Option Stmt}
      (sourceAlike : source.Alike source') (alike : Option.Rel Stmt.Alike inline inline') :
      Alike (.loop name source inline) (.loop name source' inline')
  | define (name parameter : Text) {inline inline' : Option Stmt}
      (alike : Option.Rel Stmt.Alike inline inline') :
      Alike (.define name parameter inline) (.define name parameter inline')
  | attempt {inline inline' : Option Stmt} (alike : Option.Rel Stmt.Alike inline inline') :
      Alike (.attempt inline) (.attempt inline')

variable {tokens : List Token}

theorem inlineOf_deepened (level : Int) {inline : Option Stmt} (found : inlineOf tokens = some inline) :
    Exists fun other => inlineOf (tokens.map (Token.deepen level)) = some other ∧
      Option.Rel Stmt.Alike inline other := by
  rw [inlineOf.eq_def] at found
  split at found
  · cases found
    exact ⟨none, rfl, .none⟩
  · rename_i rest notLast
    rcases Option.map_eq_some_iff.mp found with ⟨statement, whole, rfl⟩
    rcases Stmt.ofTokens_deepened level whole with ⟨other, whole', alike⟩
    refine ⟨some other, ?_, .some alike⟩
    rw [List.map_cons, Expr.deepen_symbol, inlineOf, whole']
    · rfl
    · exact fun empty => notLast (List.map_eq_nil_iff.mp empty)
  · cases found

/-- A line with deeper literals is a head of the same kind. -/
theorem ofTokens_deepened (level : Int) {head : Head} (found : ofTokens tokens = some head) :
    Exists fun other => ofTokens (tokens.map (Token.deepen level)) = some other ∧
      head.Alike other := by
  rw [ofTokens.eq_def] at found
  split at found
  · simp only [Option.bind_eq_bind, Option.bind_eq_some_iff] at found
    rcases found with ⟨⟨test, rest⟩, readTest, inline, readInline, same⟩
    cases same
    rcases Expr.ofFront_deepened level readTest with ⟨test', readTest', testAlike⟩
    rcases inlineOf_deepened level readInline with ⟨inline', readInline', alike⟩
    refine ⟨.condition test' inline', ?_, .condition testAlike alike⟩
    simp only [List.map_cons, Token.deepen, ofTokens, readTest', readInline', Option.bind_eq_bind,
      Option.bind_some]
    rfl
  · rcases Option.map_eq_some_iff.mp found with ⟨inline, readInline, rfl⟩
    rcases inlineOf_deepened level readInline with ⟨inline', readInline', alike⟩
    refine ⟨.otherwise inline', ?_, .otherwise alike⟩
    simp only [List.map_cons, Token.deepen, ofTokens, readInline', Option.map_some]
  · simp only [Option.bind_eq_bind, Option.bind_eq_some_iff] at found
    rcases found with ⟨⟨source, rest⟩, readSource, inline, readInline, same⟩
    cases same
    rcases Expr.ofFront_deepened level readSource with ⟨source', readSource', sourceAlike⟩
    rcases inlineOf_deepened level readInline with ⟨inline', readInline', alike⟩
    refine ⟨.loop _ source' inline', ?_, .loop _ sourceAlike alike⟩
    simp only [List.map_cons, Token.deepen, ofTokens, readSource', readInline', Option.bind_eq_bind,
      Option.bind_some]
    rfl
  · rcases Option.map_eq_some_iff.mp found with ⟨inline, readInline, rfl⟩
    rcases inlineOf_deepened level readInline with ⟨inline', readInline', alike⟩
    refine ⟨.define _ _ inline', ?_, .define _ _ alike⟩
    simp only [List.map_cons, Token.deepen, ofTokens, readInline', Option.map_some]
  · rcases Option.map_eq_some_iff.mp found with ⟨inline, readInline, rfl⟩
    rcases inlineOf_deepened level readInline with ⟨inline', readInline', alike⟩
    refine ⟨.attempt inline', ?_, .attempt alike⟩
    simp only [List.map_cons, Token.deepen, ofTokens, readInline', Option.map_some]
  · rename_i notCondition notBranch notLoop notDefine notAttempt
    rcases Option.map_eq_some_iff.mp found with ⟨statement, whole, rfl⟩
    rcases Stmt.ofTokens_deepened level whole with ⟨other, whole', alike⟩
    refine ⟨.simple other, ?_, .simple alike⟩
    rw [ofTokens, whole']
    · rfl
    · intro tail same
      rcases Expr.exists_of_map_deepen same (fun _ _ => Token.noConfusion) with ⟨_, rfl⟩
      exact notCondition _ rfl
    · intro tail same
      rcases Expr.exists_of_map_deepen same (fun _ _ => Token.noConfusion) with ⟨_, rfl⟩
      exact notBranch _ rfl
    · intro name tail same
      rcases Expr.exists_of_map_deepen same (fun _ _ => Token.noConfusion) with ⟨_, rfl⟩
      have same := (List.cons.inj same).2
      rcases Expr.exists_of_map_deepen same (fun _ _ => Token.noConfusion) with ⟨_, rfl⟩
      have same := (List.cons.inj same).2
      rcases Expr.exists_of_map_deepen same (fun _ _ => Token.noConfusion) with ⟨_, rfl⟩
      exact notLoop _ _ rfl
    · intro name parameter tail same
      rcases Expr.exists_of_map_deepen same (fun _ _ => Token.noConfusion) with ⟨_, rfl⟩
      have same := (List.cons.inj same).2
      rcases Expr.exists_of_map_deepen same (fun _ _ => Token.noConfusion) with ⟨_, rfl⟩
      have same := (List.cons.inj same).2
      rcases Expr.exists_of_map_deepen same (fun _ _ => Token.noConfusion) with ⟨_, rfl⟩
      have same := (List.cons.inj same).2
      rcases Expr.exists_of_map_deepen same (fun _ _ => Token.noConfusion) with ⟨_, rfl⟩
      have same := (List.cons.inj same).2
      rcases Expr.exists_of_map_deepen same (fun _ _ => Token.noConfusion) with ⟨_, rfl⟩
      exact notDefine _ _ _ rfl
    · intro tail same
      rcases Expr.exists_of_map_deepen same (fun _ _ => Token.noConfusion) with ⟨_, rfl⟩
      exact notAttempt _ rfl

/-- Heads of one kind build statements of one shape. -/
theorem Alike.branching? {head other : Head} (alike : head.Alike other) {inline : Option Stmt}
    {build : Stmt -> Stmt -> Stmt} (found : head.branching? = some (inline, build)) :
    Exists fun inline' => Exists fun build' => other.branching? = some (inline', build') ∧
      Option.Rel Stmt.Alike inline inline' ∧
      forall {first first' second second' : Stmt}, first.Alike first' -> second.Alike second' ->
        (build first second).Alike (build' first' second') := by
  cases alike with
  | simple | otherwise | define | attempt => cases found
  | condition testAlike alike =>
      cases found
      exact ⟨_, _, rfl, alike, fun first second => .condition testAlike first second⟩
  | loop name sourceAlike alike =>
      cases found
      exact ⟨_, _, rfl, alike, fun first second => .seq (.loop name sourceAlike first) second⟩

end Head

/-! ## Blocks of one shape -/

namespace Line

theorem isSevered_deepen (level : Int) (line : Line) :
    (line.deepen level).isSevered = line.isSevered := by
  rcases line with ⟨column, tokens⟩
  cases tokens with
  | nil => rfl
  | cons token rest => cases token <;> rfl

theorem elseOf?_deepened (level : Int) {line : Line} {column : Column} {inline : Option Stmt}
    (found : line.elseOf? column = some inline) :
    Exists fun other => (line.deepen level).elseOf? column = some other ∧
      Option.Rel Stmt.Alike inline other := by
  rw [elseOf?] at found
  split at found
  · rename_i same
    split at found
    · rename_i head
      cases found
      rcases Head.ofTokens_deepened level head with ⟨other, head', alike⟩
      cases alike with
      | otherwise alike =>
          refine ⟨_, ?_, alike⟩
          rw [elseOf?, deepen, if_pos same, head']
    · cases found
  · cases found

end Line

namespace Outline

/-- The outline with deeper literals. -/
def deepen (level : Int) : Outline -> Outline
  | empty => empty
  | line first under after => line (first.deepen level) (under.deepen level) (after.deepen level)

theorem divide_deepen (level : Int) (outline : Outline) (width : Nat) :
    (outline.deepen level).divide width =
      ((outline.divide width).1.deepen level, (outline.divide width).2.deepen level) := by
  induction outline with
  | empty => rfl
  | line first under after _ afterDivided =>
      have column : (first.deepen level).column = first.column := rfl
      simp only [deepen, divide, column]
      split
      · rw [afterDivided]
        rfl
      · rfl

theorem ofLines_deepen (level : Int) (lines : List Line) :
    ofLines (lines.map (Line.deepen level)) = (ofLines lines).deepen level := by
  induction lines with
  | nil => rfl
  | cons first rest restDeepened =>
      change push (first.deepen level) (ofLines (rest.map (Line.deepen level))) =
        (push first (ofLines rest)).deepen level
      rw [restDeepened, push, push, divide_deepen]
      rfl

theorem depth_deepen (level : Int) (outline : Outline) :
    (outline.deepen level).depth = outline.depth := by
  induction outline with
  | empty => rfl
  | line first under after underDepth afterDepth =>
      rw [deepen, depth, depth, underDepth, afterDepth]

theorem checkColumn_deepen (level : Int) {column : Column} {line : Line}
    (checked : checkColumn column line = .ok ()) :
    checkColumn column (line.deepen level) = .ok () := by
  rw [checkColumn_eq_ok_iff] at checked ⊢
  rw [Line.isSevered_deepen]
  exact checked

end Outline

/-- The same part, with a statement of one shape on the head's line. -/
inductive Part.Alike (level : Int) : Part -> Part -> Prop
  | block : Alike level .block .block
  | suite (head : Line) {inline inline' : Option Stmt}
      (alike : Option.Rel Stmt.Alike inline inline') :
      Alike level (.suite head inline) (.suite (head.deepen level) inline')

/-- What can be read can be read with deeper literals. -/
theorem Parsed.deepened {level : Int} {part part' : Part} {opened : List Column} {outline : Outline}
    {statement : Stmt} (parsed : Parsed part opened outline statement)
    (partAlike : Part.Alike level part part') :
    Exists fun other => Parsed part' opened (outline.deepen level) other ∧ statement.Alike other := by
  induction parsed generalizing part' with
  | empty =>
      cases partAlike
      exact ⟨.pass, .empty, .refl .pass⟩
  | simple column head later laterDeepened =>
      cases partAlike
      rcases Head.ofTokens_deepened level head with ⟨_, head', simpleAlike⟩
      rcases laterDeepened .block with ⟨rest', later', restAlike⟩
      cases simpleAlike with
      | simple alike =>
          exact ⟨_, .simple (Outline.checkColumn_deepen level column) head' later',
            .seq alike restAlike⟩
  | define column head suite later suiteDeepened laterDeepened =>
      cases partAlike
      rcases Head.ofTokens_deepened level head with ⟨_, head', headAlike⟩
      rcases laterDeepened .block with ⟨rest', later', restAlike⟩
      cases headAlike with
      | define name parameter alike =>
          rcases suiteDeepened (.suite _ alike) with ⟨body', suite', bodyAlike⟩
          exact ⟨_, .define (Outline.checkColumn_deepen level column) head' suite' later',
            .seq (.define _ _ bodyAlike) restAlike⟩
  | alone column found branching suite last later suiteDeepened laterDeepened =>
      cases partAlike
      rcases Head.ofTokens_deepened level found with ⟨_, found', headAlike⟩
      rcases headAlike.branching? branching with ⟨_, build', branching', alike, built⟩
      rcases suiteDeepened (.suite _ alike) with ⟨body', suite', bodyAlike⟩
      rcases laterDeepened .block with ⟨rest', later', restAlike⟩
      refine ⟨_, .alone (Outline.checkColumn_deepen level column) found' branching' suite' ?_ later',
        .seq (built bodyAlike (.refl .pass)) restAlike⟩
      intro second under' after' behind
      rw [behind] at later'
      exact later'.elseOf?_eq_none _
  | branches column found branching suite branch suite' later suiteDeepened suiteDeepened'
      laterDeepened =>
      cases partAlike
      rcases Head.ofTokens_deepened level found with ⟨_, found', headAlike⟩
      rcases headAlike.branching? branching with ⟨_, build', branching', alike, built⟩
      rcases Line.elseOf?_deepened level branch with ⟨_, branch', alike'⟩
      rcases suiteDeepened (.suite _ alike) with ⟨body', suite', bodyAlike⟩
      rcases suiteDeepened' (.suite _ alike') with ⟨other', suite'', otherAlike⟩
      rcases laterDeepened .block with ⟨rest', later', restAlike⟩
      exact ⟨_, .branches (Outline.checkColumn_deepen level column) found' branching' suite' branch'
        suite'' later', .seq (built bodyAlike otherAlike) restAlike⟩
  | inline =>
      cases partAlike with
      | suite _ alike =>
          cases alike with
          | some alike => exact ⟨_, .inline, alike⟩
  | indented sound deeper room block blockDeepened =>
      cases partAlike with
      | suite _ alike =>
          cases alike
          rcases blockDeepened .block with ⟨body', block', bodyAlike⟩
          refine ⟨body', .indented ?_ deeper room block', bodyAlike⟩
          rw [Line.isSevered_deepen]
          exact sound

end Program
end Oneliner
