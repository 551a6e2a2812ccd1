import Oneliner.Program.Grammar

namespace Oneliner
namespace Program

/-!
No rule of the grammar accepts an unknown token.

A reading function takes tokens from the front of a line, and all that it takes
are known ones.  So a line that is a head or a statement consists of known
tokens, and a line in which the scanner has come to its end is neither.
-/

/-- Whether some rule of the grammar accepts the token. -/
def Token.known : Token -> Bool
  | .unknown | .broken | .severed => false
  | _ => true

/-- The rest is left when known tokens are taken from the front. -/
def Taken (tokens rest : List Token) : Prop :=
  exists front, tokens = front ++ rest ∧ front.all Token.known = true

namespace Taken

theorem refl (tokens : List Token) : Taken tokens tokens :=
  ⟨[], rfl, rfl⟩

theorem cons {token : Token} {tokens rest : List Token} (known : token.known = true)
    (taken : Taken tokens rest) : Taken (token :: tokens) rest := by
  obtain ⟨front, divided, all⟩ := taken
  refine ⟨token :: front, by rw [divided]; rfl, ?_⟩
  rw [List.all_cons, known, all]
  rfl

theorem trans {tokens middle rest : List Token} (first : Taken tokens middle)
    (second : Taken middle rest) : Taken tokens rest := by
  obtain ⟨front, divided, all⟩ := first
  obtain ⟨front', divided', all'⟩ := second
  refine ⟨front ++ front', by rw [divided, divided', List.append_assoc], ?_⟩
  rw [List.all_append, all, all']
  rfl

theorem all_known {tokens : List Token} (taken : Taken tokens []) :
    tokens.all Token.known = true := by
  obtain ⟨front, divided, all⟩ := taken
  rw [divided, List.append_nil, all]

end Taken

/-! ## Expressions -/

namespace Expr

/-- The reading functions with the given bound take known tokens only. -/
structure TakesKnown (bound : Nat) : Prop where
  read : forall {tokens rest result}, read bound tokens = some (result, rest) -> Taken tokens rest
  relations : forall {tokens rest result},
    readRelations bound tokens = some (result, rest) -> Taken tokens rest
  sum : forall {tokens rest result}, readSum bound tokens = some (result, rest) -> Taken tokens rest
  operand : forall {tokens rest result},
    readOperand bound tokens = some (result, rest) -> Taken tokens rest
  literals : forall {before tokens rest result},
    readLiterals bound before tokens = some (result, rest) -> Taken tokens rest
  items : forall {closer tokens rest result},
    readItems bound closer tokens = some (result, rest) -> Taken tokens rest
  attached : forall {subject tokens rest result},
    readAttached bound subject tokens = some (result, rest) -> Taken tokens rest
  operators : forall {level left tokens rest result},
    readOperators bound level left tokens = some (result, rest) -> Taken tokens rest

section Step

variable {bound : Nat} (ih : TakesKnown bound)
include ih

private theorem read_taken {tokens rest : List Token} {result : Expr}
    (found : Expr.read (bound + 1) tokens = some (result, rest)) : Taken tokens rest := by
  simp only [Expr.read, Option.bind_eq_bind, Option.bind_eq_some_iff] at found
  obtain ⟨⟨first, middle⟩, readFirst, ⟨_, last⟩, readOthers, same⟩ := found
  cases same
  exact (ih.sum readFirst).trans (ih.relations readOthers)

private theorem relations_taken {tokens rest : List Token} {result : List Relation × List Expr}
    (found : readRelations (bound + 1) tokens = some (result, rest)) : Taken tokens rest := by
  cases tokens with
  | nil =>
      simp only [readRelations] at found
      cases found
      exact .refl []
  | cons token tokens =>
      simp only [readRelations] at found
      cases relation : relation? token with
      | none =>
          rw [relation] at found
          cases found
          exact .refl _
      | some relation' =>
          have known : token.known = true := by
            cases token <;> first | rfl | simp [relation?] at relation
          rw [relation] at found
          simp only [Option.bind_eq_bind, Option.bind_eq_some_iff] at found
          obtain ⟨⟨operand, middle⟩, readFirst, ⟨_, last⟩, readOthers, same⟩ := found
          cases same
          exact .cons known ((ih.sum readFirst).trans (ih.relations readOthers))

private theorem sum_taken {tokens rest : List Token} {result : Expr}
    (found : readSum (bound + 1) tokens = some (result, rest)) : Taken tokens rest := by
  simp only [readSum, Option.bind_eq_bind, Option.bind_eq_some_iff] at found
  obtain ⟨⟨first, middle⟩, readFirst, readOthers⟩ := found
  exact (ih.operand readFirst).trans (ih.operators readOthers)

private theorem operand_taken {tokens rest : List Token} {result : Expr}
    (found : readOperand (bound + 1) tokens = some (result, rest)) : Taken tokens rest := by
  simp only [readOperand] at found
  split at found
  case h_1 | h_2 =>
    simp only [Option.bind_eq_bind, Option.bind_eq_some_iff] at found
    obtain ⟨⟨operand, last⟩, readRest, same⟩ := found
    cases same
    exact .cons rfl (ih.operand readRest)
  case h_3 | h_4 | h_5 | h_6 | h_7 => exact .cons rfl (ih.attached found)
  case h_8 =>
    simp only [Option.bind_eq_bind, Option.bind_eq_some_iff] at found
    obtain ⟨first, _, ⟨whole, middle⟩, readOthers, readRest⟩ := found
    exact .cons rfl ((ih.literals readOthers).trans (ih.attached readRest))
  case h_9 =>
    simp only [Option.bind_eq_bind, Option.bind_eq_some_iff] at found
    obtain ⟨⟨inner, middle⟩, readInner, readRest⟩ := found
    split at readRest
    · rename_i last closing
      subst closing
      exact .cons rfl ((ih.read readInner).trans (.cons rfl (ih.attached readRest)))
    · cases readRest
  case h_10 => exact .cons rfl (.cons rfl (ih.attached found))
  case h_11 =>
    simp only [Option.bind_eq_bind, Option.bind_eq_some_iff] at found
    obtain ⟨⟨element, middle⟩, readElement, readRest⟩ := found
    refine .cons rfl ((ih.read readElement).trans ?_)
    split at readRest
    · -- a comprehension
      rename_i source heading
      subst heading
      simp only [Option.bind_eq_some_iff] at readRest
      obtain ⟨⟨values, behind⟩, readSource, readEnd⟩ := readRest
      refine .cons rfl (.cons rfl (.cons rfl ((ih.read readSource).trans ?_)))
      split at readEnd
      · rename_i last closing
        subst closing
        exact .cons rfl (ih.attached readEnd)
      · cases readEnd
    · simp only [Option.bind_eq_some_iff] at readRest
      obtain ⟨⟨others, behind⟩, readOthers, readEnd⟩ := readRest
      exact (ih.items readOthers).trans (ih.attached readEnd)
  case h_12 => cases found

private theorem literals_taken {before result : Literal} {tokens rest : List Token}
    (found : readLiterals (bound + 1) before tokens = some (result, rest)) : Taken tokens rest := by
  simp only [readLiterals] at found
  split at found
  · simp only [Option.bind_eq_bind, Option.bind_eq_some_iff] at found
    obtain ⟨next, _, whole, _, readOthers⟩ := found
    exact .cons rfl (ih.literals readOthers)
  · cases found
    exact .refl _

private theorem items_taken {closer : Symbol} {tokens rest : List Token} {result : List Expr}
    (found : readItems (bound + 1) closer tokens = some (result, rest)) : Taken tokens rest := by
  simp only [readItems] at found
  split at found
  · split at found
    · cases found
      exact .cons rfl (.cons rfl (.refl _))
    · simp only [Option.bind_eq_bind, Option.bind_eq_some_iff] at found
      obtain ⟨⟨item, middle⟩, readItem, ⟨items, last⟩, readOthers, same⟩ := found
      cases same
      exact .cons rfl ((ih.read readItem).trans (ih.items readOthers))
  · simp only [Option.bind_eq_bind, Option.bind_eq_some_iff] at found
    obtain ⟨⟨item, middle⟩, readItem, ⟨items, last⟩, readOthers, same⟩ := found
    cases same
    exact .cons rfl ((ih.read readItem).trans (ih.items readOthers))
  · split at found
    · cases found
      exact .cons rfl (.refl _)
    · cases found
  · cases found

private theorem attached_taken {subject result : Expr} {tokens rest : List Token}
    (found : readAttached (bound + 1) subject tokens = some (result, rest)) : Taken tokens rest := by
  simp only [readAttached] at found
  split at found
  · exact .cons rfl (.cons rfl (ih.attached found))
  · exact .cons rfl (.cons rfl (ih.attached found))
  · simp only [Option.bind_eq_bind, Option.bind_eq_some_iff] at found
    obtain ⟨⟨first, middle⟩, readFirst, ⟨others, behind⟩, readOthers, readEnd⟩ := found
    exact .cons rfl ((ih.read readFirst).trans ((ih.items readOthers).trans (ih.attached readEnd)))
  · cases found
    exact .refl _

private theorem operators_taken {level : Nat} {left result : Expr} {tokens rest : List Token}
    (found : readOperators (bound + 1) level left tokens = some (result, rest)) :
    Taken tokens rest := by
  cases tokens with
  | nil =>
      simp only [readOperators] at found
      cases found
      exact .refl []
  | cons token tokens =>
      simp only [readOperators] at found
      cases operator : operator? token with
      | none =>
          rw [operator] at found
          cases found
          exact .refl _
      | some binding =>
          have known : token.known = true := by
            cases token <;> first | rfl | simp [operator?] at operator
          simp only [operator] at found
          split at found
          · cases found
            exact .refl _
          · simp only [Option.bind_eq_bind, Option.bind_eq_some_iff] at found
            obtain ⟨⟨right, middle⟩, readRight, ⟨whole, behind⟩, readTighter, readEnd⟩ := found
            exact .cons known ((ih.operand readRight).trans
              ((ih.operators readTighter).trans (ih.operators readEnd)))

end Step

theorem takesKnown (bound : Nat) : TakesKnown bound := by
  induction bound with
  | zero =>
      constructor <;> intros <;>
        simp_all [Expr.read, readRelations, readSum, readOperand, readLiterals, readItems,
          readAttached, readOperators]
  | succ bound ih =>
      exact ⟨read_taken ih, relations_taken ih, sum_taken ih, operand_taken ih, literals_taken ih,
        items_taken ih, attached_taken ih, operators_taken ih⟩

theorem ofFront_taken {tokens rest : List Token} {result : Expr}
    (found : ofFront tokens = some (result, rest)) : Taken tokens rest :=
  (takesKnown _).read found

theorem ofTokens_known {tokens : List Token} {result : Expr} (found : ofTokens tokens = some result) :
    tokens.all Token.known = true := by
  rw [ofTokens] at found
  split at found
  · rename_i expression whole
    exact (ofFront_taken whole).all_known
  · cases found

end Expr

/-! ## Statements and heads -/

namespace Stmt

theorem targets_taken (tokens : List Token) : Taken tokens (targets tokens).2 := by
  fun_induction targets tokens with
  | case1 name rest names value split ih =>
      rw [split] at ih
      exact .cons rfl (.cons rfl ih)
  | case2 => exact .refl _

theorem simpleOf_known {tokens : List Token} {statement : Stmt}
    (found : simpleOf tokens = some statement) : tokens.all Token.known = true := by
  rw [simpleOf.eq_def] at found
  split at found
  · rfl
  · obtain ⟨value, whole, _⟩ := Option.map_eq_some_iff.mp found
    simpa [Token.known] using Expr.ofTokens_known whole
  · have front := targets_taken tokens
    split at found
    all_goals
      rename_i divided
      rw [divided] at front
      obtain ⟨value, whole, _⟩ := Option.map_eq_some_iff.mp found
      obtain ⟨taken, same, known⟩ := front
      rw [same, List.all_append, known, Expr.ofTokens_known whole]
      rfl

theorem simplesFrom_known {begun tokens : List Token} {statement : Stmt}
    (found : simplesFrom begun tokens = some statement) :
    begun.all Token.known = true ∧ tokens.all Token.known = true := by
  fun_induction simplesFrom begun tokens generalizing statement with
  | case1 begun => exact ⟨by simpa using simpleOf_known found, rfl⟩
  | case2 begun => exact ⟨by simpa using simpleOf_known found, rfl⟩
  | case3 begun rest _ ih =>
      simp only [Option.bind_eq_bind, Option.bind_eq_some_iff] at found
      obtain ⟨first, readFirst, second, readSecond, _⟩ := found
      exact ⟨by simpa using simpleOf_known readFirst, (ih readSecond).2⟩
  | case4 begun token rest _ _ ih =>
      obtain ⟨known, others⟩ := ih found
      rw [List.all_cons, Bool.and_eq_true] at known
      exact ⟨known.2, by rw [List.all_cons, known.1, others]; rfl⟩

theorem ofTokens_known {tokens : List Token} {statement : Stmt}
    (found : ofTokens tokens = some statement) : tokens.all Token.known = true :=
  (simplesFrom_known found).2

end Stmt

namespace Head

theorem inlineOf_known {tokens : List Token} {inline : Option Stmt}
    (found : inlineOf tokens = some inline) : tokens.all Token.known = true := by
  rw [inlineOf.eq_def] at found
  split at found
  · rfl
  · obtain ⟨statement, whole, _⟩ := Option.map_eq_some_iff.mp found
    simpa [Token.known] using Stmt.ofTokens_known whole
  · cases found

/-- A line that is a head or a statement has known tokens only. -/
theorem ofTokens_known {tokens : List Token} {head : Head}
    (found : ofTokens tokens = some head) : tokens.all Token.known = true := by
  rw [ofTokens.eq_def] at found
  split at found
  · simp only [Option.bind_eq_bind, Option.bind_eq_some_iff] at found
    obtain ⟨⟨test, rest⟩, readTest, inline, readInline, _⟩ := found
    obtain ⟨taken, same, known⟩ := Expr.ofFront_taken readTest
    rw [List.all_cons, same, List.all_append, known, inlineOf_known readInline]
    rfl
  · obtain ⟨inline, readInline, _⟩ := Option.map_eq_some_iff.mp found
    simpa [Token.known] using inlineOf_known readInline
  · simp only [Option.bind_eq_bind, Option.bind_eq_some_iff] at found
    obtain ⟨⟨source, rest⟩, readSource, inline, readInline, _⟩ := found
    obtain ⟨taken, same, known⟩ := Expr.ofFront_taken readSource
    simp only [List.all_cons, same, List.all_append, known, inlineOf_known readInline]
    rfl
  · obtain ⟨inline, readInline, _⟩ := Option.map_eq_some_iff.mp found
    simpa [Token.known] using inlineOf_known readInline
  · obtain ⟨inline, readInline, _⟩ := Option.map_eq_some_iff.mp found
    simpa [Token.known] using inlineOf_known readInline
  · obtain ⟨statement, whole, _⟩ := Option.map_eq_some_iff.mp found
    exact Stmt.ofTokens_known whole

end Head
end Program
end Oneliner
