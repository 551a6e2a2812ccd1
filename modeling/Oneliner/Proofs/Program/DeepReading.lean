import Oneliner.Proofs.Program.DeepLiterals
import Oneliner.Proofs.Program.Tameness

namespace Oneliner
namespace Program

/-!
Reading a program whose literals are deeper.

Every rule of the grammar treats all literals of a style alike, as long as they can
be read.  So a program with deeper literals is read by the same rules.  Its texts may
be other ones, but its shape is the same: what stands inside what, and which names
are given values.
-/

/-! ## Expressions of one shape -/

namespace Expr

/-- The expressions are equally deep, the same names run in them, and they have the same
words. -/
structure Alike (expression other : Expr) : Prop where
  height : other.height = expression.height
  running : other.running = expression.running
  words : forall names members, other.usesOnly names members = expression.usesOnly names members

/-- The same of lists of expressions. -/
structure ItemsAlike (items others : List Expr) : Prop where
  height : itemsHeight others = itemsHeight items
  running : itemsRunning others = itemsRunning items
  words : forall names members, itemsUseOnly names members others = itemsUseOnly names members items

namespace Alike

variable {expression other left left' right right' : Expr} {items others : List Expr}

theorem refl (expression : Expr) : Alike expression expression :=
  ⟨rfl, rfl, fun _ _ => rfl⟩

theorem signed (alike : Alike expression other) (sign : Sign) :
    Alike (.signed sign expression) (.signed sign other) :=
  ⟨congrArg (· + 1) alike.height, alike.running, alike.words⟩

theorem arithmetic (operator : Arithmetic) (alike : Alike left left') (alike' : Alike right right') :
    Alike (.arithmetic operator left right) (.arithmetic operator left' right') := by
  refine ⟨?_, ?_, fun names members => ?_⟩
  · simp only [Expr.height, alike.height, alike'.height]
  · simp only [Expr.running, alike.running, alike'.running]
  · simp only [Expr.usesOnly, alike.words, alike'.words]

theorem compare (alike : Alike expression other) (relations : List Relation)
    (itemsAlike : ItemsAlike items others) :
    Alike (.compare expression relations items) (.compare other relations others) := by
  refine ⟨?_, ?_, fun names members => ?_⟩
  · simp only [Expr.height, alike.height, itemsAlike.height]
  · simp only [Expr.running, alike.running, itemsAlike.running]
  · simp only [Expr.usesOnly, alike.words, itemsAlike.words]

theorem member (alike : Alike expression other) (name : Text) :
    Alike (.member expression name) (.member other name) := by
  refine ⟨congrArg (· + 1) alike.height, alike.running, fun names members => ?_⟩
  simp only [Expr.usesOnly, alike.words]

theorem call (alike : Alike expression other) (itemsAlike : ItemsAlike items others) :
    Alike (.call expression items) (.call other others) := by
  refine ⟨?_, ?_, fun names members => ?_⟩
  · simp only [Expr.height, alike.height, itemsAlike.height]
  · simp only [Expr.running, alike.running, itemsAlike.running]
  · simp only [Expr.usesOnly, alike.words, itemsAlike.words]

theorem comprehension (alike : Alike left left') (name : Text) (alike' : Alike right right') :
    Alike (.comprehension left name right) (.comprehension left' name right') := by
  refine ⟨?_, ?_, fun names members => ?_⟩
  · simp only [Expr.height, alike.height, alike'.height]
  · simp only [Expr.running, alike.running, alike'.running]
  · simp only [Expr.usesOnly, alike.words, alike'.words]

theorem display (itemsAlike : ItemsAlike items others) : Alike (.display items) (.display others) :=
  ⟨congrArg (· + 1) itemsAlike.height, itemsAlike.running, itemsAlike.words⟩

theorem joined (itemsAlike : ItemsAlike items others) : Alike (.joined items) (.joined others) :=
  ⟨congrArg (· + 1) itemsAlike.height, itemsAlike.running, itemsAlike.words⟩

end Alike

theorem ItemsAlike.nil : ItemsAlike [] [] :=
  ⟨rfl, rfl, fun _ _ => rfl⟩

theorem ItemsAlike.cons {item item' : Expr} {items others : List Expr} (alike : Alike item item')
    (itemsAlike : ItemsAlike items others) : ItemsAlike (item :: items) (item' :: others) := by
  refine ⟨?_, ?_, fun names members => ?_⟩
  · simp only [itemsHeight, alike.height, itemsAlike.height]
  · simp only [itemsRunning, alike.running, itemsAlike.running]
  · simp only [itemsUseOnly, alike.words, itemsAlike.words]

/-- Parts of literals: a text for a text, and an expression for one that is alike. -/
inductive PartAlike : Expr -> Expr -> Prop
  | text (text other : Text) : PartAlike (.constant (.str text)) (.constant (.str other))
  | enclosed {expression other : Expr} (alike : Alike expression other) :
      PartAlike (.joined [expression]) (.joined [other])

theorem PartAlike.alike {part other : Expr} (alike : PartAlike part other) : Alike part other := by
  cases alike with
  | text => exact ⟨rfl, rfl, fun _ _ => rfl⟩
  | enclosed alike => exact .joined (.cons alike .nil)

theorem itemsAlike_of_parts {parts others : List Expr} (alike : List.Forall₂ PartAlike parts others) :
    ItemsAlike parts others := by
  induction alike with
  | nil => exact .nil
  | cons first _ rest => exact .cons first.alike rest

end Expr

/-- What two rows of literals stand for: texts of the same parts, or bytes. -/
inductive Literal.Alike : Literal -> Literal -> Prop
  | text {parts others : List Expr} (alike : List.Forall₂ Expr.PartAlike parts others) :
      Alike (.text parts) (.text others)
  | bytes (value other : List Nat) : Alike (.bytes value) (.bytes other)

namespace Expr

theorem joinLiterals_alike {left left' right right' whole : Literal} (alike : left.Alike left')
    (alike' : right.Alike right') (joined : joinLiterals left right = some whole) :
    Exists fun other => joinLiterals left' right' = some other ∧ whole.Alike other := by
  cases alike with
  | text alike =>
      cases alike' with
      | text alike' =>
          cases joined
          exact ⟨_, rfl, .text (List.rel_append alike alike')⟩
      | bytes => cases joined
  | bytes =>
      cases alike' with
      | text => cases joined
      | bytes =>
          cases joined
          exact ⟨_, rfl, .bytes _ _⟩

/-- As many parts of the one as of the other are texts. -/
theorem length_texts {parts others : List Expr} {text? : Expr -> Option Text}
    (alike : List.Forall₂ PartAlike parts others)
    (found : forall text, (text? (.constant (.str text))).isSome = true)
    (missing : forall parts, text? (.joined parts) = none) :
    (others.filterMap text?).length = (parts.filterMap text?).length := by
  induction alike with
  | nil => rfl
  | cons first _ rest =>
      cases first with
      | text text other =>
          rcases Option.isSome_iff_exists.mp (found text) with ⟨_, is⟩
          rcases Option.isSome_iff_exists.mp (found other) with ⟨_, is'⟩
          rw [List.filterMap_cons_some is, List.filterMap_cons_some is', List.length_cons,
            List.length_cons, rest]
      | enclosed =>
          rw [List.filterMap_cons_none (missing _), List.filterMap_cons_none (missing _), rest]

theorem ofLiteral_alike {literal other : Literal} (alike : literal.Alike other) :
    Alike (ofLiteral literal) (ofLiteral other) := by
  cases alike with
  | bytes => exact ⟨rfl, rfl, fun _ _ => rfl⟩
  | text alike =>
      simp only [ofLiteral]
      rw [length_texts alike ?_ ?_, ← alike.length_eq]
      · split
        · exact ⟨rfl, rfl, fun _ _ => rfl⟩
        · exact .joined (itemsAlike_of_parts alike)
      · exact fun _ => rfl
      · exact fun _ => rfl

/-! ## Reading expressions -/

/-- With deeper literals, and with a larger bound, the reading functions give
expressions of the same shape. -/
structure ReadsDeepened (level : Int) (bound larger : Nat) : Prop where
  read : forall {tokens rest expression}, read bound tokens = some (expression, rest) ->
    Exists fun other =>
      read larger (tokens.map (Token.deepen level)) = some (other, rest.map (Token.deepen level)) ∧
        Alike expression other
  relations : forall {tokens rest relations operands},
    readRelations bound tokens = some ((relations, operands), rest) ->
    Exists fun others =>
      readRelations larger (tokens.map (Token.deepen level)) =
          some ((relations, others), rest.map (Token.deepen level)) ∧
        ItemsAlike operands others
  sum : forall {tokens rest expression}, readSum bound tokens = some (expression, rest) ->
    Exists fun other =>
      readSum larger (tokens.map (Token.deepen level)) =
          some (other, rest.map (Token.deepen level)) ∧
        Alike expression other
  operand : forall {tokens rest expression}, readOperand bound tokens = some (expression, rest) ->
    Exists fun other =>
      readOperand larger (tokens.map (Token.deepen level)) =
          some (other, rest.map (Token.deepen level)) ∧
        Alike expression other
  literal : forall {style inside literal}, readLiteral bound style inside = some literal ->
    Exists fun other =>
      readLiteral larger style (Text.deepen level inside) = some other ∧ literal.Alike other
  literals : forall {before tokens rest whole},
    readLiterals bound before tokens = some (whole, rest) ->
    forall {before'}, before.Alike before' -> Exists fun other =>
      readLiterals larger before' (tokens.map (Token.deepen level)) =
          some (other, rest.map (Token.deepen level)) ∧
        whole.Alike other
  items : forall {closer tokens rest items}, readItems bound closer tokens = some (items, rest) ->
    Exists fun others =>
      readItems larger closer (tokens.map (Token.deepen level)) =
          some (others, rest.map (Token.deepen level)) ∧
        ItemsAlike items others
  attached : forall {subject tokens rest expression},
    readAttached bound subject tokens = some (expression, rest) ->
    forall {subject'}, Alike subject subject' -> Exists fun other =>
      readAttached larger subject' (tokens.map (Token.deepen level)) =
          some (other, rest.map (Token.deepen level)) ∧
        Alike expression other
  operators : forall {binding left tokens rest expression},
    readOperators bound binding left tokens = some (expression, rest) ->
    forall {left'}, Alike left left' -> Exists fun other =>
      readOperators larger binding left' (tokens.map (Token.deepen level)) =
          some (other, rest.map (Token.deepen level)) ∧
        Alike expression other

theorem relation?_deepen (level : Int) (token : Token) :
    relation? (token.deepen level) = relation? token := by
  cases token <;> rfl

theorem operator?_deepen (level : Int) (token : Token) :
    operator? (token.deepen level) = operator? token := by
  cases token <;> rfl

theorem deepen_symbol (level : Int) (symbol : Symbol) :
    (Token.symbol symbol).deepen level = .symbol symbol := rfl

theorem eq_of_deepen_eq {level : Int} {token other : Token} (same : token.deepen level = other)
    (plain : forall style inside, other ≠ .literal style inside) : token = other := by
  cases token with
  | literal style inside => exact absurd same.symm (plain _ _)
  | name | keyword | number | symbol | unknown | broken | severed => exact same

theorem exists_of_map_deepen {level : Int} {token : Token} {tokens tail : List Token}
    (same : tokens.map (Token.deepen level) = token :: tail)
    (plain : forall style inside, token ≠ .literal style inside) :
    Exists fun rest => tokens = token :: rest := by
  rcases List.map_eq_cons_iff.mp same with ⟨first, rest, rfl, deepened, _⟩
  exact ⟨rest, by rw [eq_of_deepen_eq deepened plain]⟩

/-- What a piece of a literal stands for, given how operands are read. -/
def pieceOf? (operand : List Token -> Option (Expr × List Token)) (style : LiteralStyle) :
    Piece -> Option Expr
  | .plain text => (textOf? style text).map fun text => constant (.str text)
  | .enclosed text => do
      let tokens <- lineTokens? text
      match <- operand tokens with
      | (inner, []) => return joined [inner]
      | _ => none

theorem readLiteral_eq (bound : Nat) (style : LiteralStyle) (inside : Text) :
    readLiteral (bound + 1) style inside =
      if style.bytes then (bytesOf? style inside).map .bytes
      else if style.format then
        (Piece.divide style.raw [] .plain inside).bind fun pieces =>
          (pieces.mapM (pieceOf? (readOperand bound) style)).bind fun parts => some (.text parts)
      else (textOf? style inside).map fun text => .text [constant (.str text)] := by
  rw [readLiteral]
  rfl

theorem mapM_deepened {level : Int} {part? part?' : Piece -> Option Expr} {pieces : List Piece}
    (read : forall piece, piece ∈ pieces -> forall {part}, part? piece = some part ->
      Exists fun other => part?' (piece.deepen level) = some other ∧ PartAlike part other)
    {parts : List Expr} (found : pieces.mapM part? = some parts) :
    Exists fun others => (pieces.map (Piece.deepen level)).mapM part?' = some others ∧
      List.Forall₂ PartAlike parts others := by
  induction pieces generalizing parts with
  | nil =>
      cases found
      exact ⟨[], rfl, .nil⟩
  | cons piece pieces later =>
      simp only [List.mapM_cons, Option.bind_eq_bind, Option.bind_eq_some_iff] at found
      rcases found with ⟨first, readFirst, rest, readRest, same⟩
      cases same
      rcases read piece List.mem_cons_self readFirst with ⟨first', readFirst', firstAlike⟩
      rcases later (fun piece member => read piece (List.mem_cons_of_mem _ member)) readRest with
        ⟨rest', readRest', restAlike⟩
      refine ⟨first' :: rest', ?_, .cons firstAlike restAlike⟩
      simp only [List.map_cons, List.mapM_cons, readFirst', readRest', Option.bind_eq_bind,
        Option.bind_some]
      rfl

section Step

variable {level : Int} {bound larger : Nat} (ih : ReadsDeepened level bound larger)
  {tokens rest : List Token} {expression : Expr}
include ih

theorem read_deepened (found : Expr.read (bound + 1) tokens = some (expression, rest)) :
    Exists fun other =>
      Expr.read (larger + 1) (tokens.map (Token.deepen level)) =
          some (other, rest.map (Token.deepen level)) ∧
        Alike expression other := by
  simp only [Expr.read, Option.bind_eq_bind, Option.bind_eq_some_iff] at found
  rcases found with ⟨⟨first, middle⟩, readFirst, ⟨⟨relations, operands⟩, last⟩, readOthers, same⟩
  cases same
  rcases ih.sum readFirst with ⟨first', readFirst', firstAlike⟩
  rcases ih.relations readOthers with ⟨operands', readOthers', operandsAlike⟩
  refine ⟨if relations.isEmpty then first' else compare first' relations operands', ?_, ?_⟩
  · simp only [Expr.read, readFirst', readOthers', Option.bind_eq_bind, Option.bind_some]
    rfl
  · split
    · exact firstAlike
    · exact firstAlike.compare relations operandsAlike

theorem relations_deepened {relations : List Relation} {operands : List Expr}
    (found : readRelations (bound + 1) tokens = some ((relations, operands), rest)) :
    Exists fun others =>
      readRelations (larger + 1) (tokens.map (Token.deepen level)) =
          some ((relations, others), rest.map (Token.deepen level)) ∧
        ItemsAlike operands others := by
  cases tokens with
  | nil =>
      simp only [readRelations] at found
      cases found
      exact ⟨[], rfl, .nil⟩
  | cons token tokens =>
      have relation := relation?_deepen level token
      simp only [readRelations] at found
      simp only [readRelations, List.map_cons, relation]
      cases kind : relation? token with
      | none =>
          rw [kind] at found
          cases found
          exact ⟨[], rfl, .nil⟩
      | some kind' =>
          rw [kind] at found
          simp only [Option.bind_eq_bind, Option.bind_eq_some_iff] at found
          rcases found with ⟨⟨operand, middle⟩, readFirst, ⟨⟨kinds, others⟩, last⟩, readOthers, same⟩
          cases same
          rcases ih.sum readFirst with ⟨operand', readFirst', operandAlike⟩
          rcases ih.relations readOthers with ⟨others', readOthers', othersAlike⟩
          refine ⟨operand' :: others', ?_, .cons operandAlike othersAlike⟩
          simp only [readFirst', readOthers', Option.bind_eq_bind, Option.bind_some]
          rfl

theorem sum_deepened (found : readSum (bound + 1) tokens = some (expression, rest)) :
    Exists fun other =>
      readSum (larger + 1) (tokens.map (Token.deepen level)) =
          some (other, rest.map (Token.deepen level)) ∧
        Alike expression other := by
  simp only [readSum, Option.bind_eq_bind, Option.bind_eq_some_iff] at found
  rcases found with ⟨⟨first, middle⟩, readFirst, readOthers⟩
  rcases ih.operand readFirst with ⟨first', readFirst', firstAlike⟩
  rcases ih.operators readOthers firstAlike with ⟨other, readOthers', alike⟩
  refine ⟨other, ?_, alike⟩
  simp only [readSum, readFirst', Option.bind_eq_bind, Option.bind_some]
  exact readOthers'

theorem operand_deepened (found : readOperand (bound + 1) tokens = some (expression, rest)) :
    Exists fun other =>
      readOperand (larger + 1) (tokens.map (Token.deepen level)) =
          some (other, rest.map (Token.deepen level)) ∧
        Alike expression other := by
  simp only [readOperand] at found
  split at found
  case h_1 | h_2 =>
    simp only [Option.bind_eq_bind, Option.bind_eq_some_iff] at found
    rcases found with ⟨⟨operand, last⟩, readRest, same⟩
    cases same
    rcases ih.operand readRest with ⟨operand', readRest', alike⟩
    refine ⟨.signed _ operand', ?_, alike.signed _⟩
    simp only [List.map_cons, Token.deepen, readOperand, readRest', Option.bind_eq_bind,
      Option.bind_some]
    rfl
  case h_3 | h_4 | h_5 | h_6 | h_7 => exact ih.attached found (.refl _)
  case h_8 =>
    simp only [Option.bind_eq_bind, Option.bind_eq_some_iff] at found
    rcases found with ⟨first, readFirst, ⟨whole, middle⟩, readOthers, readRest⟩
    rcases ih.literal readFirst with ⟨first', readFirst', firstAlike⟩
    rcases ih.literals readOthers firstAlike with ⟨whole', readOthers', wholeAlike⟩
    rcases ih.attached readRest (ofLiteral_alike wholeAlike) with ⟨other, readRest', alike⟩
    refine ⟨other, ?_, alike⟩
    simp only [List.map_cons, Token.deepen, readOperand, readFirst', readOthers', readRest',
      Option.bind_eq_bind, Option.bind_some]
  case h_9 =>
    simp only [Option.bind_eq_bind, Option.bind_eq_some_iff] at found
    rcases found with ⟨⟨inner, middle⟩, readInner, readRest⟩
    split at readRest
    · rename_i last closing
      subst closing
      rcases ih.read readInner with ⟨inner', readInner', innerAlike⟩
      rcases ih.attached readRest innerAlike with ⟨other, readRest', alike⟩
      refine ⟨other, ?_, alike⟩
      simp only [List.map_cons, Token.deepen, readOperand, Option.bind_eq_bind]
      simp only [List.map_cons, Token.deepen] at readInner'
      rw [readInner', Option.bind_some]
      exact readRest'
    · cases readRest
  case h_10 => exact ih.attached found (.refl _)
  case h_11 inside notEmpty =>
    simp only [Option.bind_eq_bind, Option.bind_eq_some_iff] at found
    rcases found with ⟨⟨element, middle⟩, readElement, readRest⟩
    rcases ih.read readElement with ⟨element', readElement', elementAlike⟩
    rw [List.map_cons, deepen_symbol, readOperand, readElement', Option.bind_eq_bind, Option.bind_some]
    dsimp only
    · split at readRest
      · -- a comprehension
        rename_i heading
        subst heading
        simp only [Option.bind_eq_some_iff] at readRest
        rcases readRest with ⟨⟨source, behind⟩, readSource, readEnd⟩
        rcases ih.read readSource with ⟨source', readSource', sourceAlike⟩
        split at readEnd
        · rename_i last closing
          subst closing
          rcases ih.attached readEnd (elementAlike.comprehension _ sourceAlike) with
            ⟨other, readEnd', alike⟩
          refine ⟨other, ?_, alike⟩
          simp only [List.map_cons, Token.deepen] at readSource' ⊢
          rw [readSource', Option.bind_some]
          exact readEnd'
        · cases readEnd
      · rename_i notHeading
        simp only [Option.bind_eq_some_iff] at readRest
        rcases readRest with ⟨⟨others, behind⟩, readOthers, readEnd⟩
        rcases ih.items readOthers with ⟨others', readOthers', othersAlike⟩
        rcases ih.attached readEnd (.display (.cons elementAlike othersAlike)) with
          ⟨other, readEnd', alike⟩
        refine ⟨other, ?_, alike⟩
        split
        · rename_i heading
          rcases exists_of_map_deepen heading (fun _ _ => Token.noConfusion) with ⟨_, rfl⟩
          rcases exists_of_map_deepen (List.cons.inj heading).2 (fun _ _ => Token.noConfusion) with
            ⟨_, rfl⟩
          rcases exists_of_map_deepen (List.cons.inj (List.cons.inj heading).2).2
            (fun _ _ => Token.noConfusion) with ⟨_, rfl⟩
          exact absurd rfl (notHeading _ _)
        · rw [readOthers']
          exact readEnd'
    · intro tail same
      rcases exists_of_map_deepen same (fun _ _ => Token.noConfusion) with ⟨_, rfl⟩
      exact notEmpty _ rfl
  case h_12 => cases found

theorem pieceOf?_deepened {style : LiteralStyle} {piece : Piece} (plain : piece.Plain) {part : Expr}
    (found : pieceOf? (readOperand bound) style piece = some part) :
    Exists fun other => pieceOf? (readOperand larger) style (piece.deepen level) = some other ∧
      PartAlike part other := by
  cases piece with
  | plain text =>
      rcases Option.map_eq_some_iff.mp found with ⟨value, read, rfl⟩
      have complete : (textOf? style text).isSome = true := by rw [read]; rfl
      rcases Option.isSome_iff_exists.mp (isSome_textOf?_deepen level complete) with ⟨other, read'⟩
      refine ⟨.constant (.str other), ?_, .text value other⟩
      rw [Piece.deepen, pieceOf?, read']
      rfl
  | enclosed text =>
      simp only [pieceOf?, Option.bind_eq_bind, Option.bind_eq_some_iff] at found
      rcases found with ⟨tokens, scanned, ⟨inner, last⟩, readInner, same⟩
      split at same
      · rename_i whole
        cases whole
        cases same
        have known := ((takesKnown bound).operand readInner).all_known
        have scanned' := lineTokens?_deepen level scanned known plain.1 plain.2
        rcases ih.operand readInner with ⟨inner', readInner', alike⟩
        refine ⟨.joined [inner'], ?_, .enclosed alike⟩
        simp only [Piece.deepen, pieceOf?, scanned', readInner', Option.bind_eq_bind,
          Option.bind_some]
        rfl
      · cases same

theorem literal_deepened {style : LiteralStyle} {inside : Text} {literal : Literal}
    (found : readLiteral (bound + 1) style inside = some literal) :
    Exists fun other =>
      readLiteral (larger + 1) style (Text.deepen level inside) = some other ∧
        literal.Alike other := by
  rw [readLiteral_eq] at found ⊢
  split at found
  · rename_i bytes
    rcases Option.map_eq_some_iff.mp found with ⟨value, read, rfl⟩
    have complete : (bytesOf? style inside).isSome = true := by rw [read]; rfl
    rcases Option.isSome_iff_exists.mp (isSome_bytesOf?_deepen level complete) with ⟨other, read'⟩
    rw [if_pos bytes, read']
    exact ⟨.bytes other, rfl, .bytes value other⟩
  · rename_i notBytes
    rw [if_neg notBytes]
    split at found
    · rename_i format
      rcases Option.bind_eq_some_iff.mp found with ⟨pieces, divided, found⟩
      rcases Option.bind_eq_some_iff.mp found with ⟨parts, readParts, same⟩
      cases same
      have divided' : Piece.divide style.raw [] .plain (Text.deepen level inside) =
          some (pieces.map (Piece.deepen level)) := by
        have deepened := Piece.divide_deepen style.raw level [] .plain inside
        rw [divided] at deepened
        exact deepened
      have plain : forall piece, piece ∈ pieces -> piece.Plain :=
        fun piece => Piece.plain_of_mem_divide divided nofun
      rcases mapM_deepened (fun piece member _ => pieceOf?_deepened ih (plain piece member))
        readParts with ⟨others, readParts', alike⟩
      refine ⟨.text others, ?_, .text alike⟩
      rw [if_pos format, divided', Option.bind_some, readParts', Option.bind_some]
    · rename_i plain
      rcases Option.map_eq_some_iff.mp found with ⟨text, read, rfl⟩
      have complete : (textOf? style inside).isSome = true := by rw [read]; rfl
      rcases Option.isSome_iff_exists.mp (isSome_textOf?_deepen level complete) with ⟨other, read'⟩
      rw [if_neg plain, read']
      exact ⟨.text [.constant (.str other)], rfl, .text (.cons (.text text other) .nil)⟩

theorem literals_deepened {before before' whole : Literal} (alike : before.Alike before')
    (found : readLiterals (bound + 1) before tokens = some (whole, rest)) :
    Exists fun other =>
      readLiterals (larger + 1) before' (tokens.map (Token.deepen level)) =
          some (other, rest.map (Token.deepen level)) ∧
        whole.Alike other := by
  simp only [readLiterals] at found
  split at found
  · simp only [Option.bind_eq_bind, Option.bind_eq_some_iff] at found
    rcases found with ⟨next, readNext, joined, join, readOthers⟩
    rcases ih.literal readNext with ⟨next', readNext', nextAlike⟩
    rcases joinLiterals_alike alike nextAlike join with ⟨joined', join', joinedAlike⟩
    rcases ih.literals readOthers joinedAlike with ⟨other, readOthers', alike⟩
    refine ⟨other, ?_, alike⟩
    simp only [List.map_cons, Token.deepen, readLiterals, readNext', join', Option.bind_eq_bind,
      Option.bind_some]
    exact readOthers'
  · rename_i notLiteral
    cases found
    refine ⟨before', ?_, alike⟩
    rw [readLiterals]
    intro style inside tail same
    rcases List.map_eq_cons_iff.mp same with ⟨token, others, rfl, deepened, _⟩
    cases token with
    | literal => exact notLiteral _ _ _ rfl
    | name | keyword | number | symbol | unknown | broken | severed => cases deepened

theorem furtherItems_deepened {closer : Symbol} {items : List Expr}
    (found : (do
      let (item, rest) <- Expr.read bound tokens
      let (items, rest) <- readItems bound closer rest
      return (item :: items, rest)) = some (items, rest)) :
    Exists fun others =>
      (do
        let (item, rest) <- Expr.read larger (tokens.map (Token.deepen level))
        let (items, rest) <- readItems larger closer rest
        return (item :: items, rest)) = some (others, rest.map (Token.deepen level)) ∧
        ItemsAlike items others := by
  simp only [Option.bind_eq_bind, Option.bind_eq_some_iff] at found
  rcases found with ⟨⟨item, middle⟩, readItem, ⟨others, last⟩, readOthers, same⟩
  cases same
  rcases ih.read readItem with ⟨item', readItem', itemAlike⟩
  rcases ih.items readOthers with ⟨others', readOthers', othersAlike⟩
  refine ⟨item' :: others', ?_, .cons itemAlike othersAlike⟩
  simp only [readItem', readOthers', Option.bind_eq_bind, Option.bind_some]
  rfl

theorem items_deepened {closer : Symbol} {items : List Expr}
    (found : readItems (bound + 1) closer tokens = some (items, rest)) :
    Exists fun others =>
      readItems (larger + 1) closer (tokens.map (Token.deepen level)) =
          some (others, rest.map (Token.deepen level)) ∧
        ItemsAlike items others := by
  simp only [readItems] at found
  split at found
  · rename_i symbol others
    simp only [List.map_cons, Token.deepen, readItems]
    split at found
    · rename_i closes
      cases found
      rw [if_pos closes]
      exact ⟨[], rfl, .nil⟩
    · rename_i goesOn
      rw [if_neg goesOn]
      exact furtherItems_deepened ih found
  · rename_i others notSymbol
    rw [List.map_cons, deepen_symbol, readItems]
    · exact furtherItems_deepened ih found
    · intro symbol tail same
      rcases exists_of_map_deepen same (fun _ _ => Token.noConfusion) with ⟨_, rfl⟩
      exact notSymbol _ _ rfl
  · rename_i symbol others _ notComma
    split at found
    · rename_i closes
      cases found
      rw [List.map_cons, deepen_symbol, readItems, if_pos closes]
      · exact ⟨[], rfl, .nil⟩
      · exact fun _ _ _ => notComma
      · exact notComma
    · cases found
  · cases found

theorem attached_deepened {subject subject' : Expr} (subjectAlike : Alike subject subject')
    (found : readAttached (bound + 1) subject tokens = some (expression, rest)) :
    Exists fun other =>
      readAttached (larger + 1) subject' (tokens.map (Token.deepen level)) =
          some (other, rest.map (Token.deepen level)) ∧
        Alike expression other := by
  simp only [readAttached] at found
  split at found
  · exact ih.attached found (subjectAlike.member _)
  · exact ih.attached found (subjectAlike.call .nil)
  · rename_i inside notEmpty
    simp only [Option.bind_eq_bind, Option.bind_eq_some_iff] at found
    rcases found with ⟨⟨first, middle⟩, readFirst, ⟨others, behind⟩, readOthers, readEnd⟩
    rcases ih.read readFirst with ⟨first', readFirst', firstAlike⟩
    rcases ih.items readOthers with ⟨others', readOthers', othersAlike⟩
    rcases ih.attached readEnd (subjectAlike.call (.cons firstAlike othersAlike)) with
      ⟨other, readEnd', alike⟩
    refine ⟨other, ?_, alike⟩
    rw [List.map_cons, deepen_symbol, readAttached]
    · simp only [readFirst', readOthers', Option.bind_eq_bind, Option.bind_some]
      exact readEnd'
    · intro tail same
      rcases exists_of_map_deepen same (fun _ _ => Token.noConfusion) with ⟨_, rfl⟩
      exact notEmpty _ rfl
  · rename_i notMember notEmpty notCall
    cases found
    refine ⟨subject', ?_, subjectAlike⟩
    rw [readAttached]
    · intro name tail same
      rcases exists_of_map_deepen same (fun _ _ => Token.noConfusion) with ⟨_, rfl⟩
      rcases exists_of_map_deepen (List.cons.inj same).2 (fun _ _ => Token.noConfusion) with
        ⟨_, rfl⟩
      exact notMember _ _ rfl
    · intro tail same
      rcases exists_of_map_deepen same (fun _ _ => Token.noConfusion) with ⟨_, rfl⟩
      rcases exists_of_map_deepen (List.cons.inj same).2 (fun _ _ => Token.noConfusion) with
        ⟨_, rfl⟩
      exact notEmpty _ rfl
    · intro tail same
      rcases exists_of_map_deepen same (fun _ _ => Token.noConfusion) with ⟨_, rfl⟩
      exact notCall _ rfl

theorem operators_deepened {binding : Nat} {left left' : Expr} (leftAlike : Alike left left')
    (found : readOperators (bound + 1) binding left tokens = some (expression, rest)) :
    Exists fun other =>
      readOperators (larger + 1) binding left' (tokens.map (Token.deepen level)) =
          some (other, rest.map (Token.deepen level)) ∧
        Alike expression other := by
  cases tokens with
  | nil =>
      simp only [readOperators] at found
      cases found
      exact ⟨left', rfl, leftAlike⟩
  | cons token tokens =>
      have operator := operator?_deepen level token
      simp only [readOperators] at found
      simp only [readOperators, List.map_cons, operator]
      cases kind : operator? token with
      | none =>
          rw [kind] at found
          cases found
          exact ⟨left', rfl, leftAlike⟩
      | some kind' =>
          simp only [kind] at found ⊢
          split at found
          · rename_i looser
            cases found
            rw [if_pos looser]
            exact ⟨left', rfl, leftAlike⟩
          · rename_i tighter
            simp only [Option.bind_eq_bind, Option.bind_eq_some_iff] at found
            rcases found with ⟨⟨right, middle⟩, readRight, ⟨whole, behind⟩, readTighter, readEnd⟩
            rcases ih.operand readRight with ⟨right', readRight', rightAlike⟩
            rcases ih.operators readTighter rightAlike with ⟨whole', readTighter', wholeAlike⟩
            rcases ih.operators readEnd (.arithmetic _ leftAlike wholeAlike) with
              ⟨other, readEnd', alike⟩
            refine ⟨other, ?_, alike⟩
            rw [if_neg tighter]
            simp only [readRight', readTighter', Option.bind_eq_bind, Option.bind_some]
            exact readEnd'

end Step

theorem readsDeepened (level : Int) {bound larger : Nat} (less : bound ≤ larger) :
    ReadsDeepened level bound larger := by
  induction bound generalizing larger with
  | zero =>
      constructor <;> intros <;>
        simp_all [Expr.read, readRelations, readSum, readOperand, readLiteral, readLiterals,
          readItems, readAttached, readOperators]
  | succ bound ih =>
      cases larger with
      | zero => cases less
      | succ larger =>
          have ih := ih (Nat.le_of_succ_le_succ less)
          exact ⟨read_deepened ih, relations_deepened ih, sum_deepened ih, operand_deepened ih,
            literal_deepened ih, fun found _ alike => literals_deepened ih alike found,
            items_deepened ih, fun found _ alike => attached_deepened ih alike found,
            fun found _ alike => operators_deepened ih alike found⟩

theorem depthBound_deepen (level : Int) (tokens : List Token) :
    depthBound tokens ≤ depthBound (tokens.map (Token.deepen level)) := by
  have longer : forall text : Text, text.length ≤ (Text.deepen level text).length := by
    intro text
    induction text with
    | nil => exact Nat.le_refl 0
    | cons char rest restLonger =>
        by_cases newline : char = '\n'
        · subst newline
          rw [Text.deepen_cons_newline, List.length_cons, List.length_cons, List.length_append]
          omega
        · rw [Text.deepen_cons_of_ne newline, List.length_cons, List.length_cons]
          exact Nat.succ_le_succ restLonger
  have heavier : tokens.foldr (weight · + ·) 0 ≤
      (tokens.map (Token.deepen level)).foldr (weight · + ·) 0 := by
    induction tokens with
    | nil => exact Nat.le_refl 0
    | cons token rest restHeavier =>
        refine Nat.add_le_add ?_ restHeavier
        cases token with
        | literal style inside => exact Nat.add_le_add_right (longer inside) 3
        | name | keyword | number | symbol | unknown | broken | severed => exact Nat.le_refl _
  rw [depthBound, depthBound]
  omega

variable {level : Int} {tokens rest : List Token} {expression : Expr}

theorem ofFront_deepened (level : Int) (found : ofFront tokens = some (expression, rest)) :
    Exists fun other =>
      ofFront (tokens.map (Token.deepen level)) = some (other, rest.map (Token.deepen level)) ∧
        Alike expression other :=
  (readsDeepened level (depthBound_deepen level tokens)).read found

theorem ofTokens_deepened (level : Int) (found : ofTokens tokens = some expression) :
    Exists fun other => ofTokens (tokens.map (Token.deepen level)) = some other ∧
      Alike expression other := by
  rw [ofTokens] at found
  split at found
  · rename_i whole
    cases found
    rcases ofFront_deepened level whole with ⟨other, read, alike⟩
    refine ⟨other, ?_, alike⟩
    rw [ofTokens, read]
    rfl
  · cases found

end Expr
end Program
end Oneliner
