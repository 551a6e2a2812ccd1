import Oneliner.Proofs.Braces.Course

namespace Oneliner
namespace Braces

/-!
Counters of brackets and a stack of brackets.

A scan counts open parentheses, square brackets and grouping braces, each on its
own.  A scan with one stack of open brackets would ask whether all of them are
blocks, and would give a closing brace the kind of the bracket that it closes.
On sources with properly nested brackets the two cannot be told apart.

The invariant that links them has two parts.  The counters count the stack, and
blocks lie below all other brackets on it.  The second part holds because a block
is opened only where nothing else is open.  It is what makes the two tests for a
closing brace agree: with a block on top, nothing else can be open further down.
-/

/-! ## Scans with a stack -/

inductive Bracket where
  | paren
  | square
  | group
  | block
  deriving DecidableEq, Repr

/-- The character that closes a bracket. -/
def Bracket.closer : Bracket -> Char
  | paren => ')'
  | square => ']'
  | group | block => '}'

namespace Role

/-- The bracket that a character of this role opens. -/
def opens : Role -> Option Bracket
  | openParen => some .paren
  | openSquare => some .square
  | openGroup => some .group
  | openBlock => some .block
  | _ => none

/-- The bracket that a character of this role closes. -/
def closes : Role -> Option Bracket
  | closeParen => some .paren
  | closeSquare => some .square
  | closeGroup => some .group
  | closeBlock => some .block
  | _ => none

/-- The stack of open brackets, innermost first, after a character of this role. -/
def restack (role : Role) (opened : List Bracket) : List Bracket :=
  match role.opens, role.closes with
  | some bracket, _ => bracket :: opened
  | none, some _ => opened.tail
  | none, none => opened

end Role

/-- What a scan with a stack knows about the characters that it has read. -/
structure Stacked where
  previous : Option Char
  quote : Option Char
  declaring : Bool
  opened : List Bracket
  level : Int
  atBreak : Bool
  deriving DecidableEq, Repr

namespace Stacked

def start : Stacked where
  previous := none
  quote := none
  declaring := false
  opened := []
  level := 0
  atBreak := false

/-- The role of a character that is neither escaped nor quoted nor itself a
quotation mark.  A brace opens a block where only blocks are open, and closes
what was opened last. -/
def activeRole (stacked : Stacked) (next : Option Char) (char : Char) : Role :=
  if char = '(' then .openParen
  else if char = ')' then .closeParen
  else if char = '[' then .openSquare
  else if char = ']' then .closeSquare
  else if char = '=' then
    if stacked.previous = some '=' || next = some '=' then .plain else .assignment
  else if char = '{' then
    if stacked.opened.all (· = .block) && !stacked.declaring then .openBlock else .openGroup
  else if char = '}' then
    if stacked.opened.head? = some .block then .closeBlock else .closeGroup
  else if char = ';' then .separator
  else .plain

def role (stacked : Stacked) (next : Option Char) (char : Char) : Role :=
  if stacked.atBreak && char = ' ' then .skipped
  else if stacked.previous = some '\\' then .plain
  else
    match stacked.quote with
    | some mark => if char = mark then .closeQuote else .plain
    | none =>
        if char = '\'' || char = '"' then .openQuote else stacked.activeRole next char

def advance (stacked : Stacked) (role : Role) (char : Char) : Stacked :=
  if role = .skipped then { stacked with previous := some char }
  else
    { previous := some char
      quote :=
        match role with
        | .openQuote => some char
        | .closeQuote => none
        | _ => stacked.quote
      declaring := role = .assignment || stacked.declaring && (char = '=' || char = ' ')
      opened := role.restack stacked.opened
      level := stacked.level + role.rise
      atBreak := role.breaks }

theorem opened_advance (stacked : Stacked) (role : Role) (char : Char) :
    (stacked.advance role char).opened = role.restack stacked.opened := by
  cases role <;> rfl

/-- The roles of the characters of a source, in order. -/
def roles (stacked : Stacked) : Text -> List Role
  | [] => []
  | char :: rest =>
      let role := stacked.role rest.head? char
      role :: (stacked.advance role char).roles rest

def pieces (stacked : Stacked) : Text -> List Text
  | [] => []
  | char :: rest =>
      let role := stacked.role rest.head? char
      let after := stacked.advance role char
      piece after.level role char :: after.pieces rest

/-- The indented program, by a scan with a stack. -/
def expand (source : Text) : Text :=
  (start.pieces source).flatten

end Stacked

/-! ## Properly nested brackets -/

/-- The characters of a source that are neither escaped nor quoted nor quotation
marks. -/
def Scan.activeText (scan : Scan) : Text -> Text
  | [] => []
  | char :: rest =>
      let later := (scan.advance (scan.role rest.head? char) char).activeText rest
      if scan.active char then char :: later else later

/-- The closing character that an opening one asks for. -/
def closer? : Char -> Option Char
  | '(' => some ')'
  | '[' => some ']'
  | '{' => some '}'
  | _ => none

/-- Whether every closing character is the one expected next.  Some may still be
expected at the end. -/
def matched (expected : List Char) : Text -> Bool
  | [] => true
  | char :: rest =>
      match closer? char with
      | some closer => matched (closer :: expected) rest
      | none =>
          if char = ')' || char = ']' || char = '}' then
            expected.head? = some char && matched expected.tail rest
          else matched expected rest

/-- The active brackets of the source are properly nested, in every part of it
from the beginning.  Brackets may be left open at the end. -/
def Nested (source : Text) : Prop :=
  matched [] (Scan.start.activeText source) = true

instance (source : Text) : Decidable (Nested source) :=
  inferInstanceAs (Decidable (matched [] (Scan.start.activeText source) = true))

theorem matched_other (expected : List Char) {char : Char} (rest : Text)
    (other : char ∉ ['(', ')', '[', ']', '{', '}']) :
    matched expected (char :: rest) = matched expected rest := by
  simp only [List.mem_cons, List.not_mem_nil, or_false, not_or] at other
  obtain ⟨openParen, closeParen, openSquare, closeSquare, openBrace, closeBrace⟩ := other
  have nothing : closer? char = none := by
    rw [closer?.eq_def]
    split <;> first | contradiction | rfl
  rw [matched, nothing]
  simp [closeParen, closeSquare, closeBrace]

/-- A closing character that is expected closes the bracket on top of the stack. -/
theorem matched_closing {opened : List Bracket} {char : Char} {rest : Text}
    (closing : char = ')' ∨ char = ']' ∨ char = '}')
    (fits : matched (opened.map Bracket.closer) (char :: rest) = true) :
    exists top, opened.head? = some top ∧ top.closer = char ∧
      matched (opened.tail.map Bracket.closer) rest = true := by
  have expected : (opened.map Bracket.closer).head? = some char ∧
      matched (opened.map Bracket.closer).tail rest = true := by
    rcases closing with rfl | rfl | rfl <;> simpa [matched, closer?] using fits
  rw [List.head?_map, Option.map_eq_some_iff] at expected
  obtain ⟨⟨top, found, same⟩, later⟩ := expected
  exact ⟨top, found, same, by rwa [List.map_tail]⟩

/-! ## The invariant -/

/-- The counter of a scan for each kind of bracket. -/
def Scan.counter (scan : Scan) : Bracket -> Int
  | .paren => scan.parens
  | .square => scan.squares
  | .group => scan.braces
  | .block => scan.level

theorem Scan.counter_advance (scan : Scan) (role : Role) (char : Char) (bracket : Bracket) :
    (scan.advance role char).counter bracket + (if role.closes = some bracket then 1 else 0) =
      scan.counter bracket + (if role.opens = some bracket then 1 else 0) := by
  cases bracket <;> cases role <;> simp [counter, advance, Role.opens, Role.closes]

/-- The scan and the scan with a stack have come to the same point. -/
structure Agrees (scan : Scan) (stacked : Stacked) : Prop where
  previous : stacked.previous = scan.previous
  quote : stacked.quote = scan.quote
  declaring : stacked.declaring = scan.declaring
  level : stacked.level = scan.level
  atBreak : stacked.atBreak = scan.atBreak
  counted : forall bracket, scan.counter bracket = stacked.opened.count bracket
  layered : stacked.opened.Pairwise (fun upper lower => upper = .block -> lower = .block)

/-- What the stack must look like for a character of this role. -/
structure Role.Fits (role : Role) (opened : List Bracket) : Prop where
  closing : forall bracket, role.closes = some bracket -> opened.head? = some bracket
  opening : role.opens = some .block -> forall bracket, bracket ∈ opened -> bracket = .block

private theorem fits_of_inert {role : Role} {opened : List Bracket}
    (inert : role.opens = none ∧ role.closes = none) : role.Fits opened where
  closing := fun _ closes => nomatch inert.2.symm.trans closes
  opening := fun opens => nomatch inert.1.symm.trans opens

private theorem restack_of_inert {role : Role} {opened : List Bracket}
    (inert : role.opens = none ∧ role.closes = none) : role.restack opened = opened := by
  rw [Role.restack, inert.1, inert.2]

private theorem closes_of_opens {role : Role} {bracket : Bracket}
    (opens : role.opens = some bracket) : role.closes = none := by
  cases role <;> first | rfl | exact nomatch opens

/-- How often a bracket is on the stack after a character that fits it. -/
private theorem count_restack {role : Role} {opened : List Bracket} (fits : role.Fits opened)
    (bracket : Bracket) :
    (role.restack opened).count bracket + (if role.closes = some bracket then 1 else 0) =
      opened.count bracket + (if role.opens = some bracket then 1 else 0) := by
  rw [Role.restack]
  cases opens : role.opens with
  | some pushed =>
      rw [closes_of_opens opens]
      simp [List.count_cons]
  | none =>
      cases closes : role.closes with
      | some popped =>
          obtain ⟨below, same⟩ := List.head?_eq_some_iff.mp (fits.closing popped closes)
          rw [same]
          simp [List.count_cons]
      | none => rfl

/-- Blocks stay below all other brackets. -/
private theorem pairwise_restack {role : Role} {opened : List Bracket} (fits : role.Fits opened)
    (layered : opened.Pairwise (fun upper lower => upper = .block -> lower = .block)) :
    (role.restack opened).Pairwise (fun upper lower => upper = .block -> lower = .block) := by
  rw [Role.restack]
  cases opens : role.opens with
  | some pushed =>
      apply List.pairwise_cons.mpr
      refine ⟨fun bracket member block => ?_, layered⟩
      exact fits.opening (block ▸ opens) bracket member
  | none =>
      cases role.closes with
      | some popped => exact layered.tail
      | none => exact layered

namespace Agrees

variable {scan : Scan} {stacked : Stacked}

theorem start : Agrees Scan.start Stacked.start :=
  ⟨rfl, rfl, rfl, rfl, rfl, fun bracket => by cases bracket <;> rfl, List.Pairwise.nil⟩

/-- The counters see an open bracket exactly if something other than a block is on
the stack. -/
theorem nested_iff (agrees : Agrees scan stacked) :
    scan.nested = true ↔ exists bracket, bracket ∈ stacked.opened ∧ bracket ≠ .block := by
  have counted (bracket : Bracket) : scan.counter bracket ≠ 0 ↔ bracket ∈ stacked.opened := by
    rw [agrees.counted, Ne, Int.natCast_eq_zero, List.count_eq_zero, Decidable.not_not]
  have nested : scan.nested = true ↔
      (.group ∈ stacked.opened ∨ .paren ∈ stacked.opened) ∨ .square ∈ stacked.opened := by
    rw [← counted, ← counted, ← counted]
    simp [Scan.nested, Scan.counter]
  rw [nested]
  constructor
  · rintro ((group | paren) | square)
    · exact ⟨.group, group, by decide⟩
    · exact ⟨.paren, paren, by decide⟩
    · exact ⟨.square, square, by decide⟩
  · rintro ⟨bracket, member, other⟩
    cases bracket with
    | paren => exact .inl (.inr member)
    | square => exact .inr member
    | group => exact .inl (.inl member)
    | block => exact absurd rfl other

theorem not_nested (agrees : Agrees scan stacked) :
    scan.nested = false ↔ forall bracket, bracket ∈ stacked.opened -> bracket = .block := by
  rw [← Bool.not_eq_true, agrees.nested_iff]
  constructor
  · intro none bracket member
    by_contra other
    exact none ⟨bracket, member, other⟩
  · rintro blocks ⟨bracket, member, other⟩
    exact other (blocks bracket member)

/-- A brace opens a block in both scans, or in neither. -/
theorem opens_eq (agrees : Agrees scan stacked) :
    (stacked.opened.all (· = .block) && !stacked.declaring) = !(scan.nested || scan.declaring) := by
  rw [agrees.declaring, Bool.not_or]
  congr 1
  rw [Bool.eq_iff_iff, List.all_eq_true, Bool.not_eq_true', agrees.not_nested]
  simp

/-- A brace that closes what is on top of the stack closes a block in both scans,
or in neither.  A block on top leaves nothing but blocks below. -/
theorem closes_iff (agrees : Agrees scan stacked) {top : Bracket} {below : List Bracket}
    (opened : stacked.opened = top :: below) : top = .block ↔ scan.nested = false := by
  rw [agrees.not_nested, opened]
  constructor
  · intro block bracket member
    rcases List.mem_cons.mp member with first | later
    · exact first.trans block
    · have layered := agrees.layered
      rw [opened] at layered
      exact (List.pairwise_cons.mp layered).1 bracket later block
  · intro blocks
    exact blocks top List.mem_cons_self

/-! ## One step -/

/-- Where the stack fits the role, the two scans stay together. -/
theorem advance (agrees : Agrees scan stacked) {role : Role} (fits : role.Fits stacked.opened)
    (char : Char) : Agrees (scan.advance role char) (stacked.advance role char) := by
  have opened := stacked.opened_advance role char
  exact {
    previous := by cases role <;> rfl
    quote := by cases role <;> first | rfl | exact agrees.quote
    declaring := by cases role <;> simp [Stacked.advance, Scan.advance, agrees.declaring]
    level := by
      rw [Scan.level_advance, ← agrees.level]
      cases role <;> first | rfl | exact (Int.add_zero _).symm
    atBreak := by cases role <;> first | rfl | exact agrees.atBreak
    counted := by
      intro bracket
      have change := scan.counter_advance role char bracket
      have stack := count_restack fits bracket
      rw [agrees.counted] at change
      rw [opened]
      split_ifs at change stack <;> omega
    layered := by
      rw [opened]
      exact pairwise_restack fits agrees.layered }

private theorem openBrace_step (agrees : Agrees scan stacked) (next : Option Char) {rest : Text}
    (fits : matched (stacked.opened.map Bracket.closer) ('{' :: rest) = true) :
    stacked.activeRole next '{' = scan.activeRole next '{' ∧
      (scan.activeRole next '{').Fits stacked.opened ∧
      matched (((scan.activeRole next '{').restack stacked.opened).map Bracket.closer) rest =
        true := by
  have stack : stacked.activeRole next '{' =
      if stacked.opened.all (· = .block) && !stacked.declaring then .openBlock else .openGroup := rfl
  have counters : scan.activeRole next '{' =
      if scan.nested || scan.declaring then .openGroup else .openBlock := rfl
  rw [stack, counters, agrees.opens_eq]
  cases groups : scan.nested || scan.declaring with
  | true => exact ⟨rfl, ⟨nofun, nofun⟩, fits⟩
  | false =>
      refine ⟨rfl, ⟨nofun, fun _ => ?_⟩, fits⟩
      exact agrees.not_nested.mp (Bool.or_eq_false_iff.mp groups).1

private theorem closeBrace_step (agrees : Agrees scan stacked) (next : Option Char) {rest : Text}
    (fits : matched (stacked.opened.map Bracket.closer) ('}' :: rest) = true) :
    stacked.activeRole next '}' = scan.activeRole next '}' ∧
      (scan.activeRole next '}').Fits stacked.opened ∧
      matched (((scan.activeRole next '}').restack stacked.opened).map Bracket.closer) rest =
        true := by
  have stack : stacked.activeRole next '}' =
      if stacked.opened.head? = some .block then .closeBlock else .closeGroup := rfl
  have counters : scan.activeRole next '}' =
      if scan.nested then .closeGroup else .closeBlock := rfl
  obtain ⟨top, found, closer, later⟩ := matched_closing (.inr (.inr rfl)) fits
  obtain ⟨below, opened⟩ := List.head?_eq_some_iff.mp found
  have kind := agrees.closes_iff opened
  rw [stack, counters, found]
  cases top with
  | block =>
      rw [kind.mp rfl]
      exact ⟨rfl, ⟨fun _ same => same ▸ found, nofun⟩, later⟩
  | group =>
      have nested : scan.nested = true := by
        rw [← Bool.not_eq_false, ← kind]
        decide
      rw [nested]
      exact ⟨rfl, ⟨fun _ same => same ▸ found, nofun⟩, later⟩
  | paren | square => exact absurd closer (by decide)

/-- What an active character does, given that the brackets are matched from it on. -/
theorem active_step (agrees : Agrees scan stacked) (next : Option Char) {char : Char} {rest : Text}
    (fits : matched (stacked.opened.map Bracket.closer) (char :: rest) = true) :
    stacked.activeRole next char = scan.activeRole next char ∧
      (scan.activeRole next char).Fits stacked.opened ∧
      matched (((scan.activeRole next char).restack stacked.opened).map Bracket.closer) rest =
        true := by
  by_cases openParen : char = '('
  · subst openParen
    exact ⟨rfl, ⟨nofun, nofun⟩, fits⟩
  by_cases openSquare : char = '['
  · subst openSquare
    exact ⟨rfl, ⟨nofun, nofun⟩, fits⟩
  by_cases closeParen : char = ')'
  · subst closeParen
    obtain ⟨top, found, closer, later⟩ := matched_closing (.inl rfl) fits
    cases top with
    | paren => exact ⟨rfl, ⟨fun _ same => same ▸ found, nofun⟩, later⟩
    | square | group | block => exact absurd closer (by decide)
  by_cases closeSquare : char = ']'
  · subst closeSquare
    obtain ⟨top, found, closer, later⟩ := matched_closing (.inr (.inl rfl)) fits
    cases top with
    | square => exact ⟨rfl, ⟨fun _ same => same ▸ found, nofun⟩, later⟩
    | paren | group | block => exact absurd closer (by decide)
  by_cases openBrace : char = '{'
  · subst openBrace
    exact agrees.openBrace_step next fits
  by_cases closeBrace : char = '}'
  · subst closeBrace
    exact agrees.closeBrace_step next fits
  · have same : stacked.activeRole next char = scan.activeRole next char := by
      rw [Stacked.activeRole, Scan.activeRole, agrees.previous]
      simp only [if_neg openBrace, if_neg closeBrace]
    have inert : (scan.activeRole next char).opens = none ∧
        (scan.activeRole next char).closes = none := by
      fun_cases Scan.activeRole <;> first | contradiction | exact ⟨rfl, rfl⟩
    rw [matched_other _ rest (by simp_all)] at fits
    exact ⟨same, fits_of_inert inert, by rwa [restack_of_inert inert]⟩

private theorem role_eq (agrees : Agrees scan stacked) {next : Option Char} {char : Char}
    (same : scan.active char = true -> stacked.activeRole next char = scan.activeRole next char) :
    stacked.role next char = scan.role next char := by
  rw [Stacked.role, Scan.role, agrees.atBreak, agrees.previous, agrees.quote]
  split
  · rfl
  · split
    · rfl
    · rename_i unescaped
      cases quoted : scan.quote with
      | some mark => rfl
      | none =>
          by_cases quotation : (decide (char = '\'') || decide (char = '"')) = true
          · simp only [quotation, if_true]
          · simp only [quotation]
            apply same
            simp_all [Scan.active]

/-- The two scans give one character the same role and stay together. -/
theorem step (agrees : Agrees scan stacked) {char : Char} {rest : Text}
    (fits : matched (stacked.opened.map Bracket.closer) (scan.activeText (char :: rest)) = true) :
    stacked.role rest.head? char = scan.role rest.head? char ∧
      Agrees (scan.advance (scan.role rest.head? char) char)
        (stacked.advance (scan.role rest.head? char) char) ∧
      matched ((stacked.advance (scan.role rest.head? char) char).opened.map Bracket.closer)
        ((scan.advance (scan.role rest.head? char) char).activeText rest) = true := by
  rw [Stacked.opened_advance]
  by_cases active : scan.active char = true
  · rw [Scan.activeText, if_pos active] at fits
    obtain ⟨same, roleFits, later⟩ := agrees.active_step rest.head? fits
    refine ⟨agrees.role_eq (fun _ => same), ?_⟩
    by_cases skipped : scan.role rest.head? char = .skipped
    · -- a skipped blank is active, but the stack does not see it
      rw [matched_other _ _ (by rw [(Scan.role_eq_skipped_iff.mp skipped).2]; decide)] at fits
      rw [skipped] at fits ⊢
      exact ⟨agrees.advance (fits_of_inert ⟨rfl, rfl⟩) char, fits⟩
    · rw [Scan.role_of_active active skipped] at later ⊢
      exact ⟨agrees.advance roleFits char, later⟩
  · rw [Scan.activeText, if_neg active] at fits
    have inert : (scan.role rest.head? char).opens = none ∧
        (scan.role rest.head? char).closes = none := by
      have reading := scan.reading rest.head? char
      generalize scan.role rest.head? char = role at reading
      cases reading with
      | skipped | escaped | closing | quoted | opening => exact ⟨rfl, rfl⟩
      | active found => exact absurd found active
    refine ⟨agrees.role_eq (fun found => absurd found active), ?_⟩
    rw [restack_of_inert inert]
    exact ⟨agrees.advance (fits_of_inert inert) char, fits⟩

/-- The two scans give all characters the same roles, and put out the same. -/
theorem run (agrees : Agrees scan stacked) {text : Text}
    (fits : matched (stacked.opened.map Bracket.closer) (scan.activeText text) = true) :
    (scan.events text).map Event.role = stacked.roles text ∧
      scan.pieces text = stacked.pieces text := by
  induction text generalizing scan stacked with
  | nil => exact ⟨rfl, rfl⟩
  | cons char rest ih =>
      obtain ⟨sameRole, after, later⟩ := agrees.step fits
      obtain ⟨roles, pieces⟩ := ih after later
      simp only [Scan.events, List.map_cons, Stacked.roles, Scan.pieces, Scan.step, Stacked.pieces,
        sameRole]
      exact ⟨congrArg _ roles, by rw [after.level, pieces]⟩

end Agrees

/-- On every source with properly nested brackets, the counters of a scan give each
character the role that a stack of open brackets gives it, so the same program
comes out. -/
theorem expand_eq_stacked {source : Text} (nested : Nested source) :
    (Scan.start.events source).map Event.role = Stacked.start.roles source ∧
      expand source = Stacked.expand source := by
  obtain ⟨roles, pieces⟩ := Agrees.start.run nested
  exact ⟨roles, congrArg List.flatten pieces⟩

theorem expand_eq_stacked_nested :
    Nested "f([\x7b1: 2\x7d])\x7b d = \x7b'\x7d': 3\x7d \x7d;\x7b(".toList ∧
    (Scan.start.events "f([\x7b1: 2\x7d])\x7b d = \x7b'\x7d': 3\x7d \x7d;\x7b(".toList).map
        Event.role =
      Stacked.start.roles "f([\x7b1: 2\x7d])\x7b d = \x7b'\x7d': 3\x7d \x7d;\x7b(".toList ∧
    expand "f([\x7b1: 2\x7d])\x7b d = \x7b'\x7d': 3\x7d \x7d;\x7b(".toList =
      Stacked.expand "f([\x7b1: 2\x7d])\x7b d = \x7b'\x7d': 3\x7d \x7d;\x7b(".toList :=
  ⟨by decide, expand_eq_stacked (by decide)⟩

end Braces
end Oneliner
