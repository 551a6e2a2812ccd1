import Oneliner.Proofs.Braces.Course

namespace Oneliner
namespace Braces

/-!
What an expansion does to each character of the source.

The output is made of one piece for each character, in the order of the source.
Which piece that is can be said without the scan, apart from one question: which
braces belong to blocks.  Quotation marks and backslashes alone tell which
characters are active.  So nothing is lost, doubled or moved: apart from blanks
and newlines the output is the source, with colons in place of some active opening
braces, without some active closing braces and without the active semicolons.
-/

/-! ## Characters and their pieces -/

/-- What quotation marks and backslashes tell about the next character. -/
structure Quoting where
  /-- The character before it is a backslash. -/
  escaped : Bool
  /-- The mark of the literal in which it stands. -/
  quote : Option Char
  deriving DecidableEq, Repr

namespace Quoting

def start : Quoting :=
  ⟨false, none⟩

/-- Neither escaped nor quoted nor itself a quotation mark. -/
def active (quoting : Quoting) (char : Char) : Bool :=
  !quoting.escaped && quoting.quote = none && char ≠ '\'' && char ≠ '"'

def next (quoting : Quoting) (char : Char) : Quoting where
  escaped := char = '\\'
  quote :=
    if quoting.escaped then quoting.quote
    else
      match quoting.quote with
      | some mark => if char = mark then none else some mark
      | none => if char = '\'' || char = '"' then some char else none

end Quoting

/-- A character of the source, as far as its piece depends on it. -/
structure Character where
  char : Char
  active : Bool
  /-- The scan takes it for a brace of a block. -/
  block : Bool
  deriving DecidableEq, Repr

namespace Character

/-- The character opens a block. -/
def Opens (character : Character) : Prop :=
  character.active = true ∧ character.char = '{' ∧ character.block = true

/-- The character ends a statement or a block. -/
def Ends (character : Character) : Prop :=
  character.active = true ∧
    (character.char = ';' ∨ character.char = '}' ∧ character.block = true)

/-- The character is neither a blank nor a newline. -/
def visible (character : Character) : Bool :=
  character.char ≠ ' ' && character.char ≠ '\n'

end Character

/-- The characters of a source from where a scan stands. -/
def Scan.characters (scan : Scan) (quoting : Quoting) : Text -> List Character
  | [] => []
  | char :: rest =>
      let role := scan.role rest.head? char
      ⟨char, quoting.active char, role = .openBlock || role = .closeBlock⟩ ::
        (scan.advance role char).characters (quoting.next char) rest

/-- The pieces for characters.  The first argument tells whether there were only
blanks since a character that opens or ends something. -/
inductive Pieces : Bool -> List Character -> List Text -> Prop
  | nil (pending : Bool) : Pieces pending [] []
  | opening {pending : Bool} {character : Character} {rest : List Character} {parts : List Text}
      (opens : character.Opens) (count : Nat) (later : Pieces true rest parts) :
      Pieces pending (character :: rest) ((':' :: '\n' :: Text.spaces count) :: parts)
  | ending {pending : Bool} {character : Character} {rest : List Character} {parts : List Text}
      (ends : character.Ends) (count : Nat) (later : Pieces true rest parts) :
      Pieces pending (character :: rest) (('\n' :: Text.spaces count) :: parts)
  | skipped {character : Character} {rest : List Character} {parts : List Text}
      (blank : character.char = ' ') (later : Pieces true rest parts) :
      Pieces true (character :: rest) ([] :: parts)
  | newline {pending : Bool} {character : Character} {rest : List Character} {parts : List Text}
      (newline : character.char = '\n') (count : Nat) (later : Pieces false rest parts) :
      Pieces pending (character :: rest) (('\n' :: Text.spaces count) :: parts)
  | copied {pending : Bool} {character : Character} {rest : List Character} {parts : List Text}
      (other : ¬ character.Opens ∧ ¬ character.Ends) (sameLine : character.char ≠ '\n')
      (read : pending = true -> character.char ≠ ' ') (later : Pieces false rest parts) :
      Pieces pending (character :: rest) ([character.char] :: parts)

/-- Texts that differ from the characters in this only: some active opening braces are
colons, some active closing braces are missing, and so are all active semicolons. -/
inductive Respelled : List Character -> Text -> Prop
  | nil : Respelled [] []
  | copied {character : Character} {rest : List Character} {text : Text}
      (kept : ¬ (character.active = true ∧ character.char = ';')) (later : Respelled rest text) :
      Respelled (character :: rest) (character.char :: text)
  | colon {character : Character} {rest : List Character} {text : Text}
      (active : character.active = true) (brace : character.char = '{')
      (later : Respelled rest text) : Respelled (character :: rest) (':' :: text)
  | dropped {character : Character} {rest : List Character} {text : Text}
      (active : character.active = true) (mark : character.char = '}' ∨ character.char = ';')
      (later : Respelled rest text) : Respelled (character :: rest) text

/-! ## The scan and the quotation marks -/

namespace Scan

/-- The quotation marks and backslashes so far, as the scan has read them. -/
structure Tracked (quoting : Quoting) (scan : Scan) : Prop where
  escaped : quoting.escaped = decide (scan.previous = some '\\')
  quote : quoting.quote = scan.quote

theorem Tracked.active_eq {quoting : Quoting} {scan : Scan} (tracked : scan.Tracked quoting)
    (char : Char) : quoting.active char = scan.active char := by
  rw [Quoting.active, active, tracked.escaped, tracked.quote]
  simp

private theorem quote_advance (scan : Scan) (role : Role) (char : Char) :
    (scan.advance role char).quote =
      match role with
      | .openQuote => some char
      | .closeQuote => none
      | _ => scan.quote := by
  cases role <;> rfl

theorem Tracked.advance {quoting : Quoting} {scan : Scan} (tracked : scan.Tracked quoting)
    (regular : scan.Regular) (next : Option Char) (char : Char) :
    (scan.advance (scan.role next char) char).Tracked (quoting.next char) where
  escaped := by
    rw [previous_advance]
    simp [Quoting.next]
  quote := by
    rw [quote_advance, Quoting.next, tracked.escaped, tracked.quote]
    by_cases skipped : scan.role next char = .skipped
    · -- a blank is no quotation mark, whether or not the scan stands in a literal
      have blank := (role_eq_skipped_iff.mp skipped).2
      rw [skipped, blank]
      cases quoted : scan.quote with
      | none => simp
      | some mark =>
          have other : ' ' ≠ mark := by
            rcases regular.mark mark quoted with rfl | rfl <;> decide
          simp [other]
    · have read : ¬ (scan.atBreak && decide (char = ' ')) = true := by
        intro pending
        have both := Bool.and_eq_true_iff.mp pending
        exact skipped (role_eq_skipped_iff.mpr ⟨both.1, of_decide_eq_true both.2⟩)
      rw [role, if_neg read]
      by_cases behind : scan.previous = some '\\'
      · simp [behind]
      · cases quoted : scan.quote with
        | some mark => by_cases same : char = mark <;> simp [behind, same]
        | none =>
            by_cases quotation : char = '\'' ∨ char = '"'
            · simp [behind, quotation]
            · have silent : scan.activeRole next char ≠ .openQuote ∧
                  scan.activeRole next char ≠ .closeQuote := by
                fun_cases activeRole <;> exact ⟨Role.noConfusion, Role.noConfusion⟩
              have plain : (decide (char = '\'') || decide (char = '"')) = false := by
                simpa using quotation
              simp only [behind, plain, if_false, decide_false, Bool.false_eq_true]
              split
              · rename_i opens
                exact absurd opens silent.1
              · rfl
              · rfl

/-- The characters for which a line break is put in are active.  The role tells which
one it is. -/
theorem active_of_breaks {scan : Scan} {next : Option Char} {char : Char}
    (breaks : (scan.role next char).breaks = true) :
    scan.active char = true ∧
      (scan.role next char = .openBlock ∧ char = '{' ∨ scan.role next char = .closeBlock ∧ char = '}' ∨
        scan.role next char = .separator ∧ char = ';') := by
  have reading := scan.reading next char
  generalize scan.role next char = role at reading breaks
  cases reading with
  | skipped | escaped | closing | quoted | opening => exact absurd breaks Bool.false_ne_true
  | active active =>
      refine ⟨active, ?_⟩
      revert breaks
      fun_cases activeRole <;> simp_all [Role.breaks]

theorem breaks_of_separator {scan : Scan} {next : Option Char} (active : scan.active ';' = true) :
    (scan.role next ';').breaks = true := by
  have read : scan.role next ';' ≠ .skipped := by
    intro skipped
    exact absurd (role_eq_skipped_iff.mp skipped).2 (by decide)
  rw [role_of_active active read]
  rfl

/-! ## One piece for each character -/

/-- Every character has the piece that it should have. -/
theorem pieces_characters {quoting : Quoting} {scan : Scan} (tracked : scan.Tracked quoting)
    (regular : scan.Regular) (text : Text) :
    Pieces scan.atBreak (scan.characters quoting text) (scan.pieces text) := by
  induction text generalizing quoting scan with
  | nil => exact .nil scan.atBreak
  | cons char rest ih =>
      have later := ih (tracked.advance regular rest.head? char) (regular.advance rest.head? char)
      simp only [characters, pieces, step, tracked.active_eq]
      by_cases skipped : scan.role rest.head? char = .skipped
      · obtain ⟨pending, blank⟩ := role_eq_skipped_iff.mp skipped
        rw [skipped] at later ⊢
        rw [pending]
        exact .skipped blank (pending ▸ later)
      · by_cases breaks : (scan.role rest.head? char).breaks = true
        · rw [atBreak_advance scan char skipped, breaks] at later
          obtain ⟨active, ⟨role, rfl⟩ | ⟨role, rfl⟩ | ⟨role, rfl⟩⟩ := active_of_breaks breaks
          · rw [role] at later ⊢
            exact .opening ⟨active, rfl, rfl⟩ _ later
          · rw [role] at later ⊢
            exact .ending ⟨active, .inr ⟨rfl, rfl⟩⟩ _ later
          · rw [role] at later ⊢
            exact .ending ⟨active, .inl rfl⟩ _ later
        · have kept : (scan.role rest.head? char).breaks = false := Bool.eq_false_iff.mpr breaks
          rw [atBreak_advance scan char skipped, kept] at later
          rw [piece_of_kept skipped kept]
          by_cases newline : char = '\n'
          · rw [if_pos newline]
            exact .newline newline _ later
          · rw [if_neg newline]
            refine .copied ⟨?_, ?_⟩ newline (fun pending blank => skipped ?_) later
            · rintro ⟨_, _, block⟩
              rcases (by simpa using block : _ ∨ _) with role | role <;>
                exact breaks (by rw [role]; rfl)
            · rintro ⟨active, semicolon | ⟨_, block⟩⟩
              · have separator : char = ';' := semicolon
                subst char
                exact breaks (breaks_of_separator active)
              · rcases (by simpa using block : _ ∨ _) with role | role <;>
                  exact breaks (by rw [role]; rfl)
            · exact role_eq_skipped_iff.mpr ⟨pending, blank⟩

end Scan

/-! ## Apart from blanks and newlines -/

/-- The text without blanks and newlines. -/
def visibleText (text : Text) : Text :=
  text.filter fun char => char ≠ ' ' && char ≠ '\n'

theorem visibleText_append (front back : Text) :
    visibleText (front ++ back) = visibleText front ++ visibleText back :=
  List.filter_append front back

theorem visibleText_newline (count : Nat) : visibleText ('\n' :: Text.spaces count) = [] := by
  simp [visibleText, Text.spaces]

/-- Pieces show each visible character, or a colon in its place, or nothing. -/
theorem Pieces.respelled {pending : Bool} {characters : List Character} {parts : List Text}
    (pieces : Pieces pending characters parts) :
    Respelled (characters.filter Character.visible) (visibleText parts.flatten) := by
  induction pieces with
  | nil => exact .nil
  | opening opens count later ih =>
      obtain ⟨active, brace, _⟩ := opens
      have colon : visibleText (':' :: '\n' :: Text.spaces count) = [':'] :=
        congrArg (':' :: ·) (visibleText_newline count)
      rw [List.filter_cons_of_pos (by simp [Character.visible, brace]), List.flatten_cons,
        visibleText_append, colon]
      exact .colon active brace ih
  | @ending _ character _ _ ends count later ih =>
      obtain ⟨active, mark⟩ := ends
      have dropped : character.char = '}' ∨ character.char = ';' := mark.symm.imp_left And.left
      have visible : character.visible = true := by
        rcases dropped with brace | semicolon <;> simp [Character.visible, *]
      rw [List.filter_cons_of_pos visible, List.flatten_cons, visibleText_append,
        visibleText_newline]
      exact .dropped active dropped ih
  | skipped blank later ih =>
      rw [List.filter_cons_of_neg (by simp [Character.visible, blank])]
      exact ih
  | newline newline count later ih =>
      rw [List.filter_cons_of_neg (by simp [Character.visible, newline]), List.flatten_cons,
        visibleText_append, visibleText_newline]
      exact ih
  | @copied _ character _ _ other sameLine read later ih =>
      rw [List.flatten_cons, visibleText_append]
      by_cases blank : character.char = ' '
      · rw [List.filter_cons_of_neg (by simp [Character.visible, blank]), blank]
        exact ih
      · have shown : visibleText [character.char] = [character.char] := by
          simp [visibleText, blank, sameLine]
        rw [List.filter_cons_of_pos (by simp [Character.visible, blank, sameLine]), shown]
        exact .copied (fun separator => other.2 ⟨separator.1, .inl separator.2⟩) ih

/-- Nothing is lost, doubled or moved.  The expansion is made of one piece for each
character of the source, and apart from blanks and newlines it is the source with
some active opening braces turned into colons, without some active closing braces and
without the active semicolons. -/
theorem expand_conserves (source : Text) :
    exists parts : List Text,
      expand source = parts.flatten ∧
      Pieces false (Scan.start.characters .start source) parts ∧
      Respelled ((Scan.start.characters .start source).filter Character.visible)
        (visibleText (expand source)) := by
  have pieces : Pieces false (Scan.start.characters .start source) (Scan.start.pieces source) :=
    Scan.pieces_characters ⟨rfl, rfl⟩ Scan.regular_start source
  exact ⟨Scan.start.pieces source, rfl, pieces, pieces.respelled⟩

end Braces
end Oneliner
