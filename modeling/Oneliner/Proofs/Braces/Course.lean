import Mathlib.Data.List.Forall2
import Oneliner.Braces.Scan

namespace Oneliner
namespace Braces

/-!
The course of a scan: its events, one for each character of the source.

The pieces of output, the roles of the characters and the levels that a scan
goes through are all read off the events.  Two facts about events carry the
rest of the theory.  Events of a text in two parts are those of the parts, as
long as the look-ahead does not see a pair of equals signs across the border.
And two scans that agree on their setting give the same roles to the same
text, whatever their levels are.
-/

namespace Role

/-- Whether a line break is put in for a character of this role. -/
def breaks : Role -> Bool
  | openBlock | closeBlock | separator => true
  | _ => false

/-- The number of blocks that a character of this role opens. -/
def rise : Role -> Int
  | openBlock => 1
  | closeBlock => -1
  | _ => 0

end Role

theorem rise_of_kept {role : Role} (kept : role.breaks = false) : role.rise = 0 := by
  cases role <;> first | rfl | exact Bool.noConfusion kept

/-- A character that is neither skipped nor turned into a line break is copied.
Only a newline gets a margin. -/
theorem piece_of_kept {role : Role} (read : role ≠ .skipped) (kept : role.breaks = false)
    (level : Int) (char : Char) :
    piece level role char = if char = '\n' then lineBreak level else [char] := by
  cases role <;> first | rfl | exact absurd rfl read | exact Bool.noConfusion kept

/-- A character as a scan has read it, with the state after it. -/
structure Event where
  char : Char
  role : Role
  after : Scan
  deriving DecidableEq, Repr

/-- The piece of output for an event. -/
def Event.piece (event : Event) : Text :=
  Braces.piece event.after.level event.role event.char

/-- The part of a state on which roles depend, apart from a break after which
blanks are skipped.  Of the last character only two things matter: whether it
escapes the next one and whether it is an equals sign. -/
structure Setting where
  escaped : Bool
  afterEquals : Bool
  quote : Option Char
  declaring : Bool
  parens : Int
  squares : Int
  braces : Int
  deriving DecidableEq, Repr

namespace Scan

def setting (scan : Scan) : Setting where
  escaped := scan.previous = some '\\'
  afterEquals := scan.previous = some '='
  quote := scan.quote
  declaring := scan.declaring
  parens := scan.parens
  squares := scan.squares
  braces := scan.braces

/-- The events for the characters of a source, in order. -/
def events (scan : Scan) : Text -> List Event
  | [] => []
  | char :: rest =>
      let role := scan.role rest.head? char
      let after := scan.advance role char
      ⟨char, role, after⟩ :: after.events rest

theorem pieces_eq_events (scan : Scan) (text : Text) :
    scan.pieces text = (scan.events text).map Event.piece := by
  induction text generalizing scan with
  | nil => rfl
  | cons char rest ih =>
      simp only [pieces, step, events, List.map_cons, ih]
      rfl

/-- What a scan puts out for a source, from where it stands. -/
def output (scan : Scan) (text : Text) : Text :=
  (scan.events text).flatMap Event.piece

theorem expand_eq_output (source : Text) : expand source = start.output source := by
  rw [expand, pieces_eq_events, output, List.flatMap_def]

theorem finish_cons (scan : Scan) (char : Char) (rest : Text) :
    scan.finish (char :: rest) =
      (scan.advance (scan.role rest.head? char) char).finish rest := rfl

theorem output_cons (scan : Scan) (char : Char) (rest : Text) :
    scan.output (char :: rest) =
      piece (scan.advance (scan.role rest.head? char) char).level (scan.role rest.head? char) char ++
        (scan.advance (scan.role rest.head? char) char).output rest := rfl

/-! ## One step -/

theorem level_advance (scan : Scan) (role : Role) (char : Char) :
    (scan.advance role char).level = scan.level + role.rise := by
  cases role <;> simp [advance, Role.rise, Int.sub_eq_add_neg]

theorem previous_advance (scan : Scan) (role : Role) (char : Char) :
    (scan.advance role char).previous = some char := by
  cases role <;> rfl

/-- Whether the character is neither escaped nor quoted nor itself a quotation
mark. -/
def active (scan : Scan) (char : Char) : Bool :=
  scan.previous ≠ some '\\' && scan.quote = none && char ≠ '\'' && char ≠ '"'

/-- The ways in which a character comes to its role. -/
inductive Reading (scan : Scan) (next : Option Char) (char : Char) : Role -> Prop
  | skipped (pending : scan.atBreak = true) (blank : char = ' ') : Reading scan next char .skipped
  | escaped (behind : scan.previous = some '\\') : Reading scan next char .plain
  | closing (quoted : scan.quote = some char) : Reading scan next char .closeQuote
  | quoted (mark : Char) (quoted : scan.quote = some mark) (other : char ≠ mark) :
      Reading scan next char .plain
  | opening (quotation : char = '\'' ∨ char = '"') : Reading scan next char .openQuote
  | active (active : scan.active char = true) : Reading scan next char (scan.activeRole next char)

theorem reading (scan : Scan) (next : Option Char) (char : Char) :
    scan.Reading next char (scan.role next char) := by
  rw [role]
  split
  · rename_i pending
    have both := Bool.and_eq_true_iff.mp pending
    exact .skipped both.1 (of_decide_eq_true both.2)
  · split
    · rename_i behind
      exact .escaped behind
    · split
      · rename_i mark quoted
        split
        · rename_i same
          exact .closing (same ▸ quoted)
        · rename_i other
          exact .quoted mark quoted other
      · split
        · rename_i quotation
          exact .opening (by simpa using quotation)
        · rename_i unescaped _ unquoted other
          apply Reading.active
          simp_all [active]

theorem activeRole_ne_skipped (scan : Scan) (next : Option Char) (char : Char) :
    scan.activeRole next char ≠ .skipped := by
  fun_cases activeRole <;> exact Role.noConfusion

theorem role_eq_skipped_iff {scan : Scan} {next : Option Char} {char : Char} :
    scan.role next char = .skipped ↔ scan.atBreak = true ∧ char = ' ' := by
  constructor
  · intro skipped
    have reading := scan.reading next char
    rw [skipped] at reading
    generalize given : Role.skipped = role at reading
    cases reading with
    | skipped pending blank => exact ⟨pending, blank⟩
    | escaped | closing | quoted | opening => exact Role.noConfusion given
    | active => exact absurd given.symm (activeRole_ne_skipped scan next char)
  · rintro ⟨pending, blank⟩
    simp [role, pending, blank]

theorem role_ne_skipped {scan : Scan} (settled : scan.atBreak = false) (next : Option Char)
    (char : Char) : scan.role next char ≠ .skipped := by
  intro skipped
  have pending := (role_eq_skipped_iff.mp skipped).1
  rw [settled] at pending
  exact Bool.noConfusion pending

theorem role_of_active {scan : Scan} {next : Option Char} {char : Char}
    (active : scan.active char = true) (read : scan.role next char ≠ .skipped) :
    scan.role next char = scan.activeRole next char := by
  simp only [Scan.active, Bool.and_eq_true, decide_eq_true_eq] at active
  obtain ⟨⟨⟨unescaped, unquoted⟩, single⟩, double⟩ := active
  have settled : ¬ (scan.atBreak && decide (char = ' ')) = true := by
    intro pending
    have both := Bool.and_eq_true_iff.mp pending
    exact read (role_eq_skipped_iff.mpr ⟨both.1, of_decide_eq_true both.2⟩)
  rw [role, if_neg settled, if_neg unescaped, unquoted]
  simp [single, double]

/-- Line breaks are put in only for braces and semicolons. -/
theorem char_of_breaks {scan : Scan} {next : Option Char} {char : Char}
    (breaks : (scan.role next char).breaks = true) : char = '{' ∨ char = '}' ∨ char = ';' := by
  have reading := scan.reading next char
  generalize scan.role next char = role at reading breaks
  cases reading with
  | skipped | escaped | closing | quoted | opening => exact absurd breaks Bool.false_ne_true
  | active =>
      revert breaks
      fun_cases activeRole <;> simp_all [Role.breaks]

theorem atBreak_advance (scan : Scan) {role : Role} (char : Char) (read : role ≠ .skipped) :
    (scan.advance role char).atBreak = role.breaks := by
  cases role <;> first | rfl | exact absurd rfl read

theorem setting_advance {scan other : Scan} (same : other.setting = scan.setting)
    (role : Role) (char : Char) :
    (other.advance role char).setting = (scan.advance role char).setting := by
  simp only [setting, Setting.mk.injEq] at same
  cases role <;> simp [advance, setting, same]

/-- Only an equals sign looks ahead, and only for another one. -/
theorem role_next (scan : Scan) {next other : Option Char} {char : Char}
    (alike : char = '=' -> (next = some '=' ↔ other = some '=')) :
    scan.role next char = scan.role other char := by
  by_cases equals : char = '='
  · subst char
    simp only [role, activeRole, alike rfl]
  · simp only [role, activeRole, if_neg equals]

/-- The setting decides the role of a character.  A pending break matters for
blanks only. -/
theorem role_setting {scan other : Scan} (same : other.setting = scan.setting)
    (next : Option Char) {char : Char} (pending : char = ' ' -> other.atBreak = scan.atBreak) :
    other.role next char = scan.role next char := by
  simp only [setting, Setting.mk.injEq] at same
  obtain ⟨escaped, afterEquals, quote, declaring, parens, squares, braces⟩ := same
  have skipping : (other.atBreak && decide (char = ' ')) =
      (scan.atBreak && decide (char = ' ')) := by
    by_cases blank : char = ' '
    · rw [pending blank]
    · simp [blank]
  have active : other.activeRole next char = scan.activeRole next char := by
    unfold activeRole nested
    rw [afterEquals, declaring, parens, squares, braces]
  unfold role
  rw [skipping, quote, active]
  by_cases behind : scan.previous = some '\\'
  · rw [if_pos behind, if_pos ((decide_eq_decide.mp escaped).mpr behind)]
  · rw [if_neg behind, if_neg (fun before => behind ((decide_eq_decide.mp escaped).mp before))]

/-! ## Scans that occur -/

/-- What holds of every scan from the start: only quotation marks open a
literal, and a pending break is forgotten before anything is escaped. -/
structure Regular (scan : Scan) : Prop where
  mark : forall mark, scan.quote = some mark -> mark = '\'' ∨ mark = '"'
  calm : scan.atBreak = true -> scan.previous ≠ some '\\' ∧ scan.previous ≠ some '='

theorem regular_start : start.Regular where
  mark := fun _ opened => nomatch opened
  calm := fun pending => nomatch pending

private theorem mark_of_openQuote {scan : Scan} {next : Option Char} {char : Char}
    (opens : scan.role next char = .openQuote) : char = '\'' ∨ char = '"' := by
  have reading := scan.reading next char
  rw [opens] at reading
  generalize given : Role.openQuote = role at reading
  cases reading with
  | skipped | escaped | closing | quoted => exact Role.noConfusion given
  | opening quotation => exact quotation
  | active =>
      revert given
      fun_cases activeRole <;> exact fun given => Role.noConfusion given

theorem Regular.advance {scan : Scan} (regular : scan.Regular) (next : Option Char) (char : Char) :
    (scan.advance (scan.role next char) char).Regular where
  mark := by
    intro mark opened
    by_cases opens : scan.role next char = .openQuote
    · rw [opens] at opened
      have same : char = mark := Option.some.inj opened
      exact same ▸ mark_of_openQuote opens
    · apply regular.mark mark
      revert opened opens
      cases scan.role next char <;> simp [Scan.advance]
  calm := by
    intro pending
    rw [previous_advance]
    by_cases skipped : scan.role next char = .skipped
    · rw [(role_eq_skipped_iff.mp skipped).2]
      decide
    · rw [atBreak_advance scan char skipped] at pending
      rcases char_of_breaks pending with brace | brace | semicolon
      · rw [brace]; decide
      · rw [brace]; decide
      · rw [semicolon]; decide

/-! ## Texts in two parts -/

private theorem role_append (scan : Scan) {char : Char} {rest back : Text}
    (apart : (char :: rest).getLast? = some '=' -> back.head? ≠ some '=') :
    scan.role (rest ++ back).head? char = scan.role rest.head? char := by
  cases rest with
  | nil =>
      -- the last character of the first part looks ahead into the second
      apply role_next
      intro equals
      have border : back.head? ≠ some '=' := apart (by rw [equals]; rfl)
      simp [border]
  | cons first later => rfl

private theorem apart_tail {char : Char} {rest back : Text}
    (apart : (char :: rest).getLast? = some '=' -> back.head? ≠ some '=') :
    rest.getLast? = some '=' -> back.head? ≠ some '=' := by
  intro last
  apply apart
  rw [List.getLast?_cons, last]
  rfl

/-- A scan of a text in two parts goes through the events of the first part
and then through those of the second part from where it stands. -/
theorem events_append (scan : Scan) {front back : Text}
    (apart : front.getLast? = some '=' -> back.head? ≠ some '=') :
    scan.events (front ++ back) = scan.events front ++ (scan.finish front).events back := by
  induction front generalizing scan with
  | nil => rfl
  | cons char rest ih =>
      simp only [List.cons_append, events, finish_cons, role_append scan apart]
      rw [ih _ (apart_tail apart)]

theorem output_append (scan : Scan) {front back : Text}
    (apart : front.getLast? = some '=' -> back.head? ≠ some '=') :
    scan.output (front ++ back) = scan.output front ++ (scan.finish front).output back := by
  rw [output, events_append scan apart, List.flatMap_append]
  rfl

theorem finish_append (scan : Scan) {front back : Text}
    (apart : front.getLast? = some '=' -> back.head? ≠ some '=') :
    scan.finish (front ++ back) = (scan.finish front).finish back := by
  induction front generalizing scan with
  | nil => rfl
  | cons char rest ih =>
      simp only [List.cons_append, finish_cons, role_append scan apart]
      exact ih _ (apart_tail apart)

theorem previous_finish (scan : Scan) (text : Text) :
    (scan.finish text).previous = text.getLast?.or scan.previous := by
  induction text generalizing scan with
  | nil => rfl
  | cons char rest ih =>
      rw [finish_cons, ih, previous_advance, List.getLast?_cons]
      cases rest.getLast? <;> rfl

end Scan
end Braces
end Oneliner
