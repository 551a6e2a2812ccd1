import Oneliner.Proofs.Braces.Course

namespace Oneliner
namespace Braces

/-!
Expanding twice is expanding once.

A second scan goes over the output of a first one.  It stays at level zero and
never puts in a line break of its own, so it copies every character.  What it
reads in place of a brace or semicolon, namely colons, newlines and margins, does
nothing to its setting that the brace or semicolon has not done to that of the
first scan.  So the two scans agree on their settings behind every piece, and
what was kept by the first scan is kept by the second one.

The equals signs need care, since each of them looks at both of its neighbours.
The character in front of one is in the setting, and behind one the output goes
on with an equals sign exactly if the source does.
-/

namespace Scan

/-- A scan at level zero that has no line break pending. -/
structure Flat (scan : Scan) : Prop where
  level : scan.level = 0
  settled : scan.atBreak = false

namespace Flat

variable {scan : Scan}

theorem advance (flat : scan.Flat) {role : Role} (read : role ≠ .skipped)
    (kept : role.breaks = false) (char : Char) : (scan.advance role char).Flat where
  level := by
    rw [level_advance, flat.level, rise_of_kept kept]
    rfl
  settled := by rw [atBreak_advance scan char read, kept]

/-- On level ground every character that is kept is copied, newlines too. -/
theorem output_kept (flat : scan.Flat) {char : Char} (rest : Text)
    (kept : (scan.role rest.head? char).breaks = false) :
    scan.output (char :: rest) =
      char :: (scan.advance (scan.role rest.head? char) char).output rest := by
  have read := role_ne_skipped flat.settled rest.head? char
  rw [output_cons, (flat.advance read kept char).level, piece_of_kept read kept]
  by_cases newline : char = '\n'
  · rw [if_pos newline, newline]
    rfl
  · rw [if_neg newline]
    rfl

end Flat

/-- The characters that an expansion puts in. -/
def Inserted (char : Char) : Prop :=
  char = ':' ∨ char = '\n' ∨ char = ' '

theorem role_inserted {scan : Scan} (regular : scan.Regular) (flat : scan.Flat)
    {char : Char} (inserted : Inserted char) (next : Option Char) :
    scan.role next char = .plain := by
  have unmarked : char ≠ '\'' ∧ char ≠ '"' := by
    rcases inserted with rfl | rfl | rfl <;> decide
  have reading := scan.reading next char
  generalize given : scan.role next char = role at reading
  cases reading with
  | skipped => exact absurd given (role_ne_skipped flat.settled next char)
  | escaped | quoted => rfl
  | closing quoted => exact absurd (regular.mark char quoted) (not_or.mpr unmarked)
  | opening quotation => exact absurd quotation (not_or.mpr unmarked)
  | active => rcases inserted with rfl | rfl | rfl <;> rfl

theorem output_inserted {scan : Scan} (regular : scan.Regular) (flat : scan.Flat)
    {char : Char} (inserted : Inserted char) (rest : Text) :
    scan.output (char :: rest) = char :: (scan.advance .plain char).output rest := by
  have plain := role_inserted regular flat inserted rest.head?
  rw [flat.output_kept rest (by rw [plain]; rfl), plain]

theorem Regular.plain {scan : Scan} (regular : scan.Regular) (char : Char) :
    (scan.advance .plain char).Regular where
  mark := regular.mark
  calm := fun pending => Bool.noConfusion pending

/-- Behind a newline, a margin is copied and changes nothing. -/
theorem output_margin {scan : Scan} (regular : scan.Regular) (flat : scan.Flat)
    (unescaped : scan.setting.escaped = false) (apart : scan.setting.afterEquals = false)
    (count : Nat) :
    exists later : Scan, later.setting = scan.setting ∧ later.Flat ∧
      forall rest, scan.output (Text.spaces count ++ rest) = Text.spaces count ++ later.output rest := by
  induction count generalizing scan with
  | zero => exact ⟨scan, rfl, flat, fun _ => rfl⟩
  | succ count ih =>
      have same : (scan.advance .plain ' ').setting = scan.setting := by
        rw [setting, setting] at *
        simp_all [Scan.advance]
      obtain ⟨later, setting, laterFlat, output⟩ :=
        ih (regular.plain ' ') (flat.advance Role.noConfusion rfl ' ')
          (same ▸ unescaped) (same ▸ apart)
      refine ⟨later, setting.trans same, laterFlat, fun rest => ?_⟩
      have blank := output_inserted regular flat (.inr (.inr rfl)) (Text.spaces count ++ rest)
      rw [output rest] at blank
      exact blank

/-- A line break with its margin is copied.  To the setting it is a newline. -/
theorem output_lineBreak {scan : Scan} (regular : scan.Regular) (flat : scan.Flat) (level : Int) :
    exists later : Scan, later.setting = (scan.advance .plain '\n').setting ∧ later.Flat ∧
      forall rest, scan.output (lineBreak level ++ rest) = lineBreak level ++ later.output rest := by
  obtain ⟨later, setting, laterFlat, output⟩ :=
    output_margin (regular.plain '\n') (flat.advance Role.noConfusion rfl '\n') rfl rfl
      (Text.indentWidth * level.toNat)
  refine ⟨later, setting, laterFlat, fun rest => ?_⟩
  have newline := output_inserted regular flat (.inr (.inl rfl)) (Text.margin level ++ rest)
  rw [Text.margin, output rest] at newline
  exact newline

/-- To the setting, a character that puts in a line break is a newline. -/
theorem setting_breaks {scan : Scan} {next : Option Char} {char : Char}
    (breaks : (scan.role next char).breaks = true) :
    (scan.advance (scan.role next char) char).setting = (scan.advance .plain '\n').setting := by
  have character := char_of_breaks breaks
  generalize scan.role next char = role at breaks
  rcases character with rfl | rfl | rfl <;> cases role <;>
    first | exact Bool.noConfusion breaks | simp [advance, setting]

/-! ## Two scans, the second over the output of the first -/

/-- The second scan stands in the output where the first one stands in the
source. -/
structure Trails (scan other : Scan) : Prop where
  regular : scan.Regular
  setting : other.setting = scan.setting
  flat : other.Flat

theorem Trails.other_regular {scan other : Scan} (trails : Trails scan other) : other.Regular where
  mark := by
    have same : other.quote = scan.quote := congrArg Setting.quote trails.setting
    rw [same]
    exact trails.regular.mark
  calm := by
    intro pending
    rw [trails.flat.settled] at pending
    exact Bool.noConfusion pending

theorem Trails.skip {scan other : Scan} (trails : Trails scan other) {next : Option Char} {char : Char}
    (skipped : scan.role next char = .skipped) : Trails (scan.advance .skipped char) other where
  regular := skipped ▸ trails.regular.advance next char
  setting := by
    obtain ⟨pending, blank⟩ := role_eq_skipped_iff.mp skipped
    have calm := trails.regular.calm pending
    rw [trails.setting, blank]
    simp [Scan.setting, Scan.advance, calm]
  flat := trails.flat

/-- The role of a kept character is the same in both scans, if the next
characters are alike. -/
theorem Trails.role_kept {scan other : Scan} (trails : Trails scan other) {next ahead : Option Char}
    {char : Char} (read : scan.role next char ≠ .skipped)
    (alike : char = '=' -> (ahead = some '=' ↔ next = some '=')) :
    other.role ahead char = scan.role next char := by
  rw [role_next other alike]
  apply role_setting trails.setting
  intro blank
  have settled : scan.atBreak ≠ true := fun pending =>
    read (role_eq_skipped_iff.mpr ⟨pending, blank⟩)
  rw [trails.flat.settled, Bool.eq_false_iff.mpr settled]

private theorem output_breaks {scan : Scan} (regular : scan.Regular) (flat : scan.Flat)
    {role : Role} (breaks : role.breaks = true) (level : Int) (char : Char) :
    exists later : Scan, later.setting = (scan.advance .plain '\n').setting ∧ later.Flat ∧
      forall rest, scan.output (piece level role char ++ rest) =
        piece level role char ++ later.output rest := by
  cases role with
  | separator | closeBlock => exact output_lineBreak regular flat level
  | openBlock =>
      obtain ⟨later, setting, laterFlat, output⟩ :=
        output_lineBreak (regular.plain ':') (flat.advance Role.noConfusion rfl ':') level
      have same : ((scan.advance .plain ':').advance .plain '\n').setting =
          (scan.advance .plain '\n').setting := by
        simp [advance, Scan.setting]
      refine ⟨later, setting.trans same, laterFlat, fun rest => ?_⟩
      have colon := output_inserted regular flat (.inl rfl) (lineBreak level ++ rest)
      rw [output rest] at colon
      exact colon
  | _ => exact Bool.noConfusion breaks

/-- The second scan copies the piece for one character and follows the first. -/
theorem Trails.step {scan other : Scan} (trails : Trails scan other) (next : Option Char)
    (char : Char) (level : Int) :
    exists later, Trails (scan.advance (scan.role next char) char) later ∧
      forall rest : Text, (char = '=' -> (rest.head? = some '=' ↔ next = some '=')) ->
        other.output (piece level (scan.role next char) char ++ rest) =
          piece level (scan.role next char) char ++ later.output rest := by
  have regular := trails.regular.advance next char
  by_cases skipped : scan.role next char = .skipped
  · rw [skipped]
    exact ⟨other, trails.skip skipped, fun _ _ => rfl⟩
  by_cases breaks : (scan.role next char).breaks = true
  · obtain ⟨later, setting, flat, output⟩ :=
      output_breaks trails.other_regular trails.flat breaks level char
    refine ⟨later, ⟨regular, ?_, flat⟩, fun rest _ => output rest⟩
    rw [setting, setting_breaks breaks]
    exact setting_advance trails.setting .plain '\n'
  · have kept : (scan.role next char).breaks = false := Bool.eq_false_iff.mpr breaks
    rw [piece_of_kept skipped kept]
    by_cases newline : char = '\n'
    · -- a newline of the source gets a margin, which the second scan reads as well
      subst char
      rw [if_pos rfl]
      obtain ⟨later, setting, flat, output⟩ :=
        output_lineBreak trails.other_regular trails.flat level
      have plain : scan.role next '\n' = .plain := by
        rw [← trails.role_kept skipped (fun equals => absurd equals (by decide))]
        exact role_inserted trails.other_regular trails.flat (.inr (.inl rfl)) next
      refine ⟨later, ⟨regular, ?_, flat⟩, fun rest _ => output rest⟩
      rw [setting, plain]
      exact setting_advance trails.setting .plain '\n'
    · rw [if_neg newline]
      refine ⟨other.advance (scan.role next char) char,
        ⟨regular, setting_advance trails.setting _ char, trails.flat.advance skipped kept char⟩, ?_⟩
      intro rest alike
      have same := trails.role_kept skipped alike
      have copied := trails.flat.output_kept rest (by rw [same]; exact kept)
      rw [same] at copied
      exact copied

/-- Behind an equals sign the output goes on with another one exactly if the
source does. -/
theorem head?_output {scan : Scan} (settled : scan.atBreak = false) (text : Text) :
    (scan.output text).head? = some '=' ↔ text.head? = some '=' := by
  cases text with
  | nil => rfl
  | cons char rest =>
      have read := role_ne_skipped settled rest.head? char
      rw [output_cons]
      by_cases breaks : (scan.role rest.head? char).breaks = true
      · have different : char ≠ '=' := by
          rcases char_of_breaks breaks with rfl | rfl | rfl <;> decide
        generalize scan.role rest.head? char = role at breaks
        cases role <;> simp_all [Role.breaks, piece, lineBreak]
      · rw [piece_of_kept read (Bool.eq_false_iff.mpr breaks)]
        by_cases newline : char = '\n'
        · simp [newline, lineBreak]
        · simp [newline]

/-- The second scan copies all of the output. -/
theorem Trails.output_output {scan other : Scan} (trails : Trails scan other) (text : Text) :
    other.output (scan.output text) = scan.output text := by
  induction text generalizing scan other with
  | nil => rfl
  | cons char rest ih =>
      obtain ⟨later, next, copied⟩ := trails.step rest.head? char
        (scan.advance (scan.role rest.head? char) char).level
      rw [output_cons]
      refine (copied _ ?_).trans (congrArg (_ ++ ·) (ih next))
      -- an equals sign puts in no break, so the output behind it begins as the source does
      intro equals
      apply head?_output
      have read : scan.role rest.head? char ≠ .skipped := by
        intro skipped
        exact absurd (equals.symm.trans (role_eq_skipped_iff.mp skipped).2) (by decide)
      rw [atBreak_advance scan char read, Bool.eq_false_iff]
      intro breaks
      rcases char_of_breaks breaks with same | same | same <;>
        exact absurd (equals.symm.trans same) (by decide)

end Scan

/-- Expansion is idempotent, on malformed sources as well. -/
theorem expand_idempotent (source : Text) : expand (expand source) = expand source := by
  have trails : Scan.Trails Scan.start Scan.start :=
    ⟨Scan.regular_start, rfl, ⟨rfl, rfl⟩⟩
  rw [Scan.expand_eq_output source, Scan.expand_eq_output]
  exact trails.output_output source

end Braces
end Oneliner
