import Oneliner.Proofs.Braces.Conservation

namespace Oneliner
namespace Braces

/-!
The margin behind each line break of an expansion.

A line break that is put in is followed by four blanks for each open block and by no
further blank, whatever blanks the source has there.  The number of open blocks is
told by counting the braces of blocks up to the break; more may have been closed than
opened, and then there is no margin.  A newline of the source gets the same margin,
in front of the blanks that the source has behind it.
-/

namespace Character

def opensBlock (character : Character) : Bool :=
  character.active && character.char = '{' && character.block

def closesBlock (character : Character) : Bool :=
  character.active && character.char = '}' && character.block

/-- A line break is put in for the character. -/
def Breaks (character : Character) : Prop :=
  character.Opens ∨ character.Ends

end Character

/-- The number of blocks that are open behind the characters. -/
def depthOf (characters : List Character) : Int :=
  characters.countP Character.opensBlock - characters.countP Character.closesBlock

theorem depthOf_append (front back : List Character) :
    depthOf (front ++ back) = depthOf front + depthOf back := by
  unfold depthOf
  rw [List.countP_append, List.countP_append]
  omega

theorem depthOf_cons (first : Character) (rest : List Character) :
    depthOf (first :: rest) = depthOf [first] + depthOf rest :=
  depthOf_append [first] rest

namespace Scan

/-- A character as the scan reads it. -/
def character (scan : Scan) (next : Option Char) (char : Char) : Character where
  char := char
  active := scan.active char
  block := scan.role next char = .openBlock || scan.role next char = .closeBlock

/-! ## One character -/

/-- The braces of blocks are those for which the scan changes its level. -/
theorem depthOf_character (scan : Scan) (next : Option Char) (char : Char) :
    depthOf [scan.character next char] = (scan.role next char).rise := by
  by_cases breaks : (scan.role next char).breaks = true
  · obtain ⟨active, ⟨role, rfl⟩ | ⟨role, rfl⟩ | ⟨role, rfl⟩⟩ := active_of_breaks breaks <;>
      simp [depthOf, character, Character.opensBlock, Character.closesBlock, active, role, Role.rise]
  · have kept : (scan.role next char).breaks = false := Bool.eq_false_iff.mpr breaks
    have other : scan.role next char ≠ .openBlock ∧ scan.role next char ≠ .closeBlock := by
      constructor <;> intro role <;> exact breaks (by rw [role]; rfl)
    rw [rise_of_kept kept]
    simp [depthOf, character, Character.opensBlock, Character.closesBlock, other]

theorem breaks_of_character {scan : Scan} {next : Option Char} {char : Char}
    (breaks : (scan.character next char).Breaks) : (scan.role next char).breaks = true := by
  have ofBlock : (scan.character next char).block = true -> (scan.role next char).breaks = true := by
    intro block
    rcases (by simpa [character] using block : _ ∨ _) with role | role <;> rw [role] <;> rfl
  rcases breaks with ⟨_, _, block⟩ | ⟨active, semicolon | ⟨_, block⟩⟩
  · exact ofBlock block
  · have separator : char = ';' := semicolon
    subst separator
    exact breaks_of_separator active
  · exact ofBlock block

/-- The piece for a line break: a colon if a block is opened, and the line break. -/
theorem piece_of_breaks {scan : Scan} {next : Option Char} {char : Char}
    (breaks : (scan.role next char).breaks = true) (level : Int) :
    piece level (scan.role next char) char = (if char = '{' then [':'] else []) ++ lineBreak level := by
  obtain ⟨_, ⟨role, rfl⟩ | ⟨role, rfl⟩ | ⟨role, rfl⟩⟩ := active_of_breaks breaks <;>
    rw [role] <;> rfl

/-- A newline of the source is always read, and it stays a newline. -/
theorem piece_newline (scan : Scan) (next : Option Char) (level : Int) :
    piece level (scan.role next '\n') '\n' = lineBreak level := by
  have read : scan.role next '\n' ≠ .skipped := by
    intro skipped
    exact absurd (role_eq_skipped_iff.mp skipped).2 (by decide)
  have kept : (scan.role next '\n').breaks = false := by
    rw [Bool.eq_false_iff]
    intro breaks
    rcases char_of_breaks breaks with same | same | same <;> exact absurd same (by decide)
  rw [piece_of_kept read kept, if_pos rfl]

/-! ## All characters -/

/-- Wherever the characters of a source are divided, there is a scan that stands there.
Its level is the number of blocks that are open, and it goes on with the remaining
characters and pieces. -/
theorem characters_divided {quoting : Quoting} {scan : Scan} (tracked : scan.Tracked quoting)
    (regular : scan.Regular) {source : Text} {before rest : List Character}
    (divided : scan.characters quoting source = before ++ rest) :
    exists (quoting' : Quoting) (there : Scan) (back : Text),
      there.Tracked quoting' ∧ there.characters quoting' back = rest ∧
        there.level = scan.level + depthOf before ∧
        (scan.pieces source).drop before.length = there.pieces back := by
  induction before generalizing quoting scan source with
  | nil => exact ⟨quoting, scan, source, tracked, divided, (Int.add_zero _).symm, rfl⟩
  | cons first before ih =>
      cases source with
      | nil => exact absurd divided (List.cons_ne_nil _ _).symm
      | cons char later =>
          have same := List.cons.inj divided
          have read : first = scan.character later.head? char := by
            rw [← same.1, tracked.active_eq]
            rfl
          obtain ⟨quoting', there, back, tracked', characters, level, pieces⟩ :=
            ih (tracked.advance regular later.head? char) (regular.advance later.head? char) same.2
          refine ⟨quoting', there, back, tracked', characters, ?_, pieces⟩
          rw [level, level_advance, depthOf_cons, read, depthOf_character]
          omega

/-- Behind a line break that was put in, blanks are skipped up to the next character. -/
theorem head?_output_of_atBreak {scan : Scan} (pending : scan.atBreak = true) (text : Text) :
    (scan.output text).head? ≠ some ' ' := by
  induction text generalizing scan with
  | nil => exact nofun
  | cons char rest ih =>
      rw [output_cons]
      by_cases blank : char = ' '
      · have skipped : scan.role rest.head? char = .skipped :=
          role_eq_skipped_iff.mpr ⟨pending, blank⟩
        rw [skipped]
        exact ih pending
      · by_cases breaks : (scan.role rest.head? char).breaks = true
        · rw [piece_of_breaks breaks]
          by_cases brace : char = '{' <;> simp [brace, lineBreak]
        · have read : scan.role rest.head? char ≠ .skipped := by
            intro skipped
            exact blank (role_eq_skipped_iff.mp skipped).2
          rw [piece_of_kept read (Bool.eq_false_iff.mpr breaks)]
          by_cases newline : char = '\n'
          · simp [newline, lineBreak]
          · simp [newline, blank]

end Scan

theorem expand_eq_front_append (source : Text) (count : Nat) :
    expand source = expandFront count source ++ ((Scan.start.pieces source).drop count).flatten := by
  rw [expand, expandFront, ← List.flatten_append, List.take_append_drop]

/-- The indentation of an expansion is exact.  Behind the line break for a semicolon or
for the brace of a block stand four blanks for each block that is then open, and no
further blank.  Behind a newline of the source, also in a literal or behind a backslash,
stand at least as many. -/
theorem expand_indented (source : Text) {before after : List Character} {character : Character}
    (divided : Scan.start.characters .start source = before ++ character :: after) :
    (character.Breaks ->
      exists rest : Text,
        expand source = expandFront before.length source ++
          (if character.char = '{' then [':'] else []) ++
          '\n' :: Text.spaces (4 * (depthOf (before ++ [character])).toNat) ++ rest ∧
        rest.head? ≠ some ' ') ∧
    (character.char = '\n' ->
      exists rest : Text,
        expand source = expandFront before.length source ++
          '\n' :: Text.spaces (4 * (depthOf (before ++ [character])).toNat) ++ rest) := by
  have begun : Scan.start.Tracked .start := ⟨rfl, rfl⟩
  obtain ⟨quoting, there, back, tracked, characters, level, pieces⟩ :=
    Scan.characters_divided begun Scan.regular_start divided
  cases back with
  | nil => exact absurd characters (List.cons_ne_nil _ _).symm
  | cons char later =>
      have read : character = there.character later.head? char := by
        rw [← (List.cons.inj characters).1, tracked.active_eq]
        rfl
      have depth : depthOf (before ++ [character]) =
          (there.advance (there.role later.head? char) char).level := by
        have ground : Scan.start.level = 0 := rfl
        rw [depthOf_append, read, Scan.depthOf_character, Scan.level_advance, level, ground,
          Int.zero_add]
      have whole : expand source = expandFront before.length source ++
          (piece (depthOf (before ++ [character])) (there.role later.head? char) char ++
            (there.advance (there.role later.head? char) char).output later) := by
        rw [expand_eq_front_append source before.length, pieces, Scan.pieces_eq_events, depth,
          ← List.flatMap_def]
        rfl
      have margin : forall depth : Int, lineBreak depth = '\n' :: Text.spaces (4 * depth.toNat) :=
        fun _ => rfl
      rw [whole]
      constructor
      · intro breaks
        rw [read] at breaks
        have put := Scan.breaks_of_character breaks
        refine ⟨(there.advance (there.role later.head? char) char).output later, ?_, ?_⟩
        · have same : character.char = char := by rw [read]; rfl
          rw [Scan.piece_of_breaks put, same, margin]
          simp only [List.append_assoc]
        · apply Scan.head?_output_of_atBreak
          rw [Scan.atBreak_advance there char (by intro skipped; rw [skipped] at put; cases put), put]
      · intro newline
        have same : char = '\n' := by rw [← newline, read]; rfl
        refine ⟨(there.advance (there.role later.head? char) char).output later, ?_⟩
        rw [same, Scan.piece_newline, margin]
        simp only [List.append_assoc]

/-- One block is closed too many and two are opened, so one is open at the semicolon. -/
theorem expand_indented_nested :
    Scan.start.characters .start "\x7d\x7b\x7b a;  b".toList =
        [⟨'\x7d', true, true⟩, ⟨'\x7b', true, true⟩, ⟨'\x7b', true, true⟩, ⟨' ', true, false⟩,
          ⟨'a', true, false⟩] ++
        ⟨';', true, false⟩ :: [⟨' ', true, false⟩, ⟨' ', true, false⟩, ⟨'b', true, false⟩] ∧
      exists rest : Text,
        expand "\x7d\x7b\x7b a;  b".toList =
          "\n:\n:\n    a".toList ++ [] ++ '\n' :: Text.spaces (4 * (2 - 1 : Int).toNat) ++ rest ∧
        rest.head? ≠ some ' ' := by
  refine ⟨?divided, (expand_indented _ ?divided).1 (.inr ⟨rfl, .inl rfl⟩)⟩
  decide

end Braces
end Oneliner
