import Oneliner.Proofs.Braces.Conservation

namespace Oneliner
namespace Braces

/-!
Where a scan is about to declare something.

A scan keeps one flag for this, which it sets, keeps and forgets while it reads.  At any
position of a source the flag can be read off the text before: there is an equals sign
that assigns, and nothing but blanks and equals signs stands behind it.  Which equals
signs assign is seen from the text as well: quotation marks and backslashes alone tell
which of them are active.
-/

/-! ## Positions -/

namespace Scan

/-- The state in which a scan comes to a position of a source.  No character stands at a
position behind the end, and nothing happens there. -/
def arrive (scan : Scan) : Nat -> Text -> Scan
  | 0, _ => scan
  | _ + 1, [] => scan
  | position + 1, char :: rest => (scan.step rest.head? char).2.arrive position rest

/-- From one position to the next the scan reads the character that stands between them. -/
theorem arrive_succ (scan : Scan) {position : Nat} {source : Text} {char : Char}
    (found : source[position]? = some char) :
    scan.arrive (position + 1) source =
      ((scan.arrive position source).step source[position + 1]? char).2 := by
  induction position generalizing scan source with
  | zero =>
      cases source with
      | nil => cases found
      | cons first rest =>
          cases found
          rw [List.getElem?_cons_succ, ← List.head?_eq_getElem?]
          rfl
  | succ position ih =>
      cases source with
      | nil => cases found
      | cons first rest => exact ih _ found

theorem arrive_succ_of_none (scan : Scan) {position : Nat} {source : Text}
    (ended : source[position]? = none) :
    scan.arrive (position + 1) source = scan.arrive position source := by
  induction position generalizing scan source with
  | zero =>
      cases source with
      | nil => rfl
      | cons first rest => cases ended
  | succ position ih =>
      cases source with
      | nil => rfl
      | cons first rest => exact ih _ ended

/-- What a scan puts out for a character is made from the state in which it comes to it. -/
theorem getElem?_pieces (scan : Scan) (source : Text) (position : Nat) :
    (scan.pieces source)[position]? =
      source[position]?.map
        fun char => ((scan.arrive position source).step source[position + 1]? char).1 := by
  induction position generalizing scan source with
  | zero =>
      cases source with
      | nil => rfl
      | cons first rest =>
          have next : rest[0]? = rest.head? := List.head?_eq_getElem?.symm
          rw [List.getElem?_cons_succ, next]
          rfl
  | succ position ih =>
      cases source with
      | nil => rfl
      | cons first rest => exact ih _ rest

theorem previous_arrive (scan : Scan) (position : Nat) (source : Text) :
    (scan.arrive position source).previous = (source.take position).getLast?.or scan.previous := by
  fun_induction arrive scan position source with
  | case1 => rfl
  | case2 => rfl
  | case3 scan position char rest ih =>
      have read : (scan.step rest.head? char).2.previous = some char := previous_advance _ _ _
      rw [ih, read, List.take_succ_cons, List.getLast?_cons]
      cases (rest.take position).getLast? <;> rfl

/-- The quotation marks and backslashes before a position are as the scan has read them. -/
theorem Tracked.arrive {quoting : Quoting} {scan : Scan} (tracked : scan.Tracked quoting)
    (regular : scan.Regular) (position : Nat) (source : Text) :
    (scan.arrive position source).Tracked ((source.take position).foldl Quoting.next quoting) := by
  fun_induction Scan.arrive scan position source generalizing quoting with
  | case1 => exact tracked
  | case2 => exact tracked
  | case3 scan position char rest ih =>
      exact ih (tracked.advance regular rest.head? char) (regular.advance rest.head? char)

/-! ## Assignments -/

theorem role_eq_assignment_iff {scan : Scan} {next : Option Char} {char : Char} :
    scan.role next char = .assignment ↔
      char = '=' ∧ scan.active char = true ∧ scan.previous ≠ some '=' ∧ next ≠ some '=' := by
  constructor
  · intro assigns
    have reading := scan.reading next char
    rw [assigns] at reading
    generalize given : Role.assignment = role at reading
    cases reading with
    | skipped | escaped | closing | quoted | opening => exact Role.noConfusion given
    | active active =>
        revert given
        fun_cases activeRole <;> simp_all
  · rintro ⟨rfl, active, first, last⟩
    have read : scan.role next '=' ≠ .skipped :=
      fun skipped => absurd (role_eq_skipped_iff.mp skipped).2 (by decide)
    rw [role_of_active active read]
    simp [activeRole, first, last]

/-- The flag is set by an assignment, and otherwise kept by blanks and equals signs. -/
theorem declaring_advance (scan : Scan) (next : Option Char) (char : Char) :
    (scan.advance (scan.role next char) char).declaring = true ↔
      scan.role next char = .assignment ∨ scan.declaring = true ∧ (char = ' ' ∨ char = '=') := by
  by_cases skipped : scan.role next char = .skipped
  · rw [skipped, (role_eq_skipped_iff.mp skipped).2]
    simp [advance]
  · generalize scan.role next char = role at skipped
    cases role <;> first | exact absurd rfl skipped | simp [advance, or_comm]

end Scan

/-- At the position stands an equals sign that assigns: it is active, and no other equals
sign stands beside it. -/
structure Assigns (source : Text) (position : Nat) : Prop where
  equals : source[position]? = some '='
  active : ((source.take position).foldl Quoting.next .start).active '=' = true
  first : (source.take position).getLast? ≠ some '='
  last : source[position + 1]? ≠ some '='

theorem Assigns.inside {source : Text} {position : Nat} (assigns : Assigns source position) :
    position < source.length :=
  (List.getElem?_eq_some_iff.mp assigns.equals).1

theorem role_arrive_eq_assignment_iff {source : Text} {position : Nat} {char : Char}
    (found : source[position]? = some char) :
    (Scan.start.arrive position source).role source[position + 1]? char = .assignment ↔
      Assigns source position := by
  have previous : (Scan.start.arrive position source).previous = (source.take position).getLast? := by
    rw [Scan.previous_arrive]
    exact Option.or_none
  have start : Scan.start.Tracked .start := ⟨rfl, rfl⟩
  have tracked := start.arrive Scan.regular_start position source
  rw [Scan.role_eq_assignment_iff, previous, ← tracked.active_eq]
  constructor
  · rintro ⟨rfl, active, first, last⟩
    exact ⟨found, active, first, last⟩
  · rintro ⟨equals, active, first, last⟩
    have same := Option.some.inj (found.symm.trans equals)
    exact ⟨same, same ▸ active, first, last⟩

/-- What the character at a position makes of the flag. -/
theorem declaring_arrive_succ (source : Text) (position : Nat) :
    (Scan.start.arrive (position + 1) source).declaring = true ↔
      Assigns source position ∨
        (Scan.start.arrive position source).declaring = true ∧
          forall char, source[position]? = some char -> char = ' ' ∨ char = '=' := by
  cases found : source[position]? with
  | none =>
      have nothing : ¬ Assigns source position :=
        fun assigns => nomatch found.symm.trans assigns.equals
      rw [Scan.arrive_succ_of_none _ found]
      simp [nothing]
  | some char =>
      have step := Scan.declaring_advance (Scan.start.arrive position source)
        source[position + 1]? char
      rw [role_arrive_eq_assignment_iff found] at step
      rw [Scan.arrive_succ _ found]
      simpa [Scan.step] using step

/-! ## Declarations -/

/-- Nothing but blanks and equals signs stands between the two positions. -/
def Clear (source : Text) (earlier later : Nat) : Prop :=
  forall char, char ∈ (source.take later).drop (earlier + 1) -> char = ' ' ∨ char = '='

theorem clear_succ (source : Text) (position : Nat) : Clear source position (position + 1) := by
  intro char member
  rw [List.drop_eq_nil_of_le (List.length_take_le _ _)] at member
  cases member

theorem clear_succ_iff {source : Text} {sign position : Nat} (inside : sign < source.length)
    (before : sign < position) :
    Clear source sign (position + 1) ↔
      Clear source sign position ∧
        forall char, source[position]? = some char -> char = ' ' ∨ char = '=' := by
  have reaches : sign + 1 ≤ (source.take position).length := by
    rw [List.length_take]
    omega
  rw [Clear, Clear, List.take_add_one, List.drop_append_of_le_length reaches, List.forall_mem_append]
  simp only [Option.mem_toList]

/-- Where the scan makes its piece of a character, it is about to declare something exactly
if an equals sign that assigns stands before, with nothing but blanks and equals signs in
between. -/
theorem declaring_iff_assigned (source : Text) (position : Nat) :
    (Scan.start.pieces source)[position]? =
        source[position]?.map
          (fun char => ((Scan.start.arrive position source).step source[position + 1]? char).1) ∧
      ((Scan.start.arrive position source).declaring = true ↔
        exists sign, sign < position ∧ Assigns source sign ∧ Clear source sign position) := by
  refine ⟨Scan.getElem?_pieces .start source position, ?_⟩
  induction position with
  | zero => simp [Scan.arrive, Scan.start]
  | succ position ih =>
      -- the last sign that counts is the character just read or stands before it
      rw [declaring_arrive_succ, ih]
      constructor
      · rintro (assigns | ⟨⟨sign, before, assigns, clear⟩, kept⟩)
        · exact ⟨position, Nat.lt_succ_self position, assigns, clear_succ source position⟩
        · exact ⟨sign, Nat.lt_succ_of_lt before, assigns,
            (clear_succ_iff assigns.inside before).mpr ⟨clear, kept⟩⟩
      · rintro ⟨sign, before, assigns, clear⟩
        rcases Nat.lt_succ_iff_lt_or_eq.mp before with earlier | rfl
        · have parts := (clear_succ_iff assigns.inside earlier).mp clear
          exact .inr ⟨⟨sign, earlier, assigns, parts.1⟩, parts.2⟩
        · exact .inl assigns

end Braces
end Oneliner
