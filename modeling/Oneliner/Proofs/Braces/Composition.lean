import Oneliner.Proofs.Braces.Course
import Oneliner.Proofs.Text.Lines

namespace Oneliner
namespace Braces

/-!
Expansion goes by parts.

A text that leaves nothing open may be followed by a separator or by a block,
and the parts are then expanded on their own.  The inside of a block is the
expansion of the inside, indented by one level.

Both facts compare a scan that goes on in the middle of a text with a scan that
begins afresh.  After a line break that was put in, outside all quotes and
brackets, the first differs from the second in its level only, once the blanks
behind the break are skipped.  Along such a pair of scans the roles are the same
and the levels keep their distance.
-/

/-- The text without the blanks at its beginning. -/
def dropBlanks (text : Text) : Text :=
  text.dropWhile (· = ' ')

/-- A text whose scan ends outside all quotes, brackets and blocks, and that does
not end with a backslash. -/
structure Closed (text : Text) : Prop where
  quote : (Scan.start.finish text).quote = none
  parens : (Scan.start.finish text).parens = 0
  squares : (Scan.start.finish text).squares = 0
  braces : (Scan.start.finish text).braces = 0
  level : (Scan.start.finish text).level = 0
  unescaped : text.getLast? ≠ some '\\'

/-- A text in whose scan the level never falls below zero. -/
def Grounded (text : Text) : Prop :=
  forall event, event ∈ Scan.start.events text -> 0 ≤ event.after.level

instance (text : Text) : Decidable (Closed text) :=
  decidable_of_iff
    ((Scan.start.finish text).quote = none ∧ (Scan.start.finish text).parens = 0 ∧
      (Scan.start.finish text).squares = 0 ∧ (Scan.start.finish text).braces = 0 ∧
      (Scan.start.finish text).level = 0 ∧ text.getLast? ≠ some '\\')
    ⟨fun ⟨quote, parens, squares, braces, level, unescaped⟩ =>
        ⟨quote, parens, squares, braces, level, unescaped⟩,
      fun closed =>
        ⟨closed.quote, closed.parens, closed.squares, closed.braces, closed.level, closed.unescaped⟩⟩

instance (text : Text) : Decidable (Grounded text) :=
  inferInstanceAs (Decidable (forall event, event ∈ Scan.start.events text -> 0 ≤ event.after.level))

/-! ## Scans that differ in their level -/

namespace Scan

/-- The second scan stands as the first, but by some levels deeper. -/
structure Shifted (depth : Int) (scan other : Scan) : Prop where
  setting : other.setting = scan.setting
  level : other.level = scan.level + depth

end Scan

/-- The two events are those of one character, in scans of different levels. -/
structure Event.Shifted (depth : Int) (event other : Event) : Prop where
  char : other.char = event.char
  role : other.role = event.role
  after : event.after.Shifted depth other.after

namespace Scan

variable {depth : Int} {scan other : Scan}

theorem Shifted.advance (shifted : scan.Shifted depth other) (role : Role) (char : Char) :
    (scan.advance role char).Shifted depth (other.advance role char) where
  setting := setting_advance shifted.setting role char
  level := by
    rw [level_advance, level_advance, shifted.level]
    omega

/-- Scans that differ in their level read a text in step.  They may also differ
in a pending break, unless the text begins with a blank. -/
theorem Shifted.run (shifted : scan.Shifted depth other) (text : Text)
    (pending : text.head? = some ' ' -> other.atBreak = scan.atBreak) :
    List.Forall₂ (Event.Shifted depth) (scan.events text) (other.events text) ∧
      (scan.finish text).Shifted depth (other.finish text) := by
  induction text generalizing scan other with
  | nil => exact ⟨List.Forall₂.nil, shifted⟩
  | cons char rest ih =>
      have sameRole : other.role rest.head? char = scan.role rest.head? char :=
        role_setting shifted.setting rest.head? (fun blank => pending (by rw [blank]; rfl))
      have next := shifted.advance (scan.role rest.head? char) char
      have sameBreak : (other.advance (scan.role rest.head? char) char).atBreak =
          (scan.advance (scan.role rest.head? char) char).atBreak := by
        -- only a skipped blank leaves the pending break as it is
        by_cases skipped : scan.role rest.head? char = .skipped
        · rw [skipped]
          exact pending (by rw [(role_eq_skipped_iff.mp skipped).2]; rfl)
        · rw [atBreak_advance other char skipped, atBreak_advance scan char skipped]
      have later := ih next (fun _ => sameBreak)
      simp only [events, finish_cons, sameRole]
      exact ⟨List.Forall₂.cons ⟨rfl, rfl, next⟩ later.1, later.2⟩

end Scan

/-! ## Pieces at different levels -/

theorem lineBreak_add {level depth : Int} (above : 0 ≤ level) (deeper : 0 ≤ depth) :
    lineBreak (level + depth) = Text.deepen depth (lineBreak level) := by
  rw [lineBreak, lineBreak, Text.deepen_cons_newline,
    Text.deepen_of_not_mem (Text.newline_not_mem_margin level), Text.margin_add above deeper]

theorem piece_add {level depth : Int} (above : 0 ≤ level) (deeper : 0 ≤ depth)
    (role : Role) (char : Char) :
    piece (level + depth) role char = Text.deepen depth (piece level role char) := by
  have put := lineBreak_add above deeper
  have read : (if char = '\n' then lineBreak (level + depth) else [char]) =
      Text.deepen depth (if char = '\n' then lineBreak level else [char]) := by
    by_cases newline : char = '\n'
    · rw [if_pos newline, if_pos newline, put]
    · rw [if_neg newline, if_neg newline]
      exact (Text.deepen_of_not_mem (by simpa using Ne.symm newline)).symm
  cases role with
  | skipped => rfl
  | openBlock => exact congrArg (':' :: ·) put
  | closeBlock | separator => exact put
  | openQuote | closeQuote | openParen | closeParen | openSquare | closeSquare | openGroup
  | closeGroup | assignment | plain => exact read

/-! ## Blanks behind a line break -/

theorem exists_blanks (text : Text) : exists count, text = Text.spaces count ++ dropBlanks text := by
  refine ⟨(text.takeWhile (· = ' ')).length, ?_⟩
  have blanks : text.takeWhile (· = ' ') = Text.spaces (text.takeWhile (· = ' ')).length := by
    apply List.eq_replicate_of_mem
    intro char member
    exact of_decide_eq_true (List.all_eq_true.mp List.all_takeWhile char member)
  rw [← blanks]
  exact (List.takeWhile_append_dropWhile).symm

theorem head?_dropBlanks (text : Text) : (dropBlanks text).head? ≠ some ' ' := by
  intro blank
  have first := List.head?_dropWhile_not (· = ' ') text
  rw [dropBlanks] at blank
  simp [blank] at first

namespace Scan

/-- The scan has just put in a line break, outside all quotes and brackets. -/
structure Fresh (level : Int) (scan : Scan) : Prop where
  setting : scan.setting = start.setting
  level : scan.level = level
  pending : scan.atBreak = true

theorem Fresh.shifted {depth : Int} {scan : Scan} (fresh : scan.Fresh depth) :
    start.Shifted depth scan where
  setting := fresh.setting
  level := by
    rw [fresh.level]
    exact (Int.zero_add depth).symm

theorem Fresh.skip {level : Int} {scan : Scan} (fresh : scan.Fresh level) :
    (scan.advance .skipped ' ').Fresh level where
  setting := by
    have same := fresh.setting
    simp only [Scan.setting, Setting.mk.injEq] at same
    simp [advance, Scan.setting, start, same]
  level := by rw [level_advance, fresh.level]; exact Int.add_zero level
  pending := fresh.pending

/-- Blanks behind a line break are skipped, and the break stays pending. -/
theorem Fresh.run_spaces {level : Int} {scan : Scan} (fresh : scan.Fresh level) (count : Nat) :
    (forall event, event ∈ scan.events (Text.spaces count) ->
      event.role = .skipped ∧ event.after.level = level) ∧
      (scan.finish (Text.spaces count)).Fresh level := by
  induction count generalizing scan with
  | zero => exact ⟨fun event member => absurd member List.not_mem_nil, fresh⟩
  | succ count ih =>
      have skipped : scan.role (Text.spaces count).head? ' ' = .skipped :=
        role_eq_skipped_iff.mpr ⟨fresh.pending, rfl⟩
      have later := ih fresh.skip
      simp only [Text.spaces, List.replicate_succ] at skipped later ⊢
      simp only [events, finish_cons, skipped, List.mem_cons]
      refine ⟨?_, later.2⟩
      rintro event (first | member)
      · rw [first]
        exact ⟨rfl, fresh.skip.level⟩
      · exact later.1 event member

/-- Behind a line break, a scan first skips blanks.  It then reads the rest in
step with a scan that begins afresh. -/
theorem Fresh.run {depth : Int} {scan : Scan} (fresh : scan.Fresh depth) (text : Text) :
    exists blanks later : List Event,
      scan.events text = blanks ++ later ∧
      (forall event, event ∈ blanks -> event.role = .skipped ∧ event.after.level = depth) ∧
      List.Forall₂ (Event.Shifted depth) (start.events (dropBlanks text)) later ∧
      (start.finish (dropBlanks text)).Shifted depth (scan.finish text) := by
  obtain ⟨count, divided⟩ := exists_blanks text
  have apart : (Text.spaces count).getLast? = some '=' -> (dropBlanks text).head? ≠ some '=' := by
    intro last
    have blank := List.eq_of_mem_replicate (List.mem_of_getLast? last)
    exact absurd blank (by decide)
  obtain ⟨skipped, still⟩ := fresh.run_spaces count
  obtain ⟨inStep, finished⟩ := still.shifted.run (dropBlanks text)
    (fun blank => absurd blank (head?_dropBlanks text))
  refine ⟨scan.events (Text.spaces count),
    (scan.finish (Text.spaces count)).events (dropBlanks text), ?_, skipped, inStep, ?_⟩
  · rw [← events_append scan apart, ← divided]
  · rw [← finish_append scan apart, ← divided] at finished
    exact finished

private theorem flatMap_skipped {events : List Event}
    (skipped : forall event, event ∈ events -> event.role = .skipped) :
    events.flatMap Event.piece = [] := by
  rw [List.flatMap_eq_nil_iff]
  intro event member
  rw [Event.piece, skipped event member]
  rfl

/-- Behind a line break, the output is put together from what the scan that begins
afresh goes through, each event moved to the level of the break. -/
private theorem Fresh.output_moved {depth : Int} {scan : Scan} (fresh : scan.Fresh depth)
    (text : Text) (move : Event -> Text)
    (moved : forall event other, event ∈ start.events (dropBlanks text) ->
      event.Shifted depth other -> move event = other.piece) :
    scan.output text = (start.events (dropBlanks text)).flatMap move := by
  obtain ⟨blanks, later, divided, skipped, inStep, _⟩ := fresh.run text
  have pieces : (start.events (dropBlanks text)).map move = later.map Event.piece := by
    rw [← List.forall₂_eq_eq_eq, List.forall₂_map_left_iff, List.forall₂_map_right_iff]
    refine ((List.forall₂_and_left _ _).mpr ⟨fun _ member => member, inStep⟩).imp ?_
    rintro event other ⟨member, shifted⟩
    exact moved event other member shifted
  rw [Scan.output, divided, List.flatMap_append,
    flatMap_skipped (fun event member => (skipped event member).1), List.nil_append,
    List.flatMap_def, List.flatMap_def, pieces]

/-- At level zero, what comes behind a line break is expanded on its own. -/
theorem Fresh.output {scan : Scan} (fresh : scan.Fresh 0) (text : Text) :
    scan.output text = expand (dropBlanks text) := by
  rw [expand_eq_output]
  apply fresh.output_moved
  intro event other _ shifted
  rw [Event.piece, Event.piece, shifted.role, shifted.char, shifted.after.level, Int.add_zero]

/-- At a deeper level, what comes behind a line break is expanded on its own and
then moved to that level. -/
theorem Fresh.output_deepen {depth : Int} {scan : Scan} (fresh : scan.Fresh depth)
    (deeper : 0 ≤ depth) {text : Text} (grounded : Grounded (dropBlanks text)) :
    scan.output text = Text.deepen depth (expand (dropBlanks text)) := by
  have moved : Text.deepen depth (expand (dropBlanks text)) =
      (start.events (dropBlanks text)).flatMap (fun event => Text.deepen depth event.piece) := by
    rw [expand_eq_output, Scan.output, Text.deepen, List.flatMap_assoc]
    rfl
  rw [moved]
  apply fresh.output_moved
  intro event other member shifted
  rw [Event.piece, Event.piece, shifted.role, shifted.char, shifted.after.level,
    piece_add (grounded event member) deeper]

private theorem exists_of_mem_right {related : Event -> Event -> Prop} {left right : List Event}
    (pairs : List.Forall₂ related left right) {event : Event} (member : event ∈ right) :
    exists source, source ∈ left ∧ related source event := by
  induction pairs with
  | nil => exact absurd member List.not_mem_nil
  | @cons first second _ _ pair _ ih =>
      rcases List.mem_cons.mp member with here | later
      · exact ⟨first, List.mem_cons_self, here ▸ pair⟩
      · obtain ⟨source, found, pair⟩ := ih later
        exact ⟨source, List.mem_cons_of_mem _ found, pair⟩

theorem Fresh.grounded {depth : Int} {scan : Scan} (fresh : scan.Fresh depth)
    (deeper : 0 ≤ depth) {text : Text} (grounded : Grounded (dropBlanks text)) :
    forall event, event ∈ scan.events text -> 0 ≤ event.after.level := by
  obtain ⟨blanks, later, divided, skipped, inStep, _⟩ := fresh.run text
  intro event member
  rw [divided] at member
  rcases List.mem_append.mp member with blank | read
  · rw [(skipped event blank).2]
    exact deeper
  · obtain ⟨source, sourceMember, shifted⟩ := exists_of_mem_right inStep read
    have above := grounded source sourceMember
    rw [shifted.after.level]
    omega

/-! ## Outside all quotes and brackets -/

/-- The scan stands outside all quotes and brackets. -/
structure Outside (level : Int) (scan : Scan) : Prop where
  quote : scan.quote = none
  parens : scan.parens = 0
  squares : scan.squares = 0
  braces : scan.braces = 0
  level : scan.level = level
  unescaped : scan.previous ≠ some '\\'

variable {level : Int} {scan : Scan}

theorem Outside.shift {depth : Int} {other : Scan} (outside : scan.Outside level)
    (shifted : scan.Shifted depth other) : other.Outside (level + depth) := by
  have same := shifted.setting
  simp only [setting, Setting.mk.injEq, decide_eq_decide] at same
  obtain ⟨escaped, _, quote, _, parens, squares, braces⟩ := same
  exact {
    quote := quote.trans outside.quote
    parens := parens.trans outside.parens
    squares := squares.trans outside.squares
    braces := braces.trans outside.braces
    level := by rw [shifted.level, outside.level]
    unescaped := fun behind => outside.unescaped (escaped.mp behind) }

theorem Outside.role_separator (outside : scan.Outside level) (next : Option Char) :
    scan.role next ';' = .separator := by
  simp [role, activeRole, outside.unescaped, outside.quote]

theorem Outside.role_openBlock (outside : scan.Outside level) (settled : scan.declaring = false)
    (next : Option Char) : scan.role next '{' = .openBlock := by
  simp [role, activeRole, nested, outside.unescaped, outside.quote, outside.parens,
    outside.squares, outside.braces, settled]

theorem Outside.role_closeBlock (outside : scan.Outside level) (next : Option Char) :
    scan.role next '}' = .closeBlock := by
  simp [role, activeRole, nested, outside.unescaped, outside.quote, outside.parens,
    outside.squares, outside.braces]

/-- A line break that is put in outside all quotes and brackets leaves nothing
of what was read before it but the level. -/
theorem Outside.fresh (outside : scan.Outside level) {role : Role} (breaks : role.breaks = true)
    {char : Char} (ordinary : char ≠ '\\' ∧ char ≠ '=' ∧ char ≠ ' ') :
    (scan.advance role char).Fresh (level + role.rise) where
  setting := by
    cases role <;> first
      | exact absurd breaks Bool.false_ne_true
      | simp [advance, Scan.setting, start, outside.quote, outside.parens, outside.squares,
          outside.braces, ordinary]
  level := by rw [level_advance, outside.level]
  pending := by
    rw [atBreak_advance scan char (by rintro rfl; exact Bool.false_ne_true breaks), breaks]

end Scan

theorem closed_iff_outside (text : Text) : Closed text ↔ (Scan.start.finish text).Outside 0 := by
  have last : (Scan.start.finish text).previous = text.getLast? := by
    rw [Scan.previous_finish]
    exact Option.or_none
  constructor
  · intro closed
    exact ⟨closed.quote, closed.parens, closed.squares, closed.braces, closed.level,
      last ▸ closed.unescaped⟩
  · intro outside
    exact ⟨outside.quote, outside.parens, outside.squares, outside.braces, outside.level,
      last ▸ outside.unescaped⟩

/-! ## Texts that end with a line break -/

/-- The scan of the text ends right behind a line break that was put in. -/
def Broken (level : Int) (text : Text) : Prop :=
  (Scan.start.finish text).Fresh level

namespace Broken

variable {depth : Int} {front : Text}

theorem apart (broken : Broken depth front) (tail : Text) :
    front.getLast? = some '=' -> tail.head? ≠ some '=' := by
  intro last
  have settled := congrArg Setting.afterEquals broken.setting
  simp only [Scan.setting, Scan.start, Scan.previous_finish, last] at settled
  exact absurd settled (by decide)

theorem expand_append (broken : Broken 0 front) (tail : Text) :
    expand (front ++ tail) = expand front ++ expand (dropBlanks tail) := by
  rw [Scan.expand_eq_output (front ++ tail), Scan.output_append _ (broken.apart tail),
    broken.output, ← Scan.expand_eq_output]

theorem expand_append_deepen (broken : Broken depth front) (deeper : 0 ≤ depth) {tail : Text}
    (grounded : Grounded (dropBlanks tail)) :
    expand (front ++ tail) = expand front ++ Text.deepen depth (expand (dropBlanks tail)) := by
  rw [Scan.expand_eq_output (front ++ tail), Scan.output_append _ (broken.apart tail),
    broken.output_deepen deeper grounded, ← Scan.expand_eq_output]

theorem outside_append (broken : Broken depth front) {tail : Text}
    (closed : Closed (dropBlanks tail)) : (Scan.start.finish (front ++ tail)).Outside depth := by
  obtain ⟨_, _, _, _, _, finished⟩ := broken.run tail
  rw [Scan.finish_append _ (broken.apart tail)]
  have outside := ((closed_iff_outside (dropBlanks tail)).mp closed).shift finished
  rwa [Int.zero_add] at outside

theorem grounded_append (broken : Broken depth front) (deeper : 0 ≤ depth)
    (before : Grounded front) {tail : Text} (grounded : Grounded (dropBlanks tail)) :
    Grounded (front ++ tail) := by
  intro event member
  rw [Scan.events_append _ (broken.apart tail)] at member
  rcases List.mem_append.mp member with early | late
  · exact before event early
  · exact broken.grounded deeper grounded event late

end Broken

/-- One character that puts in a line break, outside all quotes and brackets. -/
theorem broken_snoc {text : Text} {level : Int} (outside : (Scan.start.finish text).Outside level)
    {char : Char} {role : Role} (given : (Scan.start.finish text).role none char = role)
    (breaks : role.breaks = true) (ordinary : char ≠ '\\' ∧ char ≠ '=' ∧ char ≠ ' ') :
    Broken (level + role.rise) (text ++ [char]) ∧
      expand (text ++ [char]) = expand text ++ piece (level + role.rise) role char ∧
      (0 ≤ level + role.rise -> Grounded text -> Grounded (text ++ [char])) := by
  have apart : text.getLast? = some '=' -> [char].head? ≠ some '=' := by
    intro _ equals
    exact ordinary.2.1 (Option.some.inj equals)
  have fresh := outside.fresh breaks ordinary
  refine ⟨?_, ?_, ?_⟩
  · rw [Broken, Scan.finish_append _ apart, Scan.finish_cons, List.head?_nil, given]
    exact fresh
  · rw [Scan.expand_eq_output, Scan.output_append _ apart, Scan.output_cons, List.head?_nil, given,
      fresh.level, Scan.expand_eq_output]
    exact congrArg (_ ++ ·) (List.append_nil _)
  · intro above grounded event member
    rw [Scan.events_append _ apart] at member
    rcases List.mem_append.mp member with early | last
    · exact grounded event early
    · simp only [Scan.events, List.head?_nil, given, List.mem_singleton] at last
      rw [last, fresh.level]
      exact above

/-- A closed text and a separator. -/
theorem broken_separator {head : Text} (closed : Closed head) :
    Broken 0 (head ++ [';']) ∧ expand (head ++ [';']) = expand head ++ ['\n'] ∧
      (Grounded head -> Grounded (head ++ [';'])) := by
  have outside := (closed_iff_outside head).mp closed
  obtain ⟨broken, expanded, grounded⟩ :=
    broken_snoc outside (outside.role_separator none) rfl (by decide)
  exact ⟨broken, expanded, grounded (by decide)⟩

/-- A header and the block behind it. -/
theorem broken_block {head body : Text} (closed : Closed head)
    (settled : (Scan.start.finish head).declaring = false) (inside : Closed (dropBlanks body))
    (above : Grounded (dropBlanks body)) :
    Broken 0 (head ++ '{' :: body ++ ['}']) ∧
      expand (head ++ '{' :: body ++ ['}']) =
        expand head ++ ':' :: '\n' :: Text.indent 1 (expand (dropBlanks body)) ++ ['\n'] ∧
      (Grounded head -> Grounded (head ++ '{' :: body ++ ['}'])) := by
  have outside := (closed_iff_outside head).mp closed
  obtain ⟨opened, openedExpand, openedGrounded⟩ :=
    broken_snoc outside (outside.role_openBlock settled none) rfl (by decide)
  have within := opened.outside_append inside
  obtain ⟨broken, expanded, grounded⟩ :=
    broken_snoc within (within.role_closeBlock none) rfl (by decide)
  have parts : head ++ '{' :: body ++ ['}'] = head ++ ['{'] ++ body ++ ['}'] := by simp
  rw [parts]
  refine ⟨broken, ?_, ?_⟩
  · rw [expanded, opened.expand_append_deepen (by decide) above, openedExpand,
      Text.indent_eq_deepen]
    simp only [List.append_assoc]
    rfl
  · intro before
    have start := openedGrounded (by decide) before
    exact grounded (by decide) (opened.grounded_append (by decide) start above)

/-! ## Composition -/

theorem expand_separator {head : Text} (closed : Closed head) (tail : Text) :
    expand (head ++ ';' :: tail) = expand head ++ '\n' :: expand (dropBlanks tail) := by
  obtain ⟨broken, expanded, _⟩ := broken_separator closed
  calc expand (head ++ ';' :: tail)
      = expand (head ++ [';'] ++ tail) := by rw [List.append_assoc]; rfl
    _ = expand (head ++ [';']) ++ expand (dropBlanks tail) := broken.expand_append tail
    _ = expand head ++ '\n' :: expand (dropBlanks tail) := by
        rw [expanded, List.append_assoc]
        rfl

theorem expand_block {head body : Text} (closed : Closed head)
    (settled : (Scan.start.finish head).declaring = false) (inside : Closed (dropBlanks body))
    (above : Grounded (dropBlanks body)) (tail : Text) :
    expand (head ++ '{' :: body ++ '}' :: tail) =
      expand head ++ ':' :: '\n' :: Text.indent 1 (expand (dropBlanks body)) ++
        '\n' :: expand (dropBlanks tail) := by
  obtain ⟨broken, expanded, _⟩ := broken_block closed settled inside above
  calc expand (head ++ '{' :: body ++ '}' :: tail)
      = expand (head ++ '{' :: body ++ ['}'] ++ tail) := by
        rw [List.append_assoc (head ++ '{' :: body)]
        rfl
    _ = expand (head ++ '{' :: body ++ ['}']) ++ expand (dropBlanks tail) :=
        broken.expand_append tail
    _ = expand head ++ ':' :: '\n' :: Text.indent 1 (expand (dropBlanks body)) ++
          '\n' :: expand (dropBlanks tail) := by
        rw [expanded, List.append_assoc (expand head ++ _)]
        rfl

/-- Expansion is compositional over sequencing and nesting, and nesting is
indentation.  Behind a separator and behind a block, blanks do not count.  The
text inside a block may hold newlines and blocks of its own, but it may not
close more blocks than it has opened. -/
theorem expand_compositional :
    (forall head tail : Text, Closed head ->
      expand (head ++ ';' :: tail) = expand head ++ '\n' :: expand (dropBlanks tail)) ∧
    (forall head body tail : Text, Closed head ->
      (Scan.start.finish head).declaring = false ->
      Closed (dropBlanks body) -> Grounded (dropBlanks body) ->
      expand (head ++ '{' :: body ++ '}' :: tail) =
        expand head ++ ':' :: '\n' :: Text.indent 1 (expand (dropBlanks body)) ++
          '\n' :: expand (dropBlanks tail)) :=
  ⟨fun _ tail closed => expand_separator closed tail,
    fun _ _ tail closed settled inside above => expand_block closed settled inside above tail⟩

theorem expand_compositional_nested :
    (Closed "d = \x7b1: ';'\x7d".toList ∧
      expand ("d = \x7b1: ';'\x7d".toList ++ ';' :: "  e".toList) = "d = \x7b1: ';'\x7d\ne".toList) ∧
    (Closed "for x in _".toList ∧ (Scan.start.finish "for x in _".toList).declaring = false ∧
      Closed (dropBlanks " a;\nif x \x7b '\x7d' \x7d ".toList) ∧
      Grounded (dropBlanks " a;\nif x \x7b '\x7d' \x7d ".toList) ∧
      expand ("for x in _".toList ++ '{' :: " a;\nif x \x7b '\x7d' \x7d ".toList ++
          '}' :: " b".toList) =
        "for x in _:\n    a\n    \n    if x :\n        '\x7d' \n    \nb".toList) :=
  ⟨⟨by decide, (expand_compositional.1 _ _ (by decide)).trans (by decide)⟩,
    by decide, by decide, by decide, by decide,
    (expand_compositional.2 _ _ _ (by decide) (by decide) (by decide) (by decide)).trans (by decide)⟩

end Braces
end Oneliner
