import Oneliner.Proofs.Program.DeepScanning

namespace Oneliner
namespace Program

/-!
Literals that go over several lines, and the expressions in their braces.

Blanks behind a newline leave a literal one that can be read.  They change none of
its braces, and no escape but an octal number goes on behind a newline.  What stands
in braces is scanned inside brackets of its own.  No line ends there, or else there
would be more than one, so the blanks change no more than the literals in it.
-/

/-! ## Lines that have been begun -/

namespace Scanner

/-- How many lines have tokens. -/
def begun (scanner : Scanner) : Nat :=
  scanner.lines.length + min scanner.tokens.length 1

/-- So many lines have been begun, and the scanner is in no comment. -/
structure Begun (count : Nat) (scanner : Scanner) : Prop where
  count : count ≤ scanner.begun
  clear : scanner.mode ≠ .comment

namespace Begun

variable {count : Nat} {scanner : Scanner} {char : Char}

theorem emit (begun : Begun count scanner) (token : Token) : Begun count (scanner.emit token) := by
  refine ⟨Nat.le_trans begun.count ?_, Mode.noConfusion⟩
  simp only [Scanner.begun, Scanner.emit, List.length_cons]
  omega

theorem garble (begun : Begun count scanner) : Begun count scanner.garble :=
  ⟨(begun.emit .broken).count, Mode.noConfusion⟩

theorem sever (begun : Begun count scanner) : Begun count scanner.sever :=
  ⟨(begun.emit .severed).count, Mode.noConfusion⟩

theorem withMode (begun : Begun count scanner) {mode : Mode} (clear : mode ≠ .comment) :
    Begun count { scanner with mode := mode } :=
  ⟨begun.count, clear⟩

theorem ite {condition : Prop} [Decidable condition] {yes no : Scanner} (ifYes : Begun count yes)
    (ifNo : ¬condition -> Begun count no) : Begun count (if condition then yes else no) := by
  by_cases holds : condition
  · rw [if_pos holds]
    exact ifYes
  · rw [if_neg holds]
    exact ifNo holds

theorem newline (begun : Begun count scanner) : Begun count scanner.newline := by
  rw [Scanner.newline, Scanner.finishLine]
  split
  · split
    · exact begun.withMode Mode.noConfusion
    · refine ⟨Nat.le_trans begun.count ?_, Mode.noConfusion⟩
      simp only [Scanner.begun, List.length_cons, List.length_nil]
      omega
  · exact begun.withMode Mode.noConfusion

theorem readSymbol (begun : Begun count scanner) : Begun count (scanner.readSymbol char) := by
  rw [Scanner.readSymbol]
  split
  · exact .ite ⟨(begun.emit _).count, Mode.noConfusion⟩ fun _ => begun.garble
  · exact begun.emit _
  · exact .ite ⟨(begun.emit _).count, Mode.noConfusion⟩ fun _ =>
      .ite (begun.emit _) fun _ => begun.garble

theorem readFresh (begun : Begun count scanner) (clear : char ≠ '#') :
    Begun count (scanner.readFresh char) := by
  rw [Scanner.readFresh]
  refine .ite begun fun _ => .ite (begun.withMode Mode.noConfusion) fun _ =>
    .ite begun.newline fun _ => ?_
  rw [if_neg clear]
  iterate 7 refine .ite (begun.withMode Mode.noConfusion) fun _ => ?_
  exact begun.readSymbol

theorem finishWord (begun : Begun count scanner) (read : Text) (afterNumber : Bool) :
    Begun count (scanner.finishWord read afterNumber) :=
  .ite begun.garble fun _ => begun.emit _

theorem finishNumber (begun : Begun count scanner) (number : Number) :
    Begun count (scanner.finishNumber number) := by
  rw [Scanner.finishNumber]
  split
  · split
    · exact begun.emit _
    · exact begun.emit _
  · exact begun.garble

theorem readWord (begun : Begun count scanner) (clear : char ≠ '#') (read : Text)
    (afterNumber : Bool) : Begun count (scanner.readWord read afterNumber char) := by
  rw [Scanner.readWord]
  split
  · exact begun.withMode Mode.noConfusion
  · simp only []
    split
    · exact begun.withMode Mode.noConfusion
    · exact (begun.finishWord read _).readFresh clear

theorem readNumber (begun : Begun count scanner) (clear : char ≠ '#') (number : Number) :
    Begun count (scanner.readNumber number char) := by
  rw [Scanner.readNumber]
  split
  · exact begun.withMode Mode.noConfusion
  · exact begun.garble
  · exact .ite ((begun.finishNumber number).withMode Mode.noConfusion) fun _ =>
      (begun.finishNumber number).readFresh clear
  · exact (begun.finishNumber number).readWord clear _ _

theorem readLiteral (begun : Begun count scanner) (style : LiteralStyle) (mark : Char) (long : Bool)
    (read : Text) : Begun count (scanner.readLiteral style mark long read char) := by
  refine .ite (.ite (begun.withMode Mode.noConfusion) fun _ => begun.emit _) fun _ =>
    .ite begun.garble fun _ => ?_
  exact .ite (begun.withMode Mode.noConfusion) fun _ => begun.withMode Mode.noConfusion

theorem read (begun : Begun count scanner) (clear : char ≠ '#') :
    Begun count (scanner.read char) := by
  rw [Scanner.read]
  refine .ite begun fun _ => ?_
  cases mode : scanner.mode with
  | margin column kept joined =>
      refine .ite (begun.withMode Mode.noConfusion) fun _ =>
        .ite (begun.withMode Mode.noConfusion) fun _ => ?_
      exact .ite ⟨begun.count, Mode.noConfusion⟩ fun _ =>
        readFresh ⟨begun.count, begun.clear⟩ clear
  | between | joined => exact begun.readFresh clear
  | word => exact begun.readWord clear _ _
  | number => exact begun.readNumber clear _
  | dot => exact .ite (begun.withMode Mode.noConfusion) fun _ => (begun.emit _).readFresh clear
  | equals | plus => exact .ite (begun.emit _) fun _ => (begun.emit _).readFresh clear
  | opening => exact .ite (begun.withMode Mode.noConfusion) fun _ => begun.readLiteral ..
  | opened => exact .ite (begun.withMode Mode.noConfusion) fun _ => (begun.emit _).readFresh clear
  | literal => exact begun.readLiteral ..
  | escape => exact begun.withMode Mode.noConfusion
  | closing =>
      exact .ite (.ite (begun.emit _) fun _ => begun.withMode Mode.noConfusion) fun _ =>
        begun.readLiteral ..
  | comment => exact absurd mode begun.clear
  | marginJoin | join => exact .ite (begun.withMode Mode.noConfusion) fun _ => begun.sever

theorem run (begun : Begun count scanner) {text : Text} (clear : '#' ∉ text) :
    Begun count (text.foldl Scanner.read scanner) := by
  induction text generalizing scanner with
  | nil => exact begun
  | cons char rest restRun =>
      rw [List.mem_cons, not_or] at clear
      exact restRun (begun.read (Ne.symm clear.1)) clear.2

end Begun

/-- Reading takes no line away. -/
theorem exists_lines_run (scanner : Scanner) (text : Text) :
    Exists fun more => (text.foldl read scanner).lines = more ++ scanner.lines := by
  have split : scanner = ({ scanner with lines := [] } : Scanner).move id scanner.lines := rfl
  rw [split, run_move_id]
  exact ⟨_, rfl⟩

/-- Where a line has been begun and none has been ended, there is no margin. -/
theorem Begun.outside {scanner : Scanner} (begun : Begun 1 scanner) (sound : scanner.Sound)
    (none : scanner.lines = []) : scanner.mode.inMargin = false := by
  rw [Bool.eq_false_iff]
  intro inMargin
  have count := begun.count
  rw [Scanner.begun, none, (sound.margin inMargin).1] at count
  exact absurd count (by decide)

/-- Where a line has been begun and none has been ended, no further line begins. -/
theorem lineMargins_eq_nil {scanner : Scanner} (sound : scanner.Sound) (begun : Begun 1 scanner)
    {text : Text} (clear : '#' ∉ text) (single : (text.foldl read scanner).lines = [])
    (current : Text) : scanner.lineMargins current text = [] := by
  induction text generalizing scanner current with
  | nil => rfl
  | cons char rest restNil =>
      rw [List.mem_cons, not_or] at clear
      have outside : scanner.mode.inMargin = false := by
        rcases exists_lines_run scanner (char :: rest) with ⟨more, lines⟩
        rw [single] at lines
        exact begun.outside sound (List.append_eq_nil_iff.mp lines.symm).2
      have later := restNil (sound.read char) (begun.read (Ne.symm clear.1)) clear.2 single
      rw [lineMargins, outside]
      exact later _

/-! ## The bracket that closes an expression in braces -/

theorem continuesName_paren : Text.continuesName ')' = false := by
  decide +kernel

/-- No number goes on with a closing bracket. -/
theorem next_paren (number more : Number) : number.next ')' ≠ .more more := by
  have noDigit : Number.acceptsDigit number.stage ')' = false := by
    cases number.stage with
    | based base => rfl
    | _ => rfl
  have noBase : Number.bases.lookup ')' = none := rfl
  rw [Number.next, noDigit]
  cases number.demand with
  | digit | opening => rintro ⟨⟩
  | free =>
      simp only [Number.readOther, noBase, ite_self]
      cases number.stage with
      | mark => cases number.read <;> rintro ⟨⟩
      | _ => rintro ⟨⟩

section Paren

variable {scanner : Scanner}

theorem tokens_readSymbol (char : Char) : (scanner.readSymbol char).tokens ≠ [] := by
  rw [readSymbol]
  split
  · split <;> rintro ⟨⟩
  · rintro ⟨⟩
  · split
    · rintro ⟨⟩
    · split <;> rintro ⟨⟩

theorem tokens_readFresh_paren (progress : scanner.progress = .reading) :
    (scanner.readFresh ')').tokens ≠ [] := by
  rw [readFresh, if_neg (not_not_intro progress)]
  exact tokens_readSymbol ')'

theorem tokens_readFresh_paren_of_tokens (some : scanner.tokens ≠ []) :
    (scanner.readFresh ')').tokens ≠ [] := by
  by_cases progress : scanner.progress = .reading
  · exact tokens_readFresh_paren progress
  · rw [readFresh, if_pos progress]
    exact some

theorem tokens_finishWord (read : Text) (afterNumber : Bool) :
    (scanner.finishWord read afterNumber).tokens ≠ [] := by
  rw [finishWord]
  split <;> rintro ⟨⟩

theorem tokens_finishNumber (number : Number) : (scanner.finishNumber number).tokens ≠ [] := by
  rw [finishNumber]
  split
  · split <;> rintro ⟨⟩
  · rintro ⟨⟩

theorem tokens_readWord_paren (read : Text) (afterNumber : Bool) :
    (scanner.readWord read afterNumber ')').tokens ≠ [] := by
  simp only [readWord, continuesName_paren]
  exact tokens_readFresh_paren_of_tokens (tokens_finishWord read afterNumber)

theorem tokens_readNumber_paren (number : Number) :
    (scanner.readNumber number ')').tokens ≠ [] := by
  rw [readNumber]
  split
  · rename_i more
    exact absurd more (next_paren number _)
  · rintro ⟨⟩
  · simp only [continuesName_paren, Bool.and_false, Bool.false_eq_true, if_false]
    exact tokens_readFresh_paren_of_tokens (tokens_finishNumber number)
  · exact tokens_readWord_paren _ _

theorem unlike_paren {mark : Char} (quote : (mark = '\'' || mark = '"') = true) : ¬ ')' = mark := by
  rintro rfl
  exact absurd quote (by decide)

theorem readLiteral_paren {mark : Char} (quote : (mark = '\'' || mark = '"') = true)
    (style : LiteralStyle) (long : Bool) (read : Text) :
    scanner.readLiteral style mark long read ')' =
      { scanner with mode := .literal style mark long (')' :: read) } := by
  rw [readLiteral, if_neg (unlike_paren quote), if_neg (by simp), if_neg (by decide)]

/-- A closing bracket is a token, or it stands in a literal. -/
theorem read_paren (progress : scanner.progress = .reading) (quoted : scanner.mode.quoted = true)
    (clear : scanner.mode ≠ .comment) :
    (scanner.read ')').tokens ≠ [] ∨ Exists fun style => Exists fun mark => Exists fun long =>
      Exists fun read => (mark = '\'' || mark = '"') = true ∧
        scanner.read ')' = { scanner with mode := .literal style mark long read } := by
  rw [Scanner.read, if_neg (not_not_intro progress)]
  cases mode : scanner.mode with
  | margin column kept joined =>
      refine .inl ?_
      simp only [readMargin]
      exact @tokens_readFresh_paren { scanner with column := _ } progress
  | between | joined => exact .inl (tokens_readFresh_paren progress)
  | word => exact .inl (tokens_readWord_paren _ _)
  | number => exact .inl (tokens_readNumber_paren _)
  | dot | equals | plus =>
      exact .inl (tokens_readFresh_paren_of_tokens (List.cons_ne_nil _ scanner.tokens))
  | opening style mark =>
      rw [mode] at quoted
      have unlike : ¬ ')' = mark := unlike_paren quoted
      simp only [if_neg unlike, readLiteral_paren quoted]
      exact .inr ⟨_, _, _, _, quoted, rfl⟩
  | opened style mark =>
      rw [mode] at quoted
      have unlike : ¬ ')' = mark := unlike_paren quoted
      simp only [if_neg unlike]
      exact .inl (tokens_readFresh_paren_of_tokens (List.cons_ne_nil _ scanner.tokens))
  | literal style mark long read =>
      rw [mode] at quoted
      simp only [readLiteral_paren quoted]
      exact .inr ⟨_, _, _, _, quoted, rfl⟩
  | escape style mark long read =>
      rw [mode] at quoted
      exact .inr ⟨_, _, _, _, quoted, rfl⟩
  | closing style mark second read =>
      rw [mode] at quoted
      have unlike : ¬ ')' = mark := unlike_paren quoted
      simp only [readClosing, if_neg unlike, readLiteral_paren quoted]
      exact .inr ⟨_, _, _, _, quoted, rfl⟩
  | comment => exact absurd mode clear
  | marginJoin | join => exact .inl (List.cons_ne_nil _ _)

/-- If a closing bracket ends the only line, no line has been ended before. -/
theorem lines_eq_nil_of_paren (quoted : scanner.mode.quoted = true)
    (clear : scanner.mode ≠ .comment) (ready : ((scanner.read ')').read '\n').Ready)
    (single : ((scanner.read ')').read '\n').lines.length ≤ 1) : scanner.lines = [] := by
  by_contra some
  have ended : 1 ≤ scanner.lines.length := List.length_pos_of_ne_nil some
  by_cases progress : scanner.progress = .reading
  · rcases read_paren progress quoted clear with tokens | ⟨style, mark, long, read, quote, literal⟩
    · have two : Begun 2 (scanner.read ')') := by
        rcases exists_lines_run scanner [')'] with ⟨more, lines⟩
        have lines : (scanner.read ')').lines = more ++ scanner.lines := lines
        have token : 1 ≤ (scanner.read ')').tokens.length := List.length_pos_of_ne_nil tokens
        have still : Begun 0 (scanner.read ')') := (⟨Nat.zero_le _, clear⟩ : Begun 0 scanner).read (by decide)
        refine ⟨?_, still.clear⟩
        rw [Scanner.begun, lines, List.length_append]
        omega
      have count := (two.read (by decide : '\n' ≠ '#')).count
      rw [Scanner.begun, ready.tokens] at count
      simp only [List.length_nil, Nat.zero_min, Nat.add_zero] at count
      omega
    · have unlike : ¬ '\n' = mark := fun same => unlike_newline quote same.symm
      have mode := ready.mode
      have reading : ¬({ scanner with mode := .literal style mark long read } : Scanner).progress ≠
          .reading := not_not_intro progress
      rw [literal, Scanner.read, if_neg reading] at mode
      simp only [readLiteral, if_neg unlike] at mode
      cases long <;> cases mode
  · have stopped : scanner.read ')' = scanner := by rw [Scanner.read, if_pos progress]
    rw [stopped, Scanner.read, if_pos progress] at ready
    exact progress ready.progress

end Paren
end Scanner

/-! ## Expressions in braces -/

theorem lines_ofText_closed {text : Text}
    (ready : ((text ++ ['\n']).foldl Scanner.read .start).Ready) (last : text.getLast? ≠ some '\n') :
    (Lines.ofText text).lines = ((text ++ ['\n']).foldl Scanner.read .start).lines.reverse := by
  have closed : Lines.closed (text ++ ['\n']) = Lines.closed text := by
    rw [Lines.closed, Lines.closed, if_neg last, if_pos List.getLast?_concat]
  rw [← ready.lines_ofText, Lines.ofText, Lines.ofText, closed]

/-- The scanner behind the bracket in front of an expression. -/
theorem read_bracket : Scanner.start.read '(' =
    { Scanner.start with
      tokens := [.symbol .openParen]
      closers := [')']
      mode := .between } := by
  decide +kernel

theorem run_brackets (text : Text) :
    ('(' :: text ++ [')'] ++ ['\n']).foldl Scanner.read .start =
      ((text.foldl Scanner.read (Scanner.start.read '(')).read ')').read '\n' := by
  rw [List.foldl_append, List.foldl_append]
  rfl

theorem begun_bracket : Scanner.Begun 1 (Scanner.start.read '(') := by
  rw [read_bracket]
  exact ⟨by decide, nofun⟩

theorem quoted_bracket : (Scanner.start.read '(').mode.quoted = true := by
  rw [read_bracket]
  rfl

/-- A text in brackets that gives only one line ends it with the last bracket. -/
theorem run_brackets_of_single {text : Text} {line : Line}
    (single : (Lines.ofText ('(' :: text ++ [')'])).lines = [line])
    (known : line.tokens.all Token.known = true) (clear : '#' ∉ text) :
    (((text.foldl Scanner.read (Scanner.start.read '(')).read ')').read '\n').Ready ∧
      (((text.foldl Scanner.read (Scanner.start.read '(')).read ')').read '\n').lines.reverse = [line] ∧
      (text.foldl Scanner.read (Scanner.start.read '(')).lines = [] := by
  have allKnown : forall other, other ∈ (Lines.ofText ('(' :: text ++ [')'])).lines ->
      other.tokens.all Token.known = true := by
    intro other member
    rw [single] at member
    rw [List.mem_singleton.mp member]
    exact known
  rcases Scanner.ready_of_known allKnown with ⟨ready, lines⟩
  rw [run_brackets] at ready lines
  rw [single] at lines
  refine ⟨ready, lines, Scanner.lines_eq_nil_of_paren (Scanner.quoted_run quoted_bracket text)
    (begun_bracket.run clear).clear ready ?_⟩
  exact Nat.le_of_eq (by simpa using congrArg List.length lines)

theorem straightOn_of_not_mem {text : Text} (straight : '\\' ∉ text) (scanner : Scanner) :
    scanner.straightOn text = true := by
  induction text generalizing scanner with
  | nil => rfl
  | cons char rest restStraight =>
      rw [List.mem_cons, not_or] at straight
      simp [Scanner.straightOn, Ne.symm straight.1, restStraight straight.2]

/-- What stands in braces has the same tokens with deeper literals. -/
theorem lineTokens?_deepen {text : Text} {tokens : List Token} (level : Int)
    (found : Expr.lineTokens? text = some tokens) (known : tokens.all Token.known = true)
    (straight : '\\' ∉ text) (clear : '#' ∉ text) :
    Expr.lineTokens? (Text.deepen level text) = some (tokens.map (Token.deepen level)) := by
  rw [Expr.lineTokens?] at found
  split at found
  case h_2 => cases found
  rename_i line single
  cases found
  rcases run_brackets_of_single single known clear with ⟨ready, lines, none⟩
  have sound : (Scanner.start.read '(').Sound := Scanner.sound_start.read '('
  have quoted := Scanner.quoted_run quoted_bracket text
  have outside := (begun_bracket.run clear).outside (sound.run text) none
  have margins := Scanner.lineMargins_eq_nil sound begun_bracket clear none ['(']
  have first : Scanner.Trails id [] (Text.margin level) ['('] ((Scanner.start.read '(').deepen level)
      (Scanner.start.read '(') := by
    rw [read_bracket]
    exact .follows (.inside rfl)
  rcases first.run sound quoted_bracket (straightOn_of_not_mem straight _)
      (by rw [margins]; nofun) with ⟨last, trails⟩
  -- The last bracket and the end of the line are read in the same way.
  have closing := trails.read ((sound.run text).deepen level) (by decide : ')' ≠ '\n')
    (fun same => absurd same (by decide)) fun inMargin => by
      rw [Scanner.deepen, Scanner.inMargin_deepen, outside] at inMargin
      cases inMargin
  rw [Scanner.read_deepen level _ quoted fun same => absurd same (by decide)] at closing
  have plain : (((text.foldl Scanner.read (Scanner.start.read '(')).read ')').read '\n').mode.inLiteral =
      false := by
    rw [ready.mode]
    rfl
  have deepened := Scanner.read_deepen level _ (Scanner.quoted_read quoted) fun _ => plain
  have whole := closing.ready (by rw [deepened]; exact ready.deepen level)
  have lines' := @lines_ofText_closed ('(' :: Text.deepen level text ++ [')'])
    (by rw [run_brackets]; exact whole.1) (by rw [List.getLast?_concat]; decide)
  rw [run_brackets, whole.2, deepened, List.append_nil, Scanner.deepen, ← List.map_reverse,
    ← List.map_reverse, lines] at lines'
  rw [Expr.lineTokens?, lines']
  rfl

/-! ## Pieces of literals -/

namespace Piece

/-- The piece with the margin of a level after each newline in it. -/
def deepen (level : Int) : Piece -> Piece
  | plain text => plain (Text.deepen level text)
  | enclosed text => enclosed (Text.deepen level text)

theorem divide_blanks (raw : Bool) (count : Nat) (read : Text) (zone : Zone) (text : Text) :
    divide raw read zone (Text.spaces count ++ text) =
      divide raw (Text.spaces count ++ read) zone text := by
  induction count generalizing read with
  | zero => rfl
  | succ count later =>
      have blank : divide raw read zone (' ' :: (Text.spaces count ++ text)) =
          divide raw (' ' :: read) zone (Text.spaces count ++ text) := by
        cases zone with
        | plain => rw [divide, if_neg (by decide), if_neg (by decide)] <;> nofun
        | name | enclosed => rfl
      have pushed : Text.spaces (count + 1) ++ read = Text.spaces count ++ ' ' :: read := by
        rw [Text.spaces, List.replicate_succ', List.append_assoc]
        rfl
      rw [pushed, ← later, ← blank]
      rfl

variable {raw : Bool} {level : Int} {read rest : Text} {zone zone' : Zone} {char : Char}

/-- A character that is pushed onto its piece is pushed with the margin behind it. -/
theorem divide_deepen_cons (pushed : forall read tail : Text,
      (char ≠ '\n' -> tail = Text.deepen level rest) ->
        divide raw read zone (char :: tail) = divide raw (char :: read) zone' tail) :
    divide raw (Text.deepenBack level read) zone (Text.deepen level (char :: rest)) =
      divide raw (Text.deepenBack level (char :: read)) zone' (Text.deepen level rest) := by
  by_cases newline : char = '\n'
  · subst newline
    rw [Text.deepen_cons_newline, pushed _ _ fun unlike => absurd rfl unlike, Text.deepenBack_newline,
      Text.margin, divide_blanks]
  · rw [Text.deepen_cons_of_ne newline, pushed _ _ fun _ => rfl, Text.deepenBack_cons level newline]

/-- The margin goes behind newlines, so it changes no first character. -/
theorem exists_of_deepen_eq_cons {text tail : Text} (first : Text.deepen level text = char :: tail) :
    Exists fun rest => text = char :: rest := by
  cases text with
  | nil => cases first
  | cons other rest =>
      by_cases newline : other = '\n'
      · subst newline
        rw [Text.deepen_cons_newline] at first
        cases first
        exact ⟨rest, rfl⟩
      · rw [Text.deepen_cons_of_ne newline] at first
        cases first
        exact ⟨rest, rfl⟩

/-- A text with deeper lines is divided at the same braces. -/
theorem divide_deepen (raw : Bool) (level : Int) (read : Text) (zone : Zone) (text : Text) :
    divide raw (Text.deepenBack level read) zone (Text.deepen level text) =
      (divide raw read zone text).map (List.map (Piece.deepen level)) := by
  have reversed : forall read : Text, plain (Text.deepenBack level read).reverse =
      Piece.deepen level (plain read.reverse) := by
    intro read
    rw [Text.reverse_deepenBack]
    rfl
  -- No pair of characters comes about by blanks between them.
  have apart : forall {char first second : Char} {rest : Text},
      (forall tail, char = first -> rest = second :: tail -> False) ->
        forall tail, char = first -> Text.deepen level rest = second :: tail -> False := by
    intro char first second rest alone tail same head
    rcases exists_of_deepen_eq_cons head with ⟨others, split⟩
    exact alone others same split
  have nothing : Text.deepenBack level [] = [] := rfl
  fun_induction divide raw read zone text with
  | case1 read | case2 read =>
      rw [Text.deepen, List.flatMap_nil, divide, reversed]
      rfl
  | case3 => rfl
  | case4 read rest later | case5 read rest later | case6 read rest later | case7 read rest later =>
      rw [← later]
      simp only [Text.deepen_cons_of_ne (by decide : '\x7b' ≠ '\n'),
        Text.deepen_cons_of_ne (by decide : '\x7d' ≠ '\n'),
        Text.deepen_cons_of_ne (by decide : '\\' ≠ '\n'), Text.deepen_cons_of_ne (by decide : 'N' ≠ '\n'),
        Text.deepenBack_cons level (by decide : '\x7b' ≠ '\n'),
        Text.deepenBack_cons level (by decide : '\x7d' ≠ '\n'),
        Text.deepenBack_cons level (by decide : '\\' ≠ '\n'),
        Text.deepenBack_cons level (by decide : 'N' ≠ '\n'), divide]
  | case8 read rest alone _ _ _ later =>
      rw [Text.deepen_cons_of_ne (by decide), divide, if_pos rfl, reversed, Option.map_map]
      · rw [nothing] at later
        rw [later, Option.map_map]
        rfl
      · exact apart alone
      all_goals exact fun _ same => absurd same (by decide)
  | case9 read rest _ alone =>
      rw [Text.deepen_cons_of_ne (by decide), divide, if_neg (by decide), if_pos rfl]
      · rfl
      · exact fun _ same => absurd same (by decide)
      · exact apart alone
      all_goals exact fun _ same => absurd same (by decide)
  | case10 read char rest double double' escaped named opens closes later =>
      rw [← later]
      apply divide_deepen_cons
      intro read tail deeper
      have unlike : forall {second : Char}, second ≠ '\n' -> char = second ->
          tail = Text.deepen level rest := by
        rintro _ inLine rfl
        exact deeper inLine
      rw [divide, if_neg opens, if_neg closes]
      · intro others same split
        exact apart double others same (unlike (by decide) same ▸ split)
      · intro others same split
        exact apart double' others same (unlike (by decide) same ▸ split)
      · intro others same split
        exact apart escaped others same (unlike (by decide) same ▸ split)
      · intro others same split
        exact apart named others same (unlike (by decide) same ▸ split)
  | case11 read char rest later =>
      rw [← later]
      exact divide_deepen_cons fun _ _ _ => rfl
  | case12 read rest later =>
      rw [Text.deepen_cons_of_ne (by decide), divide, if_pos rfl, Option.map_map]
      rw [nothing] at later
      rw [later, Option.map_map, Text.reverse_deepenBack]
      rfl
  | case13 read char rest closes refused =>
      have inLine : char ≠ '\n' := by
        rintro rfl
        exact absurd refused (by decide)
      rw [Text.deepen_cons_of_ne inLine, divide, if_neg closes, if_pos refused]
      rfl
  | case14 read char rest closes accepted later =>
      rw [← later]
      apply divide_deepen_cons
      intro read tail _
      rw [divide, if_neg closes, if_neg accepted]

end Piece

/-- An expression in braces has neither a backslash nor a comment in it. -/
def Piece.Plain : Piece -> Prop
  | plain _ => True
  | enclosed text => '\\' ∉ text ∧ '#' ∉ text

theorem Piece.plain_of_mem_divide {raw : Bool} {read : Text} {zone : Zone} {text : Text}
    {pieces : List Piece} (divided : divide raw read zone text = some pieces)
    (begun : zone = .enclosed -> '\\' ∉ read ∧ '#' ∉ read) {piece : Piece}
    (member : piece ∈ pieces) : piece.Plain := by
  fun_induction divide raw read zone text generalizing pieces with
  | case1 | case2 =>
      cases divided
      rw [List.mem_singleton.mp member]
      trivial
  | case3 | case9 | case13 => cases divided
  | case4 _ _ later | case5 _ _ later | case6 _ _ later => exact later divided nofun member
  | case7 _ _ later =>
      refine later divided ?_ member
      split <;> nofun
  | case8 read rest _ _ _ _ later =>
      rcases Option.map_eq_some_iff.mp divided with ⟨others, inner, rfl⟩
      rcases List.mem_cons.mp member with rfl | member
      · trivial
      · exact later inner (fun _ => ⟨List.not_mem_nil, List.not_mem_nil⟩) member
  | case10 _ _ _ _ _ _ _ _ _ later => exact later divided nofun member
  | case11 _ char _ later =>
      refine later divided ?_ member
      split <;> nofun
  | case12 read rest later =>
      rcases Option.map_eq_some_iff.mp divided with ⟨others, inner, rfl⟩
      rcases List.mem_cons.mp member with rfl | member
      · simpa [Plain] using begun rfl
      · exact later inner nofun member
  | case14 read char rest _ accepted later =>
      refine later divided (fun _ => ?_) member
      rcases begun rfl with ⟨straight, clear⟩
      simp only [Bool.or_eq_true, decide_eq_true_eq, not_or] at accepted
      rw [List.mem_cons, List.mem_cons, not_or, not_or]
      exact ⟨⟨Ne.symm accepted.1.2, straight⟩, Ne.symm accepted.2, clear⟩

/-! ## Texts and bytes -/

namespace Expr

variable {style : LiteralStyle} {inside : Text}

theorem isSome_textOf?_deepen (level : Int) (complete : (textOf? style inside).isSome = true) :
    (textOf? style (Text.deepen level inside)).isSome = true := by
  rw [textOf?] at complete ⊢
  split
  · rfl
  · rename_i escaped
    rw [if_neg escaped] at complete
    exact Text.isSome_unescapeFrom_deepen _ level complete

theorem isSome_bytesOf?_deepen (level : Int) (complete : (bytesOf? style inside).isSome = true) :
    (bytesOf? style (Text.deepen level inside)).isSome = true := by
  rw [bytesOf?] at complete
  split at complete
  · rename_i small
    have small' : (Text.deepen level inside).all (·.toNat < 0x80) = true := by
      rw [List.all_eq_true] at small ⊢
      intro char member
      have indented : char ∈ inside.indent level := by
        rw [Text.indent_eq_deepen]
        exact List.mem_append_right _ member
      rcases Text.mem_of_mem_indent indented with rfl | inText
      · rfl
      · exact small char inText
    rw [bytesOf?, if_pos small']
    split
    · rfl
    · rename_i escaped
      rw [if_neg escaped] at complete
      exact Text.isSome_unescapeFrom_deepen _ level complete
  · cases complete

end Expr

end Program
end Oneliner
