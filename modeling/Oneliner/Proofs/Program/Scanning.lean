import Oneliner.Proofs.Program.Tokens
import Oneliner.Proofs.Program.Blocks
import Oneliner.Proofs.Text.Lines

namespace Oneliner
namespace Program

/-!
Scanning a program that has been indented.

A scanner looks at columns and at finished lines only where a line begins and
where it ends.  So it reads an indented program as it reads the program itself,
with other columns, provided that the margins change nothing but columns: no
newline stands inside a literal, where the margin would become a part of it, and
no backslash stands in a margin, where it would join the margins of two lines.
-/

/-! ## Scanners in other columns -/

/-- The line in the column that belongs to its own. -/
def Line.move (columns : Column -> Column) (line : Line) : Line :=
  { line with column := columns line.column }

/-- Whether the mode is that of a margin, in which columns are counted. -/
def Mode.inMargin : Mode -> Bool
  | margin .. | marginJoin .. => true
  | _ => false

/-- Whether the mode is that of a literal. -/
def Mode.inLiteral : Mode -> Bool
  | opening .. | opened .. | literal .. | escape .. | closing .. => true
  | _ => false

theorem continuesName_newline : Text.continuesName '\n' = false := by
  decide +kernel

/-- No number goes on in the next line. -/
theorem Number.next_newline (number more : Number) : number.next '\n' ≠ .more more := by
  have noDigit : Number.acceptsDigit number.stage '\n' = false := by
    cases number.stage with
    | based base => rfl
    | _ => rfl
  have noBase : Number.bases.lookup '\n' = none := rfl
  rw [Number.next, noDigit]
  cases number.demand with
  | digit | opening => nofun
  | free =>
      simp only [Number.readOther, noBase, ite_self]
      cases number.stage with
      | mark => cases number.read <;> nofun
      | _ => nofun

namespace Scanner

/-- The scanner with all its lines in other columns, behind earlier lines. -/
def move (columns : Column -> Column) (earlier : List Line) (scanner : Scanner) : Scanner :=
  { scanner with
    lines := scanner.lines.map (Line.move columns) ++ earlier
    column := columns scanner.column }

section Move

variable (columns : Column -> Column) (earlier : List Line) (scanner : Scanner)

@[simp] theorem move_tokens : (scanner.move columns earlier).tokens = scanner.tokens := rfl

@[simp] theorem move_closers : (scanner.move columns earlier).closers = scanner.closers := rfl

@[simp] theorem move_mode : (scanner.move columns earlier).mode = scanner.mode := rfl

@[simp] theorem move_progress : (scanner.move columns earlier).progress = scanner.progress := rfl

@[simp] theorem emit_move (token : Token) :
    (scanner.move columns earlier).emit token = (scanner.emit token).move columns earlier := rfl

@[simp] theorem garble_move :
    (scanner.move columns earlier).garble = scanner.garble.move columns earlier := rfl

@[simp] theorem sever_move :
    (scanner.move columns earlier).sever = scanner.sever.move columns earlier := rfl

@[simp] theorem finishLine_move :
    (scanner.move columns earlier).finishLine = scanner.finishLine.move columns earlier := by
  simp only [finishLine, move_tokens, apply_ite (move columns earlier)]
  rfl

@[simp] theorem newline_move :
    (scanner.move columns earlier).newline = scanner.newline.move columns earlier := by
  simp only [newline, move_closers, finishLine_move, apply_ite (move columns earlier)]
  rfl

@[simp] theorem finishNumber_move (number : Number) :
    (scanner.move columns earlier).finishNumber number =
      (scanner.finishNumber number).move columns earlier := by
  simp only [finishNumber, apply_ite (move columns earlier)]
  cases number.value? <;> rfl

@[simp] theorem finishWord_move (read : Text) (afterNumber : Bool) :
    (scanner.move columns earlier).finishWord read afterNumber =
      (scanner.finishWord read afterNumber).move columns earlier := by
  simp only [finishWord, apply_ite (move columns earlier)]
  rfl

@[simp] theorem readSymbol_move (char : Char) :
    (scanner.move columns earlier).readSymbol char =
      (scanner.readSymbol char).move columns earlier := by
  simp only [readSymbol, move_closers]
  cases Token.brackets.lookup char with
  | some closer =>
      simp only [apply_ite (move columns earlier)]
      rfl
  | none =>
      cases Token.symbols.lookup char with
      | some symbol => rfl
      | none =>
          simp only [apply_ite (move columns earlier)]
          rfl

@[simp] theorem readFresh_move (char : Char) :
    (scanner.move columns earlier).readFresh char =
      (scanner.readFresh char).move columns earlier := by
  simp only [readFresh, move_progress, newline_move, readSymbol_move,
    apply_ite (move columns earlier)]
  rfl

@[simp] theorem readWord_move (read : Text) (afterNumber : Bool) (char : Char) :
    (scanner.move columns earlier).readWord read afterNumber char =
      (scanner.readWord read afterNumber char).move columns earlier := by
  simp only [readWord, finishWord_move, readFresh_move, apply_ite (move columns earlier)]
  congr 1
  cases (if char = '\'' || char = '"' then LiteralStyle.ofLetters? read.reverse else none) with
  | none => rfl
  | some style => cases afterNumber <;> rfl

@[simp] theorem readNumber_move (number : Number) (char : Char) :
    (scanner.move columns earlier).readNumber number char =
      (scanner.readNumber number char).move columns earlier := by
  simp only [readNumber]
  cases number.next char with
  | more | broken => rfl
  | overAtMark mark => simp only [finishNumber_move, readWord_move]
  | _ =>
      simp only [finishNumber_move, move_progress, readFresh_move,
        apply_ite (move columns earlier)]
      rfl

@[simp] theorem readLiteral_move (style : LiteralStyle) (mark : Char) (long : Bool) (read : Text)
    (char : Char) :
    (scanner.move columns earlier).readLiteral style mark long read char =
      (scanner.readLiteral style mark long read char).move columns earlier := by
  simp only [readLiteral, emit_move, garble_move, apply_ite (move columns earlier)]
  rfl

@[simp] theorem readClosing_move (style : LiteralStyle) (mark : Char) (second : Bool) (read : Text)
    (char : Char) :
    (scanner.move columns earlier).readClosing style mark second read char =
      (scanner.readClosing style mark second read char).move columns earlier := by
  simp only [readClosing, emit_move, readLiteral_move, apply_ite (move columns earlier)]
  rfl

/-- Outside margins columns make no difference. -/
theorem read_move (char : Char) (inside : scanner.mode.inMargin = false) :
    (scanner.move columns earlier).read char = (scanner.read char).move columns earlier := by
  by_cases reading : scanner.progress = .reading
  · have stillReading : (scanner.move columns earlier).progress = .reading := reading
    rw [read, if_neg (not_not_intro stillReading), read, if_neg (not_not_intro reading), move_mode]
    cases mode : scanner.mode with
    | margin | marginJoin =>
        rw [mode] at inside
        cases inside
    | between | joined => exact readFresh_move ..
    | word => exact readWord_move ..
    | number => exact readNumber_move ..
    | equals | plus => simp only [emit_move, readFresh_move, apply_ite (move columns earlier)]
    | dot | opening | opened =>
        simp only [emit_move, readFresh_move, readLiteral_move, apply_ite (move columns earlier)]
        rfl
    | literal => exact readLiteral_move ..
    | escape => rfl
    | closing => exact readClosing_move ..
    | comment => simp only [newline_move, apply_ite (move columns earlier)]
    | join =>
        simp only [sever_move, apply_ite (move columns earlier)]
        rfl
  · have stopped : (scanner.move columns earlier).progress ≠ .reading := reading
    rw [read, if_pos stopped, read, if_pos reading]

end Move

/-! ## What reading a character can do -/

/-- The scanner behind a character outside margins: it has stopped at a token that no
rule accepts, it goes on in the line, or a newline has ended the line. -/
inductive Behind (char : Char) (scanner : Scanner) : Prop
  | stopped (progress : scanner.progress ≠ .reading) (unknown : scanner.tokens.all Token.known = false)
      (mode : scanner.mode.inMargin = false)
  | inside (progress : scanner.progress = .reading) (mode : scanner.mode.inMargin = false)
  | ended (newline : char = '\n') (progress : scanner.progress = .reading)
      (tokens : scanner.tokens = []) (closers : scanner.closers = [])
      (mode : scanner.mode = .lineStart)

section Behind

variable {char : Char} {scanner : Scanner}

theorem Behind.ite {condition : Prop} [Decidable condition] {other : Scanner}
    (yes : Behind char scanner) (no : Behind char other) :
    Behind char (if condition then scanner else other) := by
  split
  · exact yes
  · exact no

theorem behind_garble : Behind char scanner.garble :=
  .stopped nofun rfl rfl

theorem behind_sever : Behind char scanner.sever :=
  .stopped nofun rfl rfl

theorem behind_newline (progress : scanner.progress = .reading) : Behind '\n' scanner.newline := by
  rw [newline]
  split
  · rename_i closed
    rw [finishLine]
    split
    · rename_i empty
      exact .ended rfl progress (List.isEmpty_iff.mp empty) (List.isEmpty_iff.mp closed) rfl
    · exact .ended rfl progress rfl (List.isEmpty_iff.mp closed) rfl
  · exact .inside progress rfl

theorem behind_readSymbol (progress : scanner.progress = .reading) :
    Behind char (scanner.readSymbol char) := by
  rw [readSymbol]
  split
  · split
    · exact .inside progress rfl
    · exact behind_garble
  · exact .inside progress rfl
  · split
    · exact .inside progress rfl
    · split
      · exact .inside progress rfl
      · exact behind_garble

theorem behind_readFresh (progress : scanner.progress = .reading) :
    Behind char (scanner.readFresh char) := by
  have inside : forall {mode : Mode}, mode.inMargin = false ->
      Behind char ({ scanner with mode := mode } : Scanner) :=
    fun outside => .inside progress outside
  rw [readFresh, if_neg (not_not_intro progress)]
  by_cases newline : char = '\n'
  · subst newline
    exact behind_newline progress
  · rw [if_neg newline]
    -- All other characters only change the mode, up to the last kind.
    iterate 9 refine Behind.ite (inside rfl) ?_
    exact behind_readSymbol progress

/-- A scanner that stops is left as it is. -/
theorem Behind.readFresh {other : Char} (behind : Behind other scanner) :
    Behind char (scanner.readFresh char) := by
  cases behind with
  | stopped progress unknown mode =>
      rw [Scanner.readFresh, if_pos progress]
      exact .stopped progress unknown mode
  | inside progress | ended _ progress => exact behind_readFresh progress

/-- A scanner in the middle of a line may go over to another mode. -/
theorem Behind.withMode {other : Char} (behind : Behind other scanner) {mode : Mode}
    (outside : mode.inMargin = false) : Behind char ({ scanner with mode := mode } : Scanner) := by
  cases behind with
  | stopped progress unknown => exact .stopped progress unknown outside
  | inside progress | ended _ progress => exact .inside progress outside

theorem behind_finishNumber (progress : scanner.progress = .reading) (number : Number) :
    Behind char (scanner.finishNumber number) := by
  rw [finishNumber]
  split
  · split
    · exact .inside progress rfl
    · exact .inside progress rfl
  · exact behind_garble

theorem Behind.finishWord {other : Char} (behind : Behind other scanner) (read : Text)
    (afterNumber : Bool) : Behind char (scanner.finishWord read afterNumber) := by
  rw [Scanner.finishWord]
  split
  · exact behind_garble
  · cases behind with
    | stopped progress unknown => exact .stopped progress (by simp [emit, unknown]) rfl
    | inside progress | ended _ progress => exact .inside progress rfl

theorem Behind.readWord {other : Char} (behind : Behind other scanner) (read : Text)
    (afterNumber : Bool) : Behind char (scanner.readWord read afterNumber char) := by
  rw [Scanner.readWord]
  split
  · exact behind.withMode rfl
  · simp only []
    split
    · exact behind.withMode rfl
    · exact (behind.finishWord read _ : Behind char _).readFresh

theorem behind_readNumber (progress : scanner.progress = .reading) (number : Number) :
    Behind char (scanner.readNumber number char) := by
  have finished : forall number, Behind char (scanner.finishNumber number) :=
    behind_finishNumber progress
  rw [readNumber]
  split
  · exact .inside progress rfl
  · exact behind_garble
  · simp only []
    split
    · exact (finished number).withMode rfl
    · exact (finished number).readFresh
  · exact (finished number).readWord _ _

theorem behind_readLiteral (progress : scanner.progress = .reading) (style : LiteralStyle)
    (mark : Char) (long : Bool) (read : Text) :
    Behind char (scanner.readLiteral style mark long read char) := by
  rw [readLiteral]
  split
  · split
    · exact .inside progress rfl
    · exact .inside progress rfl
  · split
    · exact behind_garble
    · split
      · exact .inside progress rfl
      · exact .inside progress rfl

theorem behind_readClosing (progress : scanner.progress = .reading) (style : LiteralStyle)
    (mark : Char) (second : Bool) (read : Text) :
    Behind char (scanner.readClosing style mark second read char) := by
  rw [readClosing]
  split
  · split
    · exact .inside progress rfl
    · exact .inside progress rfl
  · exact behind_readLiteral progress ..

/-- What reading a character outside margins can do. -/
theorem behind_read (progress : scanner.progress = .reading)
    (outside : scanner.mode.inMargin = false) : Behind char (scanner.read char) := by
  have emitted : forall {token : Token}, Behind char (scanner.emit token) := .inside progress rfl
  rw [read, if_neg (not_not_intro progress)]
  cases mode : scanner.mode with
  | margin | marginJoin =>
      rw [mode] at outside
      cases outside
  | between | joined => exact behind_readFresh progress
  | word => exact (Behind.inside progress outside : Behind char scanner).readWord _ _
  | number => exact behind_readNumber progress _
  | dot =>
      dsimp only
      split
      · exact .inside progress rfl
      · exact emitted.readFresh
  | equals | plus =>
      dsimp only
      split
      · exact emitted
      · exact emitted.readFresh
  | opening =>
      dsimp only
      split
      · exact .inside progress rfl
      · exact behind_readLiteral progress ..
  | opened =>
      dsimp only
      split
      · exact .inside progress rfl
      · exact emitted.readFresh
  | literal => exact behind_readLiteral progress ..
  | escape => exact .inside progress rfl
  | closing => exact behind_readClosing progress ..
  | comment =>
      dsimp only
      split
      · rename_i newline
        subst newline
        exact behind_newline progress
      · exact .inside progress outside
  | join =>
      dsimp only
      split
      · exact .inside progress rfl
      · exact behind_sever

end Behind

/-- The scanner at the beginning of a line of text: it has stopped, it begins a line,
it goes on with one, or it is in a literal. -/
inductive AtBreak (scanner : Scanner) : Prop
  | stopped (progress : scanner.progress ≠ .reading)
  | start (mode : scanner.mode = .lineStart)
  | between (mode : scanner.mode = .between)
  | joined (mode : scanner.mode = .joined)
  | literal (mode : scanner.mode.inLiteral = true)

theorem atBreak_newline (scanner : Scanner) : scanner.newline.AtBreak := by
  rw [newline]
  split
  · rw [finishLine]
    split <;> exact .start rfl
  · exact .between rfl

theorem atBreak_readFresh (scanner : Scanner) : (scanner.readFresh '\n').AtBreak := by
  by_cases progress : scanner.progress = .reading
  · rw [readFresh, if_neg (not_not_intro progress)]
    exact atBreak_newline scanner
  · rw [readFresh, if_pos progress]
    exact .stopped progress

theorem atBreak_readWord (scanner : Scanner) (read : Text) (afterNumber : Bool) :
    (scanner.readWord read afterNumber '\n').AtBreak := by
  simp only [readWord, continuesName_newline]
  exact atBreak_readFresh _

theorem atBreak_readNumber (scanner : Scanner) (number : Number) :
    (scanner.readNumber number '\n').AtBreak := by
  rw [readNumber]
  split
  · rename_i more
    exact absurd more (number.next_newline _)
  · exact .stopped nofun
  · simp only [continuesName_newline, Bool.and_false, Bool.false_eq_true, if_false]
    exact atBreak_readFresh _
  · exact atBreak_readWord ..

theorem atBreak_readLiteral (scanner : Scanner) (style : LiteralStyle) (mark : Char) (long : Bool)
    (read : Text) : (scanner.readLiteral style mark long read '\n').AtBreak := by
  rw [readLiteral]
  split
  · split
    · exact .literal rfl
    · exact .between rfl
  · split
    · exact .stopped nofun
    · exact .literal rfl

/-- Behind a newline outside margins a line of text begins. -/
theorem atBreak_read {scanner : Scanner} (outside : scanner.mode.inMargin = false) :
    (scanner.read '\n').AtBreak := by
  rw [read]
  split
  · rename_i stopped
    exact .stopped stopped
  · cases mode : scanner.mode with
    | margin | marginJoin =>
        rw [mode] at outside
        cases outside
    | word => exact atBreak_readWord ..
    | number => exact atBreak_readNumber ..
    | between | joined | dot | equals | plus => exact atBreak_readFresh _
    | literal => exact atBreak_readLiteral ..
    | escape => exact .literal rfl
    | opening =>
        simp only []
        split
        · exact .literal rfl
        · exact atBreak_readLiteral ..
    | opened =>
        simp only []
        split
        · exact .literal rfl
        · exact atBreak_readFresh _
    | closing =>
        simp only [readClosing]
        split
        · split
          · exact .between rfl
          · exact .literal rfl
        · exact atBreak_readLiteral ..
    | comment => exact atBreak_newline scanner
    | join => exact .joined rfl

/-! ## Scanners between lines -/

/-- The scanner stands between two lines, with nothing left open. -/
structure Ready (scanner : Scanner) : Prop where
  tokens : scanner.tokens = []
  closers : scanner.closers = []
  mode : scanner.mode = .lineStart
  progress : scanner.progress = .reading

/-- What holds of a scanner all the time: a scanner that has stopped is at a token that
no rule accepts, and nothing is open in a margin. -/
structure Sound (scanner : Scanner) : Prop where
  stopped : scanner.progress ≠ .reading ->
    scanner.tokens.all Token.known = false ∧ scanner.mode.inMargin = false
  margin : scanner.mode.inMargin = true -> scanner.tokens = [] ∧ scanner.closers = []

theorem sound_start : start.Sound :=
  ⟨fun stopped => absurd rfl stopped, fun _ => ⟨rfl, rfl⟩⟩

theorem Behind.sound {char : Char} {scanner : Scanner} (behind : Behind char scanner) :
    scanner.Sound := by
  cases behind with
  | stopped progress unknown mode => exact ⟨fun _ => ⟨unknown, mode⟩, by simp [mode]⟩
  | inside progress mode => exact ⟨fun stopped => absurd progress stopped, by simp [mode]⟩
  | ended _ progress tokens closers =>
      exact ⟨fun stopped => absurd progress stopped, fun _ => ⟨tokens, closers⟩⟩

theorem Sound.read {scanner : Scanner} (sound : scanner.Sound) (char : Char) :
    (scanner.read char).Sound := by
  by_cases progress : scanner.progress = .reading
  · by_cases outside : scanner.mode.inMargin = false
    · exact (behind_read progress outside).sound
    · have empty := sound.margin (Bool.not_eq_false _ ▸ outside)
      have reading : forall {mode : Mode} {column : Column},
          Sound { scanner with mode := mode, column := column } :=
        ⟨fun stopped => absurd progress stopped, fun _ => empty⟩
      rw [Scanner.read, if_neg (not_not_intro progress)]
      cases mode : scanner.mode with
      | margin column kept joined =>
          simp only [readMargin]
          split
          · exact reading
          · split
            · exact reading
            · split
              · exact reading
              · refine Behind.sound (behind_readFresh ?_)
                exact progress
      | marginJoin column kept =>
          simp only []
          split
          · exact reading
          · exact (behind_sever : Behind char _).sound
      | _ => simp [mode, Mode.inMargin] at outside
  · rw [Scanner.read, if_pos progress]
    exact sound

theorem Sound.run {scanner : Scanner} (sound : scanner.Sound) (text : Text) :
    (text.foldl Scanner.read scanner).Sound := by
  induction text generalizing scanner with
  | nil => exact sound
  | cons char rest restRun => exact restRun (sound.read char)

/-- Behind a newline a margin is empty, unless lines have been joined in it. -/
theorem lineStart_of_read {scanner : Scanner} {column : Column} {kept : Nat}
    (progress : (scanner.read '\n').progress = .reading)
    (mode : (scanner.read '\n').mode = .margin column kept false) :
    (scanner.read '\n').mode = .lineStart := by
  by_cases outside : scanner.mode.inMargin = false
  · cases atBreak_read outside with
    | stopped stopped => exact absurd progress stopped
    | start start => exact start
    | between other | joined other => simp [other] at mode
    | literal other => simp [mode, Mode.inLiteral] at other
  · rw [read] at mode progress ⊢
    split
    · rename_i stopped
      rw [if_pos stopped] at progress
      exact absurd progress stopped
    · rename_i reading
      rw [if_neg reading] at mode
      cases before : scanner.mode with
      | margin => rfl
      | marginJoin => simp [before] at mode
      | _ => simp [before, Mode.inMargin] at outside

/-- If all tokens are known, a scanner that has read a newline is ready for the next
line, and nothing is left to finish. -/
theorem Sound.ready {scanner : Scanner} (sound : (scanner.read '\n').Sound)
    (known : forall line, line ∈ (scanner.read '\n').finish.lines ->
      line.tokens.all Token.known = true) :
    (scanner.read '\n').Ready ∧ (scanner.read '\n').finish = scanner.read '\n' := by
  generalize same : scanner.read '\n' = after at sound known ⊢
  -- A last line with a token that is not known would be among the lines.
  have refuse : forall other : Scanner, other.tokens.all Token.known = false ->
      after.finish ≠ other.finishLine := by
    intro other unknown finished
    rw [finished, finishLine] at known
    split at known
    · simp_all
    · have last := known _ List.mem_cons_self
      simp [List.all_reverse, unknown] at last
  by_cases progress : after.progress = .reading
  · cases mode : after.mode with
    | margin column kept joined =>
        cases joined with
        | false =>
            subst same
            have empty := sound.margin (by rw [mode]; rfl)
            refine ⟨⟨empty.1, empty.2, lineStart_of_read progress mode, progress⟩, ?_⟩
            rw [finish, if_neg (not_not_intro progress), mode]
        | true =>
            exact absurd (by rw [finish, if_neg (not_not_intro progress), mode])
              (refuse after.sever rfl)
    | joined | join | marginJoin =>
        exact absurd (by rw [finish, if_neg (not_not_intro progress), mode])
          (refuse after.sever rfl)
    | opening | opened | literal | escape | closing =>
        exact absurd (by rw [finish, if_neg (not_not_intro progress), mode])
          (refuse after.garble rfl)
    | between | word | number | dot | equals | plus | comment =>
        exact absurd (by simp only [finish, if_neg (not_not_intro progress), mode])
          (refuse (after.emit .unknown) rfl)
  · exact absurd (by rw [finish, if_pos progress]) (refuse after (sound.stopped progress).1)

/-- An empty line changes nothing. -/
theorem Ready.read_newline {scanner : Scanner} (ready : scanner.Ready) :
    scanner.read '\n' = scanner := by
  have same : ({ scanner with mode := .lineStart } : Scanner) = scanner := by rw [← ready.mode]
  rw [read, if_neg (not_not_intro ready.progress), ready.mode]
  exact same

/-- Behind a program whose tokens are all known the scanner is ready, and has found
the lines of the program. -/
theorem ready_of_known {text : Text}
    (known : forall line, line ∈ (Lines.ofText text).lines -> line.tokens.all Token.known = true) :
    ((text ++ ['\n']).foldl read start).Ready ∧
      ((text ++ ['\n']).foldl read start).lines.reverse = (Lines.ofText text).lines := by
  have closed : forall front : Text, Lines.closed text = front ++ ['\n'] ->
      ((front ++ ['\n']).foldl read start).Ready ∧
        ((front ++ ['\n']).foldl read start).lines.reverse = (Lines.ofText text).lines := by
    intro front same
    have sound : ((front.foldl read start).read '\n').Sound := (sound_start.run front).read '\n'
    simp only [Lines.ofText, same, List.foldl_append, List.foldl_cons, List.foldl_nil,
      List.mem_reverse] at known ⊢
    rcases sound.ready known with ⟨ready, finished⟩
    exact ⟨ready, by rw [finished]⟩
  by_cases ends : text.getLast? = some '\n'
  · rcases List.getLast?_eq_some_iff.mp ends with ⟨front, split⟩
    have whole : Lines.closed text = front ++ ['\n'] := by rw [Lines.closed, if_pos ends, split]
    rcases closed front whole with ⟨ready, lines⟩
    rw [← split] at ready lines
    rw [List.foldl_append, List.foldl_cons, List.foldl_nil, ready.read_newline]
    exact ⟨ready, lines⟩
  · exact closed text (by rw [Lines.closed, if_neg ends])

end Scanner

/-! ## Margins -/

/-- Whether a character can stand in a margin. -/
def isMarginChar (char : Char) : Bool :=
  char = ' ' || char = '\t' || char = '\x0c'

/-- The column behind a margin. -/
def Column.ofMargin (margin : Text) : Column :=
  margin.foldl Column.advance .zero

/-- The margins of the lines of a text that have more than a margin. -/
def codeMargins (text : Text) : List Text :=
  (text.lines.filter fun line => !line.all isMarginChar).map (·.takeWhile isMarginChar)

theorem codeMargins_append_newline (front back : Text) :
    codeMargins (front ++ '\n' :: back) = codeMargins front ++ codeMargins back := by
  simp only [codeMargins, Text.lines_append_newline, List.filter_append, List.map_append]

theorem mem_codeMargins {margin : Text} {char : Char} {rest : Text} (single : '\n' ∉ margin)
    (inLine : char ≠ '\n') (clean : margin.all isMarginChar = true)
    (code : isMarginChar char = false) : margin ∈ codeMargins (margin ++ char :: rest) := by
  have firstLine : Exists fun line => margin ++ char :: line ∈ (margin ++ char :: rest).lines := by
    rcases List.exists_cons_of_ne_nil (Text.lines_ne_nil rest) with ⟨line, later, lines⟩
    refine ⟨line, ?_⟩
    rw [Text.lines_append single, Text.lines_cons_of_ne inLine, lines]
    exact List.mem_cons_self
  rcases firstLine with ⟨line, member⟩
  refine List.mem_map.mpr ⟨margin ++ char :: line, List.mem_filter.mpr ⟨member, by simp [code]⟩, ?_⟩
  rw [List.takeWhile_append_of_pos (List.all_eq_true.mp clean), List.takeWhile_cons_of_neg (by simp [code]),
    List.append_nil]

namespace Scanner

/-- Whether margins in front of its lines leave the tokens of a text as they are: no
backslash stands in a margin and no newline in a literal. -/
def steadyOn (scanner : Scanner) : Text -> Bool
  | [] => true
  | char :: rest =>
      !(char = '\\' && scanner.mode.inMargin) &&
        !(char = '\n' && (scanner.read char).mode.inLiteral) && (scanner.read char).steadyOn rest

/-- Where a token may begin, the mode makes no difference. -/
theorem readFresh_withMode (scanner : Scanner) (progress : scanner.progress = .reading) (mode : Mode)
    (char : Char) :
    ({ scanner with mode := mode } : Scanner).readFresh char = scanner.readFresh char := by
  have reading : ({ scanner with mode := mode } : Scanner).progress = .reading := progress
  rw [readFresh, if_neg (not_not_intro reading), readFresh, if_neg (not_not_intro progress)]
  rfl

theorem read_margin {scanner : Scanner} (progress : scanner.progress = .reading) {column : Column}
    {kept : Nat} {joined : Bool} (mode : scanner.mode = .margin column kept joined) (char : Char) :
    scanner.read char = scanner.readMargin column kept char := by
  rw [read, if_neg (not_not_intro progress), mode]

theorem readMargin_blank (scanner : Scanner) (column : Column) (kept : Nat) {char : Char}
    (blank : isMarginChar char = true) :
    scanner.readMargin column kept char =
      { scanner with mode := .margin (column.advance char) kept false } := by
  rw [isMarginChar] at blank
  rw [readMargin, if_pos blank]

theorem readMargin_code (scanner : Scanner) (column : Column) {char : Char}
    (code : isMarginChar char = false) (single : char ≠ '\n') (straight : char ≠ '\\') :
    scanner.readMargin column 0 char =
      ({ scanner with column := column } : Scanner).readFresh char := by
  rw [isMarginChar, Bool.eq_false_iff] at code
  rw [readMargin, if_neg code, if_neg single, if_neg straight]
  rfl

theorem read_joined {scanner : Scanner} (progress : scanner.progress = .reading)
    (mode : scanner.mode = .joined) (char : Char) :
    scanner.read char = ({ scanner with mode := .between } : Scanner).read char := by
  have reading : ({ scanner with mode := .between } : Scanner).progress = .reading := progress
  rw [read, if_neg (not_not_intro progress), mode, read, if_neg (not_not_intro reading)]
  exact (readFresh_withMode scanner progress .between char).symm

/-- A scanner that has stopped reads nothing more. -/
theorem run_of_stopped {scanner : Scanner} (stopped : scanner.progress ≠ .reading) (text : Text) :
    text.foldl read scanner = scanner := by
  induction text with
  | nil => rfl
  | cons char rest restRun =>
      rw [List.foldl_cons, read, if_pos stopped]
      exact restRun

/-- Only a newline leads into a margin, and not if the scanner stops. -/
theorem outside_read {scanner : Scanner} {char : Char} (outside : scanner.mode.inMargin = false)
    (goes : char = '\n' -> (scanner.read char).progress ≠ .reading) :
    (scanner.read char).mode.inMargin = false := by
  by_cases progress : scanner.progress = .reading
  · cases behind_read progress outside with
    | stopped _ _ mode | inside _ mode => exact mode
    | ended newline reading => exact absurd reading (goes newline)
  · rw [read, if_pos progress]
    exact outside

/-- Blanks outside margins and literals only stand between tokens. -/
theorem run_blanks_between {scanner : Scanner} (progress : scanner.progress = .reading)
    (mode : scanner.mode = .between) (count : Nat) :
    (Text.spaces count).foldl read scanner = scanner := by
  have still : scanner.read ' ' = scanner := by
    have same : ({ scanner with mode := .between } : Scanner) = scanner := by rw [← mode]
    rw [read, if_neg (not_not_intro progress), mode]
    simpa [readFresh, progress] using same
  induction count with
  | zero => rfl
  | succ count restRun =>
      rw [Text.spaces, List.replicate_succ, List.foldl_cons, still]
      exact restRun

/-- Blanks at the beginning of a line are counted. -/
theorem run_blanks_margin {scanner : Scanner} (progress : scanner.progress = .reading)
    {column : Column} (mode : scanner.mode = .margin column 0 false) (count : Nat) :
    (Text.spaces count).foldl read scanner =
      { scanner with mode := .margin ((Text.spaces count).foldl Column.advance column) 0 false } := by
  induction count generalizing scanner column with
  | zero =>
      have same : ({ scanner with mode := .margin column 0 false } : Scanner) = scanner := by
        rw [← mode]
      exact same.symm
  | succ count restRun =>
      have first : scanner.read ' ' = { scanner with mode := .margin (column.advance ' ') 0 false } :=
        read_margin progress mode ' '
      rw [Text.spaces, List.replicate_succ, List.foldl_cons, List.foldl_cons, first]
      exact @restRun { scanner with mode := .margin (column.advance ' ') 0 false } progress
        (column.advance ' ') rfl

section Follows

variable (columns : Column -> Column) (earlier : List Line) (blanks : Text)

/-- The second scanner reads an indented text as the first one reads the text.  The
current line of the text has been read so far. -/
inductive Follows (current : Text) (scanner : Scanner) : Scanner -> Prop
  | margin {other : Scanner}
      (lines : other.lines = scanner.lines.map (Line.move columns) ++ earlier)
      (tokens : other.tokens = scanner.tokens) (closers : other.closers = scanner.closers)
      (progress : scanner.progress = .reading) (progress' : other.progress = .reading)
      (clean : current.all isMarginChar = true)
      (mode : scanner.mode = .margin (.ofMargin current) 0 false)
      (mode' : other.mode = .margin (.ofMargin (blanks ++ current)) 0 false) :
      Follows current scanner other
  | inside (outside : scanner.mode.inMargin = false) :
      Follows current scanner (scanner.move columns earlier)
  | joined (progress : scanner.progress = .reading) (mode : scanner.mode = .joined) :
      Follows current scanner (({ scanner with mode := .between } : Scanner).move columns earlier)

variable {columns earlier blanks}

theorem Follows.read {current : Text} {scanner other : Scanner} {char : Char}
    (follows : Follows columns earlier blanks current scanner other) (single : char ≠ '\n')
    (straight : char = '\\' -> scanner.mode.inMargin = false)
    (placed : scanner.mode.inMargin = true -> current.all isMarginChar = true ->
      isMarginChar char = false -> columns (.ofMargin current) = .ofMargin (blanks ++ current)) :
    Follows columns earlier blanks (current ++ [char]) (scanner.read char) (other.read char) := by
  cases follows with
  | margin lines tokens closers progress progress' clean mode mode' =>
      rw [read_margin progress mode, read_margin progress' mode']
      cases blank : isMarginChar char with
      | true =>
          have next : forall margin : Text,
              (Column.ofMargin margin).advance char = .ofMargin (margin ++ [char]) := by
            intro margin
            simp [Column.ofMargin]
          rw [readMargin_blank _ _ _ blank, readMargin_blank _ _ _ blank, next, next,
            List.append_assoc]
          exact .margin lines tokens closers progress progress' (by simp [clean, blank]) rfl rfl
      | false =>
          have notJoin : char ≠ '\\' := by
            intro join
            have outside := straight join
            simp [mode, Mode.inMargin] at outside
          rw [readMargin_code _ _ blank single notJoin, readMargin_code _ _ blank single notJoin,
            ← placed (by rw [mode]; rfl) clean blank]
          -- Once the column is known, the mode is of no more use.
          have same : ({ other with column := columns (.ofMargin current), mode := scanner.mode } :
              Scanner) = ({ scanner with column := .ofMargin current } : Scanner).move columns earlier := by
            simp [move, lines, tokens, closers, progress, progress']
          have read : ({ other with column := columns (.ofMargin current), mode := scanner.mode } :
              Scanner).readFresh char =
                ({ other with column := columns (.ofMargin current) } : Scanner).readFresh char :=
            readFresh_withMode { other with column := columns (.ofMargin current) } progress' _ char
          have behind : Behind char (({ scanner with column := .ofMargin current } : Scanner).readFresh char) :=
            behind_readFresh progress
          rw [← read, same, readFresh_move]
          cases behind with
          | stopped _ _ outside | inside _ outside => exact .inside outside
          | ended newline => exact absurd newline single
  | inside outside =>
      rw [read_move _ _ _ _ outside]
      exact .inside (outside_read outside fun newline => absurd newline single)
  | joined progress mode =>
      rw [read_joined progress mode, read_move _ _ _ _ rfl]
      exact .inside (outside_read rfl fun newline => absurd newline single)

theorem lineStart_blanks (count : Nat) :
    Mode.margin ((Text.spaces count).foldl Column.advance .zero) 0 false =
      .margin (.ofMargin (Text.spaces count ++ [])) 0 false := by
  rw [List.append_nil, Column.ofMargin]

/-- The margin at the beginning of a line of text. -/
theorem AtBreak.follows {scanner : Scanner} (atBreak : scanner.AtBreak)
    (plain : scanner.mode.inLiteral = false)
    (outside : scanner.progress ≠ .reading -> scanner.mode.inMargin = false) (count : Nat) :
    Follows columns earlier (Text.spaces count) [] scanner
      ((Text.spaces count).foldl Scanner.read (scanner.move columns earlier)) := by
  by_cases progress : scanner.progress = .reading
  · have progress' : (scanner.move columns earlier).progress = .reading := progress
    cases atBreak with
    | stopped stopped => exact absurd progress stopped
    | start mode =>
        rw [run_blanks_margin progress' mode]
        exact .margin rfl rfl rfl progress progress' rfl mode (lineStart_blanks count)
    | between mode =>
        rw [run_blanks_between progress' mode]
        exact .inside (by rw [mode]; rfl)
    | joined mode =>
        cases count with
        | zero => exact .inside (by rw [mode]; rfl)
        | succ count =>
            have first : (scanner.move columns earlier).read ' ' =
                ({ scanner with mode := .between } : Scanner).move columns earlier := by
              rw [read_joined progress' mode, Scanner.read, if_neg (not_not_intro progress')]
              simp [readFresh, progress, move]
            have rest := @run_blanks_between
              (({ scanner with mode := .between } : Scanner).move columns earlier) progress rfl count
            rw [Text.spaces] at rest
            rw [Text.spaces, List.replicate_succ, List.foldl_cons, first, rest]
            exact .joined progress mode
    | literal mode => simp [plain] at mode
  · have stopped : (scanner.move columns earlier).progress ≠ .reading := progress
    rw [run_of_stopped stopped]
    exact .inside (outside progress)

theorem Follows.breakLine {current : Text} {scanner other : Scanner} {count : Nat}
    (follows : Follows columns earlier (Text.spaces count) current scanner other)
    (plain : (scanner.read '\n').mode.inLiteral = false) :
    Follows columns earlier (Text.spaces count) [] (scanner.read '\n')
      ((Text.spaces count).foldl Scanner.read (other.read '\n')) := by
  cases follows with
  | margin lines tokens closers progress progress' clean mode mode' =>
      have empty : other.read '\n' = { other with mode := .lineStart } := read_margin progress' mode' _
      rw [read_margin progress mode, empty,
        @run_blanks_margin { other with mode := .lineStart } progress' .zero rfl]
      exact .margin lines tokens closers progress progress' rfl rfl (lineStart_blanks count)
  | inside outside =>
      rw [read_move _ _ _ _ outside]
      exact (atBreak_read outside).follows plain
        (fun stopped => outside_read outside fun _ => stopped) count
  | joined progress mode =>
      rw [read_joined progress mode] at plain ⊢
      rw [read_move _ _ _ _ rfl]
      exact (atBreak_read rfl).follows plain
        (fun stopped => outside_read rfl fun _ => stopped) count

/-- A scanner follows another one through a whole text. -/
theorem Follows.run {level : Int} {current text : Text} {scanner other : Scanner}
    (follows : Follows columns earlier (Text.margin level) current scanner other)
    (single : '\n' ∉ current) (steady : scanner.steadyOn text = true)
    (placed : forall code, code ∈ codeMargins (current ++ text) ->
      columns (.ofMargin code) = .ofMargin (Text.margin level ++ code)) :
    Exists fun last => Follows columns earlier (Text.margin level) last
      (text.foldl Scanner.read scanner) ((Text.deepen level text).foldl Scanner.read other) := by
  induction text generalizing current scanner other with
  | nil => exact ⟨current, follows⟩
  | cons char rest restRun =>
      simp only [steadyOn, Bool.and_eq_true, Bool.not_eq_true', Bool.and_eq_false_iff,
        decide_eq_false_iff_not] at steady
      rcases steady with ⟨⟨straight, plain⟩, steady⟩
      by_cases newline : char = '\n'
      · subst newline
        rw [Text.deepen_cons_newline, List.foldl_cons, List.foldl_cons, List.foldl_append]
        refine restRun (follows.breakLine (plain.resolve_left (not_not_intro rfl))) nofun steady ?_
        intro code member
        apply placed code
        rw [codeMargins_append_newline]
        exact List.mem_append_right _ member
      · have plainChar : Text.deepen level (char :: rest) = char :: Text.deepen level rest := by
          rw [Text.deepen, List.flatMap_cons, if_neg newline]
          rfl
        rw [plainChar, List.foldl_cons, List.foldl_cons]
        refine restRun (follows.read newline (fun join => straight.resolve_left (not_not_intro join)) ?_)
          ?_ steady ?_
        · intro _ clean code
          exact placed current (mem_codeMargins single newline clean code)
        · simp [single, Ne.symm newline]
        · simpa using placed

theorem Ready.move {scanner : Scanner} (ready : scanner.Ready) :
    (scanner.move columns earlier).Ready :=
  ⟨ready.tokens, ready.closers, ready.mode, ready.progress⟩

/-- Where a newline makes one scanner ready, it makes the other one ready as well. -/
theorem Follows.ready {current : Text} {scanner other : Scanner}
    (follows : Follows columns earlier blanks current scanner other)
    (ready : (scanner.read '\n').Ready) :
    (other.read '\n').Ready ∧
      (other.read '\n').lines = (scanner.read '\n').lines.map (Line.move columns) ++ earlier := by
  cases follows with
  | margin lines tokens closers progress progress' clean mode mode' =>
      rw [read_margin progress mode] at ready ⊢
      rw [read_margin progress' mode']
      exact ⟨⟨tokens.trans ready.tokens, closers.trans ready.closers, rfl, progress'⟩, lines⟩
  | inside outside =>
      rw [read_move _ _ _ _ outside]
      exact ⟨ready.move, rfl⟩
  | joined progress mode =>
      rw [read_joined progress mode] at ready ⊢
      rw [read_move _ _ _ _ rfl]
      exact ⟨ready.move, rfl⟩

/-- Behind earlier lines, an indented text gives its own lines in other columns. -/
theorem Ready.run_indent {scanner : Scanner} (ready : scanner.Ready) {level : Int} {text : Text}
    (known : forall line, line ∈ (Lines.ofText text).lines -> line.tokens.all Token.known = true)
    (steady : start.steadyOn text = true)
    (placed : forall code, code ∈ codeMargins text ->
      columns (.ofMargin code) = .ofMargin (Text.margin level ++ code)) :
    ((text.indent level ++ ['\n']).foldl Scanner.read scanner).Ready ∧
      ((text.indent level ++ ['\n']).foldl Scanner.read scanner).lines =
        ((Lines.ofText text).lines.map (Line.move columns)).reverse ++ scanner.lines := by
  have first : Follows columns scanner.lines (Text.margin level) [] start
      ((Text.margin level).foldl Scanner.read scanner) := by
    rw [Text.margin, run_blanks_margin ready.progress ready.mode]
    exact .margin rfl ready.tokens ready.closers rfl ready.progress rfl rfl (lineStart_blanks _)
  rcases first.run (by rintro ⟨⟩) steady placed with ⟨last, follows⟩
  rcases ready_of_known known with ⟨aloneReady, aloneLines⟩
  rw [List.foldl_append, List.foldl_cons, List.foldl_nil] at aloneReady aloneLines
  have whole := follows.ready aloneReady
  rw [Text.indent_eq_deepen, List.append_assoc, List.foldl_append, List.foldl_append,
    List.foldl_cons, List.foldl_nil, ← aloneLines, List.map_reverse, List.reverse_reverse]
  exact whole

end Follows

theorem ready_start : start.Ready :=
  ⟨rfl, rfl, rfl, rfl⟩

/-! ## Texts behind other texts -/

/-- Earlier lines make no difference. -/
theorem read_move_id (earlier : List Line) (scanner : Scanner) (char : Char) :
    (scanner.move id earlier).read char = (scanner.read char).move id earlier := by
  by_cases outside : scanner.mode.inMargin = false
  · exact read_move id earlier scanner char outside
  · by_cases reading : scanner.progress = .reading
    · have stillReading : (scanner.move id earlier).progress = .reading := reading
      rw [read, if_neg (not_not_intro stillReading), read, if_neg (not_not_intro reading), move_mode]
      cases mode : scanner.mode with
      | margin column kept joined =>
          have fresh := readFresh_move id earlier
            { scanner with column := if kept = 0 then column else ⟨kept, kept⟩ } char
          simp only [readMargin, apply_ite (move id earlier), ← fresh]
          rfl
      | marginJoin column kept =>
          simp only [sever_move, apply_ite (move id earlier)]
          rfl
      | _ => simp [mode, Mode.inMargin] at outside
    · have stopped : (scanner.move id earlier).progress ≠ .reading := reading
      rw [read, if_pos stopped, read, if_pos reading]

theorem run_move_id (earlier : List Line) (scanner : Scanner) (text : Text) :
    text.foldl Scanner.read (scanner.move id earlier) =
      (text.foldl Scanner.read scanner).move id earlier := by
  induction text generalizing scanner with
  | nil => rfl
  | cons char rest restRun => rw [List.foldl_cons, List.foldl_cons, read_move_id, restRun]

/-- In a margin the column of the last line does not count any more. -/
theorem exists_run_withColumn {scanner : Scanner} {column : Column} {kept : Nat} {joined : Bool}
    (mode : scanner.mode = .margin column kept joined) (other : Column) (text : Text) :
    exists last, text.foldl Scanner.read { scanner with column := other } =
      { text.foldl Scanner.read scanner with column := last } := by
  induction text generalizing scanner column kept joined with
  | nil => exact ⟨other, rfl⟩
  | cons char rest restRun =>
      by_cases progress : scanner.progress = .reading
      · have progress' : ({ scanner with column := other } : Scanner).progress = .reading := progress
        have step : scanner.read char = scanner.readMargin column kept char := by
          rw [Scanner.read, if_neg (not_not_intro progress), mode]
        have step' : ({ scanner with column := other } : Scanner).read char =
            ({ scanner with column := other } : Scanner).readMargin column kept char := by
          rw [Scanner.read, if_neg (not_not_intro progress'), mode]
        rw [List.foldl_cons, List.foldl_cons, step, step', readMargin, readMargin]
        split
        · exact @restRun { scanner with mode := .margin (column.advance char) kept false } _ _ _ rfl
        · split
          · exact @restRun { scanner with mode := .lineStart } _ _ _ rfl
          · split
            · exact ⟨_, rfl⟩
            · exact ⟨_, rfl⟩
      · have stopped : ({ scanner with column := other } : Scanner).progress ≠ .reading := progress
        rw [run_of_stopped stopped, run_of_stopped progress]
        exact ⟨other, rfl⟩

/-- Behind any earlier lines a text gives the lines that it gives alone. -/
theorem Ready.run {scanner : Scanner} (ready : scanner.Ready) (text : Text) :
    ((text.foldl Scanner.read start).Ready -> (text.foldl Scanner.read scanner).Ready) ∧
      (text.foldl Scanner.read scanner).lines =
        (text.foldl Scanner.read start).lines ++ scanner.lines := by
  have begun : scanner = ({ start with column := scanner.column } : Scanner).move id scanner.lines := by
    rcases scanner with ⟨lines, column, tokens, closers, mode, progress⟩
    rcases ready with ⟨rfl, rfl, rfl, rfl⟩
    rfl
  rcases @exists_run_withColumn start _ _ _ rfl scanner.column text with ⟨last, run⟩
  rw [begun, run_move_id, run]
  constructor
  · intro alone
    exact ⟨alone.tokens, alone.closers, alone.mode, alone.progress⟩
  · have same : forall lines : List Line, lines.map (Line.move id) = lines := List.map_id
    simp only [Scanner.move, same]
    rfl

/-- A scanner that is ready at the end has nothing left to finish. -/
theorem Ready.lines_ofText {text : Text} (ready : (text.foldl Scanner.read start).Ready) :
    (Lines.ofText text).lines = (text.foldl Scanner.read start).lines.reverse := by
  have closed : (Lines.closed text).foldl Scanner.read start = text.foldl Scanner.read start := by
    rw [Lines.closed]
    split
    · rfl
    · rw [List.foldl_append, List.foldl_cons, List.foldl_nil, ready.read_newline]
  have finished : (text.foldl Scanner.read start).finish = text.foldl Scanner.read start := by
    rw [finish, if_neg (not_not_intro ready.progress), ready.mode]
    rfl
  rw [Lines.ofText, closed, finished]

theorem exists_lines_finishLine (scanner : Scanner) :
    exists last, scanner.finishLine.lines = last ++ scanner.lines := by
  rw [finishLine]
  split
  · exact ⟨[], rfl⟩
  · exact ⟨[_], rfl⟩

/-- Finishing takes no line away. -/
theorem exists_lines_finish (scanner : Scanner) :
    exists last, scanner.finish.lines = last ++ scanner.lines := by
  rw [finish]
  split
  · exact exists_lines_finishLine scanner
  · split
    · exact ⟨[], rfl⟩
    all_goals exact exists_lines_finishLine _

/-- Whatever comes behind it, a text that leaves nothing open gives its own lines. -/
theorem Ready.exists_lines_ofText {front : Text} (ready : (front.foldl Scanner.read start).Ready)
    (back : Text) :
    exists later, (Lines.ofText (front ++ back)).lines =
      (front.foldl Scanner.read start).lines.reverse ++ later := by
  have closed : exists ending, Lines.closed (front ++ back) = front ++ (back ++ ending) := by
    rw [Lines.closed]
    split
    · exact ⟨[], by rw [List.append_nil]⟩
    · exact ⟨['\n'], List.append_assoc _ _ _⟩
  rcases closed with ⟨ending, closed⟩
  rcases exists_lines_finish ((back ++ ending).foldl Scanner.read (front.foldl Scanner.read start)) with
    ⟨last, finished⟩
  rw [Lines.ofText, closed, List.foldl_append, finished, (ready.run (back ++ ending)).2,
    ← List.append_assoc, List.reverse_append]
  exact ⟨_, rfl⟩

/-- Every line stands behind the margin of a line of the text. -/
theorem column_of_mem_lines {text : Text}
    (known : forall line, line ∈ (Lines.ofText text).lines -> line.tokens.all Token.known = true)
    (steady : start.steadyOn text = true) {line : Line} (member : line ∈ (Lines.ofText text).lines) :
    Exists fun code => code ∈ codeMargins text ∧ .ofMargin code = line.column := by
  by_contra missing
  -- A column that belongs to no margin could be moved anywhere.
  have moved : forall columns : Column -> Column,
      (forall code, code ∈ codeMargins text -> columns (.ofMargin code) = .ofMargin code) ->
      ((Lines.ofText text).lines.map (Line.move columns)).reverse =
        ((text.indent 0 ++ ['\n']).foldl Scanner.read start).lines := by
    intro columns placed
    rw [(ready_start.run_indent known steady placed).2]
    exact (List.append_nil _).symm
  have elsewhere : forall code, code ∈ codeMargins text ->
      Function.update id line.column ⟨line.column.width + 1, 0⟩ (.ofMargin code) = .ofMargin code := by
    intro code inText
    exact Function.update_of_ne (fun same => missing ⟨code, inText, same⟩) _ _
  have same := (moved _ elsewhere).trans (moved id fun _ _ => rfl).symm
  have width := congrArg (·.column.width)
    (List.map_inj_left.mp (List.reverse_injective same) line member)
  simp [Line.move] at width

end Scanner
end Program
end Oneliner
