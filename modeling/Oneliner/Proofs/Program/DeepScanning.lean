import Oneliner.Proofs.Program.Scanning
import Oneliner.Proofs.Text.Escapes

namespace Oneliner

/-!
Scanning a program in which literals go over several lines.

If the lines of such a program are moved to the right, the blanks in front of them
become a part of its literals, and nothing else changes.  So the scanner gives the
same tokens with deeper literals.
-/

namespace Text

/-- A reversed text with the margin of the given level after each of its newlines. -/
def deepenBack (level : Int) (read : Text) : Text :=
  (deepen level read.reverse).reverse

theorem reverse_deepenBack (level : Int) (read : Text) :
    (deepenBack level read).reverse = deepen level read.reverse :=
  List.reverse_reverse _

theorem deepenBack_cons (level : Int) {char : Char} (single : char ≠ '\n') (read : Text) :
    deepenBack level (char :: read) = char :: deepenBack level read := by
  rw [deepenBack, List.reverse_cons, deepen_append, deepen_cons_of_ne single, List.reverse_append]
  rfl

theorem deepenBack_newline (level : Int) (read : Text) :
    deepenBack level ('\n' :: read) = margin level ++ '\n' :: deepenBack level read := by
  rw [deepenBack, List.reverse_cons, deepen_append, deepen_cons_newline, List.reverse_append,
    List.reverse_cons, List.reverse_append, margin, spaces, List.reverse_replicate, List.append_assoc]
  rfl

end Text

namespace Program

/-- The token with the margin of a level after each newline in it. -/
def Token.deepen (level : Int) : Token -> Token
  | .literal style inside => .literal style (Text.deepen level inside)
  | other => other

theorem Token.deepen_ofWord (level : Int) (word : Text) :
    (Token.ofWord word).deepen level = .ofWord word := by
  rw [Token.ofWord]
  split
  · rfl
  · split <;> rfl

theorem Token.deepen_ofBracket (level : Int) (char : Char) :
    (Token.ofBracket char).deepen level = .ofBracket char := by
  simp only [Token.ofBracket, apply_ite (Token.deepen level)]
  rfl

/-- The line with deeper literals. -/
def Line.deepen (level : Int) (line : Line) : Line :=
  { line with tokens := line.tokens.map (Token.deepen level) }

/-- The mode with what has been read of a literal deepened. -/
def Mode.deepen (level : Int) : Mode -> Mode
  | literal style mark long read => literal style mark long (Text.deepenBack level read)
  | escape style mark long read => escape style mark long (Text.deepenBack level read)
  | closing style mark second read => closing style mark second (Text.deepenBack level read)
  | other => other

/-- Whether the mark of a literal, if the mode is that of one, is a quotation mark. -/
def Mode.quoted : Mode -> Bool
  | opening _ mark | opened _ mark | literal _ mark _ _ | escape _ mark _ _
  | closing _ mark _ _ => mark = '\'' || mark = '"'
  | _ => true

namespace Scanner

/-- The scanner with deeper literals. -/
def deepen (level : Int) (scanner : Scanner) : Scanner :=
  { scanner with
    lines := scanner.lines.map (Line.deepen level)
    tokens := scanner.tokens.map (Token.deepen level)
    mode := scanner.mode.deepen level }

section Deepen

variable (level : Int) (scanner : Scanner)

theorem emit_deepen (token : Token) :
    (scanner.deepen level).emit (token.deepen level) = (scanner.emit token).deepen level := rfl

theorem sever_deepen : (scanner.deepen level).sever = scanner.sever.deepen level := rfl

theorem finishLine_deepen :
    (scanner.deepen level).finishLine = scanner.finishLine.deepen level := by
  cases none : scanner.tokens.isEmpty with
  | true =>
      have none' : (scanner.deepen level).tokens.isEmpty = true := by
        rw [deepen, List.isEmpty_map, none]
      rw [finishLine, if_pos none', finishLine, if_pos none]
      rfl
  | false =>
      have some' : ¬(scanner.deepen level).tokens.isEmpty = true := by
        rw [deepen, List.isEmpty_map, none]
        decide
      rw [finishLine, if_neg some', finishLine, none, if_neg Bool.false_ne_true]
      simp only [deepen, Line.deepen, List.map_cons, List.map_reverse]
      rfl

theorem newline_deepen : (scanner.deepen level).newline = scanner.newline.deepen level := by
  have closers : (scanner.deepen level).closers = scanner.closers := rfl
  simp only [newline, closers, finishLine_deepen, apply_ite (deepen level)]
  rfl

theorem finishNumber_deepen (number : Number) :
    (scanner.deepen level).finishNumber number = (scanner.finishNumber number).deepen level := by
  simp only [finishNumber, apply_ite (deepen level)]
  cases number.value? <;> rfl

theorem finishWord_deepen (read : Text) (afterNumber : Bool) :
    (scanner.deepen level).finishWord read afterNumber =
      (scanner.finishWord read afterNumber).deepen level := by
  simp only [finishWord, apply_ite (deepen level), ← emit_deepen, Token.deepen_ofWord]
  rfl

theorem readSymbol_deepen (char : Char) :
    (scanner.deepen level).readSymbol char = (scanner.readSymbol char).deepen level := by
  have closers : (scanner.deepen level).closers = scanner.closers := rfl
  have bracket : forall closers,
      ({ (scanner.deepen level).emit (.ofBracket char) with closers := closers } : Scanner) =
        ({ scanner.emit (.ofBracket char) with closers := closers } : Scanner).deepen level := by
    intro closers
    rw [← Token.deepen_ofBracket level char, emit_deepen]
    rw [Token.deepen_ofBracket]
    rfl
  simp only [readSymbol, closers]
  cases Token.brackets.lookup char with
  | some closer =>
      simp only [apply_ite (deepen level), ← bracket]
      rfl
  | none =>
      cases Token.symbols.lookup char with
      | some symbol => rfl
      | none =>
          simp only [apply_ite (deepen level), ← bracket]
          rfl

theorem readFresh_deepen (char : Char) :
    (scanner.deepen level).readFresh char = (scanner.readFresh char).deepen level := by
  have progress : (scanner.deepen level).progress = scanner.progress := rfl
  simp only [readFresh, progress, newline_deepen, readSymbol_deepen, apply_ite (deepen level)]
  rfl

theorem readWord_deepen (read : Text) (afterNumber : Bool) (char : Char) :
    (scanner.deepen level).readWord read afterNumber char =
      (scanner.readWord read afterNumber char).deepen level := by
  simp only [readWord, finishWord_deepen, readFresh_deepen, apply_ite (deepen level)]
  congr 1
  cases (if char = '\'' || char = '"' then LiteralStyle.ofLetters? read.reverse else none) with
  | none => rfl
  | some style => cases afterNumber <;> rfl

theorem readNumber_deepen (number : Number) (char : Char) :
    (scanner.deepen level).readNumber number char =
      (scanner.readNumber number char).deepen level := by
  simp only [readNumber]
  cases number.next char with
  | more | broken => rfl
  | overAtMark mark => simp only [finishNumber_deepen, readWord_deepen]
  | _ =>
      have progress : ((scanner.finishNumber number).deepen level).progress =
          (scanner.finishNumber number).progress := rfl
      simp only [finishNumber_deepen, progress, readFresh_deepen, apply_ite (deepen level)]
      rfl

theorem readMargin_deepen (column : Column) (kept : Nat) (char : Char) :
    (scanner.deepen level).readMargin column kept char =
      (scanner.readMargin column kept char).deepen level := by
  have fresh := readFresh_deepen level
    { scanner with column := if kept = 0 then column else ⟨kept, kept⟩ } char
  simp only [readMargin, apply_ite (deepen level), ← fresh]
  rfl

variable {char : Char}

theorem readLiteral_deepen (style : LiteralStyle) (mark : Char) (long : Bool) (read : Text)
    (plain : char = '\n' -> mark ≠ '\n' ∧ long = false) :
    (scanner.deepen level).readLiteral style mark long (Text.deepenBack level read) char =
      (scanner.readLiteral style mark long read char).deepen level := by
  by_cases newline : char = '\n'
  · rcases plain newline with ⟨other, short⟩
    have unlike : char ≠ mark := fun same => other (same ▸ newline)
    have both : (decide (char = '\n') && !long) = true := by rw [newline, short]; rfl
    rw [readLiteral, if_neg unlike, if_pos both, readLiteral, if_neg unlike, if_pos both]
    rfl
  · have ended : (scanner.deepen level).emit (.literal style (Text.deepenBack level read).reverse) =
        (scanner.emit (.literal style read.reverse)).deepen level := by
      rw [Text.reverse_deepenBack]
      rfl
    simp only [readLiteral, apply_ite (deepen level), ← ended]
    simp only [deepen, Mode.deepen, Text.deepenBack_cons level newline]
    rfl

omit scanner in
theorem deepenBack_marks {mark : Char} (other : mark ≠ '\n') (second : Bool) (read : Text) :
    Text.deepenBack level ((if second then [mark, mark] else [mark]) ++ read) =
      (if second then [mark, mark] else [mark]) ++ Text.deepenBack level read := by
  cases second with
  | true =>
      rw [if_pos rfl]
      exact (Text.deepenBack_cons level other _).trans
        (congrArg (mark :: ·) (Text.deepenBack_cons level other read))
  | false => exact Text.deepenBack_cons level other read

theorem readClosing_deepen (style : LiteralStyle) (mark : Char) (second : Bool) (read : Text)
    (single : char ≠ '\n') (other : mark ≠ '\n') :
    (scanner.deepen level).readClosing style mark second (Text.deepenBack level read) char =
      (scanner.readClosing style mark second read char).deepen level := by
  have ended : (scanner.deepen level).emit (.literal style (Text.deepenBack level read).reverse) =
      (scanner.emit (.literal style read.reverse)).deepen level := by
    rw [Text.reverse_deepenBack]
    rfl
  have marks := deepenBack_marks level other second read
  have goesOn := readLiteral_deepen level scanner style mark true
    ((if second then [mark, mark] else [mark]) ++ read) (fun newline => absurd newline single)
  simp only [readClosing, ← marks, goesOn, apply_ite (deepen level), ← ended]
  rfl

theorem unlike_newline {mark : Char} (quoted : (decide (mark = '\'') || decide (mark = '"')) = true) :
    mark ≠ '\n' := by
  intro newline
  subst newline
  cases quoted

/-- A newline in a long literal is a part of it. -/
theorem inLiteral_readLiteral {mark : Char} (other : mark ≠ '\n') (style : LiteralStyle)
    (read : Text) : (scanner.readLiteral style mark true read '\n').mode.inLiteral = true := by
  rw [readLiteral, if_neg other.symm, if_neg (by decide), if_neg (by decide)]
  rfl

/-- Deeper literals make no difference, unless a newline is read in a literal. -/
theorem read_deepen (quoted : scanner.mode.quoted = true)
    (plain : char = '\n' -> (scanner.read char).mode.inLiteral = false) :
    (scanner.deepen level).read char = (scanner.read char).deepen level := by
  by_cases reading : scanner.progress = .reading
  · have reading' : (scanner.deepen level).progress = .reading := reading
    rw [read, if_neg (not_not_intro reading)] at plain
    rw [read, if_neg (not_not_intro reading'), read, if_neg (not_not_intro reading)]
    have mode' : (scanner.deepen level).mode = scanner.mode.deepen level := rfl
    rw [mode']
    cases mode : scanner.mode with
    | margin => exact readMargin_deepen ..
    | between | joined => exact readFresh_deepen ..
    | word => exact readWord_deepen ..
    | number => exact readNumber_deepen ..
    | dot | equals | plus =>
        simp only [Mode.deepen, apply_ite (deepen level), ← readFresh_deepen]
        rfl
    | opening style mark =>
        rw [mode] at quoted
        have first := readLiteral_deepen level scanner style mark false []
          fun _ : char = '\n' => ⟨unlike_newline quoted, rfl⟩
        simp only [Mode.deepen, apply_ite (deepen level), ← first]
        rfl
    | opened style mark =>
        simp only [Mode.deepen, apply_ite (deepen level), ← readFresh_deepen]
        rfl
    | literal style mark long read =>
        rw [mode] at quoted plain
        apply readLiteral_deepen
        intro newline
        refine ⟨unlike_newline quoted, ?_⟩
        subst newline
        cases long with
        | false => rfl
        | true =>
            have inside := inLiteral_readLiteral scanner (unlike_newline quoted) style read
            exact absurd (plain rfl) (by rw [inside]; decide)
    | escape style mark long read =>
        rw [mode] at plain
        have single : char ≠ '\n' := fun newline => absurd (plain newline) Bool.noConfusion
        simp only [Mode.deepen]
        simp only [deepen, Mode.deepen, Text.deepenBack_cons level single]
        rw [Text.deepenBack_cons level (by decide)]
    | closing style mark second read =>
        rw [mode] at quoted plain
        have other := unlike_newline quoted
        refine readClosing_deepen level scanner style mark second read ?_ other
        intro newline
        subst newline
        have inside : (scanner.readClosing style mark second read '\n').mode.inLiteral = true := by
          rw [readClosing, if_neg other.symm]
          exact inLiteral_readLiteral scanner other style _
        exact absurd (plain rfl) (by rw [inside]; decide)
    | comment =>
        simp only [Mode.deepen, newline_deepen, apply_ite (deepen level)]
    | marginJoin | join =>
        simp only [Mode.deepen, apply_ite (deepen level), ← sever_deepen]
        rfl
  · have stopped : (scanner.deepen level).progress ≠ .reading := reading
    rw [read, if_pos stopped, read, if_pos reading]

end Deepen

/-! ## The marks of literals -/

section Quoted

variable {scanner : Scanner} {char : Char}

theorem quoted_newline : scanner.newline.mode.quoted = true := by
  rw [newline]
  split
  · rw [finishLine]
    split <;> rfl
  · rfl

theorem quoted_readSymbol : (scanner.readSymbol char).mode.quoted = true := by
  rw [readSymbol]
  split
  · split <;> rfl
  · rfl
  · split
    · rfl
    · split <;> rfl

theorem quoted_readFresh (quoted : scanner.mode.quoted = true) :
    (scanner.readFresh char).mode.quoted = true := by
  have chosen : forall {condition : Prop} [Decidable condition] {yes no : Scanner},
      (condition -> yes.mode.quoted = true) -> no.mode.quoted = true ->
        (if condition then yes else no).mode.quoted = true := by
    intro condition _ yes no ifYes ifNo
    split
    · rename_i holds
      exact ifYes holds
    · exact ifNo
  rw [readFresh]
  refine chosen (fun _ => quoted) ?_
  refine chosen (fun _ => rfl) ?_
  refine chosen (fun _ => quoted_newline) ?_
  refine chosen (fun _ => rfl) ?_
  refine chosen (fun _ => rfl) ?_
  refine chosen (fun mark => mark) ?_
  iterate 5 refine chosen (fun _ => rfl) ?_
  exact quoted_readSymbol

theorem quoted_finishWord (read : Text) (afterNumber : Bool) :
    (scanner.finishWord read afterNumber).mode.quoted = true := by
  rw [finishWord]
  split <;> rfl

theorem quoted_readWord (read : Text) (afterNumber : Bool) :
    (scanner.readWord read afterNumber char).mode.quoted = true := by
  rw [readWord]
  split
  · rfl
  · simp only []
    split
    · rename_i style
      split at style
      · rename_i mark
        exact mark
      · cases style
    · exact quoted_readFresh (quoted_finishWord read _)

theorem quoted_finishNumber (number : Number) : (scanner.finishNumber number).mode.quoted = true := by
  rw [finishNumber]
  split
  · split <;> rfl
  · rfl

theorem quoted_readNumber (number : Number) :
    (scanner.readNumber number char).mode.quoted = true := by
  rw [readNumber]
  split
  · rfl
  · rfl
  · simp only []
    split
    · rfl
    · exact quoted_readFresh (quoted_finishNumber number)
  · exact quoted_readWord _ _

theorem quoted_readLiteral {mark : Char} (quoted : (decide (mark = '\'') || decide (mark = '"')) = true)
    (style : LiteralStyle) (long : Bool) (read : Text) :
    (scanner.readLiteral style mark long read char).mode.quoted = true := by
  rw [readLiteral]
  split
  · split
    · exact quoted
    · rfl
  · split
    · rfl
    · split
      · exact quoted
      · exact quoted

/-- Literals begin with quotation marks only. -/
theorem quoted_read (quoted : scanner.mode.quoted = true) :
    (scanner.read char).mode.quoted = true := by
  rw [read]
  split
  · exact quoted
  · cases mode : scanner.mode with
    | margin =>
        simp only [readMargin]
        split
        · rfl
        · split
          · rfl
          · split
            · rfl
            · exact quoted_readFresh quoted
    | between | joined => exact quoted_readFresh quoted
    | word => exact quoted_readWord _ _
    | number => exact quoted_readNumber _
    | dot | equals | plus =>
        simp only []
        split
        · rfl
        · exact quoted_readFresh rfl
    | opening =>
        rw [mode] at quoted
        simp only []
        split
        · exact quoted
        · exact quoted_readLiteral quoted _ _ _
    | opened =>
        rw [mode] at quoted
        simp only []
        split
        · exact quoted
        · exact quoted_readFresh rfl
    | literal =>
        rw [mode] at quoted
        exact quoted_readLiteral quoted _ _ _
    | escape =>
        rw [mode] at quoted
        exact quoted
    | closing =>
        rw [mode] at quoted
        simp only [readClosing]
        split
        · split
          · rfl
          · exact quoted
        · exact quoted_readLiteral quoted _ _ _
    | comment =>
        simp only []
        split
        · exact quoted_newline
        · exact quoted
    | marginJoin | join =>
        simp only []
        split <;> rfl

end Quoted

/-! ## Newlines in literals -/

/-- Blanks in a literal are a part of it. -/
theorem run_blanks_literal {scanner : Scanner} (progress : scanner.progress = .reading)
    {style : LiteralStyle} {mark : Char} {long : Bool} {read : Text}
    (mode : scanner.mode = .literal style mark long read) (quoted : scanner.mode.quoted = true)
    (count : Nat) :
    (Text.spaces count).foldl Scanner.read scanner =
      { scanner with mode := .literal style mark long (Text.spaces count ++ read) } := by
  rw [mode] at quoted
  have unlike : ' ' ≠ mark := by
    intro same
    subst same
    cases quoted
  induction count generalizing scanner read with
  | zero =>
      have same : ({ scanner with mode := .literal style mark long read } : Scanner) = scanner := by
        rw [← mode]
      exact same.symm
  | succ count restRun =>
      have first : scanner.read ' ' =
          { scanner with mode := .literal style mark long (' ' :: read) } := by
        rw [Scanner.read, if_neg (not_not_intro progress), mode]
        have single : ¬(decide (' ' = '\n') && !long) = true := by cases long <;> decide
        simp only [readLiteral]
        rw [if_neg unlike, if_neg single, if_neg (by decide)]
      have moved : Text.spaces count ++ ' ' :: read = Text.spaces (count + 1) ++ read := by
        rw [Text.spaces, Text.spaces, List.replicate_succ', List.append_assoc]
        rfl
      rw [Text.spaces, List.replicate_succ, List.foldl_cons, first]
      have rest := @restRun { scanner with mode := .literal style mark long (' ' :: read) } progress
        (' ' :: read) rfl quoted
      rw [moved] at rest
      exact rest

theorem plain_newline (scanner : Scanner) : scanner.newline.mode.inLiteral = false := by
  rw [newline]
  split
  · rw [finishLine]
    split <;> rfl
  · rfl

theorem plain_readFresh {scanner : Scanner} (plain : scanner.mode.inLiteral = false) :
    (scanner.readFresh '\n').mode.inLiteral = false := by
  by_cases progress : scanner.progress = .reading
  · rw [readFresh, if_neg (not_not_intro progress)]
    exact plain_newline scanner
  · rw [readFresh, if_pos progress]
    exact plain

theorem plain_readWord (scanner : Scanner) (read : Text) (afterNumber : Bool) :
    (scanner.readWord read afterNumber '\n').mode.inLiteral = false := by
  simp only [readWord, continuesName_newline]
  apply plain_readFresh
  rw [finishWord]
  split <;> rfl

theorem plain_readNumber (scanner : Scanner) (number : Number) :
    (scanner.readNumber number '\n').mode.inLiteral = false := by
  have finished : forall number, (scanner.finishNumber number).mode.inLiteral = false := by
    intro number
    rw [finishNumber]
    split
    · split <;> rfl
    · rfl
  rw [readNumber]
  split
  · rename_i more
    exact absurd more (number.next_newline _)
  · rfl
  · simp only [continuesName_newline, Bool.and_false, Bool.false_eq_true, if_false]
    exact plain_readFresh (finished number)
  · exact plain_readWord ..

/-- A long literal takes a newline, a short one does not. -/
theorem readLiteral_newline {scanner : Scanner} {style : LiteralStyle} {mark : Char} {long : Bool}
    {read : Text} (quoted : (decide (mark = '\'') || decide (mark = '"')) = true)
    (inside : (scanner.readLiteral style mark long read '\n').mode.inLiteral = true)
    (other : Scanner) (read' : Text) :
    other.readLiteral style mark long read' '\n' =
      { other with mode := .literal style mark long ('\n' :: read') } := by
  have unlike : ¬ '\n' = mark := fun same => unlike_newline quoted same.symm
  rw [readLiteral, if_neg unlike] at inside ⊢
  cases long with
  | false => cases inside
  | true => rw [if_neg (by decide), if_neg (by decide)]

/-- No newline begins a literal. -/
theorem inLiteral_of_read_newline {scanner : Scanner}
    (inside : (scanner.read '\n').mode.inLiteral = true) : scanner.mode.inLiteral = true := by
  by_cases progress : scanner.progress = .reading
  · rw [Scanner.read, if_neg (not_not_intro progress)] at inside
    have refuse : forall {after : Scanner}, after.mode.inLiteral = false ->
        after.mode.inLiteral = true -> False := by
      intro after plain literal
      rw [plain] at literal
      cases literal
    cases mode : scanner.mode with
    | literal | escape | closing | opening | opened => rfl
    | margin | join | marginJoin =>
        rw [mode] at inside
        cases inside
    | between | joined =>
        have plain : scanner.mode.inLiteral = false := by rw [mode]; rfl
        rw [mode] at inside
        exact (refuse (plain_readFresh plain) inside).elim
    | dot | equals | plus =>
        rw [mode] at inside
        exact (refuse (plain_readFresh rfl) inside).elim
    | word =>
        rw [mode] at inside
        exact (refuse (plain_readWord ..) inside).elim
    | number =>
        rw [mode] at inside
        exact (refuse (plain_readNumber ..) inside).elim
    | comment =>
        rw [mode] at inside
        exact (refuse (plain_newline scanner) inside).elim
  · rw [Scanner.read, if_pos progress] at inside
    exact inside

/-- A newline that leads into a literal is a part of it. -/
theorem exists_read_newline {scanner : Scanner} (level : Int) (quoted : scanner.mode.quoted = true)
    (progress : scanner.progress = .reading)
    (inside : (scanner.read '\n').mode.inLiteral = true) :
    Exists fun style => Exists fun mark => Exists fun long => Exists fun read =>
      scanner.read '\n' = { scanner with mode := .literal style mark long ('\n' :: read) } ∧
        (scanner.deepen level).read '\n' =
          { scanner.deepen level with
            mode := .literal style mark long ('\n' :: Text.deepenBack level read) } := by
  have literal := inLiteral_of_read_newline inside
  have progress' : (scanner.deepen level).progress = .reading := progress
  have mode' : (scanner.deepen level).mode = scanner.mode.deepen level := rfl
  rw [Scanner.read, if_neg (not_not_intro progress)] at inside ⊢
  rw [Scanner.read, if_neg (not_not_intro progress'), mode']
  cases mode : scanner.mode with
  | literal style mark long read =>
      rw [mode] at quoted inside
      exact ⟨style, mark, long, read, readLiteral_newline quoted inside _ _,
        readLiteral_newline quoted inside _ _⟩
  | escape style mark long read =>
      refine ⟨style, mark, long, '\\' :: read, rfl, ?_⟩
      rw [Text.deepenBack_cons level (by decide)]
      rfl
  | closing style mark second read =>
      rw [mode] at quoted inside
      have unlike : ¬ '\n' = mark := fun same => unlike_newline quoted same.symm
      simp only [Mode.deepen, readClosing, if_neg unlike] at inside ⊢
      refine ⟨style, mark, true, _, readLiteral_newline quoted inside _ _, ?_⟩
      rw [deepenBack_marks level (unlike_newline quoted)]
      exact readLiteral_newline quoted inside _ _
  | opening style mark =>
      rw [mode] at quoted inside
      have unlike : ¬ '\n' = mark := fun same => unlike_newline quoted same.symm
      simp only [if_neg unlike, readLiteral] at inside
      cases inside
  | opened style mark =>
      rw [mode] at quoted inside
      have unlike : ¬ '\n' = mark := fun same => unlike_newline quoted same.symm
      have plain : ((scanner.emit (.literal style [])).readFresh '\n').mode.inLiteral = false :=
        plain_readFresh rfl
      simp only [if_neg unlike] at inside
      rw [plain] at inside
      cases inside
  | margin | join | marginJoin | between | joined | dot | equals | plus | word | number | comment =>
      rw [mode] at literal
      cases literal

/-- Behind a newline in a literal, blanks deepen the literal. -/
theorem run_newline_inLiteral {scanner : Scanner} {level : Int} (quoted : scanner.mode.quoted = true)
    (inside : (scanner.read '\n').mode.inLiteral = true) (columns : Column -> Column)
    (earlier : List Line) :
    (Text.margin level).foldl Scanner.read (((scanner.deepen level).read '\n').move columns earlier) =
      ((scanner.read '\n').deepen level).move columns earlier := by
  by_cases progress : scanner.progress = .reading
  · have quotedLater : (scanner.read '\n').mode.quoted = true := quoted_read quoted
    rcases exists_read_newline level quoted progress inside with
      ⟨style, mark, long, read, alone, deepened⟩
    rw [alone] at quotedLater
    rw [alone, deepened, Text.margin]
    have run := @run_blanks_literal (({ scanner.deepen level with
      mode := .literal style mark long ('\n' :: Text.deepenBack level read) } : Scanner).move columns earlier)
      progress style mark long _ rfl quotedLater (Text.indentWidth * level.toNat)
    rw [run]
    have literal := Text.deepenBack_newline level read
    rw [Text.margin] at literal
    simp only [deepen, Mode.deepen, literal]
    rfl
  · have stopped : (scanner.deepen level).progress ≠ .reading := progress
    have read : scanner.read '\n' = scanner := by rw [Scanner.read, if_pos progress]
    have read' : (scanner.deepen level).read '\n' = scanner.deepen level := by
      rw [Scanner.read, if_pos stopped]
    rw [read, read', run_of_stopped]
    exact stopped

/-! ## Lines behind a margin -/

/-- Whether no backslash stands in a margin of the text. -/
def straightOn (scanner : Scanner) : Text -> Bool
  | [] => true
  | char :: rest =>
      !(char = '\\' && scanner.mode.inMargin) && (scanner.read char).straightOn rest

/-- The margins in which the logical lines of a text begin, where the current line of
the text has been read so far. -/
def lineMargins (scanner : Scanner) (current : Text) : Text -> List Text
  | [] => []
  | char :: rest =>
      let later :=
        (scanner.read char).lineMargins (if char = '\n' then [] else current ++ [char]) rest
      if scanner.mode.inMargin && !isMarginChar char && char ≠ '\n' && char ≠ '#' then
        current :: later
      else later

section Trails

variable (columns : Column -> Column) (earlier : List Line) (blanks : Text)

/-- The second scanner reads an indented text as the first one reads the text.  In a
comment the column makes no difference, since no line comes of it. -/
inductive Trails (current : Text) (scanner other : Scanner) : Prop
  | follows (follows : Follows columns earlier blanks current scanner other)
  | comment (lines : other.lines = scanner.lines.map (Line.move columns) ++ earlier)
      (ready : ({ scanner with mode := .lineStart } : Scanner).Ready)
      (ready' : ({ other with mode := .lineStart } : Scanner).Ready)
      (mode : scanner.mode = .comment) (mode' : other.mode = .comment)

variable {columns earlier blanks} {current : Text} {scanner other : Scanner}

theorem readMargin_hash (scanner : Scanner) (column : Column)
    (progress : scanner.progress = .reading) :
    scanner.readMargin column 0 '#' = { scanner with column := column, mode := .comment } := by
  have reading : ({ scanner with column := column } : Scanner).progress = .reading := progress
  rw [readMargin_code scanner column (by decide) (by decide) (by decide), readFresh,
    if_neg (not_not_intro reading)]
  rfl

theorem Trails.read {char : Char} (trails : Trails columns earlier blanks current scanner other)
    (sound : scanner.Sound) (single : char ≠ '\n')
    (straight : char = '\\' -> scanner.mode.inMargin = false)
    (placed : scanner.mode.inMargin = true -> isMarginChar char = false -> char ≠ '#' ->
      columns (.ofMargin current) = .ofMargin (blanks ++ current)) :
    Trails columns earlier blanks (current ++ [char]) (scanner.read char) (other.read char) := by
  cases trails with
  | follows follows =>
      by_cases hash : char = '#' ∧ scanner.mode.inMargin = true
      · rcases hash with ⟨rfl, inMargin⟩
        cases follows with
        | margin lines tokens closers progress progress' clean mode mode' =>
            rcases sound.margin inMargin with ⟨noTokens, noClosers⟩
            rw [read_margin progress mode, read_margin progress' mode', readMargin_hash _ _ progress,
              readMargin_hash _ _ progress']
            exact .comment lines ⟨noTokens, noClosers, rfl, progress⟩
              ⟨tokens.trans noTokens, closers.trans noClosers, rfl, progress'⟩ rfl rfl
        | inside outside =>
            rw [outside] at inMargin
            cases inMargin
        | joined progress mode =>
            rw [mode] at inMargin
            cases inMargin
      · apply Trails.follows
        apply follows.read single straight
        intro inMargin _ code
        exact placed inMargin code fun same => hash ⟨same, inMargin⟩
  | comment lines ready ready' mode mode' =>
      have same : forall {scanner : Scanner}, scanner.progress = .reading -> scanner.mode = .comment ->
          scanner.read char = scanner := by
        intro scanner progress mode
        rw [Scanner.read, if_neg (not_not_intro progress), mode]
        simp only [if_neg single]
      have progress : scanner.progress = .reading := ready.progress
      have progress' : other.progress = .reading := ready'.progress
      rw [same progress mode, same progress' mode']
      exact .comment lines ready ready' mode mode'

theorem read_newline_comment {scanner : Scanner}
    (ready : ({ scanner with mode := .lineStart } : Scanner).Ready) (mode : scanner.mode = .comment) :
    scanner.read '\n' = { scanner with mode := .lineStart } := by
  have tokens : scanner.tokens = [] := ready.tokens
  have closers : scanner.closers = [] := ready.closers
  have progress : scanner.progress = .reading := ready.progress
  rw [Scanner.read, if_neg (not_not_intro progress), mode]
  simp only [if_true, newline, closers, finishLine, tokens]
  rfl

theorem Trails.breakLine {count : Nat}
    (trails : Trails columns earlier (Text.spaces count) current scanner other)
    (plain : (scanner.read '\n').mode.inLiteral = false) :
    Trails columns earlier (Text.spaces count) [] (scanner.read '\n')
      ((Text.spaces count).foldl Scanner.read (other.read '\n')) := by
  apply Trails.follows
  cases trails with
  | follows follows => exact follows.breakLine plain
  | comment lines ready ready' mode mode' =>
      rw [read_newline_comment ready mode, read_newline_comment ready' mode',
        @run_blanks_margin { other with mode := .lineStart } ready'.progress .zero rfl]
      exact .margin lines (ready'.tokens.trans ready.tokens.symm)
        (ready'.closers.trans ready.closers.symm) ready.progress ready'.progress rfl rfl
        (lineStart_blanks count)

theorem Trails.ready (trails : Trails columns earlier blanks current scanner other)
    (ready : (scanner.read '\n').Ready) :
    (other.read '\n').Ready ∧
      (other.read '\n').lines = (scanner.read '\n').lines.map (Line.move columns) ++ earlier := by
  cases trails with
  | follows follows => exact follows.ready ready
  | comment lines begun begun' mode mode' =>
      rw [read_newline_comment begun mode, read_newline_comment begun' mode']
      exact ⟨begun', lines⟩

theorem inMargin_deepen (level : Int) (mode : Mode) :
    (mode.deepen level).inMargin = mode.inMargin := by
  cases mode <;> rfl

theorem inLiteral_deepen (level : Int) (mode : Mode) :
    (mode.deepen level).inLiteral = mode.inLiteral := by
  cases mode <;> rfl

theorem outside_of_inLiteral {mode : Mode} (literal : mode.inLiteral = true) :
    mode.inMargin = false := by
  cases mode with
  | margin | marginJoin => cases literal
  | _ => rfl

/-- Inside a literal the second scanner is the first one in other columns. -/
theorem Trails.eq_move (trails : Trails columns earlier blanks current scanner other)
    (literal : scanner.mode.inLiteral = true) : other = scanner.move columns earlier := by
  cases trails with
  | follows follows =>
      cases follows with
      | inside => rfl
      | margin _ _ _ _ _ _ mode _ =>
          rw [mode] at literal
          cases literal
      | joined _ mode =>
          rw [mode] at literal
          cases literal
  | comment _ _ _ mode _ =>
      rw [mode] at literal
      cases literal

theorem known_deepen (level : Int) (token : Token) : (token.deepen level).known = token.known := by
  cases token <;> rfl

theorem Sound.deepen (sound : scanner.Sound) (level : Int) : (scanner.deepen level).Sound := by
  constructor
  · intro stopped
    rcases sound.stopped stopped with ⟨unknown, outside⟩
    constructor
    · simp only [Scanner.deepen, List.all_map]
      rw [← unknown]
      congr 1
      funext token
      exact known_deepen level token
    · rw [Scanner.deepen, inMargin_deepen]
      exact outside
  · intro inMargin
    rw [Scanner.deepen, inMargin_deepen] at inMargin
    rcases sound.margin inMargin with ⟨tokens, closers⟩
    simp only [Scanner.deepen, tokens, closers, List.map_nil, and_self]

theorem quoted_run {scanner : Scanner} (quoted : scanner.mode.quoted = true) (text : Text) :
    (text.foldl Scanner.read scanner).mode.quoted = true := by
  induction text generalizing scanner with
  | nil => exact quoted
  | cons char rest restRun => exact restRun (quoted_read quoted)

/-- A scanner trails another one through a whole text, with deeper literals. -/
theorem Trails.run {level : Int} {text : Text}
    (trails : Trails columns earlier (Text.margin level) current (scanner.deepen level) other)
    (sound : scanner.Sound) (quoted : scanner.mode.quoted = true)
    (straight : scanner.straightOn text = true)
    (placed : forall margin, margin ∈ scanner.lineMargins current text ->
      columns (.ofMargin margin) = .ofMargin (Text.margin level ++ margin)) :
    Exists fun last => Trails columns earlier (Text.margin level) last
      ((text.foldl Scanner.read scanner).deepen level)
      ((Text.deepen level text).foldl Scanner.read other) := by
  induction text generalizing current scanner other with
  | nil => exact ⟨current, trails⟩
  | cons char rest restRun =>
      rw [straightOn, Bool.and_eq_true, Bool.not_eq_true', Bool.and_eq_false_iff,
        decide_eq_false_iff_not] at straight
      rcases straight with ⟨straight, restStraight⟩
      have restPlaced : forall margin, margin ∈ (scanner.read char).lineMargins
          (if char = '\n' then [] else current ++ [char]) rest ->
            columns (.ofMargin margin) = .ofMargin (Text.margin level ++ margin) := by
        intro margin member
        apply placed margin
        simp only [lineMargins]
        split
        · exact List.mem_cons_of_mem current member
        · exact member
      have next := fun {current other} follows => @restRun current (scanner.read char) other follows
        (sound.read char) (quoted_read quoted) restStraight
      rw [List.foldl_cons]
      by_cases newline : char = '\n'
      · subst newline
        rw [if_pos rfl] at restPlaced
        rw [Text.deepen_cons_newline, List.foldl_cons, List.foldl_append]
        cases inside : (scanner.read '\n').mode.inLiteral with
        | true =>
            have literal := inLiteral_of_read_newline inside
            rw [trails.eq_move ((inLiteral_deepen level scanner.mode).trans literal),
              read_move columns earlier _ _
                ((inMargin_deepen level scanner.mode).trans (outside_of_inLiteral literal)),
              run_newline_inLiteral quoted inside]
            exact next (.follows (.inside
              ((inMargin_deepen level _).trans (outside_of_inLiteral inside)))) restPlaced
        | false =>
            have deepened := read_deepen level scanner quoted fun _ => inside
            have plain : ((scanner.deepen level).read '\n').mode.inLiteral = false := by
              rw [deepened]
              exact (inLiteral_deepen level _).trans inside
            have behind := trails.breakLine plain
            rw [deepened] at behind
            exact next behind restPlaced
      · rw [if_neg newline] at restPlaced
        rw [Text.deepen_cons_of_ne newline, List.foldl_cons]
        have deepened := read_deepen level scanner quoted fun same => absurd same newline
        have straight' : char = '\\' -> (scanner.deepen level).mode.inMargin = false :=
          fun join => (inMargin_deepen level _).trans (straight.resolve_left (not_not_intro join))
        have placed' : (scanner.deepen level).mode.inMargin = true -> isMarginChar char = false ->
            char ≠ '#' -> columns (.ofMargin current) = .ofMargin (Text.margin level ++ current) := by
          intro inMargin code notComment
          rw [Scanner.deepen, inMargin_deepen] at inMargin
          apply placed current
          simp only [lineMargins]
          rw [if_pos]
          · exact List.mem_cons_self
          · simp [inMargin, code, newline, notComment]
        have behind := trails.read (sound.deepen level) newline straight' placed'
        rw [deepened] at behind
        exact next behind restPlaced

theorem Ready.deepen (ready : scanner.Ready) (level : Int) : (scanner.deepen level).Ready := by
  refine ⟨?_, ready.closers, ?_, ready.progress⟩
  · rw [Scanner.deepen, ready.tokens]
    rfl
  · rw [Scanner.deepen, ready.mode]
    rfl

/-- Behind earlier lines, an indented text gives its own lines in other columns, with
deeper literals. -/
theorem Ready.run_deepened (ready : scanner.Ready) {level : Int} {text : Text}
    (known : forall line, line ∈ (Lines.ofText text).lines -> line.tokens.all Token.known = true)
    (straight : start.straightOn text = true)
    (placed : forall margin, margin ∈ start.lineMargins [] text ->
      columns (.ofMargin margin) = .ofMargin (Text.margin level ++ margin)) :
    ((text.indent level ++ ['\n']).foldl Scanner.read scanner).Ready ∧
      ((text.indent level ++ ['\n']).foldl Scanner.read scanner).lines =
        ((Lines.ofText text).lines.map fun line => (line.deepen level).move columns).reverse ++
          scanner.lines := by
  have first : Trails columns scanner.lines (Text.margin level) [] (start.deepen level)
      ((Text.margin level).foldl Scanner.read scanner) := by
    rw [Text.margin, run_blanks_margin ready.progress ready.mode]
    exact .follows (.margin rfl ready.tokens ready.closers rfl ready.progress rfl rfl
      (lineStart_blanks _))
  rcases first.run sound_start rfl straight placed with ⟨last, trails⟩
  rcases ready_of_known known with ⟨aloneReady, aloneLines⟩
  rw [List.foldl_append, List.foldl_cons, List.foldl_nil] at aloneReady aloneLines
  have plain : ((text.foldl Scanner.read start).read '\n').mode.inLiteral = false := by
    rw [aloneReady.mode]
    rfl
  have deepened := read_deepen level (text.foldl Scanner.read start) (quoted_run rfl text)
    fun _ => plain
  have whole := trails.ready (by rw [deepened]; exact aloneReady.deepen level)
  rw [Text.indent_eq_deepen, List.append_assoc, List.foldl_append, List.foldl_append,
    List.foldl_cons, List.foldl_nil, ← aloneLines]
  refine ⟨whole.1, whole.2.trans ?_⟩
  rw [deepened, Scanner.deepen, List.map_map, List.map_reverse, List.reverse_reverse]
  rfl

/-- Every line stands behind a margin in which a logical line begins. -/
theorem exists_lineMargin {text : Text}
    (known : forall line, line ∈ (Lines.ofText text).lines -> line.tokens.all Token.known = true)
    (straight : start.straightOn text = true) {line : Line}
    (member : line ∈ (Lines.ofText text).lines) :
    Exists fun margin => margin ∈ start.lineMargins [] text ∧ .ofMargin margin = line.column := by
  by_contra missing
  -- A column that belongs to no margin could be moved anywhere.
  have moved : forall columns : Column -> Column,
      (forall margin, margin ∈ start.lineMargins [] text ->
        columns (.ofMargin margin) = .ofMargin margin) ->
      ((Lines.ofText text).lines.map fun line => (line.deepen 0).move columns).reverse =
        ((text.indent 0 ++ ['\n']).foldl Scanner.read start).lines := by
    intro columns placed
    rw [(ready_start.run_deepened known straight placed).2]
    exact (List.append_nil _).symm
  have elsewhere : forall margin, margin ∈ start.lineMargins [] text ->
      Function.update id line.column ⟨line.column.width + 1, 0⟩ (.ofMargin margin) =
        .ofMargin margin := by
    intro margin inText
    exact Function.update_of_ne (fun same => missing ⟨margin, inText, same⟩) _ _
  have same := (moved _ elsewhere).trans (moved id fun _ _ => rfl).symm
  have width := congrArg (·.column.width)
    (List.map_inj_left.mp (List.reverse_injective same) line member)
  simp [Line.move, Line.deepen] at width

end Trails

end Scanner
end Program
end Oneliner
