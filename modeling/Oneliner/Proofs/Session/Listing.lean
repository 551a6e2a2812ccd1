import Oneliner.Proofs.Scalar.ReadBack
import Oneliner.Proofs.Session.WholeRun

namespace Oneliner

open Program
open Workspace

/-!
What can be read back from the listing of a program.

A line of a listing is a label, which ends at the first colon with a blank behind it, and a
line of the program.  The program may have colons, digits and blanks of its own, but they
stand behind the label.  So the numbers and the program itself can be read back from the
listing, and a session writes the same listing whether it lists its program before running it
or after a failure.
-/

namespace Script

/-! ## Reading a listing -/

/-- What stands in front of the first colon with a blank behind it, and what follows them. -/
def cutLabel : Text -> Text × Text
  | [] => ([], [])
  | char :: rest =>
      if ": ".toList.isPrefixOf (char :: rest) then ([], rest.drop 1)
      else (cutLabel rest).map (char :: ·) id

/-- The number of a line of a listing, if it has one. -/
def numberOf (line : Text) : Option Nat :=
  let digits := (cutLabel line).1.dropWhile (· = ' ')
  if Numeral.isDigits digits then some (Numeral.valueOf digits) else none

/-- The line of the program in a line of its listing. -/
def contentOf (line : Text) : Text :=
  (cutLabel line).2

/-- The lines of a listing that have numbers. -/
def numberedLines (listing : Text) : List Text :=
  listing.lines.filter fun line => (numberOf line).isSome

/-- A listing shows a program: its lines are numbered from one on without a gap, there are as
many of them as lines of the program, and joined without their labels they are the program. -/
structure Shows (listing program : Text) : Prop where
  numbers : (numberedLines listing).filterMap numberOf = List.range' 1 program.lines.length
  contents : Text.joinLines ((numberedLines listing).map contentOf) = program

/-! ## Labels -/

/-- The label of a line without its colon. -/
def label (number : Nat) : Text :=
  ' ' :: Text.padLeft numberWidth (Text.ofNat number)

/-- A line of a listing without its newline. -/
def labelled (number : Nat) (line : Text) : Text :=
  label number ++ (": ".toList ++ line)

theorem listingLine_eq_labelled (number : Nat) (line : Text) :
    listingLine number line = labelled number line ++ ['\n'] := by
  rw [listingLine, labelled, label, List.append_assoc _ (": ".toList) line]

theorem mem_label {number : Nat} {char : Char} (member : char ∈ label number) :
    char = ' ' ∨ char.isDigit = true := by
  rcases List.mem_cons.mp member with blank | member
  · exact .inl blank
  rcases List.mem_append.mp member with blank | digit
  · exact .inl (List.eq_of_mem_replicate blank)
  · exact .inr (List.all_eq_true.mp (Numeral.all_isDigit_ofNat number) char digit)

theorem not_mem_label {number : Nat} {char : Char} (visible : char ≠ ' ')
    (other : char.isDigit = false) : char ∉ label number := by
  intro member
  rcases mem_label member with blank | digit
  · exact visible blank
  · rw [other] at digit
    cases digit

theorem cutLabel_append {front : Text} (clean : ':' ∉ front) (back : Text) :
    cutLabel (front ++ (": ".toList ++ back)) = (front, back) := by
  induction front with
  | nil => rfl
  | cons char rest ih =>
      rw [List.mem_cons, not_or] at clean
      have apart : (':' == char) = false := beq_eq_false_iff_ne.mpr clean.1
      have begins : ": ".toList.isPrefixOf (char :: (rest ++ (": ".toList ++ back))) = false := by
        change ((':' == char) && _) = false
        rw [apart, Bool.false_and]
      rw [List.cons_append, cutLabel, begins, ih clean.2]
      rfl

theorem cutLabel_labelled (number : Nat) (line : Text) :
    cutLabel (labelled number line) = (label number, line) :=
  cutLabel_append (not_mem_label (by decide) (by decide)) line

theorem dropWhile_label (number : Nat) :
    (label number).dropWhile (· = ' ') = Text.ofNat number := by
  have blanks : ∀ char ∈ ' ' :: Text.spaces (numberWidth - (Text.ofNat number).length),
      decide (char = ' ') = true := by
    intro char member
    rcases List.mem_cons.mp member with first | later
    · exact decide_eq_true first
    · exact decide_eq_true (List.eq_of_mem_replicate later)
  rw [label, Text.padLeft, ← List.cons_append, List.dropWhile_append_of_pos blanks]
  -- The first digit stays.
  have digits := List.all_eq_true.mp (Numeral.all_isDigit_ofNat number)
  cases written : Text.ofNat number with
  | nil => rfl
  | cons digit rest =>
      have first : digit.isDigit = true := digits digit (by rw [written]; exact List.mem_cons_self)
      have visible : digit ≠ ' ' := by
        rintro rfl
        cases first
      rw [List.dropWhile_cons, if_neg (by simpa using visible)]

theorem numberOf_labelled (number : Nat) (line : Text) :
    numberOf (labelled number line) = some number := by
  rw [numberOf, cutLabel_labelled, dropWhile_label, Numeral.isDigits_ofNat, if_pos rfl,
    Numeral.valueOf_ofNat]

theorem contentOf_labelled (number : Nat) (line : Text) :
    contentOf (labelled number line) = line := by
  rw [contentOf, cutLabel_labelled]

/-! ## Lines of a listing -/

/-- Lines with their labels, numbered from the given number on. -/
def labelledFrom (number : Nat) (lines : List Text) : List Text :=
  (lines.zipIdx number).map fun (line, number) => labelled number line

theorem lines_listingFrom {lines : List Text} (clean : forall line, line ∈ lines -> '\n' ∉ line)
    (number : Nat) (back : Text) :
    (listingFrom number lines ++ back).lines = labelledFrom number lines ++ back.lines := by
  induction lines generalizing number with
  | nil => rfl
  | cons line rest ih =>
      have single : '\n' ∉ labelled number line := by
        intro member
        rcases List.mem_append.mp member with inLabel | member
        · exact not_mem_label (by decide) (by decide) inLabel
        rcases List.mem_append.mp member with inColon | inLine
        · exact absurd inColon (by decide)
        · exact clean line List.mem_cons_self inLine
      have later := ih (fun other member => clean other (List.mem_cons_of_mem line member))
        (number + 1)
      rw [listingFrom, listingLine_eq_labelled, List.append_assoc, List.append_assoc,
        List.singleton_append, Text.lines_append_newline, Text.lines_of_not_mem single, later]
      rfl

/-- The first line of a listing. -/
def title : Text :=
  "Source:".toList

theorem lines_listing (program : Text) :
    (listing program).lines = title :: labelledFrom 1 program.lines ++ [[], []] := by
  have heading : "Source:\n".toList = title ++ ['\n'] := by decide
  have first : title.lines = [title] := by decide
  have ending : Text.lines ['\n'] = [[], []] := by decide
  have body := @lines_listingFrom program.lines (fun _ => Text.not_mem_of_mem_lines) 1 ['\n']
  unfold listing
  simp only [heading, List.append_assoc, List.cons_append, List.nil_append]
  rw [Text.lines_append_newline, first, body, ending, List.singleton_append]

theorem numberedLines_listing (program : Text) :
    numberedLines (listing program) = labelledFrom 1 program.lines := by
  have some : ∀ line ∈ labelledFrom 1 program.lines, (numberOf line).isSome = true := by
    intro line member
    rcases List.mem_map.mp member with ⟨⟨content, number⟩, _, rfl⟩
    rw [numberOf_labelled]
    rfl
  -- Neither the heading nor what follows the last line has a number.
  rw [numberedLines, lines_listing, List.cons_append, List.filter_cons_of_neg (by decide),
    List.filter_append, List.filter_eq_self.mpr some]
  exact List.append_nil _

theorem shows_listing (program : Text) : Shows (listing program) program where
  numbers := by
    have numbers : (fun entry : Text × Nat => numberOf (labelled entry.2 entry.1)) =
        fun entry => some entry.2 := funext fun entry => numberOf_labelled entry.2 entry.1
    rw [numberedLines_listing, labelledFrom, List.filterMap_map]
    change (program.lines.zipIdx 1).filterMap
      (fun entry => numberOf (labelled entry.2 entry.1)) = _
    rw [numbers, List.filterMap_eq_map', List.zipIdx_map_snd]
  contents := by
    have contents : (fun entry : Text × Nat => contentOf (labelled entry.2 entry.1)) = Prod.fst :=
      funext fun entry => contentOf_labelled entry.2 entry.1
    rw [numberedLines_listing, labelledFrom, List.map_map]
    change Text.joinLines ((program.lines.zipIdx 1).map
      fun entry => contentOf (labelled entry.2 entry.1)) = _
    rw [contents, List.zipIdx_map_fst, Text.joinLines_lines]

end Script

namespace Execution

/-! ## Listings of sessions -/

/-- Running the program by its name runs the given text. -/
def Executes (machine : Machine) (program : Text) : Prop :=
  define.runOn machine =
    (do
      let _ <- Dispatch.outermost.call (.builtin .execute) [.str program]
      return () : Run Unit).runOn machine

/-- What a session lists is the text that it runs, and the listing shows it.  In debug mode
the text is listed on the first stream before it is run.  Otherwise it is listed on the other
stream after a failure, if that has left alone the names by which this is done.  Nothing is
listed on a stream that has been closed. -/
theorem listing_shows_executed {machine : Machine} (intact : Intact machine.globals)
    {options : Command.Options} {program : Text}
    (generated : (Script.ofOptions options).text = program) :
    Script.Shows (Script.listing program) program ∧
      (program.lines.length < Scalar.integerBound ->
        listingOutcome false program = (.ok (), Script.listing program)) ∧
      Executes (readied options machine) program ∧
      (Exists fun later =>
        (engine.announce (.ofOptions options)).runOn (readied options machine) =
            ((listingOutcome (machine.shut.contains .out) program).1, later) ∧
          Listed .out (readied options machine)
            (listingOutcome (machine.shut.contains .out) program).2 later ∧
          Executes later program) ∧
      forall failed : Machine, options.debug = false ->
        (∀ name ∈ lateNames options,
          failed.globals.lookup name = (readied options machine).globals.lookup name) ->
        Exists fun later =>
          (engine.regret (.ofOptions options)).runOn failed =
              ((listingOutcome (failed.shut.contains .err) program).1, later) ∧
            Listed .err failed (listingOutcome (failed.shut.contains .err) program).2 later := by
  subst generated
  have ready := intact.readied options
  have known := known_readied intact options
  refine ⟨Script.shows_listing _, listingOutcome_of_short, runOn_define_text ready known.program,
    ?_, ?_⟩
  · rcases @runOn_list_outcome .print _ ready.lists_print _ known.program with
      ⟨later, run, listed⟩
    have apart : ∀ name ∈ sessionNames, name ∉ listingNames := by decide
    have still : Intact later.globals := fun name member =>
      (listed.names name (apart name member)).trans (ready name member)
    exact ⟨later, run, listed,
      runOn_define_text still ((listed.names _ (by decide)).trans known.program)⟩
  · intro failed quiet kept
    have still := known.of_kept quiet kept
    exact runOn_regret_outcome still.lists still.program still.chosen quiet

/-- The machine on which a script has failed. -/
def failedMachine : Machine :=
  ((do define; call : Run Unit).runOn (readied failingOptions (start [] "1\n".toList))).2

theorem listing_shows_executed_failed :
    Intact (start [] "1\n".toList).globals ∧ failingOptions.debug = false ∧
      (∀ name ∈ lateNames failingOptions, failedMachine.globals.lookup name =
        (readied failingOptions (start [] "1\n".toList)).globals.lookup name) ∧
      failedMachine.shut.contains .err = false ∧
      Exists fun later =>
        (engine.regret (.ofOptions failingOptions)).runOn failedMachine =
            ((listingOutcome false (Script.ofOptions failingOptions).text).1, later) ∧
          Listed .err failedMachine (listingOutcome false (Script.ofOptions failingOptions).text).2
            later := by
  have kept : (∀ name ∈ lateNames failingOptions, failedMachine.globals.lookup name =
        (readied failingOptions (start [] "1\n".toList)).globals.lookup name) ∧
      failedMachine.shut.contains .err = false := by
    decide +kernel
  have shown := @listing_shows_executed (start [] "1\n".toList) intact_initial failingOptions _ rfl
  have listed := shown.2.2.2.2 failedMachine rfl kept.1
  rw [kept.2] at listed
  exact ⟨intact_initial, rfl, kept.1, kept.2, listed⟩

/-- The options of a command line whose code has a line outside the function, which gives the
name of the program to another text. -/
def renamingOptions : Command.Options :=
  { Command.Options.default with code := ["pass\n\x0c__pypefn__ = 'abc'\n\x0cx".toList] }

/-- The options of a command line in debug mode. -/
def debugOptions : Command.Options :=
  { Command.Options.default with code := ["pass".toList], debug := true }

set_option maxRecDepth 40000 in
/-- After a failure a session lists what is then found under the name of the program, and in
debug mode it lists by what a startup file has put under the name of the writer. -/
theorem listing_shows_other_program :
    Command.Options.ofArguments renamingOptions.code = .ok renamingOptions ∧
      ¬ Script.Shows ((ofSession none 80 renamingOptions.code "1\n".toList).2.transcript.on .err)
        (Script.ofOptions renamingOptions).text ∧
      Command.Options.ofArguments ["-d".toList, "pass".toList] = .ok debugOptions ∧
      ¬ Script.Shows
        ((ofSession (some "print = len\n".toList) 80 ["-d".toList, "pass".toList] []).2.transcript.on
          .out)
        (Script.ofOptions debugOptions).text := by
  have checked :
      (Command.Options.ofArguments renamingOptions.code = .ok renamingOptions ∧
        Command.Options.ofArguments ["-d".toList, "pass".toList] = .ok debugOptions) ∧
      Text.joinLines ((Script.numberedLines ((ofSession none 80 renamingOptions.code
        "1\n".toList).2.transcript.on .err)).map Script.contentOf) ≠
          (Script.ofOptions renamingOptions).text ∧
      Text.joinLines ((Script.numberedLines ((ofSession (some "print = len\n".toList) 80
        ["-d".toList, "pass".toList] []).2.transcript.on .out)).map Script.contentOf) ≠
          (Script.ofOptions debugOptions).text := by
    decide +kernel
  rcases checked with ⟨⟨renamed, debugged⟩, other, nothing⟩
  exact ⟨renamed, fun shows => other shows.contents, debugged, fun shows => nothing shows.contents⟩

end Execution
end Oneliner
