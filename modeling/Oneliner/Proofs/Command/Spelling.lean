import Oneliner.Proofs.Command.Reading

namespace Oneliner
namespace Command

/-!
The ways to write switches on a command line.

A switch with its code can be written by its letter or by any beginning of its name
that is no beginning of another name, and the code can stand apart or be joined to it.
Whatever comes before and behind, all these ways are read alike.  Since one of them
divides at the first equals sign and nowhere else, all options can be written.
-/

/-! ### Names cut short -/

namespace Switch

theorem mem_byName (switch : Switch) : switch ∈ byName := by
  cases switch with
  | code part => cases part <;> decide
  | flag flag => cases flag <;> decide
  | query query => cases query <;> decide

/-- A beginning of the name of one switch only. -/
structure Abbreviates (cut : Text) (switch : Switch) : Prop where
  beginning : cut <+: switch.name
  single : forall other : Switch, cut <+: other.name -> other = switch

/-- No name is a beginning of another. -/
theorem abbreviates_name (switch : Switch) : Abbreviates switch.name switch where
  beginning := List.prefix_refl _
  single := by
    have apart : forall switch, switch ∈ byName -> forall other, other ∈ byName ->
        switch.name <+: other.name -> other = switch := by decide
    exact fun other => apart switch (mem_byName switch) other (mem_byName other)

namespace Abbreviates

variable {cut : Text} {switch : Switch}

theorem ne_nil (abbreviates : Abbreviates cut switch) : cut ≠ [] := by
  rintro rfl
  have help := abbreviates.single (query .help) List.nil_prefix
  have version := abbreviates.single (query .version) List.nil_prefix
  cases help.trans version.symm

theorem equals_not_mem (abbreviates : Abbreviates cut switch) : '=' ∉ cut := by
  have single : forall switch, switch ∈ byName -> '=' ∉ switch.name := by decide
  intro member
  exact single switch (mem_byName switch) (abbreviates.beginning.subset member)

/-- Of all switches the cut name leaves the one. -/
theorem candidates_eq (abbreviates : Abbreviates cut switch) : candidates cut = [switch] := by
  have once : forall switch, switch ∈ byName -> byName.filter (· = switch) = [switch] := by decide
  rw [candidates, ← once switch (mem_byName switch)]
  apply List.filter_congr
  intro other _
  rw [Bool.eq_iff_iff, List.isPrefixOf_iff_prefix, decide_eq_true_eq]
  constructor
  · exact abbreviates.single other
  · rintro rfl
    exact abbreviates.beginning

theorem ofName_eq (abbreviates : Abbreviates cut switch) : Switch.ofName cut = .ok switch := by
  rw [Switch.ofName]
  cases found : byName.find? (·.name = cut) with
  | some other =>
      have whole := List.find?_some found
      rw [decide_eq_true_eq] at whole
      rw [abbreviates.single other (whole ▸ List.prefix_refl _)]
  | none => rw [abbreviates.candidates_eq]

end Abbreviates
end Switch

/-! ### Switches with code -/

/-- The arguments that give a switch its code. -/
inductive Spelling (part : Section) (value : Text) : List Text -> Prop where
  | letter {letter : Char} :
      (Switch.code part).letter? = some letter -> Spelling part value [['-', letter], value]
  | joined {letter : Char} :
      (Switch.code part).letter? = some letter -> value ≠ [] ->
        Spelling part value ['-' :: letter :: value]
  | named {cut : Text} :
      Switch.Abbreviates cut (.code part) -> Spelling part value [Switch.spelled cut, value]
  | assigned {cut : Text} :
      Switch.Abbreviates cut (.code part) ->
        Spelling part value [Switch.spelled cut ++ '=' :: value]

theorem ofText_letters {letter : Char} (other : letter ≠ '-') (rest : Text) :
    Argument.ofText ('-' :: letter :: rest) = .letters (letter :: rest) := by
  unfold Argument.ofText
  split
  · rename_i same
    cases same
    exact absurd rfl other
  · rename_i same
    cases same
    exact absurd rfl other
  · rename_i same
    cases same
    rfl
  · rename_i noLetters
    exact absurd rfl (noLetters letter rest)

/-- The letters of the switches with code are found, and none is a hyphen. -/
theorem ofLetter?_of_code {part : Section} {letter : Char}
    (lettered : (Switch.code part).letter? = some letter) :
    Switch.ofLetter? letter = some (.code part) ∧ letter ≠ '-' := by
  cases part <;>
    · cases lettered
      decide

/-- However it is written, a switch sets its code. -/
theorem Spelling.read_append {part : Section} {value : Text} {arguments : List Text}
    (spelling : Spelling part value arguments) (options : Options) (rest : List Text) :
    read options (arguments ++ rest) = read (options.setCode part value) rest := by
  cases spelling with
  | letter lettered =>
      rename_i letter
      have found := ofLetter?_of_code lettered
      have form := ofText_letters found.2 []
      have waits : readSwitch options (Argument.ofText ['-', letter]) =
          .ok ⟨options, some (part, ['-', letter])⟩ := by
        rw [form, readSwitch, readLetters, found.1]
        rfl
      exact read_cons_of_waiting (by simp [form]) waits value rest
  | joined lettered some =>
      rename_i letter
      have found := ofLetter?_of_code lettered
      have form := ofText_letters found.2 value
      have acts : readSwitch options (Argument.ofText ('-' :: letter :: value)) =
          .ok ⟨options.setCode part value, none⟩ := by
        rw [form, readSwitch, readLetters, found.1]
        simp only
        rw [List.isEmpty_eq_false_iff.mpr some, if_neg Bool.false_ne_true]
      exact read_cons_of_ok (by simp [form]) acts rest
  | named abbreviates =>
      rename_i cut
      have form := ofText_spelled abbreviates.ne_nil abbreviates.equals_not_mem
      have waits : readSwitch options (Argument.ofText (Switch.spelled cut)) =
          .ok ⟨options, some (part, Switch.spelled (Switch.code part).name)⟩ := by
        rw [form, readSwitch, readNamed, abbreviates.ofName_eq]
      exact read_cons_of_waiting (by simp [form]) waits value rest
  | assigned abbreviates =>
      rename_i cut
      have form := ofText_assigned abbreviates.equals_not_mem value
      have acts : readSwitch options (Argument.ofText (Switch.spelled cut ++ '=' :: value)) =
          .ok ⟨options.setCode part value, none⟩ := by
        rw [form, readSwitch, readNamed, abbreviates.ofName_eq]
      exact read_cons_of_ok (by simp [form]) acts rest

/-! ### Flags -/

/-- A flag by its name sets the flag. -/
theorem read_flag (options : Options) (flag : Flag) (rest : List Text) :
    read options (Switch.spelled (Switch.flag flag).name :: rest) =
      read (options.setFlag flag) rest := by
  have abbreviates := Switch.abbreviates_name (.flag flag)
  have form := ofText_spelled abbreviates.ne_nil abbreviates.equals_not_mem
  have acts : readSwitch options (Argument.ofText (Switch.spelled (Switch.flag flag).name)) =
      .ok ⟨options.setFlag flag, none⟩ := by
    rw [form, readSwitch, readNamed, abbreviates.ofName_eq]
  exact read_cons_of_ok (by simp [form]) acts rest

/-- The letters of flags. -/
def IsFlagLetter (letter : Char) : Prop :=
  letter = 'c' ∨ letter = 'd'

theorem IsFlagLetter.exists_flag {letter : Char} (flagged : IsFlagLetter letter) :
    letter ≠ '-' ∧ exists flag, Switch.ofLetter? letter = some (.flag flag) := by
  rcases flagged with rfl | rfl
  · exact ⟨by decide, .collect, by decide⟩
  · exact ⟨by decide, .debug, by decide⟩

/-- Flags in front of a group of letters act as flags that stand alone. -/
theorem exists_options_of_flags {flags : Text} (flagged : forall letter, letter ∈ flags -> IsFlagLetter letter)
    (options : Options) :
    exists later : Options,
      (forall group, readLetters options (flags ++ group) = readLetters later group) ∧
        forall rest, read options (flags.map (['-', ·]) ++ rest) = read later rest := by
  induction flags generalizing options with
  | nil => exact ⟨options, fun _ => rfl, fun _ => rfl⟩
  | cons letter flags ih =>
      rw [List.forall_mem_cons] at flagged
      rcases flagged.1.exists_flag with ⟨other, flag, found⟩
      rcases ih flagged.2 (options.setFlag flag) with ⟨later, joined, apart⟩
      have form := ofText_letters other []
      have acts : readSwitch options (Argument.ofText ['-', letter]) =
          .ok ⟨options.setFlag flag, none⟩ := by
        rw [form, readSwitch, readLetters, found]
        rfl
      refine ⟨later, fun group => ?_, fun rest => ?_⟩
      · rw [List.cons_append, readLetters, found]
        exact joined group
      · rw [List.map_cons, List.cons_append, read_cons_of_ok (by simp [form]) acts]
        exact apart rest

theorem read_flags_append {flags group : Text}
    (flagged : forall letter, letter ∈ flags -> IsFlagLetter letter) (some : group ≠ [])
    (noHyphen : group.head? ≠ Option.some '-') (options : Options) (rest : List Text) :
    read options (('-' :: (flags ++ group)) :: rest) =
      read options (flags.map (['-', ·]) ++ ('-' :: group) :: rest) := by
  rcases exists_options_of_flags flagged options with ⟨later, joined, apart⟩
  have letters : forall group : Text, group ≠ [] -> group.head? ≠ Option.some '-' ->
      Argument.ofText ('-' :: group) = .letters group := by
    intro group some noHyphen
    cases group with
    | nil => exact absurd rfl some
    | cons letter rest =>
        apply ofText_letters
        rintro rfl
        exact noHyphen rfl
  have alone := letters group some noHyphen
  have together : Argument.ofText ('-' :: (flags ++ group)) = .letters (flags ++ group) := by
    apply letters
    · exact List.append_ne_nil_of_right_ne_nil flags some
    · cases flags with
      | nil => exact noHyphen
      | cons letter flags =>
          intro hyphen
          exact (flagged letter List.mem_cons_self).exists_flag.1 (Option.some.inj hyphen)
  rw [apart]
  apply read_cons_congr (by simp [together]) (by simp [alone])
  rw [together, alone, readSwitch, readSwitch, joined]

/-! ### Command lines -/

namespace Options

/-- What complete arguments stand before does not matter if it is read alike on top of
all options. -/
theorem ofArguments_append_congr {arguments first second : List Text}
    (whole : complete arguments = true) (same : forall options, read options first = read options second) :
    ofArguments (arguments ++ first) = ofArguments (arguments ++ second) := by
  rw [ofArguments, ofArguments, Command.read_append whole, Command.read_append whole, funext same]

/-- All ways to give a switch its code are read alike, and so are flags in one group with
other letters and flags that stand alone. -/
theorem ofArguments_spelling {arguments : List Text} (whole : complete arguments = true)
    (rest : List Text) :
    (forall (part : Section) (value : Text) (first second : List Text),
      Spelling part value first -> Spelling part value second ->
        ofArguments (arguments ++ first ++ rest) = ofArguments (arguments ++ second ++ rest)) ∧
    forall flags group : Text,
      (forall letter, letter ∈ flags -> IsFlagLetter letter) -> group ≠ [] ->
        group.head? ≠ some '-' ->
          ofArguments (arguments ++ ['-' :: (flags ++ group)] ++ rest) =
            ofArguments (arguments ++ (flags.map (['-', ·]) ++ ['-' :: group]) ++ rest) := by
  constructor
  · intro part value first second one other
    rw [List.append_assoc, List.append_assoc]
    apply ofArguments_append_congr whole
    intro options
    rw [one.read_append, other.read_append]
  · intro flags group flagged some noHyphen
    rw [List.append_assoc, List.append_assoc, List.append_assoc]
    exact ofArguments_append_congr whole (read_flags_append flagged some noHyphen · rest)

/-- The terminator is taken as code here, and help is asked for behind. -/
theorem ofArguments_spelling_joined :
    complete ["-b".toList, "--".toList] = true ∧
      ofArguments (["-b".toList, "--".toList] ++ ["-a-c=".toList] ++ ["-h".toList]) =
        ofArguments (["-b".toList, "--".toList] ++ ["--af=-c=".toList] ++ ["-h".toList]) ∧
      ofArguments (["-b".toList, "--".toList] ++ ["-cde".toList] ++ []) =
        ofArguments (["-b".toList, "--".toList] ++ ["-c".toList, "-d".toList, "-e".toList] ++ []) := by
  have whole : complete ["-b".toList, "--".toList] = true := by decide
  have single : forall other, other ∈ Switch.byName -> "af".toList <+: other.name ->
      other = .code .after := by decide
  have cut : Switch.Abbreviates "af".toList (.code .after) :=
    ⟨by decide, fun other => single other (Switch.mem_byName other)⟩
  have joined : Spelling .after "-c=".toList ["-a-c=".toList] := .joined rfl (by decide)
  have assigned : Spelling .after "-c=".toList ["--af=-c=".toList] := .assigned cut
  have flagged : forall letter, letter ∈ "cd".toList -> IsFlagLetter letter := by
    intro letter member
    simpa [IsFlagLetter] using member
  exact ⟨whole, (ofArguments_spelling whole ["-h".toList]).1 _ _ _ _ joined assigned,
    (ofArguments_spelling whole []).2 "cd".toList "e".toList flagged (by decide) (by decide)⟩

/-- A switch with its code, if there is one to write. -/
theorem read_writeCode (options : Options) (part : Section) (value : Option Text) (rest : List Text) :
    read options (writeCode part value ++ rest) =
      read (value.elim options (options.setCode part)) rest := by
  cases value with
  | none => rfl
  | some value =>
      exact (Spelling.assigned (Switch.abbreviates_name (.code part))).read_append options rest

theorem read_writeFlag (options : Options) (flag : Flag) (given : Bool) (rest : List Text) :
    read options (writeFlag flag given ++ rest) =
      read (if given then options.setFlag flag else options) rest := by
  cases given with
  | false => rfl
  | true => exact read_flag options flag rest

/-- All options can be written, and are read back. -/
theorem ofArguments_toArguments (options : Options) :
    ofArguments options.toArguments = .ok options := by
  have pieces : forall (start : Options) (rest : List Text),
      read start (['-', '-'] :: rest) = .ok (start.addCode rest) := fun _ _ => rfl
  simp only [ofArguments, toArguments, List.append_assoc, read_writeCode, read_writeFlag, pieces]
  -- Nothing was set before, so what is not written is as it should be.
  rcases options with ⟨before, after, handler, collect, debug, trim, convert, code⟩
  cases before <;> cases after <;> cases handler <;> cases collect <;> cases debug <;>
    cases trim <;> cases convert <;> rfl

end Options
end Command
end Oneliner
