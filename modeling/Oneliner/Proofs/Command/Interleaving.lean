import Oneliner.Proofs.Command.Reading

namespace Oneliner
namespace Command

/-!
Pieces of code among the switches of a command line.

A switch with all that belongs to it never looks at the pieces of code before it, and
leaves them as they are.  So the pieces can stand anywhere between the switches: the
reading ends where the switches alone would end it, or else gives the options of the
switches alone together with the pieces in their order.
-/

/-! ### Command lines in parts -/

/-- A piece of code does not begin with a hyphen, or is nothing else. -/
def IsPiece (text : Text) : Prop :=
  text.head? ≠ some '-' ∨ text = ['-']

/-- A switch begins with a hyphen and goes on.  The terminator is none. -/
def IsSwitch (text : Text) : Prop :=
  text.head? = some '-' ∧ text ≠ ['-'] ∧ text ≠ ['-', '-']

instance (text : Text) : Decidable (IsPiece text) :=
  inferInstanceAs (Decidable (_ ∨ _))

instance (text : Text) : Decidable (IsSwitch text) :=
  inferInstanceAs (Decidable (_ ∧ _))

/-- A switch with all the arguments that belong to it. -/
inductive IsGroup : List Text -> Prop where
  | alone {argument : Text} :
      IsSwitch argument -> (Argument.ofText argument).waits = false -> IsGroup [argument]
  | valued {argument : Text} (value : Text) :
      IsSwitch argument -> (Argument.ofText argument).waits = true -> IsGroup [argument, value]
  /-- A switch that ends the reading, with whatever it was given. -/
  | ending {argument : Text} (values : List Text) :
      IsSwitch argument ->
        (forall options, exists ending, readSwitch options (Argument.ofText argument) = .error ending) ->
          IsGroup (argument :: values)

/-- The arguments are the groups and the pieces, each in their order, and no group is
broken up. -/
inductive Interleaving : List (List Text) -> List Text -> List Text -> Prop where
  | nil : Interleaving [] [] []
  | group {groups : List (List Text)} {pieces arguments : List Text} (group : List Text) :
      Interleaving groups pieces arguments ->
        Interleaving (group :: groups) pieces (group ++ arguments)
  | piece {groups : List (List Text)} {pieces arguments : List Text} (piece : Text) :
      Interleaving groups pieces arguments ->
        Interleaving groups (piece :: pieces) (piece :: arguments)

/-! ### The form of an argument -/

theorem ofText_of_isPiece {text : Text} (piece : IsPiece text) :
    Argument.ofText text = .piece text := by
  rcases piece with other | rfl
  · unfold Argument.ofText
    split
    · exact absurd rfl other
    · exact absurd rfl other
    · exact absurd rfl other
    · rfl
  · rfl

/-- A switch is read as a name or as letters. -/
theorem ofText_of_isSwitch {text : Text} (switch : IsSwitch text) :
    (exists name value, Argument.ofText text = .named name value) ∨
      exists letters, Argument.ofText text = .letters letters := by
  rcases switch with ⟨hyphen, more, other⟩
  unfold Argument.ofText
  split
  · exact absurd rfl other
  · exact .inl ⟨_, _, rfl⟩
  · exact .inr ⟨_, rfl⟩
  · rename_i noLetters
    match text with
    | [] => cases hyphen
    | [first] =>
        cases hyphen
        exact absurd rfl more
    | first :: second :: rest =>
        cases hyphen
        exact absurd rfl (noLetters second rest)

theorem IsSwitch.ne_terminator {text : Text} (switch : IsSwitch text) :
    Argument.ofText text ≠ .terminator := by
  rcases ofText_of_isSwitch switch with ⟨name, value, form⟩ | ⟨letters, form⟩ <;>
    · rw [form]
      exact Argument.noConfusion

/-! ### Switches do not look at the code -/

/-- The options with other pieces of code. -/
def Options.withCode (options : Options) (pieces : List Text) : Options :=
  { options with code := pieces }

def Reading.withCode (reading : Reading) (pieces : List Text) : Reading :=
  { reading with options := reading.options.withCode pieces }

theorem readLetters_withCode (options : Options) (pieces : List Text) (letters : Text) :
    readLetters (options.withCode pieces) letters =
      (readLetters options letters).map (·.withCode pieces) := by
  induction letters generalizing options with
  | nil => rfl
  | cons letter rest ih =>
      rw [readLetters, readLetters]
      cases Switch.ofLetter? letter with
      | none => rfl
      | some switch =>
          cases switch with
          | query query => rfl
          | flag flag =>
              have set : (options.withCode pieces).setFlag flag =
                  (options.setFlag flag).withCode pieces := by
                cases flag <;> rfl
              simp only [set]
              exact ih (options.setFlag flag)
          | code part =>
              cases rest with
              | nil => rfl
              | cons char rest => cases part <;> rfl

theorem readNamed_withCode (options : Options) (pieces : List Text) (name : Text)
    (value : Option Text) :
    readNamed (options.withCode pieces) name value =
      (readNamed options name value).map (·.withCode pieces) := by
  rw [readNamed, readNamed]
  cases Switch.ofName name with
  | error misuse => rfl
  | ok switch =>
      cases switch with
      | query query => cases value <;> rfl
      | flag flag => cases value <;> cases flag <;> rfl
      | code part => cases value <;> cases part <;> rfl

theorem IsSwitch.readSwitch_withCode {argument : Text} (switch : IsSwitch argument)
    (options : Options) (pieces : List Text) :
    readSwitch (options.withCode pieces) (Argument.ofText argument) =
      (readSwitch options (Argument.ofText argument)).map (·.withCode pieces) := by
  rcases ofText_of_isSwitch switch with ⟨name, value, form⟩ | ⟨letters, form⟩
  · rw [form]
    exact readNamed_withCode options pieces name value
  · rw [form]
    exact readLetters_withCode options pieces letters

/-- Where a switch ends the reading, the code has no part in it. -/
theorem IsSwitch.read_withCode_of_error {argument : Text} {options : Options} {ending : Ending}
    (switch : IsSwitch argument)
    (error : readSwitch options (Argument.ofText argument) = .error ending)
    (pieces rest : List Text) :
    read (options.withCode pieces) (argument :: rest) =
      (read options (argument :: rest)).map (·.withCode pieces) := by
  have same := switch.readSwitch_withCode options pieces
  rw [error] at same
  rw [read_cons_of_error switch.ne_terminator error, read_cons_of_error switch.ne_terminator same]
  rfl

/-! ### Groups -/

section Groups

variable {group : List Text} {groups : List (List Text)}

/-- A group is read first, and what follows it is read on top of it. -/
theorem IsGroup.read_append (whole : IsGroup group) (options : Options) (rest : List Text) :
    read options (group ++ rest) = (read options group).bind (read · rest) := by
  cases whole with
  | alone switch acts =>
      apply Command.read_append
      rw [complete, if_neg switch.ne_terminator, acts]
      rfl
  | valued value switch waits =>
      apply Command.read_append
      rw [complete, if_neg switch.ne_terminator, waits]
      rfl
  | ending values switch ends =>
      rcases ends options with ⟨ending, error⟩
      rw [List.cons_append, read_cons_of_error switch.ne_terminator error,
        read_cons_of_error switch.ne_terminator error]
      rfl

/-- A group does the same to the options whatever the code is. -/
theorem IsGroup.read_withCode (whole : IsGroup group) (options : Options) (pieces : List Text) :
    read (options.withCode pieces) group = (read options group).map (·.withCode pieces) := by
  cases whole with
  | alone switch acts =>
      rename_i argument
      cases done : readSwitch options (Argument.ofText argument) with
      | error ending => exact switch.read_withCode_of_error done pieces []
      | ok reading =>
          have same := switch.readSwitch_withCode options pieces
          have waiting := isSome_waiting_readSwitch done
          rw [done] at same
          rcases reading with ⟨later, none | waits⟩
          · rw [read_cons_of_ok switch.ne_terminator done, read_cons_of_ok switch.ne_terminator same]
            rfl
          · rw [acts] at waiting
            cases waiting
  | valued value switch waits =>
      rename_i argument
      cases done : readSwitch options (Argument.ofText argument) with
      | error ending => exact switch.read_withCode_of_error done pieces [value]
      | ok reading =>
          have same := switch.readSwitch_withCode options pieces
          have waiting := isSome_waiting_readSwitch done
          rw [done] at same
          rcases reading with ⟨later, none | ⟨part, spelling⟩⟩
          · rw [waits] at waiting
            cases waiting
          · rw [read_cons_of_waiting switch.ne_terminator done,
              read_cons_of_waiting switch.ne_terminator same]
            cases part <;> rfl
  | ending values switch ends =>
      rcases ends options with ⟨ending, error⟩
      exact switch.read_withCode_of_error error pieces values

/-- With the code that is there already this says that a group keeps the code. -/
theorem IsGroup.code_of_read_eq_ok (whole : IsGroup group) {options later : Options}
    (done : read options group = .ok later) : later.code = options.code := by
  have kept := whole.read_withCode options options.code
  rw [done] at kept
  have same : later = later.withCode options.code := Except.ok.inj (done.symm.trans kept)
  rw [same]
  rfl

theorem read_flatten_withCode (whole : forall group, group ∈ groups -> IsGroup group)
    (options : Options) (pieces : List Text) :
    read (options.withCode pieces) groups.flatten =
      (read options groups.flatten).map (·.withCode pieces) := by
  induction groups generalizing options with
  | nil => rfl
  | cons group groups ih =>
      rcases List.forall_mem_cons.mp whole with ⟨first, others⟩
      rw [List.flatten_cons, first.read_append, first.read_append, first.read_withCode]
      cases read options group with
      | error ending => rfl
      | ok later => exact ih others later

end Groups

/-! ### Interleavings -/

namespace Interleaving

variable {groups : List (List Text)} {pieces arguments : List Text}

/-- Groups and pieces are read as if the groups stood alone, and the pieces are added. -/
theorem read_eq (mixed : Interleaving groups pieces arguments)
    (switches : forall group, group ∈ groups -> IsGroup group)
    (code : forall piece, piece ∈ pieces -> IsPiece piece) (options : Options) :
    read options arguments =
      (read options groups.flatten).map (·.withCode (options.code ++ pieces)) := by
  induction mixed generalizing options with
  | nil =>
      rw [List.append_nil]
      rfl
  | group group mixed ih =>
      rcases List.forall_mem_cons.mp switches with ⟨first, others⟩
      rw [List.flatten_cons, first.read_append, first.read_append]
      cases done : read options group with
      | error ending => rfl
      | ok later =>
          rw [← first.code_of_read_eq_ok done]
          exact ih others code later
  | piece piece mixed ih =>
      rcases List.forall_mem_cons.mp code with ⟨first, others⟩
      have form := ofText_of_isPiece first
      have acts : readSwitch options (Argument.ofText piece) =
          .ok ⟨options.withCode (options.code ++ [piece]), none⟩ := by
        rw [form]
        rfl
      -- the piece is there before the groups are read, and could as well be added after them
      rw [read_cons_of_ok (by simp [form]) acts, ih switches others, read_flatten_withCode switches]
      cases read options _ with
      | error ending => rfl
      | ok later => simp [Except.map, Options.withCode]

theorem ofArguments_eq (mixed : Interleaving groups pieces arguments)
    (switches : forall group, group ∈ groups -> IsGroup group)
    (code : forall piece, piece ∈ pieces -> IsPiece piece) :
    Options.ofArguments arguments =
      (Options.ofArguments groups.flatten).map (·.withCode pieces) :=
  mixed.read_eq switches code .default

end Interleaving

end Command
end Oneliner
