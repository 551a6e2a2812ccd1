import Mathlib.Data.List.TakeWhile
import Oneliner.Command.Options

namespace Oneliner
namespace Command

/-!
How command lines are read, one argument after another.

An argument acts on the options, ends the reading, or leaves a switch waiting for its
code; which of them it does is seen from the argument alone.  So arguments of which
none is left waiting can be read on their own, and what follows them is read on top of
the result.
-/

/-! ### One argument -/

section Step

variable {options later : Options} {argument : Text}

theorem read_cons_of_error {ending : Ending} (switch : Argument.ofText argument ≠ .terminator)
    (ends : readSwitch options (Argument.ofText argument) = .error ending) (rest : List Text) :
    read options (argument :: rest) = .error ending := by
  rw [read, if_neg switch, ends]

theorem read_cons_of_ok (switch : Argument.ofText argument ≠ .terminator)
    (acts : readSwitch options (Argument.ofText argument) = .ok ⟨later, none⟩) (rest : List Text) :
    read options (argument :: rest) = read later rest := by
  rw [read, if_neg switch, acts]

/-- The next argument is taken whatever it looks like. -/
theorem read_cons_of_waiting {part : Section} {spelling : Text}
    (switch : Argument.ofText argument ≠ .terminator)
    (waits : readSwitch options (Argument.ofText argument) = .ok ⟨later, some (part, spelling)⟩)
    (value : Text) (rest : List Text) :
    read options (argument :: value :: rest) = read (later.setCode part value) rest := by
  rw [read, if_neg switch, waits]

/-- An argument matters only through what it does. -/
theorem read_cons_congr {other : Text} (switch : Argument.ofText argument ≠ .terminator)
    (second : Argument.ofText other ≠ .terminator)
    (same : readSwitch options (Argument.ofText argument) =
      readSwitch later (Argument.ofText other)) (rest : List Text) :
    read options (argument :: rest) = read later (other :: rest) := by
  rw [read, read, if_neg switch, if_neg second, same]

end Step

/-! ### Switches that wait -/

/-- Whether a group of letters ends with a switch that takes code. -/
def lettersWait : Text -> Bool
  | [] => false
  | letter :: rest =>
      match Switch.ofLetter? letter with
      | some (.flag _) => lettersWait rest
      | some (.code _) => rest.isEmpty
      | _ => false

/-- Whether an argument leaves a switch waiting for its code. -/
def Argument.waits : Argument -> Bool
  | .letters group => lettersWait group
  | .named name none =>
      match Switch.ofName name with
      | .ok (.code _) => true
      | _ => false
  | _ => false

theorem isSome_waiting_readLetters {options : Options} {letters : Text} {reading : Reading}
    (acts : readLetters options letters = .ok reading) :
    reading.waiting.isSome = lettersWait letters := by
  induction letters generalizing options with
  | nil =>
      cases acts
      rfl
  | cons letter rest ih =>
      rw [readLetters] at acts
      rw [lettersWait]
      cases found : Switch.ofLetter? letter with
      | none =>
          rw [found] at acts
          cases acts
      | some switch =>
          rw [found] at acts
          cases switch with
          | query query => cases acts
          | flag flag => exact ih acts
          | code part =>
              simp only at acts ⊢
              split at acts
              · rename_i last
                cases acts
                exact last.symm
              · rename_i more
                cases acts
                exact (Bool.eq_false_iff.mpr more).symm

theorem isSome_waiting_readNamed {options : Options} {name : Text} {value : Option Text}
    {reading : Reading} (acts : readNamed options name value = .ok reading) :
    reading.waiting.isSome = (Argument.named name value).waits := by
  rw [readNamed] at acts
  cases found : Switch.ofName name with
  | error misuse =>
      rw [found] at acts
      cases acts
  | ok switch =>
      rw [found] at acts
      cases value with
      | some value =>
          cases switch <;> cases acts
          rfl
      | none =>
          rw [Argument.waits, found]
          cases switch <;> cases acts <;> rfl

/-- Whether an argument leaves a switch waiting does not depend on the options. -/
theorem isSome_waiting_readSwitch {options : Options} {argument : Argument} {reading : Reading}
    (acts : readSwitch options argument = .ok reading) :
    reading.waiting.isSome = argument.waits := by
  cases argument with
  | terminator =>
      cases acts
      rfl
  | piece text =>
      cases acts
      rfl
  | named name value => exact isSome_waiting_readNamed acts
  | letters letters => exact isSome_waiting_readLetters acts

/-! ### Complete arguments -/

/-- Pieces of code and switches with all their code, and no terminator among them. -/
def complete : List Text -> Bool
  | [] => true
  | argument :: rest =>
      if Argument.ofText argument = .terminator then false
      else if (Argument.ofText argument).waits then
        match rest with
        | [] => false
        | _ :: rest => complete rest
      else complete rest

/-- Complete arguments are read first, and what follows is read on top of them. -/
theorem read_append {arguments : List Text} (whole : complete arguments = true) (options : Options)
    (rest : List Text) :
    read options (arguments ++ rest) = (read options arguments).bind (read · rest) := by
  fun_induction complete arguments generalizing options with
  | case1 => rfl
  | case2 => cases whole
  | case3 => cases whole
  | case4 argument switch waits value others ih =>
      cases acts : readSwitch options (Argument.ofText argument) with
      | error ending =>
          rw [List.cons_append, read_cons_of_error switch acts, read_cons_of_error switch acts]
          rfl
      | ok reading =>
          have waiting := isSome_waiting_readSwitch acts
          rcases reading with ⟨later, none | ⟨part, spelling⟩⟩
          · rw [waits] at waiting
            cases waiting
          · rw [List.cons_append, List.cons_append, read_cons_of_waiting switch acts,
              read_cons_of_waiting switch acts, ih whole]
  | case5 argument others switch acting ih =>
      cases acts : readSwitch options (Argument.ofText argument) with
      | error ending =>
          rw [List.cons_append, read_cons_of_error switch acts, read_cons_of_error switch acts]
          rfl
      | ok reading =>
          have waiting := isSome_waiting_readSwitch acts
          rcases reading with ⟨later, none | ⟨part, spelling⟩⟩
          · rw [List.cons_append, read_cons_of_ok switch acts, read_cons_of_ok switch acts, ih whole]
          · rw [Bool.eq_false_iff.mpr acting] at waiting
            cases waiting

/-! ### Names and values -/

theorem ne_equals_of_not_mem {name : Text} (single : '=' ∉ name) :
    forall char, char ∈ name -> (char ≠ '=' : Bool) = true := by
  intro char member
  rw [decide_eq_true_eq]
  rintro rfl
  exact single member

theorem ofText_spelled {name : Text} (some : name ≠ []) (single : '=' ∉ name) :
    Argument.ofText (Switch.spelled name) = .named name none := by
  have other := ne_equals_of_not_mem single
  cases name with
  | nil => exact absurd rfl some
  | cons first rest =>
      simp only [Switch.spelled, Argument.ofText]
      rw [List.takeWhile_eq_self_iff.mpr other, List.dropWhile_eq_nil_iff.mpr other]
      rfl

/-- Only the first equals sign divides an argument. -/
theorem ofText_assigned {name : Text} (single : '=' ∉ name) (value : Text) :
    Argument.ofText (Switch.spelled name ++ '=' :: value) = .named name (some value) := by
  have other := ne_equals_of_not_mem single
  have more : name ++ '=' :: value ≠ [] := by simp
  simp only [Switch.spelled, List.cons_append]
  generalize written : name ++ '=' :: value = rest at more
  cases rest with
  | nil => exact absurd rfl more
  | cons first rest =>
      simp only [Argument.ofText]
      rw [← written, List.takeWhile_append_of_pos other, List.dropWhile_append_of_pos other,
        List.takeWhile_cons_of_neg (by simp), List.dropWhile_cons_of_neg (by simp), List.append_nil]
      rfl

end Command
end Oneliner
