import Oneliner.Proofs.Scalar.ReadBack
import Oneliner.Proofs.Session.SameInput

namespace Oneliner
namespace Execution

/-!
Writing the converted lines a second time.

A session that writes the reading of every line is run on what such a session has
written.  Every written text stands on a line of its own, and is read as the scalar of
which it is the text.
-/

/-- A text without newlines is one line, once it is ended. -/
theorem inputLines_ended {text : Text} (single : '\n' ∉ text) :
    (text ++ ['\n']).inputLines = [text ++ ['\n']] := by
  induction text with
  | nil => rfl
  | cons char rest restLine =>
      rw [List.mem_cons, not_or] at single
      have other : char ≠ '\n' := fun newline => single.1 newline.symm
      rw [List.cons_append, Text.inputLines, if_neg other, restLine single.2]

theorem inputLines_printed {scalars : List Scalar}
    (single : forall scalar, scalar ∈ scalars -> '\n' ∉ scalar.text) :
    (printed scalars).inputLines = scalars.map fun scalar => scalar.text ++ ['\n'] := by
  induction scalars with
  | nil => rfl
  | cons scalar rest restLines =>
      have ended : (scalar.text ++ ['\n']).getLast? = some '\n' := List.getLast?_concat
      rw [printed, List.flatMap_cons, ← printed, Text.inputLines_append (Or.inr ended),
        inputLines_ended (single scalar List.mem_cons_self), List.map_cons,
        restLines fun other member => single other (List.mem_cons_of_mem scalar member)]
      rfl

theorem unended_ended {text : Text} (single : '\n' ∉ text) : (text ++ ['\n']).unended = text := by
  have kept : forall char, char ∈ text -> decide (char ≠ '\n') = true := by
    intro char member
    apply decide_eq_true
    intro newline
    exact single (newline ▸ member)
  rw [Text.unended, List.takeWhile_append_of_pos kept]
  exact List.append_nil text

/-- What was written for the converted readings is read as those readings. -/
theorem readings_printed (input : Text) :
    readings true true (printed (readings true true input)) = readings true true input := by
  have converted : forall scalar, scalar ∈ readings true true input ->
      '\n' ∉ scalar.text ∧ (Scalar.str scalar.text).convert = scalar := by
    intro scalar member
    rcases List.mem_map.mp member with ⟨line, _, read⟩
    rw [← read]
    exact ⟨Scalar.newline_not_mem_text_convert (Text.newline_not_mem_unended line),
      Scalar.convert_text_convert line.unended⟩
  have lines := inputLines_printed fun scalar member => (converted scalar member).1
  rw [readings, lines, List.map_map]
  conv_rhs => rw [← List.map_id (readings true true input)]
  apply List.map_congr_left
  intro scalar member
  have reread := (converted scalar member).2
  change (Scalar.str (scalar.text ++ ['\n']).unended).convert = scalar
  rw [unended_ended (converted scalar member).1]
  exact reread

/-- Converting what was written for a converted text gives the same scalar.  A session that
writes each reading therefore copies what a session like it has written. -/
theorem converted_output_repeats (width : Int) (input : Text) :
    (forall text : Text,
      (Scalar.str (Scalar.str text).convert.text).convert = (Scalar.str text).convert) ∧
    (ofSession none width ["out(_)".toList] input).1 = .ok () ∧
    (ofSession none width ["out(_)".toList]
      ((ofSession none width ["out(_)".toList] input).2.transcript.on .out)).1 = .ok () ∧
    (ofSession none width ["out(_)".toList]
        ((ofSession none width ["out(_)".toList] input).2.transcript.on .out)).2.transcript.on .out =
      (ofSession none width ["out(_)".toList] input).2.transcript.on .out := by
  refine ⟨Scalar.convert_text_convert, ?_⟩
  rcases exists_ofSession_outEach true true width input with ⟨first, firstRun, firstPrints⟩
  change ofSession none width ["out(_)".toList] input = _ at firstRun
  rcases exists_ofSession_outEach true true width (first.transcript.on .out) with
    ⟨second, secondRun, secondPrints⟩
  change ofSession none width ["out(_)".toList] _ = _ at secondRun
  rw [firstRun, secondRun]
  refine ⟨rfl, rfl, ?_⟩
  change second.transcript.on .out = first.transcript.on .out
  rw [secondPrints.out, firstPrints.out, readings_printed]

end Execution
end Oneliner
