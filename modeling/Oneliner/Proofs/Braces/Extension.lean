import Oneliner.Proofs.Braces.Course

namespace Oneliner
namespace Braces

/-!
Sources that go on.

An equals sign looks ahead for another one, so the text behind a source may change
the state in which the scan leaves the source.  It cannot change what the scan has
put out by then: both roles of an equals sign have the same piece.  What is expanded
stays as it is when more follows.
-/

namespace Scan

/-- An equals sign is copied, whatever follows it. -/
theorem step_equals (scan : Scan) (next : Option Char) : (scan.step next '=').1 = ['='] := by
  have read : scan.role next '=' ≠ .skipped := by
    intro skipped
    exact absurd (role_eq_skipped_iff.mp skipped).2 (by decide)
  have kept : (scan.role next '=').breaks = false := by
    rw [Bool.eq_false_iff]
    intro breaks
    rcases char_of_breaks breaks with same | same | same <;> exact absurd same (by decide)
  exact piece_of_kept read kept _ '='

/-- The piece for a character does not depend on the character behind it. -/
theorem step_next (scan : Scan) (next other : Option Char) (char : Char) :
    (scan.step next char).1 = (scan.step other char).1 := by
  by_cases equals : char = '='
  · rw [equals, step_equals, step_equals]
  · have same : scan.role next char = scan.role other char :=
      scan.role_next fun found => absurd found equals
    unfold step
    rw [same]

/-- A scan that stands where another one does puts out more on a longer text, and
nothing else before that. -/
theorem output_prefix (scan : Scan) (front back : Text) :
    scan.output front <+: scan.output (front ++ back) := by
  induction front generalizing scan with
  | nil => exact List.nil_prefix
  | cons char rest ih =>
      cases rest with
      | nil =>
          -- only the last character of the front sees the text behind it
          have copied : scan.output [char] = (scan.step back.head? char).1 := by
            rw [scan.step_next back.head? none char]
            exact List.append_nil _
          rw [copied]
          exact List.prefix_append _ _
      | cons second later => exact (List.prefix_append_right_inj _).mpr (ih _)

end Scan

/-- What has been expanded is not revised when the source goes on, also when the source
ends inside a literal, behind a backslash or on an equals sign. -/
theorem expand_prefix (front back : Text) : expand front <+: expand (front ++ back) := by
  rw [Scan.expand_eq_output, Scan.expand_eq_output]
  exact Scan.start.output_prefix front back

end Braces
end Oneliner
