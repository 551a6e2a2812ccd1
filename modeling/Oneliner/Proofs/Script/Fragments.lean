import Oneliner.Proofs.Text.Newlines
import Oneliner.Script.Basic

namespace Oneliner
namespace Script

/-!
The text of the function as a list of fragments.

Stripping white space and bringing line ends into one form are both done on the
whole text.  They come down to the same operations on the code in the fragments,
so the function can be read fragment by fragment.
-/

/-- The text of several fragments. -/
def textOf (fragments : List Fragment) : Text :=
  fragments.flatMap Fragment.text

theorem textOf_append (front back : List Fragment) :
    textOf (front ++ back) = textOf front ++ textOf back :=
  List.flatMap_append

theorem textOf_singleton (fragment : Fragment) : textOf [fragment] = fragment.text :=
  List.append_nil _

namespace Fragment

/-- The fragment with line ends in one form. -/
def normalized (fragment : Fragment) : Fragment :=
  { fragment with body := fragment.body.normalizeNewlines }

/-- What is left of a fragment at the end of the text. -/
def stripped (fragment : Fragment) : List Fragment :=
  if fragment.body.trimRight = [] then []
  else [{ fragment with body := fragment.body.trimRight, newlines := 1 }]

end Fragment

/-! ## Line ends -/

theorem paired_newlines (count : Nat) : Text.paired (List.replicate count '\n') = true :=
  Text.paired_of_not_mem fun member => absurd (List.eq_of_mem_replicate member) (by decide)

theorem withoutReturns_newlines (count : Nat) :
    Text.withoutReturns (List.replicate count '\n') = List.replicate count '\n' := by
  rw [Text.withoutReturns, List.filter_eq_self]
  intro char member
  rw [List.eq_of_mem_replicate member]
  rfl

theorem paired_textOf {fragments : List Fragment}
    (pairs : forall fragment, fragment ∈ fragments -> fragment.body.paired = true) :
    (textOf fragments).paired = true := by
  induction fragments with
  | nil => rfl
  | cons first rest restPaired =>
      apply Text.paired_append
      · exact Text.paired_append
          (Text.paired_indent (pairs first List.mem_cons_self) first.depth) (paired_newlines _)
      · exact restPaired fun fragment member => pairs fragment (List.mem_cons_of_mem first member)

/-- Line ends are brought into one form fragment by fragment. -/
theorem normalizeNewlines_textOf {fragments : List Fragment}
    (pairs : forall fragment, fragment ∈ fragments -> fragment.body.paired = true) :
    (textOf fragments).normalizeNewlines = textOf (fragments.map Fragment.normalized) := by
  rw [Text.normalizeNewlines_of_paired (paired_textOf pairs)]
  induction fragments with
  | nil => rfl
  | cons first rest restNormal =>
      have firstNormal : first.text.withoutReturns = first.normalized.text := by
        rw [Fragment.text, Text.withoutReturns_append, Text.withoutReturns_indent,
          withoutReturns_newlines, Fragment.text, Fragment.normalized,
          Text.normalizeNewlines_of_paired (pairs first List.mem_cons_self)]
      have restNormal := restNormal fun fragment member =>
        pairs fragment (List.mem_cons_of_mem first member)
      rw [textOf, List.flatMap_cons, Text.withoutReturns_append, firstNormal, ← textOf, restNormal]
      rfl

/-! ## The end of the text -/

/-- Behind a line that ends in a visible character, the last fragment is stripped. -/
theorem trimRight_textOf {front : List Fragment} {last : Fragment} {before : Text} {char : Char}
    (ending : textOf front = before ++ [char, '\n']) (visible : Text.isBlank char = false) :
    (textOf (front ++ [last])).trimRight ++ ['\n'] = textOf (front ++ last.stripped) := by
  have newlines : (List.replicate last.newlines '\n' : Text).all Text.isBlank = true := by
    rw [List.all_eq_true]
    intro char member
    exact List.eq_of_mem_replicate member ▸ (by decide)
  rw [textOf_append, textOf_append, textOf_singleton, Fragment.text, ← List.append_assoc,
    Text.trimRight_append_blanks _ newlines, Fragment.stripped]
  split
  · rename_i empty
    rcases Text.exists_blank_end last.body with ⟨blanks, blank, split⟩
    have allBlank : last.body.all Text.isBlank = true := by
      rw [split, empty]
      exact blank
    have shown : before ++ [char, '\n'] = before ++ [char] ++ ['\n'] := by simp
    rw [Text.trimRight_append_blanks _ (Text.all_isBlank_indent allBlank last.depth), ending, shown,
      Text.trimRight_append_blanks _ (by decide), Text.trimRight_snoc before visible]
    exact (List.append_nil _).symm
  · rename_i some
    have indented := Text.trimRight_indent some last.depth
    have visibleEnd : (last.body.indent last.depth).trimRight ≠ [] := by
      rw [indented]
      exact Text.indent_ne_nil some last.depth
    rw [Text.trimRight_append visibleEnd, indented, textOf_singleton, Fragment.text,
      List.append_assoc]
    rfl

/-- The head of the function. -/
def defineFragment : Fragment :=
  ⟨.frame, 0, "def pype(stdin):".toList, 2⟩

/-- The text begins with a visible character. -/
theorem trimLeft_textOf (fragments : List Fragment) :
    (textOf (defineFragment :: fragments)).trimLeft = textOf (defineFragment :: fragments) := by
  have first : Exists fun rest => textOf (defineFragment :: fragments) = 'd' :: rest := ⟨_, rfl⟩
  rcases first with ⟨rest, first⟩
  rw [first, Text.trimLeft, List.dropWhile_cons_of_neg (by decide)]

theorem textOf_ending (front : List Fragment) {last : Fragment} {before : Text} {char : Char}
    (ending : last.text = before ++ [char, '\n']) :
    textOf (front ++ [last]) = (textOf front ++ before) ++ [char, '\n'] := by
  rw [textOf_append, textOf_singleton, ending, List.append_assoc]

/-! ## Scripts that run their code on each line -/

/-- A script that runs its main code on each line, and nothing but the sections of
code. -/
structure Loops (script : Script) : Prop where
  collect : script.collect = false
  debug : script.debug = false
  handler : script.handler = none

/-- The fragments in front of the main code. -/
def loopHead (script : Script) : List Fragment :=
  defineFragment ::
    (match script.before with
      | none => []
      | some code => [.frame 1 "# 'before' code", ⟨.before, 1, code, 2⟩]) ++
    .frame 1 "for _ in stdin:" ::
    (if script.trim then [.frame 2 "_ = _.rstrip('\\n')"] else []) ++
    (if script.trim && script.convert then [.frame 2 "_ = __try_convert_str_to_number__(_)"]
      else []) ++
    [.frame 2 "# 'pype' code"]

/-- The fragments of the whole text, whose last section is stripped. -/
def loopFragments (script : Script) : List Fragment :=
  match script.after with
  | none => script.loopHead ++ Fragment.stripped ⟨.main, 2, script.main, 1⟩
  | some code =>
      script.loopHead ++ [⟨.main, 2, script.main, 1⟩, .frame 1 "# 'after' code"] ++
        Fragment.stripped ⟨.after, 1, code, 2⟩

theorem Loops.fragments_eq {script : Script} (loops : script.Loops) :
    script.fragments = script.loopHead ++ ⟨.main, 2, script.main, 1⟩ ::
      (match script.after with
        | none => []
        | some code => [.frame 1 "# 'after' code", ⟨.after, 1, code, 2⟩]) := by
  have depth : script.depth = 1 := by rw [Script.depth, loops.handler]; rfl
  simp only [fragments, loopBody, sectionBody, preparation, loopTrace, handlerBody, depth,
    loops.collect, loops.debug, loops.handler, loopHead]
  cases script.before <;> cases script.after <;> simp <;> rfl

/-- Each section stands behind its heading, which is visible to its end. -/
theorem Loops.text_eq {script : Script} (loops : script.Loops) :
    script.text = textOf script.loopFragments := by
  have mainHeading : (Fragment.frame 2 "# 'pype' code").text =
      "        # 'pype' cod".toList ++ ['e', '\n'] := rfl
  have afterHeading : (Fragment.frame 1 "# 'after' code").text =
      "    # 'after' cod".toList ++ ['e', '\n'] := rfl
  have head : Exists fun front => script.loopHead = front ++ [.frame 2 "# 'pype' code"] := ⟨_, rfl⟩
  have begins : forall rest, (textOf (script.loopHead ++ rest)).trimLeft =
      textOf (script.loopHead ++ rest) := fun rest => trimLeft_textOf _
  rw [text, ← textOf, loops.fragments_eq, Text.trim, begins, loopFragments]
  cases script.after with
  | none =>
      rcases head with ⟨front, head⟩
      rw [head]
      exact trimRight_textOf (textOf_ending front mainHeading) (by decide)
  | some code =>
      have ending := textOf_ending (script.loopHead ++ [⟨.main, 2, script.main, 1⟩]) afterHeading
      have stripped := @trimRight_textOf _ ⟨.after, 1, code, 2⟩ _ _ ending (by decide)
      simpa using stripped

end Script
end Oneliner
