import Oneliner.Proofs.Script.Fragments

namespace Oneliner

/-!
The user's code stays inside its section.

Each line of the function belongs to a fragment, which tells where the line comes from
and how deep it stands.  Indentation puts the margin of the fragment in front of every
line of the code, whatever the code is, and stripping the text takes away nothing but
white space at its end.  So every visible line keeps the margin of its fragment.
-/

namespace Text

/-- The lines of a text that goes on are its own lines, and the last of them may go on. -/
theorem exists_line_of_prefix {front whole : Text} (begins : front <+: whole) {number : Nat}
    {line : Text} (found : front.lines[number]? = some line) :
    exists longer, whole.lines[number]? = some longer ∧ line <+: longer := by
  obtain ⟨back, rfl⟩ := begins
  induction front generalizing number line with
  | nil =>
      cases number with
      | zero =>
          cases Option.some.inj found
          obtain ⟨longer, later, split⟩ := List.exists_cons_of_ne_nil (lines_ne_nil back)
          exact ⟨longer, by rw [List.nil_append, split]; rfl, List.nil_prefix⟩
      | succ number => cases found
  | cons char rest ih =>
      by_cases newline : char = '\n'
      · subst newline
        have split : forall text : Text, lines ('\n' :: text) = [] :: text.lines :=
          fun text => lines_append_newline [] text
        rw [split] at found
        rw [List.cons_append, split]
        cases number with
        | zero => exact ⟨[], rfl, by cases found; exact List.nil_prefix⟩
        | succ number => exact ih found
      · rw [lines_cons_of_ne newline] at found
        rw [List.cons_append, lines_cons_of_ne newline]
        cases number with
        | zero =>
            rw [List.getElem?_modifyHead_zero] at found ⊢
            obtain ⟨short, first, rfl⟩ := Option.map_eq_some_iff.mp found
            obtain ⟨longer, first', begins⟩ := ih first
            exact ⟨char :: longer, by rw [first']; rfl, List.cons_prefix_cons.mpr ⟨rfl, begins⟩⟩
        | succ number =>
            rw [List.getElem?_modifyHead_succ] at found ⊢
            exact ih found

/-- A visible beginning of a line has all of the line's margin. -/
theorem prefix_of_visible {margin line rest : Text} (blank : margin.all isBlank = true)
    (begins : line <+: margin ++ rest) (visible : line.all isBlank = false) : margin <+: line := by
  rcases List.prefix_or_prefix_of_prefix begins (List.prefix_append margin rest) with short | whole
  · have inMargin : line.all isBlank = true := by
      rw [List.all_eq_true] at blank ⊢
      intro char member
      exact blank char (short.subset member)
    rw [inMargin] at visible
    cases visible
  · exact whole

theorem all_isBlank_spaces (count : Nat) : (spaces count).all isBlank = true := by
  rw [List.all_eq_true]
  intro char member
  rw [List.eq_of_mem_replicate member]
  decide

theorem trimRight_prefix (text : Text) : text.trimRight <+: text := by
  rcases exists_blank_end text with ⟨blanks, _, split⟩
  exact ⟨blanks, split.symm⟩

/-- What ends in a visible character is kept at the beginning of a stripped text. -/
theorem prefix_trimRight {front : Text} (visible : front.trimRight = front) (back : Text) :
    front <+: (front ++ back).trimRight := by
  by_cases empty : back.trimRight = []
  · rcases exists_blank_end back with ⟨blanks, blank, split⟩
    rw [empty, List.nil_append] at split
    have kept : (front ++ back).trimRight = front := by
      rw [split, trimRight_append_blanks front blank, visible]
    exact ⟨[], (List.append_nil front).trans kept.symm⟩
  · rw [trimRight_append empty]
    exact List.prefix_append _ _

end Text

namespace Script

open Text (margin spaces)

/-! ## Where the lines come from -/

/-- The lines that the function itself may have below its head. -/
def ownLines : List String :=
  ["try:", "except Exception, e:",
    "_ = [__try_convert_str_to_number__(a.rstrip('\\n')) for a in sys.stdin.readlines()]",
    "_ = [a.rstrip('\\n') for a in sys.stdin.readlines()]", "_ = sys.stdin.readlines()",
    "# debug mode - print input", "print('Input:')", "print(_)", "print('')",
    "# 'before' code", "print('--before')", "__lineno__ = 1", "for _ in stdin:",
    "_ = _.rstrip('\\n')", "_ = __try_convert_str_to_number__(_)",
    "print('== input line \x7b0\x7d'.format(__lineno__))", "print('\x7b0\x7d'.format(_))\n",
    "print('== output line \x7b0\x7d'.format(__lineno__))", "__lineno__ += 1\n",
    "# 'pype' code", "# 'after' code", "print('--after')"]

/-- What can stand below the head of the function: lines of its own, at least one level
deep, and the code of each section in its place. -/
inductive Below (script : Script) : Fragment -> Prop
  | own {fragment : Fragment} (origin : fragment.origin = .frame ∨ fragment.origin = .trace)
      (text : fragment.body ∈ ownLines.map String.toList) (deep : 1 ≤ fragment.depth) (ended : 0 < fragment.newlines) :
      Below script fragment
  | before {code : Text} (present : script.before = some code) :
      Below script ⟨.before, script.depth, code, 2⟩
  | main : Below script ⟨.main, if script.collect then script.depth else script.depth + 1,
      script.main, 1⟩
  | after {code : Text} (present : script.after = some code) :
      Below script ⟨.after, script.depth, code, 2⟩
  | handler {code : Text} (present : script.handler = some code) :
      Below script ⟨.handler, 2, code, 1⟩

theorem depth_pos (script : Script) : 1 ≤ script.depth := by
  unfold depth
  split <;> decide

section Below

variable {script : Script}

theorem below_frame {depth : Int} (deep : 1 ≤ depth) {line : String} (own : line ∈ ownLines) :
    script.Below (.frame depth line) :=
  .own (.inl rfl) (List.mem_map_of_mem own) deep Nat.one_pos

theorem below_trace {depth : Int} (deep : 1 ≤ depth) {line : String} (own : line ∈ ownLines) :
    script.Below (.trace depth line) :=
  .own (.inr rfl) (List.mem_map_of_mem own) deep Nat.one_pos

theorem below_traces {depth : Int} (deep : 1 ≤ depth) {lines : List String}
    (own : ∀ line ∈ lines, line ∈ ownLines) :
    ∀ fragment ∈ lines.map (Fragment.trace depth), script.Below fragment := by
  intro fragment member
  rcases List.mem_map.mp member with ⟨line, inLines, rfl⟩
  exact below_trace deep (own line inLines)

theorem below_sectionBody {origin : Origin} {heading announcement : String} {code : Option Text}
    (ownHeading : heading ∈ ownLines) (ownAnnouncement : announcement ∈ ownLines)
    (below : forall text, code = some text -> script.Below ⟨origin, script.depth, text, 2⟩) :
    ∀ fragment ∈ script.sectionBody origin heading announcement code, script.Below fragment := by
  have deep := script.depth_pos
  unfold sectionBody
  split
  · exact List.forall_mem_nil _
  · rename_i text
    simp only [List.forall_mem_append, List.forall_mem_cons]
    refine ⟨⟨below_frame deep ownHeading, ?_⟩, below text rfl, List.forall_mem_nil _⟩
    split
    · exact List.forall_mem_singleton.mpr (below_trace deep ownAnnouncement)
    · exact List.forall_mem_nil _

theorem below_collectBody (collect : script.collect = true) :
    ∀ fragment ∈ script.collectBody, script.Below fragment := by
  have deep := script.depth_pos
  have placed := @Below.main script
  rw [if_pos collect] at placed
  simp only [collectBody, List.forall_mem_append, List.forall_mem_cons]
  refine ⟨⟨below_frame deep ?_, ?_⟩, below_frame deep (by decide), placed, List.forall_mem_nil _⟩
  · unfold collectLine
    split
    · split <;> decide
    · decide
  · unfold collectTrace
    split
    · exact below_traces deep (by decide)
    · exact List.forall_mem_nil _

theorem below_loopBody (loop : script.collect = false) :
    ∀ fragment ∈ script.loopBody, script.Below fragment := by
  have deep := script.depth_pos
  have deeper : 1 ≤ script.depth + 1 := by omega
  have placed := @Below.main script
  rw [if_neg (by rw [loop]; decide)] at placed
  have prepared : ∀ fragment ∈ script.preparation, script.Below fragment := by
    simp only [preparation, List.forall_mem_append]
    constructor
    · split
      · exact List.forall_mem_singleton.mpr (below_frame deeper (by decide))
      · exact List.forall_mem_nil _
    · split
      · exact List.forall_mem_singleton.mpr (below_frame deeper (by decide))
      · exact List.forall_mem_nil _
  have traced : ∀ fragment ∈ script.loopTrace, script.Below fragment := by
    unfold loopTrace
    split
    · exact below_traces deeper (by decide)
    · exact List.forall_mem_nil _
  simp only [loopBody, List.forall_mem_append, List.forall_mem_cons]
  refine ⟨⟨⟨⟨⟨?_, ?_⟩, below_frame deep (by decide), prepared⟩, traced⟩,
    below_frame deeper (by decide), placed, List.forall_mem_nil _⟩, ?_⟩
  · exact below_sectionBody (by decide) (by decide) fun _ present => .before present
  · split
    · have own : "__lineno__ = 1" ∈ ownLines := by decide
      exact List.forall_mem_singleton.mpr
        (.own (.inr rfl) (List.mem_map_of_mem own) deep (Nat.succ_pos _))
    · exact List.forall_mem_nil _
  · exact below_sectionBody (by decide) (by decide) fun _ present => .after present

/-- The function is its head and what stands below it. -/
theorem exists_fragments (script : Script) :
    exists rest, script.fragments = defineFragment :: rest ∧ ∀ fragment ∈ rest, script.Below fragment := by
  refine ⟨(if script.handler.isSome then [.frame 1 "try:"] else []) ++
    (if script.collect then script.collectBody else script.loopBody) ++ script.handlerBody, rfl, ?_⟩
  simp only [List.forall_mem_append]
  refine ⟨⟨?_, ?_⟩, ?_⟩
  · split
    · exact List.forall_mem_singleton.mpr (below_frame (by decide) (by decide))
    · exact List.forall_mem_nil _
  · cases collect : script.collect with
    | true => exact below_collectBody collect
    | false => exact below_loopBody collect
  · unfold handlerBody
    split
    · exact List.forall_mem_nil _
    · rename_i code present
      simp only [List.forall_mem_cons]
      exact ⟨below_frame (by decide) (by decide), .handler present, List.forall_mem_nil _⟩

theorem Below.newlines_pos {fragment : Fragment} (below : script.Below fragment) :
    0 < fragment.newlines := by
  cases below with
  | own _ _ _ ended => exact ended
  | before | main | after | handler => exact Nat.succ_pos _

end Below

/-! ## Lines with their fragments -/

/-- The lines of a fragment, each with the fragment itself: its code with the margin in
front, and what is left empty behind it. -/
def Fragment.sources (fragment : Fragment) : List (Fragment × Text) :=
  fragment.body.lines.map (fun part => (fragment, margin fragment.depth ++ part)) ++
    List.replicate (fragment.newlines - 1) (fragment, [])

/-- The lines of the whole text before it is stripped, each with its fragment. -/
def sources (script : Script) : List (Fragment × Text) :=
  script.fragments.flatMap Fragment.sources

theorem lines_newlines_append (count : Nat) (text : Text) :
    Text.lines (List.replicate count '\n' ++ text) = List.replicate count [] ++ text.lines := by
  induction count with
  | zero => rfl
  | succ count rest =>
      have first := Text.lines_append_newline [] (List.replicate count '\n' ++ text)
      rw [List.replicate_succ, List.cons_append]
      rw [List.nil_append, rest] at first
      rw [first, List.replicate_succ]
      rfl

theorem Fragment.lines_text_append {fragment : Fragment} (ended : 0 < fragment.newlines)
    (text : Text) :
    (fragment.text ++ text).lines = fragment.sources.map Prod.snd ++ text.lines := by
  rcases Nat.exists_eq_succ_of_ne_zero (Nat.ne_of_gt ended) with ⟨count, newlines⟩
  have split : fragment.text ++ text =
      fragment.body.indent fragment.depth ++ '\n' :: (List.replicate count '\n' ++ text) := by
    rw [Fragment.text, newlines, List.replicate_succ, List.append_assoc, List.cons_append]
  rw [split, Text.lines_append_newline, Text.lines_indent, lines_newlines_append, Fragment.sources,
    newlines, List.map_append, List.map_map, List.map_replicate, ← List.append_assoc]
  rfl

/-- The lines of several fragments are those of each. -/
theorem lines_textOf {fragments : List Fragment} (ended : ∀ fragment ∈ fragments, 0 < fragment.newlines) :
    (textOf fragments).lines = (fragments.flatMap Fragment.sources).map Prod.snd ++ [[]] := by
  induction fragments with
  | nil => rfl
  | cons first rest restLines =>
      rw [List.forall_mem_cons] at ended
      have split : textOf (first :: rest) = first.text ++ textOf rest := rfl
      rw [split, Fragment.lines_text_append ended.1, restLines ended.2, List.flatMap_cons,
        List.map_append, List.append_assoc]

theorem Fragment.exists_part {fragment owner : Fragment} {line : Text}
    (member : (owner, line) ∈ fragment.sources) (some : line ≠ []) :
    owner = fragment ∧ exists part, part ∈ fragment.body.lines ∧ line = margin fragment.depth ++ part := by
  rw [Fragment.sources, List.mem_append, List.mem_map] at member
  rcases member with ⟨part, inBody, same⟩ | empty
  · rw [Prod.mk.injEq] at same
    exact ⟨same.1.symm, part, inBody, same.2.symm⟩
  · have same := List.eq_of_mem_replicate empty
    rw [Prod.mk.injEq] at same
    exact absurd same.2 some

/-! ## The stripped text -/

/-- The text is stripped at its end only. -/
theorem text_eq_trimRight (script : Script) :
    script.text = (textOf script.fragments).trimRight ++ ['\n'] := by
  rcases script.exists_fragments with ⟨rest, fragments, _⟩
  rw [text, ← textOf, fragments, Text.trim, trimLeft_textOf]

/-- Stripping leaves the lines in front of a visible end of a line. -/
theorem exists_text_eq {script : Script} {front back : Text}
    (split : textOf script.fragments = front ++ '\n' :: back) (visible : front.trimRight = front) :
    exists rest, script.text = front ++ '\n' :: rest := by
  have kept : front <+: (textOf script.fragments).trimRight := by
    rw [split]
    exact Text.prefix_trimRight visible _
  rcases kept with ⟨later, kept⟩
  have begins := Text.trimRight_prefix (textOf script.fragments)
  rw [← kept, split, List.prefix_append_right_inj] at begins
  rw [text_eq_trimRight, ← kept]
  cases later with
  | nil => exact ⟨[], by rw [List.append_nil]⟩
  | cons char later =>
      rw [(List.cons_prefix_cons.mp begins).1]
      exact ⟨later ++ ['\n'], by rw [List.append_assoc, List.cons_append]⟩

/-- The head of the function is a line of its own. -/
theorem exists_head (script : Script) :
    exists rest, script.text = "def pype(stdin):".toList ++ '\n' :: rest := by
  rcases script.exists_fragments with ⟨below, fragments, _⟩
  have split : textOf script.fragments =
      "def pype(stdin):".toList ++ '\n' :: '\n' :: textOf below := by
    rw [fragments]
    rfl
  exact exists_text_eq split (by decide)

/-- The text ends in a visible character and one newline. -/
theorem exists_visible_end (script : Script) :
    exists front char, script.text = front ++ [char, '\n'] ∧ Text.isBlank char = false := by
  have some : (textOf script.fragments).trimRight ≠ [] := by
    intro empty
    rcases script.exists_head with ⟨rest, head⟩
    rw [text_eq_trimRight, empty] at head
    cases head
  rcases (List.eq_nil_or_concat _).resolve_left some with ⟨front, char, last⟩
  rw [List.concat_eq_append] at last
  refine ⟨front, char, ?_, ?_⟩
  · rw [text_eq_trimRight, last, List.append_assoc]
    rfl
  · apply Text.isBlank_of_getLast?_trimRight
    rw [last]
    exact List.getLast?_concat

/-- Only the last place holds the empty line. -/
theorem getElem?_of_append {lines : List Text} {number : Nat} {line : Text}
    (found : (lines ++ [[]])[number]? = some line) (some : line ≠ []) :
    lines[number]? = Option.some line := by
  by_cases inside : number < lines.length
  · rwa [List.getElem?_append_left inside] at found
  · rw [List.getElem?_append_right (Nat.le_of_not_lt inside)] at found
    have last : line ∈ [[]] := List.mem_of_getElem? found
    exact absurd (List.mem_singleton.mp last) some

/-- A visible line below the head is what a fragment has there, perhaps cut short at its
end, and it has the margin of the fragment. -/
theorem exists_source {script : Script} {number : Nat} {line : Text} (below : 0 < number)
    (found : script.text.lines[number]? = some line) (visible : line.all Text.isBlank = false) :
    exists fragment part, script.sources[number]? = some (fragment, margin fragment.depth ++ part) ∧
      script.Below fragment ∧ part ∈ fragment.body.lines ∧
      line <+: margin fragment.depth ++ part ∧ margin fragment.depth <+: line := by
  rcases script.exists_fragments with ⟨rest, fragments, belowAll⟩
  have nonempty : line ≠ [] := by
    rintro rfl
    cases visible
  have stripped : (textOf script.fragments).trimRight.lines[number]? = some line := by
    rw [text_eq_trimRight, Text.lines_append_newline] at found
    exact getElem?_of_append found nonempty
  rcases Text.exists_line_of_prefix (Text.trimRight_prefix _) stripped with ⟨longer, whole, begins⟩
  have longerSome : longer ≠ [] := by
    rintro rfl
    exact nonempty (List.prefix_nil.mp begins)
  have ended : ∀ fragment ∈ script.fragments, 0 < fragment.newlines := by
    rw [fragments, List.forall_mem_cons]
    exact ⟨by decide, fun fragment member => (belowAll fragment member).newlines_pos⟩
  have source : exists fragment, script.sources[number]? = some (fragment, longer) := by
    rw [lines_textOf ended] at whole
    have inSources := getElem?_of_append whole longerSome
    rw [List.getElem?_map, Option.map_eq_some_iff] at inSources
    rcases inSources with ⟨⟨fragment, text⟩, inSources, rfl⟩
    exact ⟨fragment, inSources⟩
  rcases source with ⟨owner, source⟩
  -- The head is two lines, of which the second is empty.
  have split : script.sources = [(defineFragment, "def pype(stdin):".toList), (defineFragment, [])] ++
      rest.flatMap Fragment.sources := by
    rw [sources, fragments]
    rfl
  have member : (owner, longer) ∈ rest.flatMap Fragment.sources := by
    rw [split] at source
    match number, below with
    | 1, _ =>
        cases source
        exact absurd rfl longerSome
    | number + 2, _ => exact List.mem_of_getElem? source
  rcases List.mem_flatMap.mp member with ⟨fragment, inRest, inFragment⟩
  rcases Fragment.exists_part inFragment longerSome with ⟨rfl, part, inBody, rfl⟩
  exact ⟨owner, part, source, belowAll owner inRest, inBody, begins,
    Text.prefix_of_visible (Text.all_isBlank_spaces _) begins visible⟩

/-! ## Least margins -/

/-- How many blanks a visible line has in front at least, depending on where it comes
from.  A handler moves the rest of the code one level to the right. -/
def leastBlanks (options : Command.Options) (origin : Origin) : Nat :=
  let inner := if (present options.handler).isSome then 1 else 0
  match origin with
  | .frame | .trace => 4
  | .before | .after => 4 * (inner + 1)
  | .main => if options.collect then 4 * (inner + 1) else 4 * (inner + 2)
  | .handler => 8

theorem depth_ofOptions (options : Command.Options) :
    (ofOptions options).depth = if (present options.handler).isSome then 2 else 1 := by
  rw [depth, ofOptions, ofExpanded, Option.isSome_map]

theorem Below.leastBlanks_le {options : Command.Options} {fragment : Fragment}
    (below : (ofOptions options).Below fragment) :
    leastBlanks options fragment.origin ≤ Text.indentWidth * fragment.depth.toNat := by
  have depth := depth_ofOptions options
  have collect : (ofOptions options).collect = options.collect := rfl
  unfold leastBlanks Text.indentWidth
  cases below with
  | own origin _ deep _ =>
      rcases origin with same | same <;> rw [same] <;> simp only <;> omega
  | before | after =>
      simp only [depth]
      split <;> decide
  | main =>
      simp only [depth, collect]
      split <;> split <;> decide
  | handler => exact Nat.le_refl 8

theorem Below.depth_pos {script : Script} {fragment : Fragment} (below : script.Below fragment) :
    1 ≤ fragment.depth := by
  have deep := script.depth_pos
  cases below with
  | own _ _ deep _ => exact deep
  | before | after => exact deep
  | main =>
      simp only
      split <;> omega
  | handler => exact (by decide : (1 : Int) ≤ 2)

theorem spaces_prefix_margin {count : Nat} {level : Int}
    (fits : count ≤ Text.indentWidth * level.toNat) : spaces count <+: margin level := by
  rw [margin, spaces, spaces, ← Nat.add_sub_of_le fits, ← List.replicate_append_replicate]
  exact List.prefix_append _ _

/-- Whatever the code is, each visible line of the function below its head has at least the
margin of the place it comes from, and the text ends in one newline behind a visible
character. -/
theorem ofOptions_text_indented (options : Command.Options) :
    (ofOptions options).text.lines.head? = some "def pype(stdin):".toList ∧
      (forall number line, 0 < number -> (ofOptions options).text.lines[number]? = some line ->
        line.all Text.isBlank = false ->
        exists fragment part,
          (ofOptions options).sources[number]? = some (fragment, margin fragment.depth ++ part) ∧
            (ofOptions options).Below fragment ∧ part ∈ fragment.body.lines ∧
            line <+: margin fragment.depth ++ part ∧ spaces 4 <+: line ∧
            spaces (leastBlanks options fragment.origin) <+: line) ∧
      exists front char, (ofOptions options).text = front ++ [char, '\n'] ∧
        Text.isBlank char = false := by
  refine ⟨?head, ?lines, exists_visible_end _⟩
  case head =>
    rcases (ofOptions options).exists_head with ⟨rest, head⟩
    rw [head, Text.lines_append_newline]
    rfl
  case lines =>
    intro number line below found visible
    rcases exists_source below found visible with
      ⟨fragment, part, source, stands, inBody, begins, indented⟩
    have one := stands.depth_pos
    have four : 4 ≤ Text.indentWidth * fragment.depth.toNat := by
      unfold Text.indentWidth
      omega
    exact ⟨fragment, part, source, stands, inBody, begins,
      (spaces_prefix_margin four).trans indented,
      (spaces_prefix_margin stands.leastBlanks_le).trans indented⟩

/-- Two closing braces too many, and a newline inside a literal. -/
def unmatchedOptions : Command.Options :=
  { Command.Options.default with
    handler := some ['z']
    code := ["\x7d\x7dx = '\ny'".toList] }

theorem ofOptions_text_indented_unmatched :
    (ofOptions unmatchedOptions).text.lines[10]? = some "            y'".toList ∧
      (exists fragment part,
        (ofOptions unmatchedOptions).sources[10]? = some (fragment, margin fragment.depth ++ part) ∧
          (ofOptions unmatchedOptions).Below fragment ∧ part ∈ fragment.body.lines ∧
          "            y'".toList <+: margin fragment.depth ++ part ∧
          spaces 4 <+: "            y'".toList ∧
          spaces (leastBlanks unmatchedOptions fragment.origin) <+: "            y'".toList) := by
  have found : (ofOptions unmatchedOptions).text.lines[10]? = some "            y'".toList := by
    decide
  exact ⟨found, (ofOptions_text_indented unmatchedOptions).2.1 10 _ (by decide) found (by decide)⟩

end Script
end Oneliner
