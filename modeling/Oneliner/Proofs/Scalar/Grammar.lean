import Mathlib.Data.List.DropRight
import Mathlib.Data.Nat.Digits.Defs
import Oneliner.Proofs.Scalar.ReadBack

namespace Oneliner

/-!
The grammar of numerals, and the conversion of texts by it.

The rules say which texts are numerals and what numbers they write, without saying
how they are read.  Reading first takes out the underscores and then looks for the
parts of a number; the rules have underscores inside the runs of digits, where they
belong.  The two agree because an underscore that is taken out stands between two
digits, so it never joins what a point, a sign or a mark keeps apart.
-/

namespace Numeral

/-! ### The rules -/

/-- Digits with single underscores between some of them, and the digits alone. -/
inductive Grouped : Text -> Text -> Prop where
  | last {digit : Char} : digit.isDigit = true -> Grouped [digit] [digit]
  | next {digit : Char} {text digits : Text} :
      digit.isDigit = true -> Grouped text digits -> Grouped (digit :: text) (digit :: digits)
  | gap {digit : Char} {text digits : Text} :
      digit.isDigit = true -> Grouped text digits -> Grouped (digit :: '_' :: text) (digit :: digits)

/-- Digits as before, or nothing. -/
def Run (text digits : Text) : Prop :=
  (text = [] ∧ digits = []) ∨ Grouped text digits

/-- A text with an optional sign, whether that is a minus sign, and what follows it. -/
inductive HasSign : Text -> Bool -> Text -> Prop where
  | bare (size : Text) : HasSign size false size
  | plus (size : Text) : HasSign ('+' :: size) false size
  | minus (size : Text) : HasSign ('-' :: size) true size

/-- The number that digits write by their places. -/
def placeValue (digits : Text) : Nat :=
  Nat.ofDigits 10 (digits.reverse.map fun digit => digit.toNat - '0'.toNat)

def withSign (negative : Bool) (size : Nat) : Int :=
  if negative then -size else size

/-- An integer, with its digits and its value. -/
inductive IsInteger : Text -> Text -> Int -> Prop where
  | intro {text size digits : Text} {negative : Bool} :
      HasSign text negative size -> Grouped size digits ->
        IsInteger text digits (withSign negative (placeValue digits))

/-- Digits with an optional point, and the digits before and behind the point. -/
inductive Mantissa : Text -> Text -> Text -> Prop where
  | whole {text digits : Text} : Grouped text digits -> Mantissa text digits []
  | pointed {before behind whole fraction : Text} :
      Run before whole -> Run behind fraction -> whole ++ fraction ≠ [] ->
        Mantissa (before ++ '.' :: behind) whole fraction

/-- An optional power of ten. -/
inductive Scale : Text -> Int -> Prop where
  | none : Scale [] 0
  | power {mark : Char} {text digits : Text} {power : Int} :
      mark = 'e' ∨ mark = 'E' -> IsInteger text digits power -> Scale (mark :: text) power

/-- A floating-point number: a word in letters of any case, or a decimal, which is
rounded. -/
inductive IsFloat : Text -> Double -> Prop where
  | infinity {text word : Text} {negative : Bool} :
      HasSign text negative word ->
        word.map Char.toLower = "inf".toList ∨ word.map Char.toLower = "infinity".toList ->
          IsFloat text (.infinity negative)
  | nan {text word : Text} {negative : Bool} :
      HasSign text negative word -> word.map Char.toLower = "nan".toList -> IsFloat text .nan
  | decimal {text mantissa scale whole fraction : Text} {negative : Bool} {power : Int} :
      HasSign text negative (mantissa ++ scale) -> Mantissa mantissa whole fraction ->
        Scale scale power ->
          IsFloat text
            (.ofDecimal negative (placeValue (whole ++ fraction)) (power - fraction.length))

/-! ### Underscores -/

theorem ungroup?_cons {char : Char} (other : char ≠ '_') (afterDigit : Bool) (rest : Text) :
    ungroup? afterDigit (char :: rest) = (ungroup? char.isDigit rest).map (char :: ·) := by
  rw [ungroup?]
  exact other

theorem ne_underscore_of_isDigit {char : Char} (digit : char.isDigit = true) : char ≠ '_' := by
  intro underscore
  subst underscore
  cases digit

namespace Grouped

variable {text digits : Text}

theorem head?_isDigit (grouped : Grouped text digits) : text.head?.any Char.isDigit = true := by
  cases grouped <;> assumption

theorem all_isDigit (grouped : Grouped text digits) : digits.all Char.isDigit = true := by
  induction grouped with
  | last digit => rw [List.all_cons, digit, List.all_nil, Bool.and_self]
  | next digit _ plain => rw [List.all_cons, digit, plain, Bool.and_self]
  | gap digit _ plain => rw [List.all_cons, digit, plain, Bool.and_self]

theorem ne_nil (grouped : Grouped text digits) : digits ≠ [] := by
  cases grouped <;> exact List.cons_ne_nil _ _

theorem isDigits (grouped : Grouped text digits) : Numeral.isDigits digits = true := by
  rw [Numeral.isDigits, grouped.all_isDigit, List.isEmpty_eq_false_iff.mpr grouped.ne_nil]
  rfl

theorem ungroup?_eq (grouped : Grouped text digits) (afterDigit : Bool) :
    ungroup? afterDigit text = some digits := by
  induction grouped generalizing afterDigit with
  | last digit =>
      rw [ungroup?_cons (ne_underscore_of_isDigit digit)]
      rfl
  | next digit _ taken =>
      rw [ungroup?_cons (ne_underscore_of_isDigit digit), taken]
      rfl
  | gap digit rest taken =>
      rw [ungroup?_cons (ne_underscore_of_isDigit digit), digit, ungroup?, rest.head?_isDigit,
        Bool.and_self, if_pos rfl, taken]
      rfl

end Grouped

/-- What leaves digits only is a run of digits; if a digit comes before, an underscore
may stand in front. -/
theorem run_or_gap_of_ungroup? {text digits : Text} {afterDigit : Bool}
    (taken : ungroup? afterDigit text = some digits) (plain : digits.all Char.isDigit = true) :
    Run text digits ∨ (afterDigit = true ∧ exists rest, text = '_' :: rest ∧ Grouped rest digits) := by
  induction text generalizing afterDigit digits with
  | nil => exact Or.inl (Or.inl ⟨rfl, (Option.some.inj taken).symm⟩)
  | cons char rest ih =>
      by_cases underscore : char = '_'
      · subst underscore
        rw [ungroup?] at taken
        split at taken
        · rename_i between
          rw [Bool.and_eq_true] at between
          refine Or.inr ⟨between.1, rest, rfl, ?_⟩
          -- No second underscore can follow, since no digit comes right before it.
          rcases ih taken plain with (⟨none, _⟩ | grouped) | ⟨after, _⟩
          · rw [none] at between
            cases between.2
          · exact grouped
          · cases after
        · cases taken
      · rw [ungroup?_cons underscore] at taken
        rcases Option.map_eq_some_iff.mp taken with ⟨others, rest, same⟩
        subst same
        rw [List.all_cons, Bool.and_eq_true] at plain
        rcases ih rest plain.2 with (⟨none, noDigits⟩ | grouped) | ⟨_, later, gap, grouped⟩
        · subst none noDigits
          exact Or.inl (Or.inr (.last plain.1))
        · exact Or.inl (Or.inr (.next plain.1 grouped))
        · subst gap
          exact Or.inl (Or.inr (.gap plain.1 grouped))

theorem run_iff_ungroup? {text digits : Text} :
    Run text digits <-> ungroup? false text = some digits ∧ digits.all Char.isDigit = true := by
  constructor
  · rintro (⟨rfl, rfl⟩ | grouped)
    · exact ⟨rfl, rfl⟩
    · exact ⟨grouped.ungroup?_eq false, grouped.all_isDigit⟩
  · rintro ⟨taken, plain⟩
    rcases run_or_gap_of_ungroup? taken plain with run | ⟨after, _⟩
    · exact run
    · cases after

theorem Run.grouped {text digits : Text} (run : Run text digits) (some : digits ≠ []) :
    Grouped text digits := by
  rcases run with ⟨_, none⟩ | grouped
  · exact absurd none some
  · exact grouped

theorem grouped_iff_ungroup? {text digits : Text} :
    Grouped text digits <-> ungroup? false text = some digits ∧ isDigits digits = true := by
  constructor
  · exact fun grouped => ⟨grouped.ungroup?_eq false, grouped.isDigits⟩
  · rintro ⟨taken, plain⟩
    rw [isDigits, Bool.and_eq_true, Bool.not_eq_true', List.isEmpty_eq_false_iff] at plain
    exact (run_iff_ungroup?.mpr ⟨taken, plain.2⟩).grouped plain.1

/-- A character that is neither a digit nor an underscore divides the work. -/
theorem ungroup?_append_cons {mark : Char} (noDigit : mark.isDigit = false) (other : mark ≠ '_')
    (afterDigit : Bool) (front back : Text) :
    ungroup? afterDigit (front ++ mark :: back) =
      (ungroup? afterDigit front).bind fun plain =>
        (ungroup? false back).map fun rest => plain ++ mark :: rest := by
  induction front generalizing afterDigit with
  | nil =>
      rw [List.nil_append, ungroup?_cons other, noDigit]
      rfl
  | cons char front ih =>
      rw [List.cons_append]
      by_cases underscore : char = '_'
      · subst underscore
        have begins : (front ++ mark :: back).head?.any Char.isDigit =
            front.head?.any Char.isDigit := by
          cases front with
          | nil => exact noDigit
          | cons _ _ => rfl
        rw [ungroup?, ungroup?, begins, ih]
        split <;> rfl
      · rw [ungroup?_cons underscore, ungroup?_cons underscore, ih, Option.bind_map]
        cases ungroup? char.isDigit front with
        | none => rfl
        | some plain =>
            rw [Option.bind_some, Option.bind_some, Option.map_map]
            rfl

/-- Such a character is found where it was. -/
theorem exists_append_of_ungroup? {text front back : Text} {mark : Char} {afterDigit : Bool}
    (noDigit : mark.isDigit = false)
    (taken : ungroup? afterDigit text = some (front ++ mark :: back)) :
    exists before behind, text = before ++ mark :: behind ∧
      ungroup? afterDigit before = some front ∧ ungroup? false behind = some back := by
  induction text generalizing afterDigit front with
  | nil => exact absurd (Option.some.inj taken) (by simp)
  | cons char rest ih =>
      by_cases underscore : char = '_'
      · subst underscore
        rw [ungroup?] at taken
        split at taken
        · rename_i between
          rcases ih taken with ⟨before, behind, rfl, front, back⟩
          refine ⟨'_' :: before, behind, rfl, ?_, back⟩
          -- The underscore has a digit behind it, which is not the mark.
          cases before with
          | nil =>
              rw [Bool.and_eq_true] at between
              exact absurd between.2 (by simp [noDigit])
          | cons first before =>
              rw [ungroup?]
              exact (if_pos between).trans front
        · cases taken
      · rw [ungroup?_cons underscore] at taken
        rcases Option.map_eq_some_iff.mp taken with ⟨others, later, same⟩
        cases front with
        | nil =>
            rcases List.cons.inj same with ⟨rfl, rfl⟩
            rw [noDigit] at later
            exact ⟨[], rest, rfl, rfl, later⟩
        | cons first front =>
            rcases List.cons.inj same with ⟨rfl, rfl⟩
            rcases ih later with ⟨before, behind, rfl, front, back⟩
            refine ⟨char :: before, behind, rfl, ?_, back⟩
            rw [ungroup?_cons underscore, front]
            rfl

/-! ### Signs -/

theorem hasSign_splitSign (text : Text) : HasSign text (splitSign text).1 (splitSign text).2 := by
  unfold splitSign
  split
  · exact .minus _
  · exact .plus _
  · exact .bare _

/-- A text that does not begin with a sign. -/
def Unsigned (size : Text) : Prop :=
  size.head? ≠ some '-' ∧ size.head? ≠ some '+'

instance (size : Text) : Decidable (Unsigned size) :=
  inferInstanceAs (Decidable (_ ∧ _))

theorem HasSign.splitSign_eq {text size : Text} {negative : Bool} (sign : HasSign text negative size)
    (unsigned : Unsigned size) : splitSign text = (negative, size) := by
  cases sign with
  | bare =>
      unfold splitSign
      split
      · exact absurd rfl unsigned.1
      · exact absurd rfl unsigned.2
      · rfl
  | plus => rfl
  | minus => rfl

theorem unsigned_of_isDigit {size : Text} (begins : size.head?.any Char.isDigit = true) :
    Unsigned size := by
  constructor <;>
    · intro sign
      rw [sign] at begins
      cases begins

theorem exists_cons_of_ungroup? {text back : Text} {mark : Char} (noDigit : mark.isDigit = false)
    (taken : ungroup? false text = some (mark :: back)) :
    exists behind, text = mark :: behind ∧ ungroup? false behind = some back := by
  have divided : ungroup? false text = some ([] ++ mark :: back) := taken
  rcases exists_append_of_ungroup? noDigit divided with ⟨before, behind, rfl, none, later⟩
  rcases run_iff_ungroup?.mpr ⟨none, rfl⟩ with ⟨rfl, _⟩ | grouped
  · exact ⟨behind, rfl, later⟩
  · exact absurd rfl grouped.ne_nil

/-- Taking out underscores leaves the sign where it is. -/
theorem exists_hasSign_of_ungroup? {text rest size : Text} {negative : Bool}
    (taken : ungroup? false text = some rest) (sign : HasSign rest negative size) :
    exists written, HasSign text negative written ∧ ungroup? false written = some size := by
  cases sign with
  | bare => exact ⟨text, .bare text, taken⟩
  | plus =>
      rcases exists_cons_of_ungroup? rfl taken with ⟨written, rfl, later⟩
      exact ⟨written, .plus written, later⟩
  | minus =>
      rcases exists_cons_of_ungroup? rfl taken with ⟨written, rfl, later⟩
      exact ⟨written, .minus written, later⟩

/-! ### Integers -/

theorem valueOf_eq_placeValue (digits : Text) : valueOf digits = placeValue digits := by
  induction digits using List.reverseRecOn with
  | nil => rfl
  | append_singleton front last same =>
      rw [valueOf_snoc, same, placeValue, placeValue, List.reverse_append, List.reverse_singleton,
        List.singleton_append, List.map_cons, Nat.ofDigits_cons, Nat.add_comm]

theorem integer?_eq_some_iff {text : Text} {value : Int} :
    integer? text = some value <->
      exists digits, IsInteger text digits value ∧ digits.length ≤ Scalar.digitLimit := by
  constructor
  · intro read
    have sign := hasSign_splitSign text
    rw [integer?] at read
    generalize splitSign text = split at read sign
    rcases Option.bind_eq_some_iff.mp read with ⟨digits, taken, found⟩
    split at found
    · rename_i fits
      rw [Bool.and_eq_true, decide_eq_true_eq] at fits
      have grouped := grouped_iff_ungroup?.mpr ⟨taken, fits.1⟩
      rw [← Option.some.inj found, valueOf_eq_placeValue]
      exact ⟨digits, .intro sign grouped, fits.2⟩
    · cases found
  · rintro ⟨digits, ⟨sign, grouped⟩, few⟩
    rw [integer?, sign.splitSign_eq (unsigned_of_isDigit grouped.head?_isDigit)]
    simp only
    rw [grouped.ungroup?_eq, Option.bind_some, grouped.isDigits, Bool.true_and,
      if_pos (decide_eq_true few), valueOf_eq_placeValue]
    rfl

/-! ### Decimals -/

/-- Digits before a power of ten, once the underscores are out. -/
theorem exists_scale_of_ungroup? {text digits tail : Text} {power : Int}
    (taken : ungroup? false text = some (digits ++ tail)) (plain : digits.all Char.isDigit = true)
    (read : power? tail = some power) :
    exists front scale, text = front ++ scale ∧ Run front digits ∧ Scale scale power := by
  rcases power?_eq_some read with ⟨rfl, rfl⟩ | ⟨mark, rest, rfl, marked, sizes, value⟩
  · rw [List.append_nil] at taken
    exact ⟨text, [], (List.append_nil text).symm, run_iff_ungroup?.mpr ⟨taken, plain⟩, .none⟩
  · have noDigit : mark.isDigit = false := by
      rcases marked with rfl | rfl <;> rfl
    rcases exists_append_of_ungroup? noDigit taken with ⟨front, behind, rfl, front?, behind?⟩
    rcases exists_hasSign_of_ungroup? behind? (hasSign_splitSign rest) with ⟨size, sign, size?⟩
    refine ⟨front, mark :: behind, rfl, run_iff_ungroup?.mpr ⟨front?, plain⟩, ?_⟩
    rw [value, valueOf_eq_placeValue]
    exact .power marked (.intro sign (grouped_iff_ungroup?.mpr ⟨size?, sizes⟩))

/-- A written integer without its underscores. -/
theorem IsInteger.exists_ungroup? {text digits : Text} {value : Int}
    (integer : IsInteger text digits value) :
    exists rest, ungroup? false text = some rest ∧ (splitSign rest).2 = digits ∧
      withSign (splitSign rest).1 (placeValue digits) = value := by
  rcases integer with ⟨sign, grouped⟩
  have taken := grouped.ungroup?_eq false
  cases sign with
  | bare =>
      have bare : splitSign digits = (false, digits) := by
        apply (HasSign.bare digits).splitSign_eq
        apply unsigned_of_isDigit
        cases grouped <;> assumption
      exact ⟨digits, taken, by rw [bare], by rw [bare]⟩
  | plus =>
      refine ⟨'+' :: digits, ?_, rfl, rfl⟩
      rw [ungroup?_cons (by decide)]
      exact congrArg _ taken
  | minus =>
      refine ⟨'-' :: digits, ?_, rfl, rfl⟩
      rw [ungroup?_cons (by decide)]
      exact congrArg _ taken

/-- A power of ten without its underscores, behind anything. -/
theorem Scale.exists_power? {scale : Text} {power : Int} (scaled : Scale scale power) :
    exists tail, power? tail = some power ∧
      forall {front plain : Text}, ungroup? false front = some plain ->
        ungroup? false (front ++ scale) = some (plain ++ tail) := by
  cases scaled with
  | none =>
      refine ⟨[], rfl, ?_⟩
      intro front plain taken
      rw [List.append_nil, List.append_nil, taken]
  | power marked integer =>
      rename_i mark text digits
      rcases integer.exists_ungroup? with ⟨rest, rest?, size, value⟩
      rcases integer with ⟨_, grouped⟩
      refine ⟨mark :: rest, ?_, ?_⟩
      · have plain : isDigits (splitSign rest).2 = true := by rw [size, grouped.isDigits]
        have accepted : (decide (mark = 'e') || decide (mark = 'E')) = true := by
          rwa [Bool.or_eq_true, decide_eq_true_eq, decide_eq_true_eq]
        simp only [power?]
        rw [accepted, plain, Bool.and_self, if_pos rfl, size, valueOf_eq_placeValue, ← value]
        rfl
      · intro front plain taken
        have other : mark.isDigit = false ∧ mark ≠ '_' := by
          rcases marked with rfl | rfl <;> decide
        rw [ungroup?_append_cons other.1 other.2, taken, Option.bind_some, rest?, Option.map_some]

/-- The parts that reading a decimal finds. -/
theorem decimal?_eq_some {negative : Bool} {size : Text} {number : Double}
    (read : decimal? negative size = some number) :
    exists whole fraction tail power, whole.all Char.isDigit = true ∧
      fraction.all Char.isDigit = true ∧ whole ++ fraction ≠ [] ∧ power? tail = some power ∧
      ((size = whole ++ tail ∧ fraction = []) ∨ size = whole ++ '.' :: (fraction ++ tail)) ∧
      number = .ofDecimal negative (valueOf (whole ++ fraction)) (power - fraction.length) := by
  have cut := List.takeWhile_append_dropWhile (p := Char.isDigit) (l := size)
  have digits : forall text : Text, (text.takeWhile Char.isDigit).all Char.isDigit = true :=
    fun text => List.all_eq_true.mpr fun _ member => List.mem_takeWhile_imp member
  simp only [decimal?] at read
  split at read
  · rename_i rest point
    split at read
    · cases read
    · rename_i some
      rcases Option.map_eq_some_iff.mp read with ⟨power, read, made⟩
      refine ⟨_, _, _, power, digits size, digits rest, ?_, read, Or.inr ?_, made.symm⟩
      · rw [Bool.and_eq_true, List.isEmpty_iff, List.isEmpty_iff] at some
        rwa [Ne, List.append_eq_nil_iff]
      · rw [List.takeWhile_append_dropWhile, ← point, cut]
  · split at read
    · cases read
    · rename_i some
      rcases Option.map_eq_some_iff.mp read with ⟨power, read, made⟩
      refine ⟨_, [], _, power, digits size, rfl, ?_, read, Or.inl ⟨cut.symm, rfl⟩, made.symm⟩
      rw [Bool.and_eq_true, List.isEmpty_iff, List.isEmpty_iff] at some
      rwa [Ne, List.append_eq_nil_iff]

theorem decimal?_bind_eq_some_iff {negative : Bool} {size : Text} {number : Double} :
    (ungroup? false size).bind (decimal? negative) = some number <->
      exists mantissa scale whole fraction power, size = mantissa ++ scale ∧
        Mantissa mantissa whole fraction ∧ Scale scale power ∧
        number = .ofDecimal negative (placeValue (whole ++ fraction)) (power - fraction.length) := by
  constructor
  · intro read
    rcases Option.bind_eq_some_iff.mp read with ⟨plain, taken, read⟩
    rcases decimal?_eq_some read with
      ⟨whole, fraction, tail, power, digits, fractionDigits, some, power?, shape, made⟩
    rw [valueOf_eq_placeValue] at made
    rcases shape with ⟨rfl, rfl⟩ | rfl
    · rcases exists_scale_of_ungroup? taken digits power? with ⟨front, scale, rfl, run, scaled⟩
      rw [List.append_nil] at some
      exact ⟨front, scale, whole, [], power, rfl, .whole (run.grouped some), scaled, made⟩
    · rcases exists_append_of_ungroup? rfl taken with ⟨before, behind, rfl, before?, behind?⟩
      rcases exists_scale_of_ungroup? behind? fractionDigits power? with
        ⟨front, scale, rfl, run, scaled⟩
      refine ⟨before ++ '.' :: front, scale, whole, fraction, power, ?_, ?_, scaled, made⟩
      · rw [List.append_assoc, List.cons_append]
      · exact .pointed (run_iff_ungroup?.mpr ⟨before?, digits⟩) run some
  · rintro ⟨mantissa, scale, whole, fraction, power, rfl, shape, scaled, rfl⟩
    rcases scaled.exists_power? with ⟨tail, read, behind⟩
    cases shape with
    | whole grouped =>
        rw [behind (grouped.ungroup?_eq false), Option.bind_some,
          decimal?_whole negative grouped.ne_nil grouped.all_isDigit read, valueOf_eq_placeValue,
          List.append_nil, List.length_nil, Nat.cast_zero, sub_zero]
    | pointed before after some =>
        rw [run_iff_ungroup?] at before after
        rw [List.append_assoc, List.cons_append, ungroup?_append_cons rfl (by decide), before.1,
          behind after.1, Option.bind_some, Option.map_some, Option.bind_some,
          decimal?_pointed negative some before.2 after.2 read, valueOf_eq_placeValue]

/-! ### Floating-point numbers -/

/-- A word is known by its letters in lower case, none of which is a sign. -/
theorem unsigned_of_map_toLower {word name : Text} (same : word.map Char.toLower = name)
    (unsigned : Unsigned name) : Unsigned word := by
  rw [← same, Unsigned, List.head?_map] at unsigned
  constructor
  · intro sign
    rw [sign] at unsigned
    exact unsigned.1 rfl
  · intro sign
    rw [sign] at unsigned
    exact unsigned.2 rfl

/-- The characters with which a decimal can begin. -/
def beginnings : Text := "0123456789.".toList

theorem Mantissa.head?_mem {mantissa whole fraction : Text} (shape : Mantissa mantissa whole fraction) :
    exists first rest, mantissa = first :: rest ∧ first ∈ beginnings := by
  have digits : forall {text plain rest : Text}, Grouped text plain ->
      exists first later, text ++ rest = first :: later ∧ first ∈ beginnings := by
    intro text plain rest grouped
    have begins := grouped.head?_isDigit
    cases text with
    | nil => cases begins
    | cons first later =>
        exact ⟨first, later ++ rest, rfl, List.mem_append_left _ (mem_characters_of_isDigit begins)⟩
  cases shape with
  | whole grouped => exact List.append_nil mantissa ▸ digits grouped
  | pointed before after some =>
      rcases before with ⟨rfl, _⟩ | grouped
      · exact ⟨'.', _, rfl, by decide⟩
      · exact digits grouped

/-- A decimal begins with neither a sign nor a letter. -/
theorem Mantissa.begins {mantissa whole fraction : Text} (shape : Mantissa mantissa whole fraction)
    (scale : Text) : Unsigned (mantissa ++ scale) ∧
      forall word : Text, word.head?.all (fun first => !beginnings.contains first) = true ->
        (mantissa ++ scale).map Char.toLower ≠ word := by
  rcases shape.head?_mem with ⟨first, rest, rfl, listed⟩
  have plain : beginnings.all (fun char =>
      char.toLower = char && char ≠ '-' && char ≠ '+') = true := by decide
  have kept := List.all_eq_true.mp plain first listed
  simp only [Bool.and_eq_true, decide_eq_true_eq] at kept
  refine ⟨⟨by simp [kept], by simp [kept]⟩, ?_⟩
  intro word letters same
  rw [List.cons_append, List.map_cons, kept.1.1] at same
  subst same
  simp [listed] at letters

theorem double?_eq_some_iff {text : Text} {number : Double} :
    double? text = some number <-> IsFloat text number := by
  constructor
  · intro read
    have sign := hasSign_splitSign text
    simp only [double?] at read
    split at read
    · rename_i word
      rw [Bool.or_eq_true, decide_eq_true_eq, decide_eq_true_eq] at word
      rw [← Option.some.inj read]
      exact .infinity sign word
    split at read
    · rename_i word
      rw [← Option.some.inj read]
      exact .nan sign word
    rcases decimal?_bind_eq_some_iff.mp read with
      ⟨mantissa, scale, whole, fraction, power, written, shape, scaled, rfl⟩
    rw [written] at sign
    exact .decimal sign shape scaled
  · intro shape
    cases shape with
    | infinity sign word =>
        have unsigned := word.elim (unsigned_of_map_toLower · (by decide))
          (unsigned_of_map_toLower · (by decide))
        rw [double?, sign.splitSign_eq unsigned]
        simp only
        rw [if_pos (by rwa [Bool.or_eq_true, decide_eq_true_eq, decide_eq_true_eq])]
    | nan sign word =>
        rw [double?, sign.splitSign_eq (unsigned_of_map_toLower word (by decide))]
        simp only
        rw [word]
        rfl
    | decimal sign shape scaled =>
        rcases shape.begins _ with ⟨unsigned, noWord⟩
        rw [double?, sign.splitSign_eq unsigned]
        simp only
        rw [decide_eq_false (noWord _ (by decide)), decide_eq_false (noWord _ (by decide)),
          Bool.or_self, if_neg Bool.false_ne_true, if_neg (noWord _ (by decide))]
        exact decimal?_bind_eq_some_iff.mpr ⟨_, _, _, _, _, rfl, shape, scaled, rfl⟩

end Numeral
end Oneliner
