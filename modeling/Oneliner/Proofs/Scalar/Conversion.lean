import Oneliner.Proofs.Scalar.Grammar

namespace Oneliner

/-!
What a text is converted to.

White space around a numeral is dropped and digits of all scripts are read as plain
ones; what remains decides, by the rules for numerals.  Reading brings white space
into its plain form as well, also inside the text, but a text with white space
inside is no numeral in either form.
-/

namespace Numeral

/-! ### Plain form -/

/-- The white space that is dropped: all but the information separators. -/
def isSpace (char : Char) : Bool :=
  Text.isBlank char && !(0x1c ≤ char.toNat && char.toNat ≤ 0x1f)

/-- A decimal digit of any script as the plain digit of the same value. -/
def asciiDigit (char : Char) : Char :=
  ((Text.digitValue? char).map Text.digitChar).getD char

/-- What is left of a text without the given white space around it, in plain digits. -/
def core (space : Char -> Bool) (text : Text) : Text :=
  ((text.dropWhile space).rdropWhile space).map asciiDigit

/-- What can be checked for the numbers of the plain characters holds of them. -/
theorem of_ascii {P : Char -> Prop} (all : forall code, code < 0x80 -> P (Char.ofNat code))
    {char : Char} (ascii : char.toNat < 0x80) : P char := by
  rw [← Char.ofNat_toNat char]
  exact all char.toNat ascii

theorem asciiDigit_eq_self {char : Char} (ascii : char.toNat < 0x80) : asciiDigit char = char :=
  of_ascii (P := fun char => asciiDigit char = char) (by decide +kernel) ascii

/-- A digit has its place in the row of its script. -/
theorem exists_zero_of_digitValue? {char : Char} {value : Nat}
    (digit : Text.digitValue? char = some value) :
    exists first, first ∈ Text.zeros ∧ value < 10 ∧ char.toNat = first + value := by
  rcases Option.map_eq_some_iff.mp digit with ⟨first, found, same⟩
  have inside := List.find?_some found
  rw [Bool.and_eq_true, decide_eq_true_eq, decide_eq_true_eq] at inside
  exact ⟨first, List.mem_of_find?_eq_some found, by omega, by omega⟩

/-- No digit is white space. -/
theorem isBlank_eq_false_of_digitValue? {char : Char} {value : Nat}
    (digit : Text.digitValue? char = some value) : Text.isBlank char = false := by
  rcases exists_zero_of_digitValue? digit with ⟨first, listed, small, code⟩
  have apart : forall first, first ∈ Text.zeros -> forall value, value < 10 ->
      Text.blankRanges.all (fun range => first + value < range.1 || range.2 < first + value) = true := by
    decide +kernel
  have outside := List.all_eq_true.mp (apart first listed value small)
  rw [Text.isBlank, Text.Ranges.has, code, List.any_eq_false]
  intro range member
  have away := outside range member
  simp only [Bool.or_eq_true, decide_eq_true_eq] at away
  simp only [Bool.and_eq_true, decide_eq_true_eq]
  omega

theorem isPadding_digitChar {value : Nat} (small : value < 10) :
    isPadding (Text.digitChar value) = false := by
  have all : forall value, value < 10 -> isPadding (Text.digitChar value) = false := by decide
  exact all value small

/-- White space is known by its plain form. -/
theorem isPadding_plainChar (char : Char) : isPadding (plainChar char) = isSpace char := by
  unfold plainChar
  split
  · rename_i ascii
    exact of_ascii (P := fun char => isPadding char = isSpace char) (by decide +kernel) ascii
  · rename_i far
    have noSeparator : (0x1c ≤ char.toNat && char.toNat ≤ 0x1f) = false := by
      rw [Bool.and_eq_false_iff, decide_eq_false_iff_not, decide_eq_false_iff_not]
      omega
    rw [isSpace, noSeparator, Bool.not_false, Bool.and_true]
    split
    · rename_i blank
      rw [blank]
      rfl
    · rename_i visible
      rw [Bool.eq_false_iff.mpr visible]
      split
      · rename_i value digit
        rcases exists_zero_of_digitValue? digit with ⟨_, _, small, _⟩
        exact isPadding_digitChar small
      · have blank : char ≠ ' ' := by
          rintro rfl
          exact far (by decide)
        have high : ¬char ≤ '\r' := by
          intro low
          have bound : char.toNat ≤ 13 := low
          omega
        rw [isPadding, decide_eq_false blank, decide_eq_false high, Bool.and_false, Bool.or_false]

theorem body_eq_map_plainChar (text : Text) :
    body text = ((text.dropWhile isSpace).rdropWhile isSpace).map plainChar := by
  have same : isPadding ∘ plainChar = isSpace := funext isPadding_plainChar
  simp only [body, List.rdropWhile]
  rw [List.dropWhile_map, same, ← List.map_reverse, List.dropWhile_map, same, List.map_reverse]

/-! ### White space inside -/

/-- The characters of numerals are plain ones, and not blank. -/
def Legible (char : Char) : Prop :=
  char ≠ ' ' ∧ char.toNat < 0x80

instance (char : Char) : Decidable (Legible char) :=
  inferInstanceAs (Decidable (_ ∧ _))

/-- The plain form and the plain digit of a character differ only for white space, and
then neither belongs to a numeral. -/
theorem plainChar_eq_asciiDigit {char : Char}
    (legible : Legible (plainChar char) ∨ Legible (asciiDigit char)) :
    plainChar char = asciiDigit char := by
  unfold plainChar at *
  split
  · rename_i ascii
    exact (asciiDigit_eq_self ascii).symm
  · rename_i far
    rw [if_neg far] at legible
    unfold asciiDigit at *
    split
    · rename_i blank
      rw [if_pos blank] at legible
      cases digit : Text.digitValue? char with
      | some value =>
          rw [isBlank_eq_false_of_digitValue? digit] at blank
          cases blank
      | none =>
          rw [digit] at legible
          rcases legible with noBlank | ascii
          · exact absurd rfl noBlank.1
          · exact absurd ascii.2 far
    · cases Text.digitValue? char <;> rfl

theorem body_eq_core {text : Text}
    (legible : (forall char, char ∈ body text -> Legible char) ∨
      forall char, char ∈ core isSpace text -> Legible char) :
    body text = core isSpace text := by
  rw [body_eq_map_plainChar] at *
  apply List.map_congr_left
  intro char member
  apply plainChar_eq_asciiDigit
  exact legible.imp (fun all => all _ (List.mem_map_of_mem member))
    (fun all => all _ (List.mem_map_of_mem member))

/-- A rule that accepts texts of legible characters only accepts the plain form of a
text and its core alike. -/
theorem body_iff_core (Rule : Text -> Prop)
    (legible : forall text, Rule text -> forall char, char ∈ text -> Legible char) (text : Text) :
    Rule (body text) <-> Rule (core isSpace text) := by
  constructor
  · intro holds
    rwa [← body_eq_core (Or.inl (legible _ holds))]
  · intro holds
    rwa [body_eq_core (Or.inr (legible _ holds))]

theorem legible_of_all {text : Text} (all : text.all (Legible ·) = true) :
    forall char, char ∈ text -> Legible char :=
  fun char member => of_decide_eq_true (List.all_eq_true.mp all char member)

theorem legible_of_isDigit {char : Char} (digit : char.isDigit = true) : Legible char :=
  legible_of_all (by decide) char (mem_characters_of_isDigit digit)

theorem Grouped.legible {text digits : Text} (grouped : Grouped text digits) :
    forall char, char ∈ text -> Legible char := by
  induction grouped with
  | last digit => exact List.forall_mem_singleton.mpr (legible_of_isDigit digit)
  | next digit _ rest => exact List.forall_mem_cons.mpr ⟨legible_of_isDigit digit, rest⟩
  | gap digit _ rest =>
      exact List.forall_mem_cons.mpr
        ⟨legible_of_isDigit digit, List.forall_mem_cons.mpr ⟨by decide, rest⟩⟩

theorem Run.legible {text digits : Text} (run : Run text digits) :
    forall char, char ∈ text -> Legible char := by
  rcases run with ⟨rfl, _⟩ | grouped
  · exact List.forall_mem_nil _
  · exact grouped.legible

theorem HasSign.legible {text size : Text} {negative : Bool} (sign : HasSign text negative size)
    (rest : forall char, char ∈ size -> Legible char) : forall char, char ∈ text -> Legible char := by
  cases sign with
  | bare => exact rest
  | plus => exact List.forall_mem_cons.mpr ⟨by decide, rest⟩
  | minus => exact List.forall_mem_cons.mpr ⟨by decide, rest⟩

theorem IsInteger.legible {text digits : Text} {value : Int} (integer : IsInteger text digits value) :
    forall char, char ∈ text -> Legible char := by
  rcases integer with ⟨sign, grouped⟩
  exact sign.legible grouped.legible

theorem Mantissa.legible {text whole fraction : Text} (shape : Mantissa text whole fraction) :
    forall char, char ∈ text -> Legible char := by
  cases shape with
  | whole grouped => exact grouped.legible
  | pointed before behind _ =>
      exact List.forall_mem_append.mpr ⟨before.legible,
        List.forall_mem_cons.mpr ⟨by decide, behind.legible⟩⟩

theorem Scale.legible {text : Text} {power : Int} (scaled : Scale text power) :
    forall char, char ∈ text -> Legible char := by
  cases scaled with
  | none => exact List.forall_mem_nil _
  | power marked integer =>
      refine List.forall_mem_cons.mpr ⟨?_, integer.legible⟩
      rcases marked with rfl | rfl <;> decide

/-- Lower case keeps blanks and characters that are not plain. -/
theorem legible_of_toLower {char : Char} (legible : Legible char.toLower) : Legible char := by
  constructor
  · rintro rfl
    exact legible.1 rfl
  · by_contra far
    have kept : char.toLower = char := by
      unfold Char.toLower
      split
      · rename_i capital
        have bound : char.toNat ≤ 90 := capital.2
        omega
      · rfl
    rw [kept] at legible
    exact far legible.2

theorem legible_of_map_toLower {word name : Text} (same : word.map Char.toLower = name)
    (plain : forall char, char ∈ name -> Legible char) : forall char, char ∈ word -> Legible char := by
  intro char member
  apply legible_of_toLower
  apply plain
  rw [← same]
  exact List.mem_map_of_mem member

theorem IsFloat.legible {text : Text} {number : Double} (float : IsFloat text number) :
    forall char, char ∈ text -> Legible char := by
  cases float with
  | infinity sign word =>
      apply sign.legible
      rcases word with word | word
      · exact legible_of_map_toLower word (legible_of_all (by decide))
      · exact legible_of_map_toLower word (legible_of_all (by decide))
  | nan sign word => exact sign.legible (legible_of_map_toLower word (legible_of_all (by decide)))
  | decimal sign shape scaled =>
      exact sign.legible (List.forall_mem_append.mpr ⟨shape.legible, scaled.legible⟩)

/-! ### Conversion -/

/-- An integer with no more digits than may be read. -/
def IsReadable (text : Text) (value : Int) : Prop :=
  exists digits, IsInteger text digits value ∧ digits.length ≤ 4300

theorem integer?_body_iff {text : Text} {value : Int} :
    integer? (body text) = some value <-> IsReadable (core isSpace text) value := by
  rw [integer?_eq_some_iff]
  apply body_iff_core (IsReadable · value)
  rintro written ⟨_, integer, _⟩
  exact integer.legible

theorem double?_body_iff {text : Text} {number : Double} :
    double? (body text) = some number <-> IsFloat (core isSpace text) number := by
  rw [double?_eq_some_iff]
  exact body_iff_core (IsFloat · number) (fun _ float => float.legible) text

end Numeral

namespace Scalar

open Numeral

/-- A text is converted to the integer that it writes, else to the floating-point number
that it writes, and otherwise it is kept. -/
theorem convert_str_iff (text : Text) :
    (forall value, (str text).convert = int value <-> IsReadable (core isSpace text) value) ∧
      (forall number, (str text).convert = float number <->
        (forall value, ¬IsReadable (core isSpace text) value) ∧
          IsFloat (core isSpace text) number) ∧
      ((str text).convert = str text <->
        (forall value, ¬IsReadable (core isSpace text) value) ∧
          forall number, ¬IsFloat (core isSpace text) number) := by
  simp only [← integer?_body_iff, ← double?_body_iff]
  rw [convert, read?]
  cases Numeral.integer? (body text) with
  | some value => simp
  | none => cases double? (body text) <;> simp

/-- The separators are not dropped, though they count as white space elsewhere. -/
theorem convert_str_keeps_separator :
    ¬forall (text : Text) (value : Int), (str text).convert = int value <->
      IsReadable (core (if text.all (·.toNat < 0x80) then isPadding else Text.isBlank) text) value := by
  intro dropped
  have remaining : core (if ['\x1c', '١'].all (·.toNat < 0x80) then isPadding else Text.isBlank)
      ['\x1c', '١'] = ['1'] := by decide +kernel
  have one : IsReadable ['1'] 1 := ⟨['1'], .intro (.bare _) (.last rfl), by simp⟩
  have converted := (dropped ['\x1c', '١'] 1).mpr (remaining.symm ▸ one)
  have kept : (str ['\x1c', '١']).convert = str ['\x1c', '١'] := by decide +kernel
  rw [kept] at converted
  cases converted

end Scalar

/-! ### Integers of any length -/

namespace Numeral

theorem grouped_self {digits : Text} (plain : isDigits digits = true) : Grouped digits digits := by
  refine grouped_iff_ungroup?.mpr ⟨ungroup?_eq_self ?_ false, plain⟩
  intro underscore
  rw [isDigits, Bool.and_eq_true] at plain
  exact ne_underscore_of_isDigit (List.all_eq_true.mp plain.2 '_' underscore) rfl

theorem hasSign_signed (negative : Bool) (size : Text) : HasSign (signed negative size) negative size := by
  cases negative with
  | true => exact .minus size
  | false => exact .bare size

/-- A text has the digits of one integer only. -/
theorem IsInteger.digits_unique {text digits others : Text} {value other : Int}
    (integer : IsInteger text digits value) (second : IsInteger text others other) :
    digits = others := by
  rcases integer with ⟨sign, grouped⟩
  rcases second with ⟨sign', grouped'⟩
  have split := sign.splitSign_eq (unsigned_of_isDigit grouped.head?_isDigit)
  rw [sign'.splitSign_eq (unsigned_of_isDigit grouped'.head?_isDigit)] at split
  rw [(Prod.mk.inj split).2] at grouped'
  exact Option.some.inj ((grouped.ungroup?_eq false).symm.trans (grouped'.ungroup?_eq false))

theorem body_signed (negative : Bool) {digits : Text} (plain : isDigits digits = true) :
    body (signed negative digits) = signed negative digits := by
  rw [isDigits, Bool.and_eq_true] at plain
  apply body_eq_self
  intro char member
  rcases List.mem_append.mp member with sign | member
  · cases negative with
    | true =>
        rw [List.mem_singleton.mp sign]
        decide
    | false => cases sign
  · exact isDigit_subset (List.all_eq_true.mp plain.2 char member)

/-- A number without a zero in front is as large as its length says. -/
theorem two_pow_le_placeValue {first : Char} {rest : Text} {bits : Nat} (digit : first.isDigit = true)
    (leading : first ≠ '0') (few : bits ≤ rest.length) : 2 ^ bits ≤ placeValue (first :: rest) := by
  have all : "0123456789".toList.all (fun char => char = '0' || 1 ≤ valueOf [char]) = true := by decide
  have positive := List.all_eq_true.mp all first (mem_characters_of_isDigit digit)
  rw [decide_eq_false leading, Bool.false_or, decide_eq_true_eq] at positive
  calc 2 ^ bits ≤ 10 ^ bits := Nat.pow_le_pow_left (by decide) bits
    _ ≤ 10 ^ rest.length := Nat.pow_le_pow_right (by decide) few
    _ ≤ 10 ^ rest.length * valueOf [first] := Nat.le_mul_of_pos_right _ positive
    _ ≤ 10 ^ rest.length * valueOf [first] + valueOf rest := Nat.le_add_right _ _
    _ = placeValue (first :: rest) := by
      rw [← valueOf_append, List.singleton_append, valueOf_eq_placeValue]

end Numeral

namespace Scalar

open Numeral

/-- Digits are an integer up to the limit, and rounded beyond it. -/
theorem convert_signed (negative : Bool) {digits : Text} (plain : isDigits digits = true) :
    (str (signed negative digits)).convert =
      if digits.length ≤ digitLimit then int (withSign negative (placeValue digits))
      else float (.ofDecimal negative (placeValue digits) 0) := by
  have grouped := grouped_self plain
  have sign := hasSign_signed negative digits
  rw [convert, read?, body_signed negative plain]
  by_cases few : digits.length ≤ digitLimit
  · rw [if_pos few, integer?_eq_some_iff.mpr ⟨digits, .intro sign grouped, few⟩]
    rfl
  · have noInteger : Numeral.integer? (signed negative digits) = none := by
      rw [Option.eq_none_iff_forall_ne_some]
      intro value read
      rcases integer?_eq_some_iff.mp read with ⟨others, integer, fits⟩
      rw [integer.digits_unique (.intro sign grouped)] at fits
      exact few fits
    have written : HasSign (signed negative digits) negative (digits ++ []) := by rwa [List.append_nil]
    have rounded := double?_eq_some_iff.mpr (.decimal written (.whole grouped) .none)
    rw [if_neg few, noInteger, rounded, List.append_nil]
    rfl

/-- Beyond the limit, an integer without a zero in front is taken for an infinity. -/
theorem convert_signed_eq_infinity (negative : Bool) {first : Char} {rest : Text}
    (plain : isDigits (first :: rest) = true) (leading : first ≠ '0')
    (long : digitLimit ≤ rest.length) :
    (str (signed negative (first :: rest))).convert = float (.infinity negative) := by
  have many : ¬(first :: rest).length ≤ digitLimit := by
    rw [List.length_cons]
    omega
  have digit : first.isDigit = true := by
    rw [isDigits, List.all_cons, Bool.and_eq_true, Bool.and_eq_true] at plain
    exact plain.2.1
  have bits : 1024 ≤ rest.length := Nat.le_trans (by simp [digitLimit]) long
  have large := two_pow_le_placeValue digit leading bits
  rw [convert_signed negative plain, if_neg many, Double.ofDecimal_eq_infinity negative large]

/-- Digits keep their exact value, or at least their text, up to the limit only; beyond
it they are rounded. -/
theorem convert_signed_exact_iff (negative : Bool) {digits : Text} (plain : isDigits digits = true) :
    ((str (signed negative digits)).convert = int (withSign negative (placeValue digits)) ∨
        (str (signed negative digits)).convert = str (signed negative digits) <->
      digits.length ≤ 4300) ∧
    (4300 < digits.length ->
      (str (signed negative digits)).convert =
        float (.ofDecimal negative (placeValue digits) 0)) := by
  have converted := convert_signed negative plain
  by_cases few : digits.length ≤ 4300
  · rw [converted, digitLimit, if_pos few]
    exact ⟨⟨fun _ => few, fun _ => Or.inl rfl⟩, fun many => absurd few (Nat.not_le.mpr many)⟩
  · rw [converted, digitLimit, if_neg few]
    refine ⟨⟨?_, fun fits => absurd fits few⟩, fun _ => rfl⟩
    rintro (integer | kept)
    · cases integer
    · cases kept

theorem convert_signed_exact_seven :
    isDigits "007".toList = true ∧
      ((str "-007".toList).convert = int (-7) ∨ (str "-007".toList).convert = str "-007".toList <->
        "007".toList.length ≤ 4300) :=
  ⟨rfl, (convert_signed_exact_iff true rfl).1⟩

theorem convert_signed_long :
    (str ('1' :: List.replicate 4300 '0')).convert = float (.infinity false) := by
  have plain : isDigits ('1' :: List.replicate 4300 '0') = true := by
    rw [isDigits, List.all_cons, Double.all_isDigit_zeros]
    rfl
  have long : digitLimit ≤ (List.replicate 4300 '0').length := by
    rw [List.length_replicate, digitLimit]
  exact convert_signed_eq_infinity false plain (by decide) long

end Scalar
end Oneliner
