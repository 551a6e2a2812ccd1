import Oneliner.Proofs.Double.Shortest
import Oneliner.Proofs.Scalar.Numeral

namespace Oneliner

/-!
Numbers that are read from a text are written as texts that read back.

A written number consists of digits and four other characters, so bringing it into
plain form changes nothing.  An integer reads back through its digits.  A
floating-point number reads back because its shortest decimal does, wherever the
point is put; the point or the power of ten keeps it from reading as an integer.
-/

namespace Numeral

/-! ### Characters of written numbers -/

/-- The characters of which numbers are written. -/
def characters : Text := "0123456789.e+-".toList

theorem mem_characters_of_isDigit {char : Char} (digit : char.isDigit = true) :
    char ∈ "0123456789".toList := by
  rw [Char.isDigit, Bool.and_eq_true, decide_eq_true_eq, decide_eq_true_eq] at digit
  have lower : 48 ≤ char.toNat := digit.1
  have upper : char.toNat ≤ 57 := digit.2
  rw [← Char.ofNat_toNat char]
  generalize char.toNat = code at lower upper
  have listed : forall offset, offset < 10 -> Char.ofNat (48 + offset) ∈ "0123456789".toList := by decide
  rw [← Nat.add_sub_cancel' lower]
  exact listed (code - 48) (by omega)

theorem isDigit_subset {char : Char} (digit : char.isDigit = true) : char ∈ characters :=
  List.mem_append_left ".e+-".toList (mem_characters_of_isDigit digit)

theorem plain_of_mem_characters :
    forall char, char ∈ characters -> plainChar char = char ∧ isPadding char = false ∧ char ≠ '_' ∧
      char ≠ '\n' := by
  have all : characters.all (fun char =>
      plainChar char = char ∧ isPadding char = false ∧ char ≠ '_' ∧ char ≠ '\n') = true := by
    decide
  exact fun char member => of_decide_eq_true (List.all_eq_true.mp all char member)

/-- Written numbers are in plain form. -/
theorem body_eq_self {text : Text} (plain : forall char, char ∈ text -> char ∈ characters) :
    body text = text := by
  have same : text.map plainChar = text := by
    conv_rhs => rw [← List.map_id text]
    exact List.map_congr_left fun char member => (plain_of_mem_characters char (plain char member)).1
  have unpadded : forall written : Text, (forall char, char ∈ written -> char ∈ characters) ->
      written.dropWhile isPadding = written := by
    intro written plain
    cases written with
    | nil => rfl
    | cons char rest =>
        have visible := (plain_of_mem_characters char (plain char List.mem_cons_self)).2.1
        exact List.dropWhile_cons_of_neg (by rw [visible]; decide)
  rw [body, same, unpadded text plain, unpadded, List.reverse_reverse]
  intro char member
  exact plain char (List.mem_reverse.mp member)

theorem ungroup?_eq_self {text : Text} (single : '_' ∉ text) (afterDigit : Bool) :
    ungroup? afterDigit text = some text := by
  induction text generalizing afterDigit with
  | nil => rfl
  | cons char rest same =>
      rw [List.mem_cons, not_or] at single
      rw [ungroup?, same single.2]
      · rfl
      · exact fun underscore => single.1 underscore.symm

/-! ### Values of digits -/

theorem valueOf_eq_ofDigitChars (digits : Text) :
    valueOf digits = Nat.ofDigitChars 10 digits 0 := by
  rw [Nat.ofDigitChars_eq_foldl, valueOf]

theorem valueOf_append (front back : Text) :
    valueOf (front ++ back) = 10 ^ back.length * valueOf front + valueOf back := by
  rw [valueOf_eq_ofDigitChars, Nat.ofDigitChars_append, Nat.ofDigitChars_eq_ofDigitChars_zero,
    ← valueOf_eq_ofDigitChars, ← valueOf_eq_ofDigitChars]

theorem valueOf_zeros (count : Nat) : valueOf (List.replicate count '0') = 0 := by
  rw [valueOf_eq_ofDigitChars, Nat.ofDigitChars_replicate_zero, Nat.mul_zero]

theorem valueOf_ofNat (number : Nat) : valueOf (Text.ofNat number) = number := by
  rw [valueOf_eq_ofDigitChars, Text.ofNat, Nat.ofDigitChars_ten_toDigits]

theorem all_isDigit_ofNat (number : Nat) : (Text.ofNat number).all Char.isDigit = true :=
  List.all_eq_true.mpr fun _ member =>
    Nat.isDigit_of_mem_toDigits (by decide) (by decide) member

theorem isDigits_ofNat (number : Nat) : isDigits (Text.ofNat number) = true := by
  rw [isDigits, all_isDigit_ofNat, Bool.and_true, Bool.not_eq_true', List.isEmpty_eq_false_iff]
  exact Nat.toDigits_ne_nil

/-! ### Integers -/

theorem splitSign_eq_self {text : Text} (begins : text.head?.any Char.isDigit = true) :
    splitSign text = (false, text) := by
  unfold splitSign
  split
  · cases begins
  · cases begins
  · rfl

theorem head?_ofNat (number : Nat) : (Text.ofNat number).head?.any Char.isDigit = true := by
  have digits := isDigits_ofNat number
  cases written : Text.ofNat number with
  | nil =>
      rw [written] at digits
      cases digits
  | cons first rest =>
      rw [written, isDigits, List.all_cons, Bool.and_eq_true, Bool.and_eq_true] at digits
      exact digits.2.1

theorem length_ofNat_le {number : Nat} (fits : number < Scalar.integerBound) :
    (Text.ofNat number).length ≤ Scalar.digitLimit := by
  have positive : 0 < Scalar.digitLimit := by decide
  unfold Scalar.integerBound at fits
  -- The limit is made a variable, since nothing may compute the power.
  generalize Scalar.digitLimit = limit at fits positive ⊢
  exact (Nat.length_toDigits_le_iff (by decide) positive).mpr fits

theorem integer?_ofNat {number : Nat} (fits : number < Scalar.integerBound) {text : Text}
    (negative : Bool) (signed : splitSign text = (negative, Text.ofNat number)) :
    integer? text = some (if negative then -(number : Int) else number) := by
  have short := length_ofNat_le fits
  have single : '_' ∉ Text.ofNat number := Nat.underscore_not_in_toDigits
  simp only [integer?, signed]
  rw [ungroup?_eq_self single, Option.bind_some, isDigits_ofNat,
    valueOf_ofNat, if_pos (by rw [Bool.true_and]; exact decide_eq_true short)]

theorem integer?_ofInt {value : Int} (fits : value.natAbs < Scalar.integerBound) :
    integer? (Text.ofInt value) = some value := by
  cases value with
  | ofNat number => exact integer?_ofNat fits false (splitSign_eq_self (head?_ofNat number))
  | negSucc number => exact integer?_ofNat fits true rfl

/-- Written integers have no characters but digits and a sign. -/
theorem mem_characters_of_mem_ofInt {value : Int} {char : Char} (member : char ∈ Text.ofInt value) :
    char ∈ characters := by
  have digit : forall number, char ∈ Text.ofNat number -> char ∈ characters :=
    fun number member => isDigit_subset (List.all_eq_true.mp (all_isDigit_ofNat number) char member)
  cases value with
  | ofNat number => exact digit number member
  | negSucc number =>
      rcases List.mem_cons.mp member with sign | member
      · subst sign
        decide
      · exact digit (number + 1) member

/-! ### Decimals -/

/-- The shape of a written decimal: it begins with a digit, and something in it is
not a digit. -/
structure IsDecimal (size : Text) : Prop where
  begins : size.head?.any Char.isDigit = true
  plain : forall char, char ∈ size -> char ∈ characters
  marked : size.all Char.isDigit = false

theorem isDecimal_append {whole rest : Text} {mark : Char} (some : whole ≠ [])
    (digits : whole.all Char.isDigit = true) (stop : mark.isDigit = false)
    (plain : forall char, char ∈ mark :: rest -> char ∈ characters) :
    IsDecimal (whole ++ mark :: rest) where
  begins := by
    cases whole with
    | nil => exact absurd rfl some
    | cons first whole =>
        rw [List.all_cons, Bool.and_eq_true] at digits
        exact digits.1
  plain := by
    intro char member
    rcases List.mem_append.mp member with member | member
    · exact isDigit_subset (List.all_eq_true.mp digits char member)
    · exact plain char member
  marked := by
    rw [List.all_append, List.all_cons, stop, Bool.false_and, Bool.and_false]

/-- The sign in front of a written size. -/
def signed (negative : Bool) (size : Text) : Text :=
  (if negative then ['-'] else []) ++ size

theorem IsDecimal.splitSign_signed {size : Text} (shape : IsDecimal size) (negative : Bool) :
    splitSign (signed negative size) = (negative, size) := by
  cases negative with
  | true => rfl
  | false => exact splitSign_eq_self shape.begins

theorem IsDecimal.ungroup?_eq {size : Text} (shape : IsDecimal size) :
    ungroup? false size = some size := by
  apply ungroup?_eq_self
  intro member
  exact (plain_of_mem_characters '_' (shape.plain '_' member)).2.2.1 rfl

/-- A word of letters does not begin with a digit. -/
theorem IsDecimal.map_toLower_ne {size : Text} (shape : IsDecimal size) {word : Text}
    (letters : word.head?.any (fun char => "0123456789".toList.contains char) = false) :
    size.map Char.toLower ≠ word := by
  intro same
  cases size with
  | nil => exact absurd shape.begins (by decide)
  | cons first rest =>
      have listed := mem_characters_of_isDigit shape.begins
      have all : "0123456789".toList.all (fun char => char.toLower = char) = true := by decide
      have kept : first.toLower = first := of_decide_eq_true (List.all_eq_true.mp all first listed)
      rw [List.map_cons, kept] at same
      rw [← same] at letters
      exact absurd (List.contains_iff_mem.mpr listed) (by simpa using letters)

theorem IsDecimal.read?_signed {size : Text} (shape : IsDecimal size) {negative : Bool}
    {number : Double} (read : decimal? negative size = some number) :
    read? (signed negative size) = some (.float number) := by
  have plain : forall char, char ∈ signed negative size -> char ∈ characters := by
    intro char member
    rcases List.mem_append.mp member with sign | member
    · cases negative with
      | true =>
          rw [if_pos rfl, List.mem_singleton] at sign
          subst sign
          decide
      | false => cases sign
    · exact shape.plain char member
  have noInteger : integer? (signed negative size) = none := by
    simp only [integer?, shape.splitSign_signed]
    rw [shape.ungroup?_eq, Option.bind_some, isDigits, shape.marked, Bool.and_false,
      Bool.false_and, if_neg Bool.false_ne_true]
  have asDouble : double? (signed negative size) = some number := by
    simp only [double?, shape.splitSign_signed]
    rw [decide_eq_false (shape.map_toLower_ne (by decide)),
      decide_eq_false (shape.map_toLower_ne (by decide)), Bool.false_or,
      if_neg Bool.false_ne_true, if_neg (shape.map_toLower_ne (by decide)), shape.ungroup?_eq]
    exact read
  rw [read?, body_eq_self plain, noInteger]
  simp only
  rw [asDouble, Option.map_some]

/-- A power of ten is empty, or it has its mark and an integer behind it. -/
theorem power?_eq_some {tail : Text} {power : Int} (read : power? tail = some power) :
    (tail = [] ∧ power = 0) ∨
      exists mark rest, tail = mark :: rest ∧ (mark = 'e' ∨ mark = 'E') ∧
        isDigits (splitSign rest).2 = true ∧
        power =
          if (splitSign rest).1 then -(valueOf (splitSign rest).2 : Int)
          else valueOf (splitSign rest).2 := by
  cases tail with
  | nil => exact Or.inl ⟨rfl, (Option.some.inj read).symm⟩
  | cons mark rest =>
      simp only [power?] at read
      split at read
      · rename_i marked
        rw [Bool.and_eq_true, Bool.or_eq_true, decide_eq_true_eq, decide_eq_true_eq] at marked
        exact Or.inr ⟨mark, rest, rfl, marked.1, marked.2, (Option.some.inj read).symm⟩
      · cases read

/-- Neither a digit nor a point begins a power of ten. -/
theorem head?_of_power? {tail : Text} {power : Int} (read : power? tail = some power) :
    tail.head?.any Char.isDigit = false ∧ tail.head? ≠ some '.' := by
  rcases power?_eq_some read with ⟨none, _⟩ | ⟨mark, rest, written, marked, _⟩
  · subst none
    decide
  · subst written
    rcases marked with lower | upper
    · subst lower
      exact ⟨rfl, by simp⟩
    · subst upper
      exact ⟨rfl, by simp⟩

/-- Digits in front of a power of ten are all the digits that come first. -/
theorem span_isDigit {digits tail : Text} {power : Int} (plain : digits.all Char.isDigit = true)
    (read : power? tail = some power) :
    (digits ++ tail).takeWhile Char.isDigit = digits ∧
      (digits ++ tail).dropWhile Char.isDigit = tail := by
  rw [List.takeWhile_append_of_pos (List.all_eq_true.mp plain),
    List.dropWhile_append_of_pos (List.all_eq_true.mp plain)]
  have stop := (head?_of_power? read).1
  cases tail with
  | nil => exact ⟨List.append_nil digits, rfl⟩
  | cons mark rest =>
      have other : ¬mark.isDigit = true := Bool.eq_false_iff.mp stop
      rw [List.takeWhile_cons_of_neg other, List.dropWhile_cons_of_neg other, List.append_nil]
      exact ⟨rfl, rfl⟩

theorem decimal?_pointed (negative : Bool) {whole fraction tail : Text} {power : Int}
    (some : whole ++ fraction ≠ []) (digits : whole.all Char.isDigit = true)
    (fractionDigits : fraction.all Char.isDigit = true) (read : power? tail = Option.some power) :
    decimal? negative (whole ++ '.' :: (fraction ++ tail)) =
      Option.some (Double.ofDecimal negative (valueOf (whole ++ fraction))
        (power - fraction.length)) := by
  have behind := span_isDigit fractionDigits read
  have empty : ¬(whole.isEmpty && fraction.isEmpty) = true := by
    rw [Bool.and_eq_true, List.isEmpty_iff, List.isEmpty_iff]
    exact fun none => some (List.append_eq_nil_iff.mpr none)
  simp only [decimal?]
  rw [List.takeWhile_append_of_pos (List.all_eq_true.mp digits),
    List.dropWhile_append_of_pos (List.all_eq_true.mp digits),
    List.takeWhile_cons_of_neg (by decide), List.dropWhile_cons_of_neg (by decide), List.append_nil]
  simp only
  rw [behind.1, behind.2, if_neg empty, read, Option.map_some]

theorem decimal?_whole (negative : Bool) {whole tail : Text} {power : Int}
    (some : whole ≠ []) (digits : whole.all Char.isDigit = true)
    (read : power? tail = Option.some power) :
    decimal? negative (whole ++ tail) =
      Option.some (Double.ofDecimal negative (valueOf whole) power) := by
  have parts := span_isDigit digits read
  have noPoint := (head?_of_power? read).2
  simp only [decimal?]
  rw [parts.1, parts.2]
  split
  · rename_i rest
    exact absurd rfl noPoint
  · rw [List.isEmpty_eq_false_iff.mpr some, Bool.false_and, if_neg Bool.false_ne_true, read,
      Option.map_some, List.append_nil, List.length_nil, Nat.cast_zero, sub_zero]

theorem power?_eq {digits : Text} (plain : isDigits digits = true) (power : Int)
    (value : valueOf digits = power.natAbs) :
    power? ('e' :: (if power < 0 then '-' else '+') :: digits) = some power := by
  by_cases negative : power < 0
  · rw [if_pos negative]
    simp only [power?, splitSign, plain, value, decide_true, Bool.true_or, Bool.and_self, if_true]
    rw [Int.ofNat_natAbs_of_nonpos negative.le, neg_neg]
  · rw [if_neg negative]
    simp only [power?, splitSign, plain, value, decide_true, Bool.true_or, Bool.and_self, if_true]
    rw [if_neg Bool.false_ne_true, Int.natAbs_of_nonneg (not_lt.mp negative)]

end Numeral

namespace Double

open Numeral

variable {mantissa coefficient : Nat} {exponent grid : Int}

theorem all_isDigit_zeros (count : Nat) : (List.replicate count '0').all Char.isDigit = true := by
  rw [List.all_eq_true]
  intro char member
  rw [List.eq_of_mem_replicate member]
  rfl

/-- Digits in place are digits around a point, and the point moves their value to the
grid. -/
theorem exists_pointed (coefficient : Nat) (grid : Int) :
    Exists fun whole => Exists fun fraction =>
      positional (Text.ofNat coefficient) grid = whole ++ '.' :: fraction ∧ whole ≠ [] ∧
        whole.all Char.isDigit = true ∧ fraction.all Char.isDigit = true ∧
        fraction.length ≤ max 1 (-grid).toNat ∧
        (valueOf (whole ++ fraction) : Rat) * 10 ^ (-fraction.length : Int) =
          coefficient * 10 ^ grid := by
  have digits := all_isDigit_ofNat coefficient
  have value := valueOf_ofNat coefficient
  have nonempty : Text.ofNat coefficient ≠ [] := Nat.toDigits_ne_nil
  generalize Text.ofNat coefficient = written at *
  by_cases whole : grid ≥ 0
  · refine ⟨written ++ List.replicate grid.toNat '0', ['0'], ?_,
      List.append_ne_nil_of_left_ne_nil nonempty _, ?_, rfl, le_max_left _ _, ?_⟩
    · rw [positional, if_pos whole]
      rfl
    · rw [List.all_append, digits, all_isDigit_zeros]
      rfl
    · have last : valueOf ['0'] = 0 := rfl
      rw [valueOf_append, valueOf_append, valueOf_zeros, value, last, List.length_replicate,
        List.length_singleton]
      push_cast
      rw [← zpow_natCast (10 : Rat) grid.toNat, Int.toNat_of_nonneg whole, zpow_neg_one]
      field_simp
      ring
  · have places : ((-grid).toNat : Int) = -grid := Int.toNat_of_nonneg (by omega)
    by_cases long : written.length > (-grid).toNat
    · refine ⟨written.take (written.length - (-grid).toNat),
        written.drop (written.length - (-grid).toNat), ?_, ?_, ?_, ?_, ?_, ?_⟩
      · simp only [positional, if_neg whole, if_pos long]
      · rw [Ne, List.take_eq_nil_iff, not_or]
        exact ⟨by omega, nonempty⟩
      · exact List.all_eq_true.mpr fun char member =>
          List.all_eq_true.mp digits char (List.mem_of_mem_take member)
      · exact List.all_eq_true.mpr fun char member =>
          List.all_eq_true.mp digits char (List.mem_of_mem_drop member)
      · rw [List.length_drop]
        omega
      · have power : (-(written.drop (written.length - (-grid).toNat)).length : Int) = grid := by
          rw [List.length_drop]
          omega
        rw [List.take_append_drop, value, power]
    · refine ⟨['0'], List.replicate ((-grid).toNat - written.length) '0' ++ written, ?_,
        List.cons_ne_nil _ _, rfl, ?_, ?_, ?_⟩
      · simp only [positional, if_neg whole, if_neg long]
        rfl
      · rw [List.all_append, digits, all_isDigit_zeros]
        rfl
      · rw [List.length_append, List.length_replicate]
        omega
      · have power : (-(List.replicate ((-grid).toNat - written.length) '0' ++ written).length : Int) =
            grid := by
          rw [List.length_append, List.length_replicate]
          omega
        have first : valueOf ['0'] = 0 := rfl
        rw [power, valueOf_append, valueOf_append, valueOf_zeros, value, first, Nat.mul_zero,
          Nat.mul_zero, Nat.zero_add, Nat.zero_add]

theorem isDecimal_positional (coefficient : Nat) (grid : Int) :
    IsDecimal (positional (Text.ofNat coefficient) grid) := by
  rcases exists_pointed coefficient grid with ⟨whole, fraction, written, some, digits, plain, _, _⟩
  rw [written]
  apply isDecimal_append some digits rfl
  intro char member
  rcases List.mem_cons.mp member with point | member
  · subst point
    decide
  · exact isDigit_subset (List.all_eq_true.mp plain char member)

/-- The digits of a written power of ten. -/
def raised (style : Style) (power : Int) : Text :=
  List.replicate (style.powerDigits - (Text.ofNat power.natAbs).length) '0' ++
    Text.ofNat power.natAbs

/-- A written power of ten, with its mark and sign. -/
def scaling (style : Style) (power : Int) : Text :=
  'e' :: (if power < 0 then '-' else '+') :: raised style power

theorem all_isDigit_raised (style : Style) (power : Int) :
    (raised style power).all Char.isDigit = true := by
  rw [raised, List.all_append, all_isDigit_zeros, all_isDigit_ofNat]
  rfl

theorem power?_scaling (style : Style) (power : Int) : power? (scaling style power) = some power := by
  apply power?_eq
  · have nonempty : raised style power ≠ [] :=
      List.append_ne_nil_of_right_ne_nil _ Nat.toDigits_ne_nil
    rw [isDigits, all_isDigit_raised, List.isEmpty_eq_false_iff.mpr nonempty]
    rfl
  · rw [raised, valueOf_append, valueOf_zeros, valueOf_ofNat, Nat.mul_zero, Nat.zero_add]

theorem mem_characters_of_mem_scaling {style : Style} {power : Int} {char : Char}
    (member : char ∈ scaling style power) : char ∈ characters := by
  rcases List.mem_cons.mp member with mark | member
  · subst mark
    decide
  rcases List.mem_cons.mp member with sign | member
  · subst sign
    split <;> decide
  · exact isDigit_subset (List.all_eq_true.mp (all_isDigit_raised style power) char member)

/-- A number written with a power of ten is a decimal, and reads as the digits moved by
that power. -/
theorem scientific_spec (style : Style) (coefficient : Nat) (power : Int) :
    IsDecimal (scientific style (Text.ofNat coefficient) power) ∧
      forall negative, decimal? negative (scientific style (Text.ofNat coefficient) power) =
        some (ofDecimal negative coefficient (power - ((Text.ofNat coefficient).length - 1))) := by
  have digits := all_isDigit_ofNat coefficient
  have value := valueOf_ofNat coefficient
  have nonempty : 0 < (Text.ofNat coefficient).length := Nat.length_toDigits_pos
  generalize Text.ofNat coefficient = written at *
  by_cases long : written.length > 1
  · have parts : scientific style written power =
        written.take 1 ++ '.' :: (written.drop 1 ++ scaling style power) := by
      simp only [scientific, if_pos long, List.append_assoc]
      rfl
    have first : written.take 1 ≠ [] := by
      rw [Ne, List.take_eq_nil_iff, not_or]
      exact ⟨by decide, List.ne_nil_of_length_pos nonempty⟩
    have firstDigits : (written.take 1).all Char.isDigit = true :=
      List.all_eq_true.mpr fun char member =>
        List.all_eq_true.mp digits char (List.mem_of_mem_take member)
    have restDigits : (written.drop 1).all Char.isDigit = true :=
      List.all_eq_true.mpr fun char member =>
        List.all_eq_true.mp digits char (List.mem_of_mem_drop member)
    rw [parts]
    constructor
    · apply isDecimal_append first firstDigits rfl
      intro char member
      rcases List.mem_cons.mp member with point | member
      · subst point
        decide
      rcases List.mem_append.mp member with member | member
      · exact isDigit_subset (List.all_eq_true.mp restDigits char member)
      · exact mem_characters_of_mem_scaling member
    · intro negative
      rw [decimal?_pointed negative (List.append_ne_nil_of_left_ne_nil first _) firstDigits restDigits
          (power?_scaling style power),
        List.take_append_drop, value, List.length_drop, Nat.cast_sub (by omega), Nat.cast_one]
  · have one : written.length = 1 := by omega
    have parts : scientific style written power = written ++ scaling style power := by
      simp only [scientific, if_neg long, List.append_assoc]
      rw [List.take_of_length_le (by omega)]
      rfl
    rw [parts]
    constructor
    · apply isDecimal_append (List.ne_nil_of_length_pos nonempty) digits rfl
      intro char member
      exact mem_characters_of_mem_scaling member
    · intro negative
      rw [decimal?_whole negative (List.ne_nil_of_length_pos nonempty) digits
        (power?_scaling style power), value, one, Nat.cast_one, sub_self, sub_zero]

/-- The text of a positive number has the shape of a decimal and reads back. -/
theorem sizeText_spec {mantissa : Nat} {exponent : Int} (style : Style)
    (canonical : Canonical mantissa exponent) (nonzero : 0 < mantissa) :
    IsDecimal (sizeText style mantissa exponent) ∧
      forall negative, decimal? negative (sizeText style mantissa exponent) =
        some (.finite negative mantissa exponent) := by
  rcases shortest_spec mantissa canonical.least with ⟨inside, lowest, highest⟩
  simp only [sizeText]
  generalize (shortest mantissa exponent).1 = coefficient at *
  generalize (shortest mantissa exponent).2 = grid at *
  split
  · rcases exists_pointed coefficient grid with
      ⟨whole, fraction, written, some, digits, plain, short, value⟩
    refine ⟨isDecimal_positional coefficient grid, ?_⟩
    intro negative
    have ending : power? [] = Option.some 0 := rfl
    have read := decimal?_pointed negative (List.append_ne_nil_of_left_ne_nil some fraction) digits
      plain ending
    rw [List.append_nil, zero_sub] at read
    rw [written, read]
    apply congrArg
    apply ofDecimal_eq negative canonical nonzero (by omega) (by omega)
    rw [value]
    exact inside
  · rcases scientific_spec style coefficient (grid + (Text.ofNat coefficient).length - 1) with
      ⟨shape, reads⟩
    refine ⟨shape, ?_⟩
    intro negative
    have power : grid + (Text.ofNat coefficient).length - 1 - ((Text.ofNat coefficient).length - 1) =
        grid := by omega
    rw [reads, power]
    apply congrArg
    exact ofDecimal_eq negative canonical nonzero (by omega) (by omega) inside

/-- A canonical number reads back from its text. -/
theorem read?_text {number : Double} (canonical : IsCanonical number) :
    read? (number.text plainStyle) = some (.float number) := by
  cases number with
  | nan => rfl
  | infinity negative => cases negative <;> rfl
  | finite negative mantissa exponent =>
      rw [text]
      by_cases zero : mantissa = 0
      · subst zero
        have least : exponent = minExponent := by
          rcases canonical.full with least | full
          · exact least
          · exact absurd full (by decide)
        subst least
        cases negative <;> rfl
      · rw [if_neg zero]
        rcases sizeText_spec plainStyle canonical (Nat.pos_of_ne_zero zero) with ⟨shape, reads⟩
        exact shape.read?_signed (reads negative)

theorem newline_not_mem_text {number : Double} (canonical : IsCanonical number) :
    '\n' ∉ number.text plainStyle := by
  cases number with
  | nan => decide
  | infinity negative => cases negative <;> decide
  | finite negative mantissa exponent =>
      rw [text, List.mem_append, not_or]
      constructor
      · cases negative <;> decide
      · split
        · decide
        · rename_i some
          rcases sizeText_spec plainStyle canonical (Nat.pos_of_ne_zero some) with ⟨shape, _⟩
          intro member
          exact (plain_of_mem_characters _ (shape.plain _ member)).2.2.2 rfl

theorem isCanonical_ofDecimal (negative : Bool) (coefficient : Nat) (power : Int) :
    IsCanonical (ofDecimal negative coefficient power) := by
  unfold ofDecimal
  split
  · exact isCanonical_ofRatio negative 0 Nat.one_pos
  split
  · exact trivial
  split
  · exact isCanonical_ofRatio negative 0 Nat.one_pos
  · exact isCanonical_ofRatio negative _ (Nat.pow_pos (by decide))

end Double

namespace Numeral

theorem isCanonical_of_double? {body : Text} {number : Double} (read : double? body = some number) :
    number.IsCanonical := by
  simp only [double?] at read
  split at read
  · cases read
    exact trivial
  split at read
  · cases read
    exact trivial
  rcases Option.bind_eq_some_iff.mp read with ⟨size, _, read⟩
  simp only [decimal?] at read
  -- Whether there is a point does not matter: both ways end in the same rounding.
  split at read
  all_goals
    split at read
    · cases read
    · rcases Option.map_eq_some_iff.mp read with ⟨power, _, made⟩
      rw [← made]
      exact Double.isCanonical_ofDecimal _ _ _

end Numeral

namespace Scalar

/-- The three outcomes of converting a text. -/
theorem convert_str_cases (text : Text) :
    (Exists fun value => (str text).convert = int value ∧ value.natAbs < integerBound) ∨
      (Exists fun number => (str text).convert = float number ∧ number.IsCanonical) ∨
      ((str text).convert = str text) := by
  rw [convert, Numeral.read?]
  cases integer : Numeral.integer? (Numeral.body text) with
  | some value => exact Or.inl ⟨value, rfl, Numeral.natAbs_lt_of_integer? integer⟩
  | none =>
      cases double : Numeral.double? (Numeral.body text) with
      | some number =>
          exact Or.inr (Or.inl ⟨number, rfl, Numeral.isCanonical_of_double? double⟩)
      | none => exact Or.inr (Or.inr rfl)

/-- Converting the text of a converted text changes nothing. -/
theorem convert_text_convert (text : Text) :
    (str (str text).convert.text).convert = (str text).convert := by
  rcases convert_str_cases text with ⟨value, converted, fits⟩ | ⟨number, converted, canonical⟩ | kept
  · rw [converted]
    have plain : Numeral.body (Text.ofInt value) = Text.ofInt value :=
      Numeral.body_eq_self fun _ member => Numeral.mem_characters_of_mem_ofInt member
    have read : Numeral.read? (Text.ofInt value) = some (int value) := by
      rw [Numeral.read?, plain, Numeral.integer?_ofInt fits]
    simp only [Scalar.text, convert]
    rw [read, Option.getD_some]
  · rw [converted]
    simp only [Scalar.text, convert]
    rw [Double.read?_text canonical, Option.getD_some]
  · rw [kept]
    exact kept

/-- Numbers are written without newlines. -/
theorem newline_not_mem_text_convert {text : Text} (single : '\n' ∉ text) :
    '\n' ∉ (str text).convert.text := by
  rcases convert_str_cases text with ⟨value, converted, fits⟩ | ⟨number, converted, canonical⟩ | kept
  · rw [converted]
    intro member
    exact (Numeral.plain_of_mem_characters _ (Numeral.mem_characters_of_mem_ofInt member)).2.2.2 rfl
  · rw [converted]
    exact Double.newline_not_mem_text canonical
  · rw [kept]
    exact single

end Scalar
end Oneliner
