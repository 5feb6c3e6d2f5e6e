/-
This file settles how finite numbers are written. The text of a number is a numeral of
the grammar, it is read as the number again, and a whole number is written as an integer
is. So a text belongs to one number only, up to the sign of zero.

There are three layouts of a decimal, and all are parts of the grammar put together:
what is said about a layout is only how far the point is moved and what the exponent
makes up for it. Reading back is a matter of values, since all numbers that are nearest
to a value are the same.
-/

import Parley.Proofs.Double.Reading

namespace Parley

namespace Text

/-! ### Rows of digits -/

theorem digitValue?_of_isDigit {char : Char} (plain : char.isDigit = true) :
    digitValue? char = some (char.toNat - '0'.toNat) := by
  obtain ⟨least, most⟩ := Char.isDigit_iff_toNat.1 plain
  have first : zeros.find? (fun start => start ≤ char.toNat && char.toNat < start + 10) =
      some 0x30 := by
    refine List.find?_cons_of_pos ?_
    rw [Bool.and_eq_true, decide_eq_true_eq, decide_eq_true_eq]
    exact ⟨least, Nat.lt_succ_of_le most⟩
  rw [digitValue?, first]
  rfl

theorem digitsValue_append (first second : List Char) :
    digitsValue (first ++ second) =
      digitsValue first * 10 ^ second.length + digitsValue second := by
  have seeded : ∀ (digits : List Char) (seed : Nat),
      digits.foldl (fun value char => 10 * value + (digitValue? char).getD 0) seed =
        seed * 10 ^ digits.length + digitsValue digits := by
    intro digits
    induction digits with
    | nil => intro seed; simp [digitsValue]
    | cons head rest ih =>
      intro seed
      rw [digitsValue, List.foldl_cons, List.foldl_cons, ih, ih (10 * 0 + _), List.length_cons,
        Nat.pow_succ]
      ring
  rw [digitsValue, List.foldl_append, seeded]
  rfl

theorem digitsValue_zeros (count : Nat) : digitsValue (List.replicate count '0') = 0 := by
  induction count with
  | zero => rfl
  | succ count ih =>
    rw [List.replicate_succ, ← List.singleton_append, digitsValue_append, ih]
    have zero : digitsValue ['0'] = 0 := by decide +kernel
    rw [zero, Nat.zero_mul]

/-- Zeros in front of a row of digits do not count. -/
theorem digitsValue_padded (count : Nat) (digits : List Char) :
    digitsValue (List.replicate count '0' ++ digits) = digitsValue digits := by
  rw [digitsValue_append, digitsValue_zeros, Nat.zero_mul, Nat.zero_add]

/-- Zeros behind a row of digits multiply it by ten. -/
theorem digitsValue_scaled (digits : List Char) (count : Nat) :
    digitsValue (digits ++ List.replicate count '0') = digitsValue digits * 10 ^ count := by
  rw [digitsValue_append, digitsValue_zeros, List.length_replicate, Nat.add_zero]

theorem digitsValue_toDigits (number : Nat) : digitsValue (Nat.toDigits 10 number) = number := by
  have plain : digitsValue (Nat.toDigits 10 number) =
      Nat.ofDigitChars 10 (Nat.toDigits 10 number) 0 := by
    refine List.foldl_ext _ _ _ fun value char member => ?_
    have digit := Nat.isDigit_of_mem_toDigits (by decide) (by decide) member
    rw [digitValue?_of_isDigit digit]
    rfl
  rw [plain, Nat.ofDigitChars_ten_toDigits]

theorem isDigit_zeros (count : Nat) : ∀ char ∈ List.replicate count '0', isDigit char = true := by
  intro char member
  rw [List.eq_of_mem_replicate member]
  decide

theorem digits_toDigits (number : Nat) : Numeral.Digits (Nat.toDigits 10 number) := by
  refine ⟨Nat.toDigits_ne_nil, fun char member => ?_⟩
  have digit := Nat.isDigit_of_mem_toDigits (by decide) (by decide) member
  rw [isDigit, digitValue?_of_isDigit digit]
  rfl

theorem ofChars_inj {first second : List Char} :
    ofChars first = ofChars second ↔ first = second := by
  refine ⟨fun same => ?_, congrArg ofChars⟩
  have chars := congrArg chars? same
  rwa [chars?_ofChars, chars?_ofChars, Option.some.injEq] at chars

end Text

namespace Double

open Parley.Text Numeral

/-! ### Layouts -/

/-- A text shows a size if it denotes it with any sign. -/
def Shows (text : List Char) (size : ℚ) : Prop :=
  ∀ negative, ∃ numeral, Written (signed negative text) numeral ∧
    numeral.negative = negative ∧ numeral.decimal.value = size

/-- Digits and an exponent show their value. -/
theorem shows_of_parts {mantissa digits exponent : List Char} {places : Nat} {power : Int}
    {size : ℚ} (front : Mantissa mantissa digits places) (behind : Exponent exponent power)
    (value : (digitsValue digits : ℚ) * 10 ^ (power - places) = size) :
    Shows (mantissa ++ exponent) size := by
  intro negative
  cases negative with
  | false => exact ⟨_, .numeral .absent front behind, rfl, value⟩
  | true => exact ⟨_, .numeral .minus front behind, rfl, value⟩

theorem exponent_exponentText (power : Int) : Exponent (exponentText power) power := by
  have digits := digits_toDigits power.natAbs
  have padded : Digits (List.replicate (layout.width - (Nat.toDigits 10 power.natAbs).length) '0' ++
      Nat.toDigits 10 power.natAbs) := by
    refine ⟨fun none => digits.1 (List.append_eq_nil_iff.1 none).2, fun char member => ?_⟩
    exact (List.mem_append.1 member).elim (isDigit_zeros _ char) (digits.2 char)
  have marks : 'e' = 'e' ∨ 'e' = 'E' := .inl rfl
  by_cases below : power < 0
  · have written := Exponent.marked marks .minus padded
    rw [digitsValue_padded, digitsValue_toDigits, if_pos rfl, Int.ofNat_natAbs_of_nonpos below.le,
      neg_neg] at written
    rw [exponentText, if_pos below]
    exact written
  · have written := Exponent.marked marks .plus padded
    rw [digitsValue_padded, digitsValue_toDigits, if_neg Bool.false_ne_true,
      Int.natAbs_of_nonneg (Int.not_lt.1 below)] at written
    rw [exponentText, if_neg below]
    exact written

/-- Positional digits show their value if the point stands where the exponent has it. -/
theorem shows_positional {whole fraction : List Char} {decimal : Decimal} (some : Digits whole)
    (all : ∀ char ∈ fraction, isDigit char = true)
    (number : digitsValue (whole ++ fraction) = decimal.digits)
    (places : decimal.exponent = -fraction.length) :
    Shows (whole ++ '.' :: fraction) decimal.value := by
  have value : (digitsValue (whole ++ fraction) : ℚ) * 10 ^ ((0 : Int) - fraction.length) =
      decimal.value := by
    rw [number, Decimal.value, places, zero_sub]
  have shows := shows_of_parts (.pointed some all) .absent value
  rwa [List.append_nil] at shows

/-- A decimal shows its value in each layout. -/
theorem shows_decimalText (decimal : Decimal) : Shows (decimalText decimal) decimal.value := by
  obtain ⟨some, all⟩ := digits_toDigits decimal.digits
  have number := digitsValue_toDigits decimal.digits
  unfold decimalText
  generalize Nat.toDigits 10 decimal.digits = digits at some all number ⊢
  dsimp only
  split
  · split
    · exact absurd rfl some
    · next digit =>
      refine shows_of_parts (.whole ⟨some, all⟩) (exponent_exponentText _) ?_
      rw [number, Decimal.value]
      simp
    · next digit rest _ _ =>
      have first : Digits [digit] :=
        ⟨List.cons_ne_nil _ _, List.forall_mem_singleton.2 (all digit List.mem_cons_self)⟩
      refine shows_of_parts (.pointed first fun char member => all char (.tail _ member))
        (exponent_exponentText _) ?_
      rw [List.singleton_append, number, Decimal.value]
      congr 2
      push_cast [List.length_cons]
      ring
  · next positional =>
    split
    · next small =>
      have zero : Digits ['0'] := ⟨List.cons_ne_nil _ _, isDigit_zeros 1⟩
      refine shows_positional zero ?_ ?_ ?_
      · exact fun char member =>
          (List.mem_append.1 member).elim (isDigit_zeros _ char) (all char)
      · exact (digitsValue_padded (_ + 1) digits).trans number
      · rw [List.length_append, List.length_replicate]
        omega
    · split
      · next large =>
        -- The zero behind the point is a digit as well, one place behind the others.
        obtain ⟨count, positive⟩ := Int.eq_ofNat_of_zero_le large
        have row : digits ++ List.replicate decimal.exponent.toNat '0' ++ ['0'] =
            digits ++ List.replicate (count + 1) '0' := by
          rw [positive, Int.toNat_natCast, List.replicate_succ', List.append_assoc]
        have whole : Digits (digits ++ List.replicate decimal.exponent.toNat '0') :=
          ⟨fun none => some (List.append_eq_nil_iff.1 none).1, fun char member =>
            (List.mem_append.1 member).elim (all char) (isDigit_zeros _ char)⟩
        have value :
            (digitsValue (digits ++ List.replicate decimal.exponent.toNat '0' ++ ['0']) : ℚ)
              * 10 ^ ((0 : Int) - (List.length ['0'] : Nat)) = decimal.value := by
          rw [row, digitsValue_scaled, number, Decimal.value, positive]
          push_cast
          rw [zpow_natCast, List.length_singleton, Nat.cast_one, zero_sub, zpow_neg, zpow_one]
          ring
        have shows := shows_of_parts (.pointed whole (isDigit_zeros 1)) .absent value
        rwa [List.append_nil] at shows
      · next point =>
        refine shows_positional ⟨?_, ?_⟩ (fun char member => all char (List.mem_of_mem_drop member))
          ?_ ?_
        · exact fun none => (List.take_eq_nil_iff.1 none).elim (Nat.succ_ne_zero _) some
        · exact fun char member => all char (List.mem_of_mem_take member)
        · rw [List.take_append_drop, number]
        · rw [List.length_drop]
          omega

end Double

/-! ### Reading back -/

namespace Decimal

/-- Decimals of one value are read as one number. -/
theorem toDouble_congr (negative : Bool) {first second : Decimal}
    (same : first.value = second.value) : first.toDouble negative = second.toDouble negative := by
  obtain ⟨nearest, sign⟩ := first.nearest_toDouble negative
  obtain ⟨nearestToo, signToo⟩ := second.nearest_toDouble negative
  rw [same] at nearest
  exact nearest.unique nearestToo (sign.trans signToo.symm)

theorem toDouble_signed {decimal : Decimal} {units : Nat} {fits : Double.Fits units}
    (read : decimal.toDouble false = .finite false units fits) (negative : Bool) :
    decimal.toDouble negative = .finite negative units fits := by
  rw [toDouble_eq, Double.ofRatio] at read ⊢
  generalize Double.roundUnits _ _ = rounded at read ⊢
  by_cases within : Double.Fits rounded
  · rw [Double.ofUnits, dif_pos within] at read ⊢
    obtain rfl : rounded = units := Option.some.inj (congrArg Double.size? read)
    rfl
  · rw [Double.ofUnits, dif_neg within] at read
    exact Double.noConfusion read

end Decimal

namespace Double

open Parley.Text Numeral

theorem exactDecimal_value (units : Nat) : (exactDecimal units).value = units / unitsPerOne := by
  have scaled (exponent : Nat) (power : Int) (below : power = -exponent) :
      ((units * Nat.pow 5 exponent : Nat) : ℚ) * 10 ^ power =
        units / (Nat.pow 2 exponent : Nat) := by
    have ten : (10 : ℚ) = 5 * 2 := by norm_num
    rw [below, Nat.pow_eq, Nat.pow_eq, zpow_neg, zpow_natCast, ten, mul_pow]
    push_cast
    field_simp
  unfold exactDecimal unitsPerOne Decimal.value
  generalize least : 1074 = exponent
  exact scaled exponent (-1074) (by rw [← least]; rfl)

theorem toDouble_exactDecimal {units : Nat} (fits : Fits units) :
    (exactDecimal units).toDouble false = .finite false units fits := by
  have value := exactDecimal_value units
  generalize exactDecimal units = decimal at value ⊢
  obtain ⟨nearest, sign⟩ := decimal.nearest_toDouble false
  have placed : (finite false units fits).place? = some (units : Int) := by
    rw [place?, if_neg Bool.false_ne_true]
  rw [value] at nearest
  exact nearest.unique (Nearest.self placed) sign

theorem toDouble_of_readsBack {units : Nat} (fits : Fits units) {decimal : Decimal}
    (hit : readsBack units decimal = true) :
    decimal.toDouble false = .finite false units fits := by
  rw [readsBack] at hit
  split at hit
  · next read =>
    obtain rfl := of_decide_eq_true hit
    exact read
  · exact absurd hit Bool.false_ne_true

/-- The decimal that is chosen is a hit on some grid, or else the exact one. -/
theorem shortest_spec (units : Nat) :
    (∃ exponent, shortest units ∈ hits units exponent) ∨ shortest units = exactDecimal units := by
  -- The definition is opened as a function: applied to its argument, the search would be run.
  have opened : shortest = shortest := rfl
  conv at opened => rhs; delta shortest
  have chosen := congrFun opened units
  beta_reduce at chosen
  generalize exactDecimal units = whole at chosen ⊢
  generalize shortest units = decimal at chosen ⊢
  extract_lets top at chosen
  generalize found : List.findSome? _ _ = hit at chosen
  subst chosen
  cases hit with
  | none => exact .inr rfl
  | some decimal =>
    obtain ⟨index, -, first⟩ := List.exists_of_findSome?_eq_some found
    exact .inl ⟨_, List.mem_of_head? first⟩

/-- The decimal that is chosen for a number is read as it. -/
theorem toDouble_shortest {units : Nat} (fits : Fits units) :
    (shortest units).toDouble false = .finite false units fits := by
  obtain ⟨exponent, hit⟩ | whole := shortest_spec units
  · exact toDouble_of_readsBack fits (List.mem_filter.1 hit).2
  · rw [whole, toDouble_exactDecimal fits]

/-- A text that shows the value of a decimal is taken as the number that the decimal is read as. -/
theorem numberOfText_of_shows {text : List Char} {decimal : Decimal}
    (shows : Shows text decimal.value) (negative : Bool) :
    Value.numberOfText (.ofChars (signed negative text)) = decimal.toDouble negative := by
  obtain ⟨numeral, written, rfl, same⟩ := shows negative
  have denotes : (Text.ofChars (signed numeral.negative text)).Denotes numeral :=
    ⟨[], _, [], List.forall_mem_nil _, List.forall_mem_nil _, written,
      congrArg Text.ofChars (List.append_nil _).symm⟩
  rw [Value.numberOfText_eq_of_denotes denotes]
  exact Decimal.toDouble_congr _ same

/-! ### Finite numbers -/

/-- Tells whether a number is finite. -/
def isFinite : Double → Bool
  | finite _ _ _ => true
  | _ => false

/-- A number, but without the sign of zero. -/
def unsigned (number : Double) : Double := if number = zero true then zero false else number

theorem place_unsigned (number : Double) : number.unsigned.place? = number.place? := by
  rw [unsigned]
  split
  · next same => rw [same]; rfl
  · rfl

/-- Without the sign of zero the sign is known from the place. -/
theorem isNegative_unsigned {number : Double} {place : Int} (placed : number.place? = some place) :
    number.unsigned.isNegative = decide (place < 0) := by
  have positive := bound_pos
  cases number with
  | nan => cases placed
  | infinite negative =>
    rw [unsigned, if_neg Double.noConfusion, ← Option.some.inj placed]
    generalize bound = top at positive
    cases negative with
    | false => exact (decide_eq_false (by simp)).symm
    | true => exact (decide_eq_true (by simpa using positive)).symm
  | finite negative units fits =>
    rw [unsigned, ← Option.some.inj placed]
    split
    · next same =>
      cases same
      rfl
    · next other =>
      cases negative with
      | false => exact (decide_eq_false (by simp)).symm
      | true =>
        have some : units ≠ 0 := by
          rintro rfl
          exact other rfl
        exact (decide_eq_true (by simpa using Nat.pos_of_ne_zero some)).symm

/-- A finite number is an integer if its place is a multiple of one. -/
theorem toInt?_eq_some_iff {number : Double} (finite : number.isFinite = true) {int : Int} :
    number.toInt? = some int ↔ number.place? = some (int * unitsPerOne) := by
  have one := unitsPerOne_pos
  cases number with
  | nan => cases finite
  | infinite => cases finite
  | finite negative units fits =>
    rw [toInt?, place?]
    generalize unitsPerOne = unit at one ⊢
    constructor
    · intro whole
      obtain ⟨aligned, rfl⟩ := by
        simpa only [Option.ite_none_right_eq_some, Option.some.injEq] using whole
      obtain ⟨count, rfl⟩ := Nat.dvd_of_mod_eq_zero aligned
      rw [Nat.mul_div_cancel_left _ one]
      cases negative <;> simp [Int.mul_comm]
    · intro placed
      have size : units = int.natAbs * unit := by
        rw [← natAbs_signed negative units, Option.some.inj placed, Int.natAbs_mul,
          Int.natAbs_natCast]
      have part : units / unit = int.natAbs := by rw [size, Nat.mul_div_cancel _ one]
      have positive : (unit : Int) ≠ 0 := by exact_mod_cast one.ne'
      have aligned : units % unit = 0 := by rw [size, Nat.mul_mod_left]
      rw [if_pos aligned, part]
      refine congrArg some (Int.eq_of_mul_eq_mul_right positive ?_)
      rw [← Option.some.inj placed, size]
      cases negative <;> simp

/-- An integer that is read is the number that it was written for. -/
theorem toDouble_whole {number : Double} (finite : number.isFinite = true) {int : Int}
    (whole : number.toInt? = some int) :
    (⟨int.natAbs, 0⟩ : Decimal).toDouble (int < 0) = number.unsigned := by
  have placed := (toInt?_eq_some_iff finite).1 whole
  have unit : (unitsPerOne : ℚ) ≠ 0 := by exact_mod_cast unitsPerOne_pos.ne'
  have unit' : (0 : Int) < unitsPerOne := by exact_mod_cast unitsPerOne_pos
  obtain ⟨nearest, sign⟩ := Decimal.nearest_toDouble (int < 0) ⟨int.natAbs, 0⟩
  have target : withSign (int < 0) (Decimal.value ⟨int.natAbs, 0⟩) =
      ((int * unitsPerOne : Int) : ℚ) / unitsPerOne := by
    rw [Int.cast_mul, Int.cast_natCast, mul_div_cancel_right₀ _ unit, withSign, Decimal.value,
      zpow_zero, mul_one]
    by_cases below : int < 0
    · rw [if_pos (decide_eq_true below), ← Int.cast_natCast,
        Int.ofNat_natAbs_of_nonpos below.le, Int.cast_neg, neg_neg]
    · rw [if_neg (by simpa using below), ← Int.cast_natCast,
        Int.natAbs_of_nonneg (Int.not_lt.1 below)]
  have unsigned := (place_unsigned number).trans placed
  rw [target] at nearest
  refine nearest.unique (Nearest.self unsigned) ?_
  rw [sign, isNegative_unsigned placed, decide_eq_decide]
  exact ⟨fun below => mul_neg_of_neg_of_pos below unit',
    fun below => neg_of_mul_neg_left below unit'.le⟩

/-- The text of a finite number is a sign and a text that shows a decimal, which is read as the
number without the sign of zero. -/
theorem plain_spec {number : Double} (finite : number.isFinite = true) :
    ∃ negative text decimal, number.plain = signed negative text ∧
      Shows text (Decimal.value decimal) ∧ decimal.toDouble negative = number.unsigned := by
  cases number with
  | nan => cases finite
  | infinite => cases finite
  | finite negative units fits =>
    rw [plain]
    cases whole : (Double.finite negative units fits).toInt? with
    | some int =>
      refine ⟨_, _, ⟨int.natAbs, 0⟩, rfl, ?_, toDouble_whole rfl whole⟩
      have shows := shows_of_parts (.whole (digits_toDigits int.natAbs)) .absent rfl
      rw [List.append_nil, digitsValue_toDigits] at shows
      exact shows
    | none =>
      have some : units ≠ 0 := by
        rintro rfl
        rw [toInt?, if_pos (Nat.zero_mod _)] at whole
        cases whole
      obtain ⟨count, rfl⟩ := Nat.exists_eq_succ_of_ne_zero some
      refine ⟨negative, _, shortest (count + 1), rfl, shows_decimalText _, ?_⟩
      rw [Decimal.toDouble_signed (toDouble_shortest fits), unsigned, if_neg]
      exact fun zero => some (Option.some.inj (congrArg size? zero))

theorem numberOfText_plain {number : Double} (finite : number.isFinite = true) :
    Value.numberOfText (.ofChars number.plain) = number.unsigned := by
  obtain ⟨negative, text, decimal, plain, shows, read⟩ := plain_spec finite
  rw [plain, numberOfText_of_shows shows, read]

/-- An integer is shown by its digits and its sign. -/
theorem toList_toString (int : Int) :
    (toString int).toList = signed (int < 0) (Nat.toDigits 10 int.natAbs) := by
  cases int with
  | ofNat count =>
    have shown : toString (Int.ofNat count) = Nat.repr count := rfl
    rw [shown, Nat.repr_eq_ofList_toDigits, String.toList_ofList]
    rfl
  | negSucc count =>
    have shown : toString (Int.negSucc count) = "-" ++ Nat.repr (count + 1) := rfl
    rw [shown, Nat.repr_eq_ofList_toDigits, String.toList_append, String.toList_ofList,
      String.toList_ofList, decide_eq_true (Int.negSucc_lt_zero count)]
    rfl

/-- A whole number is written as an integer is. -/
theorem plain_whole {number : Double} (finite : number.isFinite = true) {int : Int}
    (placed : number.place? = some (int * unitsPerOne)) :
    number.plain = (toString int).toList := by
  have whole := (toInt?_eq_some_iff finite).2 placed
  cases number with
  | nan => cases finite
  | infinite => cases finite
  | finite negative units fits => rw [plain, whole, toList_toString]

theorem unsigned_eq_of_place {first second : Double} {place : Int}
    (placed : first.place? = some place) (placedToo : second.place? = some place) :
    first.unsigned = second.unsigned :=
  eq_of_place ((place_unsigned first).trans placed) ((place_unsigned second).trans placedToo)
    ((isNegative_unsigned placed).trans (isNegative_unsigned placedToo).symm)

/-- Both zeros are written alike. -/
theorem plain_unsigned (number : Double) : number.unsigned.plain = number.plain := by
  rw [unsigned]
  split
  · next same =>
    rw [same]
    decide +kernel
  · rfl

theorem exists_place {number : Double} (finite : number.isFinite = true) :
    ∃ place, number.place? = some place := by
  cases number with
  | nan => cases finite
  | infinite => cases finite
  | finite negative units fits => exact ⟨_, rfl⟩

/-- Two finite numbers have one text if they are at one place. -/
theorem plain_eq_iff {first second : Double} (finite : first.isFinite = true)
    (finiteToo : second.isFinite = true) :
    first.plain = second.plain ↔ first.place? = second.place? := by
  constructor
  · intro same
    rw [← place_unsigned first, ← place_unsigned second, ← numberOfText_plain finite,
      ← numberOfText_plain finiteToo, same]
  · intro same
    obtain ⟨place, placed⟩ := exists_place finite
    rw [← plain_unsigned first, ← plain_unsigned second,
      unsigned_eq_of_place placed (same.symm.trans placed)]

theorem equals_iff {first second : Double} {place : Int} (placed : first.place? = some place) :
    first.equals second = true ↔ first.place? = second.place? := by
  rw [equals, compareWith, placed]
  cases second.place? with
  | none => simp
  | some elsewhere => simp

end Double

namespace Value

/-- The text of a finite number is a numeral, and taken as a number it is the number again, without
the sign of zero. A whole number has the text of an integer, and numbers that differ in size have
different texts. -/
theorem toText_number (number : Double) (finite : number.isFinite = true) :
    (∃ chars numeral, (Value.number number).toText = .ofChars chars ∧
        Numeral.Written chars numeral) ∧
      (Value.string (Value.number number).toText).toNumber.equals number = true ∧
      (Value.string (Value.number number).toText).toNumber =
        (if number = .zero true then .zero false else number) ∧
      (∀ int : Int, number.place? = some (int * Double.unitsPerOne) →
        (Value.number number).toText = .ofString (toString int)) ∧
      ∀ other : Double, other.isFinite = true →
        ((Value.number other).toText = (Value.number number).toText ↔
          other.equals number = true) := by
  have back : (Value.string (Value.number number).toText).toNumber = number.unsigned :=
    Double.numberOfText_plain finite
  refine ⟨?_, ?_, back, fun int placed => ?_, fun other finiteToo => ?_⟩
  · obtain ⟨negative, text, decimal, plain, shows, -⟩ := Double.plain_spec finite
    obtain ⟨numeral, written, -⟩ := shows negative
    exact ⟨_, numeral, congrArg Text.ofChars plain, written⟩
  · obtain ⟨place, placed⟩ := Double.exists_place finite
    have same := Double.place_unsigned number
    rw [back, Double.equals_iff (same.trans placed), same]
  · exact congrArg Text.ofChars (Double.plain_whole finite placed)
  · obtain ⟨place, placed⟩ := Double.exists_place finiteToo
    rw [Double.equals_iff placed, ← Double.plain_eq_iff finiteToo finite]
    exact Text.ofChars_inj

theorem toText_number_small :
    (Decimal.toDouble true ⟨1, -5⟩).isFinite = true ∧
      (Value.number (Decimal.toDouble true ⟨1, -5⟩)).toText = "-1e-05" ∧
      (Value.string (Value.number (Decimal.toDouble true ⟨1, -5⟩)).toText).toNumber.equals
        (Decimal.toDouble true ⟨1, -5⟩) = true :=
  have finite : (Decimal.toDouble true ⟨1, -5⟩).isFinite = true := by decide +kernel
  ⟨finite, by decide +kernel, (toText_number _ finite).2.1⟩

end Value

end Parley
