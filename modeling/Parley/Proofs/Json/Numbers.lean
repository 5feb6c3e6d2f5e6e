/-
This file settles how numbers and words are written in documents. The grammar is given by
rules, one for each form of a part, and a derivation carries the document that it denotes.
What the text begins with is of the grammar if it is scanned as a document, and what is of
the grammar is scanned up to its end, with gaps behind it or whatever else does not go on
with a number.

An integer is of the grammar only if it is not too long. All other numbers have a value,
however many digits they have.
-/

import Parley.Proofs.Double.Writing
import Parley.Proofs.Json.LineEnds

namespace Parley.Json

open Parley.Text

/-! ### The grammar of numbers -/

/-- A row of at least one digit. -/
def Digits (text : List Char) : Prop := text ≠ [] ∧ ∀ char ∈ text, isPlainDigit char = true

/-- The whole part of a number: zero, or digits the first of which is no zero. -/
inductive Whole : List Char → Prop
  | zero : Whole ['0']
  | digits {first : Char} {rest : List Char} (digit : isPlainDigit first = true)
      (leading : first ≠ '0') (others : ∀ char ∈ rest, isPlainDigit char = true) :
      Whole (first :: rest)

/-- A point with digits behind it, if any, and these digits. -/
inductive Fraction : List Char → List Char → Prop
  | absent : Fraction [] []
  | pointed {digits : List Char} (some : Digits digits) : Fraction ('.' :: digits) digits

/-- An exponent, if any, and the number it denotes. -/
inductive Power : List Char → Int → Prop
  | absent : Power [] 0
  | marked {mark : Char} {sign digits : List Char} {negative : Bool}
      (marks : mark = 'e' ∨ mark = 'E') (signed : Numeral.Sign sign negative)
      (some : Digits digits) :
      Power (mark :: (sign ++ digits))
        (if negative then -digitsValue digits else digitsValue digits)

/-- The sign of a negative number. -/
def minus (negative : Bool) : List Char := if negative then ['-'] else []

/-- A word or a number, and the document that it is. -/
inductive Unquoted : List Char → Json → Prop
  | word {word : List Char} {document : Json} (known : (word, document) ∈ words) :
      Unquoted word document
  | int {whole : List Char} (negative : Bool) (written : Whole whole)
      (short : whole.length ≤ digitLimit) :
      Unquoted (minus negative ++ whole)
        (.int (if negative then -(digitsValue whole : Int) else digitsValue whole))
  | float {whole fraction digits power : List Char} {exponent : Int} (negative : Bool)
      (written : Whole whole) (behind : Fraction fraction digits) (scaled : Power power exponent)
      (real : ¬ (fraction = [] ∧ power = [])) :
      Unquoted (minus negative ++ (whole ++ (fraction ++ power)))
        (.float (Decimal.toDouble negative
          ⟨digitsValue (whole ++ digits), exponent - digits.length⟩))

/-! ### Numbers that are scanned -/

/-- A text that does not begin with a digit. -/
def Bare (text : List Char) : Prop := ∀ head ∈ text.head?, isPlainDigit head = false

/-- Digits are taken off the front up to what is no digit. -/
theorem span_digits {digits rest : List Char} (all : ∀ char ∈ digits, isPlainDigit char = true)
    (bare : Bare rest) :
    (digits ++ rest).takeWhile isPlainDigit = digits ∧
      (digits ++ rest).dropWhile isPlainDigit = rest := by
  rw [List.takeWhile_append_of_pos all, List.dropWhile_append_of_pos all]
  cases rest with
  | nil => exact ⟨List.append_nil digits, rfl⟩
  | cons head rest =>
    have stops : ¬ isPlainDigit head = true := by simp [bare head rfl]
    rw [List.takeWhile_cons_of_neg stops, List.dropWhile_cons_of_neg stops]
    exact ⟨List.append_nil digits, rfl⟩

theorem all_takeWhile (text : List Char) :
    ∀ char ∈ text.takeWhile isPlainDigit, isPlainDigit char = true :=
  List.all_eq_true.1 List.all_takeWhile

theorem isDigit_of_plain {char : Char} (plain : isPlainDigit char = true) :
    isDigit char = true := by
  have core : char.isDigit = true := plain
  rw [isDigit, digitValue?_of_isDigit core]
  rfl

theorem Whole.all {whole : List Char} (written : Whole whole) :
    whole ≠ [] ∧ ∀ char ∈ whole, isPlainDigit char = true := by
  cases written with
  | zero => exact ⟨List.cons_ne_nil _ _, List.forall_mem_singleton.2 rfl⟩
  | digits digit _ others => exact ⟨List.cons_ne_nil _ _, List.forall_mem_cons.2 ⟨digit, others⟩⟩

theorem Whole.scan {whole rest : List Char} (written : Whole whole) (bare : Bare rest) :
    splitWhole (whole ++ rest) = (whole, rest) := by
  obtain ⟨-, all⟩ := written.all
  obtain ⟨taken, dropped⟩ := span_digits all bare
  cases written with
  | zero => rfl
  | digits _ leading _ =>
    rw [List.cons_append, splitWhole_other leading, ← List.cons_append, taken, dropped]

theorem whole_of_scan {text : List Char} (some : (splitWhole text).1 ≠ []) :
    Whole (splitWhole text).1 := by
  cases text with
  | nil => exact absurd rfl some
  | cons first rest =>
    by_cases zero : first = '0'
    · rw [zero]
      exact .zero
    · rw [splitWhole_other zero] at some ⊢
      cases digit : isPlainDigit first with
      | true =>
        rw [List.takeWhile_cons_of_pos digit]
        exact .digits digit zero (all_takeWhile rest)
      | false =>
        rw [List.takeWhile_cons_of_neg (by simp [digit])] at some
        exact absurd rfl some

theorem Fraction.scan {fraction digits rest : List Char} (written : Fraction fraction digits)
    (bare : Bare rest) (point : rest.head? ≠ some '.') :
    splitPoint (fraction ++ rest) = (fraction, rest) := by
  cases written with
  | absent =>
    cases rest with
    | nil => rfl
    | cons head rest => exact splitPoint_other (fun same => point (congrArg some same)) rest
  | pointed some =>
    obtain ⟨taken, dropped⟩ := span_digits some.2 bare
    rw [List.cons_append, splitPoint_point, taken, dropped, if_neg some.1]

theorem fraction_of_scan (text : List Char) : ∃ digits, Fraction (splitPoint text).1 digits := by
  cases text with
  | nil => exact ⟨[], .absent⟩
  | cons head rest =>
    by_cases point : head = '.'
    · rw [point, splitPoint_point]
      split
      · exact ⟨[], .absent⟩
      · next some => exact ⟨_, .pointed ⟨some, all_takeWhile rest⟩⟩
    · rw [splitPoint_other point]
      exact ⟨[], .absent⟩

/-- What is taken off is a sign. -/
theorem sign_of_scan (text : List Char) :
    ∃ negative, Numeral.Sign (splitMark text).1 negative := by
  rw [splitMark.eq_def]
  split
  · exact ⟨_, .plus⟩
  · exact ⟨_, .minus⟩
  · exact ⟨_, .absent⟩

theorem Power.scan {power rest : List Char} {exponent : Int} (written : Power power exponent)
    (bare : Bare rest) (marks : ∀ mark, rest.head? = some mark → mark ≠ 'e' ∧ mark ≠ 'E') :
    splitPower (power ++ rest) = (power, rest) := by
  cases written with
  | absent =>
    cases rest with
    | nil => rfl
    | cons mark rest =>
      obtain ⟨small, capital⟩ := marks mark rfl
      rw [List.nil_append, splitPower_cons, if_pos (.inr (not_or.2 ⟨small, capital⟩))]
  | @marked mark sign digits negative isMark signed some =>
    obtain ⟨taken, dropped⟩ := span_digits some.2 bare
    have split : splitMark (sign ++ (digits ++ rest)) = (sign, digits ++ rest) := by
      cases signed with
      | absent =>
        obtain ⟨first, others, rfl⟩ := List.exists_cons_of_ne_nil some.1
        have digit := some.2 first List.mem_cons_self
        refine splitMark_other ?_ ?_ _
        · rintro rfl
          cases digit
        · rintro rfl
          cases digit
      | plus => rfl
      | minus => rfl
    rw [List.cons_append, List.append_assoc, splitPower_cons, split, taken, dropped,
      if_neg (not_or.2 ⟨some.1, not_not.2 isMark⟩)]

theorem power_of_scan (text : List Char) : ∃ exponent, Power (splitPower text).1 exponent := by
  cases text with
  | nil => exact ⟨0, .absent⟩
  | cons mark rest =>
    rw [splitPower_cons]
    split
    · exact ⟨0, .absent⟩
    · next some =>
      obtain ⟨some, marks⟩ := not_or.1 some
      obtain ⟨negative, signed⟩ := sign_of_scan rest
      exact ⟨_, .marked (not_not.1 marks) signed ⟨some, all_takeWhile _⟩⟩

/-- A number with a point or an exponent is a numeral, and denotes what its parts do. -/
theorem numeral_of_parts {whole fraction digits power : List Char} {exponent : Int}
    (written : Whole whole) (behind : Fraction fraction digits) (scaled : Power power exponent) :
    Numeral.ofChars? (whole ++ fraction ++ power) =
      some ⟨false, ⟨digitsValue (whole ++ digits), exponent - digits.length⟩⟩ := by
  have numeral {text : List Char} (all : ∀ char ∈ text, isPlainDigit char = true) :
      ∀ char ∈ text, isDigit char = true := fun char member => isDigit_of_plain (all char member)
  have front : Numeral.Mantissa (whole ++ fraction) (whole ++ digits) digits.length := by
    obtain ⟨some, all⟩ := written.all
    cases behind with
    | absent =>
      rw [List.append_nil]
      exact .whole ⟨some, numeral all⟩
    | pointed others => exact .pointed ⟨some, numeral all⟩ (numeral others.2)
  have back : Numeral.Exponent power exponent := by
    cases scaled with
    | absent => exact .absent
    | marked marks signed some => exact .marked marks signed ⟨some.1, numeral some.2⟩
  exact (Numeral.Written.numeral .absent front back).read

/-! ### Tokens that are scanned -/

/-- A text at which a number in front of it ends: none that begins like the rest of one. -/
def Apart (text : List Char) : Prop :=
  ∀ head, text.head? = some head →
    isPlainDigit head = false ∧ head ≠ '.' ∧ head ≠ 'e' ∧ head ≠ 'E'

/-- A text of nothing but gaps. -/
def Gaps (text : List Char) : Prop := ∀ char ∈ text, isGap char = true

theorem Gaps.apart {text : List Char} (gaps : Gaps text) : Apart text := by
  intro head first
  have gap := gaps head (List.mem_of_mem_head? first)
  simp only [isGap, Bool.or_eq_true, decide_eq_true_eq] at gap
  obtain ((rfl | rfl) | rfl) | rfl := gap <;> decide

theorem numberToken_int {whole : List Char} (negative : Bool) (short : whole.length ≤ digitLimit) :
    numberToken negative whole [] [] =
      .scalar (.int (if negative then -(digitsValue whole : Int) else digitsValue whole)) := by
  rw [numberToken, if_pos ⟨rfl, rfl⟩, if_neg (Nat.not_lt.2 short)]

theorem numberToken_float {whole fraction digits power : List Char} {exponent : Int}
    (negative : Bool) (written : Whole whole) (behind : Fraction fraction digits)
    (scaled : Power power exponent) (real : ¬ (fraction = [] ∧ power = [])) :
    numberToken negative whole fraction power = .scalar (.float
      (Decimal.toDouble negative ⟨digitsValue (whole ++ digits), exponent - digits.length⟩)) := by
  rw [numberToken, if_neg real, numeral_of_parts written behind scaled]

/-- What may come behind the whole part of a number. -/
theorem Fraction.bare {fraction digits power tail : List Char} {exponent : Int}
    (behind : Fraction fraction digits) (scaled : Power power exponent) (apart : Apart tail) :
    Bare (fraction ++ (power ++ tail)) ∧ Bare (power ++ tail) ∧
      (power ++ tail).head? ≠ some '.' := by
  have afterPower : Bare (power ++ tail) ∧ (power ++ tail).head? ≠ some '.' := by
    cases scaled with
    | absent =>
      exact ⟨fun head first => (apart head first).1, fun first => (apart _ first).2.1 rfl⟩
    | marked marks _ _ =>
      refine ⟨?_, fun first => ?_⟩
      · rintro head ⟨⟩
        obtain rfl | rfl := marks <;> rfl
      · cases first
        revert marks
        decide
  refine ⟨?_, afterPower⟩
  cases behind with
  | absent => exact afterPower.1
  | pointed _ =>
    rintro head ⟨⟩
    rfl

/-- A number is scanned up to its end. -/
theorem scanNumber_parts {whole fraction digits power tail : List Char} {exponent : Int}
    (negative : Bool) (written : Whole whole) (behind : Fraction fraction digits)
    (scaled : Power power exponent) (apart : Apart tail) :
    scanNumber negative (whole ++ (fraction ++ power) ++ tail) =
      some (numberToken negative whole fraction power,
        (whole ++ (fraction ++ power)).length) := by
  obtain ⟨bareFraction, barePower, point⟩ := behind.bare scaled apart
  have marks (mark : Char) (first : tail.head? = some mark) : mark ≠ 'e' ∧ mark ≠ 'E' :=
    (apart mark first).2.2
  rw [List.append_assoc, List.append_assoc, scanNumber, written.scan bareFraction]
  dsimp only
  rw [behind.scan barePower point]
  dsimp only
  rw [scaled.scan (fun head first => (apart head first).1) marks, if_neg written.all.1,
    List.length_append, List.length_append, Nat.add_assoc]

/-- No word begins like a number. -/
theorem find?_words_number {digit : Char} (isDigit : isPlainDigit digit = true) (negative : Bool)
    (rest : List Char) :
    (words.find? fun word => word.1.isPrefixOf (minus negative ++ digit :: rest)) = none := by
  have long : ∀ word ∈ words, 2 ≤ word.1.length := by decide
  have noDigit : words.all (fun word => (word.1.take 2).all fun char => ! isPlainDigit char) =
      true := rfl
  refine List.find?_eq_none.2 fun word member begins => ?_
  have front := List.prefix_iff_eq_take.1 (List.isPrefixOf_iff_prefix.1 begins)
  have inside : digit ∈ word.1.take 2 := by
    rw [front, List.take_take, Nat.min_eq_left (long word member)]
    cases negative with
    | false => exact List.mem_cons_self
    | true => exact List.mem_cons_of_mem _ List.mem_cons_self
  have apart := List.all_eq_true.1 (List.all_eq_true.1 noDigit word member) digit inside
  rw [isDigit] at apart
  cases apart

/-- A text begins with a token of a document, and the token takes up all but its last part. -/
def BeginsWith (inner tail : List Char) (token : Token) : Prop :=
  ∃ char rest, inner = char :: rest ∧ isGap char = false ∧ char ≠ '"' ∧
    plainToken char (rest ++ tail) = (token, rest.length)

/-- A number is the token of its parts if it ends where they do. -/
theorem beginsWith_number {whole fraction digits power tail : List Char} {exponent : Int}
    (negative : Bool) (written : Whole whole) (behind : Fraction fraction digits)
    (scaled : Power power exponent) (apart : Apart tail) :
    BeginsWith (minus negative ++ (whole ++ (fraction ++ power))) tail
      (numberToken negative whole fraction power) := by
  have scanned := scanNumber_parts negative written behind scaled apart
  obtain ⟨some, all⟩ := written.all
  obtain ⟨first, others, begins⟩ : ∃ first others, whole ++ (fraction ++ power) = first :: others :=
    List.exists_cons_of_ne_nil (List.append_ne_nil_of_left_ne_nil some _)
  have digit : isPlainDigit first = true := by
    obtain ⟨head, behind, rfl⟩ := List.exists_cons_of_ne_nil some
    cases begins
    exact all _ List.mem_cons_self
  have noWord := find?_words_number digit negative (others ++ tail)
  rw [begins] at scanned ⊢
  cases negative with
  | true =>
    have noWord : (words.find? fun word => word.1.isPrefixOf ('-' :: (first :: others ++ tail))) =
        none := noWord
    refine ⟨'-', first :: others, rfl, rfl, by decide, ?_⟩
    rw [plainToken, noWord]
    dsimp only
    rw [if_pos rfl, scanned]
  | false =>
    have other {char : Char} (plain : isPlainDigit char = false) : first ≠ char := by
      rintro rfl
      rw [plain] at digit
      cases digit
    have gap : isGap first = false := Bool.eq_false_iff.2 fun gap => by
      have gaps : Gaps [first] := List.forall_mem_singleton.2 gap
      exact other (gaps.apart _ rfl).1 rfl
    have noWord : (words.find? fun word => word.1.isPrefixOf (first :: (others ++ tail))) = none :=
      noWord
    have scanned : scanNumber false (first :: (others ++ tail)) = _ := scanned
    refine ⟨first, others, rfl, gap, other rfl, ?_⟩
    rw [plainToken, noWord]
    dsimp only
    rw [if_neg (other rfl), scanned]
    rfl

theorem Unquoted.begins {inner tail : List Char} {document : Json} (plain : Unquoted inner document)
    (apart : Apart tail) : BeginsWith inner tail (.scalar document) := by
  cases plain with
  | word known =>
    simp only [words, List.mem_cons, Prod.mk.injEq, List.not_mem_nil, or_false] at known
    obtain ⟨rfl, rfl⟩ | ⟨rfl, rfl⟩ | ⟨rfl, rfl⟩ | ⟨rfl, rfl⟩ | ⟨rfl, rfl⟩ | ⟨rfl, rfl⟩ := known
    all_goals exact ⟨_, _, rfl, rfl, by decide, rfl⟩
  | @int whole negative written short =>
    have begins := beginsWith_number negative written .absent .absent apart
    rwa [List.append_nil, List.append_nil, numberToken_int negative short] at begins
  | float negative written behind scaled real =>
    rw [← numberToken_float negative written behind scaled real]
    exact beginsWith_number negative written behind scaled apart

/-- A scalar that is scanned as a number is one of the grammar. -/
theorem unquoted_of_scanNumber {negative : Bool} {text : List Char} {document : Json} {length : Nat}
    (scanned : scanNumber negative text = some (.scalar document, length)) :
    ∃ inner, inner ≠ [] ∧ inner.length = length ∧ Unquoted (minus negative ++ inner) document ∧
      text = inner ++ text.drop length := by
  rw [scanNumber] at scanned
  dsimp only at scanned
  split at scanned
  · cases scanned
  · next some =>
    obtain ⟨token, rfl⟩ := Prod.mk.inj (Option.some.inj scanned)
    have written := whole_of_scan some
    obtain ⟨digits, behind⟩ := fraction_of_scan (splitWhole text).2
    obtain ⟨exponent, scaled⟩ := power_of_scan (splitPoint (splitWhole text).2).2
    have first := steady_splitWhole.whole text
    have second := steady_splitPoint.whole (splitWhole text).2
    have third := steady_splitPower.whole (splitPoint (splitWhole text).2).2
    generalize splitPower (splitPoint (splitWhole text).2).2 = power at *
    generalize splitPoint (splitWhole text).2 = fraction at *
    generalize splitWhole text = whole at *
    refine ⟨whole.1 ++ (fraction.1 ++ power.1), ?_, ?_, ?_, ?_⟩
    · exact List.append_ne_nil_of_left_ne_nil some _
    · rw [List.length_append, List.length_append, Nat.add_assoc]
    · by_cases integral : fraction.1 = [] ∧ power.1 = []
      · rw [integral.1, integral.2] at token ⊢
        rw [List.append_nil, List.append_nil]
        by_cases short : whole.1.length ≤ digitLimit
        · rw [numberToken_int negative short] at token
          cases token
          exact .int negative written short
        · rw [numberToken, if_pos ⟨rfl, rfl⟩, if_pos (Nat.not_le.1 short)] at token
          cases token
      · rw [numberToken_float negative written behind scaled integral] at token
        cases token
        exact .float negative written behind scaled integral
    · have cut : text = whole.1 ++ (fraction.1 ++ power.1) ++ power.2 := by
        rw [List.append_assoc, List.append_assoc, third, second, first]
      have length : whole.1.length + fraction.1.length + power.1.length =
          (whole.1 ++ (fraction.1 ++ power.1)).length := by
        rw [List.length_append, List.length_append, Nat.add_assoc]
      rw [length, cut, List.drop_left]

theorem mark_ne_scalar (char : Char) (document : Json) :
    (markToken? char).getD .unknown ≠ .scalar document := by
  rw [markToken?.eq_def]
  split <;> rintro ⟨⟩

/-- A scalar that a text begins with, but for strings, is one of the grammar. -/
theorem unquoted_of_plainToken {char : Char} {rest : List Char} {document : Json} {more : Nat}
    (found : plainToken char rest = (.scalar document, more)) :
    ∃ inner, Unquoted (char :: inner) document ∧ rest = inner ++ rest.drop more := by
  rw [plainToken] at found
  split at found
  · next word known begins =>
    cases found
    have filled : ∀ word ∈ words, word.1 ≠ [] := by decide
    have member := List.mem_of_find?_eq_some begins
    have front : word.isPrefixOf (char :: rest) = true := by simpa using List.find?_some begins
    obtain ⟨tail, whole⟩ := List.isPrefixOf_iff_prefix.1 front
    obtain ⟨first, inner, rfl⟩ := List.exists_cons_of_ne_nil (filled _ member)
    obtain ⟨rfl, rfl⟩ := List.cons.inj whole
    exact ⟨inner, .word member, congrArg (inner ++ ·) List.drop_left.symm⟩
  · dsimp only at found
    by_cases negative : char = '-'
    · rw [if_pos negative] at found
      cases scanned : scanNumber true rest with
      | none =>
        rw [scanned] at found
        exact absurd (congrArg Prod.fst found) (mark_ne_scalar char document)
      | some number =>
        rw [scanned] at found
        cases found
        obtain ⟨inner, -, -, plain, cut⟩ := unquoted_of_scanNumber scanned
        exact ⟨inner, negative ▸ plain, cut⟩
    · rw [if_neg negative] at found
      cases scanned : scanNumber false (char :: rest) with
      | none =>
        rw [scanned] at found
        exact absurd (congrArg Prod.fst found) (mark_ne_scalar char document)
      | some number =>
        rw [scanned] at found
        obtain ⟨token, length⟩ := number
        cases found
        obtain ⟨inner, some, rfl, plain, cut⟩ := unquoted_of_scanNumber scanned
        obtain ⟨first, inner, rfl⟩ := List.exists_cons_of_ne_nil some
        rw [List.length_cons, List.drop_succ_cons, List.cons_append] at cut
        obtain ⟨rfl, behind⟩ := List.cons.inj cut
        exact ⟨inner, plain, behind⟩

end Parley.Json
