/-
This file settles what a numeral is. The grammar is given by rules, one for each form of
a part, and a derivation carries what its text denotes. What is read from left to right
is what can be derived, and it denotes the same.

No two rules for a part begin alike: a sign is no digit, and neither are the point and
the mark of an exponent. That is why the longest row of digits can be taken at every
turn.
-/

import Mathlib
import Parley.Double.Numeral

namespace Parley

namespace Numeral

open Parley.Text

/-! ### The grammar -/

/-- A sign, if any, and whether it is a minus. -/
inductive Sign : List Char → Bool → Prop where
  | absent : Sign [] false
  | plus : Sign ['+'] false
  | minus : Sign ['-'] true

/-- A row of at least one digit. -/
def Digits (text : List Char) : Prop := text ≠ [] ∧ ∀ char ∈ text, isDigit char = true

/-- Digits with a point or without one: the text, its digits, and how many of them are behind the
point. -/
inductive Mantissa : List Char → List Char → Nat → Prop where
  | whole {whole : List Char} : Digits whole → Mantissa whole whole 0
  | pointed {whole fraction : List Char} : Digits whole →
      (∀ char ∈ fraction, isDigit char = true) →
      Mantissa (whole ++ '.' :: fraction) (whole ++ fraction) fraction.length
  | fraction {fraction : List Char} : Digits fraction →
      Mantissa ('.' :: fraction) fraction fraction.length

/-- An exponent, if any, and the number it denotes. -/
inductive Exponent : List Char → Int → Prop where
  | absent : Exponent [] 0
  | marked {mark : Char} {sign digits : List Char} {negative : Bool} : mark = 'e' ∨ mark = 'E' →
      Sign sign negative → Digits digits →
      Exponent (mark :: (sign ++ digits))
        (if negative then -digitsValue digits else digitsValue digits)

/-- A numeral as it is written: a sign, digits with a point or without one, and an exponent. -/
inductive Written : List Char → Numeral → Prop where
  | numeral {sign mantissa digits exponent : List Char} {negative : Bool} {places : Nat}
      {power : Int} : Sign sign negative → Mantissa mantissa digits places →
      Exponent exponent power →
      Written (sign ++ (mantissa ++ exponent)) ⟨negative, ⟨digitsValue digits, power - places⟩⟩

/-! ### Where a part ends -/

/-- What stands between digits is no digit itself. -/
theorem isDigit_of_reserved {char : Char} (reserved : char ∈ ['+', '-', '.', 'e', 'E']) :
    isDigit char = false := by
  simp only [List.mem_cons, List.not_mem_nil, or_false] at reserved
  obtain rfl | rfl | rfl | rfl | rfl := reserved <;> decide +kernel

/-- A text that does not begin with a digit. -/
def Bare (text : List Char) : Prop := ∀ head ∈ text.head?, isDigit head = false

theorem bare_cons {head : Char} {rest : List Char}
    (reserved : head ∈ ['+', '-', '.', 'e', 'E']) : Bare (head :: rest) := by
  intro first isFirst
  cases isFirst
  exact isDigit_of_reserved reserved

theorem takeWhile_digits {digits rest : List Char} (all : ∀ char ∈ digits, isDigit char = true)
    (bare : Bare rest) : (digits ++ rest).takeWhile isDigit = digits := by
  have none : rest.takeWhile isDigit = [] := by
    cases rest with
    | nil => rfl
    | cons head rest => exact List.takeWhile_cons_of_neg (by simp [bare head rfl])
  rw [List.takeWhile_append_of_pos all, none, List.append_nil]

theorem dropWhile_digits {digits rest : List Char} (all : ∀ char ∈ digits, isDigit char = true)
    (bare : Bare rest) : (digits ++ rest).dropWhile isDigit = rest := by
  rw [List.dropWhile_append_of_pos all]
  cases rest with
  | nil => rfl
  | cons head rest => exact List.dropWhile_cons_of_neg (by simp [bare head rfl])

theorem all_takeWhile (text : List Char) : ∀ char ∈ text.takeWhile isDigit, isDigit char = true :=
  List.all_eq_true.1 List.all_takeWhile

/-! ### Signs -/

/-- What is taken off the front is a sign. -/
theorem sign_splitSign (text : List Char) :
    ∃ sign, Sign sign (splitSign text).1 ∧ text = sign ++ (splitSign text).2 := by
  rw [splitSign.eq_def]
  split
  · exact ⟨['+'], .plus, rfl⟩
  · exact ⟨['-'], .minus, rfl⟩
  · exact ⟨[], .absent, rfl⟩

/-- A sign is taken off in front of what does not begin with another one. -/
theorem splitSign_append {sign rest : List Char} {negative : Bool} (signed : Sign sign negative)
    (unsigned : ∀ head ∈ rest.head?, head ≠ '+' ∧ head ≠ '-') :
    splitSign (sign ++ rest) = (negative, rest) := by
  cases signed with
  | absent =>
    rw [List.nil_append, splitSign.eq_def]
    split
    · exact absurd rfl (unsigned '+' rfl).1
    · exact absurd rfl (unsigned '-' rfl).2
    · rfl
  | plus => rfl
  | minus => rfl

theorem unsigned_digits {digits : List Char} (some : Digits digits) (rest : List Char) :
    ∀ head ∈ (digits ++ rest).head?, head ≠ '+' ∧ head ≠ '-' := by
  intro head isHead
  obtain ⟨first, others, rfl⟩ := List.exists_cons_of_ne_nil some.1
  cases isHead
  have digit := some.2 head List.mem_cons_self
  refine ⟨?_, ?_⟩
  · rintro rfl
    exact absurd digit (by decide)
  · rintro rfl
    exact absurd digit (by decide)

/-- Digits with a point or without one do not begin with a sign. -/
theorem Mantissa.unsigned {mantissa digits rest : List Char} {places : Nat}
    (written : Mantissa mantissa digits places) :
    ∀ head ∈ (mantissa ++ rest).head?, head ≠ '+' ∧ head ≠ '-' := by
  cases written with
  | whole some => exact unsigned_digits some _
  | pointed some _ =>
    rw [List.append_assoc]
    exact unsigned_digits some _
  | fraction _ =>
    rintro head ⟨⟩
    decide

/-! ### Exponents -/

/-- What is read as an exponent is one. -/
theorem exponent_of_read {text : List Char} {power : Int} (read : exponent? text = some power) :
    Exponent text power := by
  cases text with
  | nil =>
    cases read
    exact .absent
  | cons mark rest =>
    obtain ⟨sign, signed, whole⟩ := sign_splitSign rest
    rw [exponent?] at read
    simp only [Option.ite_none_right_eq_some, Option.some.injEq] at read
    obtain ⟨⟨marks, some, digits⟩, rfl⟩ := read
    have written := Exponent.marked marks signed ⟨some, List.all_eq_true.1 digits⟩
    rwa [← whole] at written

/-- An exponent is read as what it denotes. -/
theorem Exponent.read {text : List Char} {power : Int} (written : Exponent text power) :
    exponent? text = some power := by
  cases written with
  | absent => rfl
  | @marked mark sign digits negative marks signed some =>
    have unsigned := unsigned_digits some []
    rw [List.append_nil] at unsigned
    rw [exponent?, splitSign_append signed unsigned]
    exact if_pos ⟨marks, some.1, List.all_eq_true.2 some.2⟩

theorem Exponent.bare {text : List Char} {power : Int} (written : Exponent text power) :
    Bare text := by
  cases written with
  | absent => exact fun head isHead => nomatch isHead
  | marked marks _ _ =>
    refine bare_cons ?_
    obtain rfl | rfl := marks
    · decide
    · decide

theorem Exponent.splitFraction {text : List Char} {power : Int} (written : Exponent text power) :
    splitFraction text = ([], text) := by
  cases written with
  | absent => rfl
  | marked marks _ _ =>
    obtain rfl | rfl := marks
    · rfl
    · rfl

/-! ### Numerals -/

/-- The digits, the places and the rest that the front of a text without sign is split into. -/
theorem ofChars?_eq (text : List Char) :
    ofChars? text =
      if (splitSign text).2.takeWhile isDigit = [] ∧
          (splitFraction ((splitSign text).2.dropWhile isDigit)).1 = [] then none
      else (exponent? (splitFraction ((splitSign text).2.dropWhile isDigit)).2).map fun power =>
        ⟨(splitSign text).1,
          digitsValue ((splitSign text).2.takeWhile isDigit ++
            (splitFraction ((splitSign text).2.dropWhile isDigit)).1),
          power - (splitFraction ((splitSign text).2.dropWhile isDigit)).1.length⟩ := rfl

/-- What is taken off a text without sign, unless it has no digits at all, is a mantissa. -/
theorem mantissa_of_split (body : List Char)
    (some : ¬ (body.takeWhile isDigit = [] ∧ (splitFraction (body.dropWhile isDigit)).1 = [])) :
    ∃ mantissa,
      Mantissa mantissa (body.takeWhile isDigit ++ (splitFraction (body.dropWhile isDigit)).1)
        (splitFraction (body.dropWhile isDigit)).1.length ∧
      body = mantissa ++ (splitFraction (body.dropWhile isDigit)).2 := by
  have all := all_takeWhile body
  have parts := (List.takeWhile_append_dropWhile (p := isDigit) (l := body)).symm
  generalize body.takeWhile isDigit = whole at some all parts ⊢
  generalize body.dropWhile isDigit = rest at some parts ⊢
  rw [splitFraction.eq_def] at some ⊢
  split at some
  · next more =>
    have fraction := all_takeWhile more
    have rejoined := (List.takeWhile_append_dropWhile (p := isDigit) (l := more)).symm
    by_cases none : whole = []
    · subst none
      exact ⟨'.' :: more.takeWhile isDigit, .fraction ⟨fun none => some ⟨rfl, none⟩, fraction⟩,
        parts.trans (congrArg ('.' :: ·) rejoined)⟩
    · refine ⟨whole ++ '.' :: more.takeWhile isDigit, .pointed ⟨none, all⟩ fraction, ?_⟩
      rw [parts, List.append_assoc, List.cons_append, ← rejoined]
  · rw [List.append_nil]
    exact ⟨whole, .whole ⟨fun none => some ⟨none, rfl⟩, all⟩, parts⟩

/-- What is read as a numeral is written as one. -/
theorem written_of_read {text : List Char} {numeral : Numeral}
    (read : ofChars? text = some numeral) : Written text numeral := by
  obtain ⟨sign, signed, whole⟩ := sign_splitSign text
  rw [ofChars?_eq] at read
  split at read
  · cases read
  · next some =>
    obtain ⟨mantissa, written, body⟩ := mantissa_of_split _ some
    obtain ⟨power, exponent, rfl⟩ := Option.map_eq_some_iff.1 read
    have numeral := Written.numeral signed written (exponent_of_read exponent)
    rwa [← body, ← whole] at numeral

/-- A mantissa in front of an exponent is taken off whole. -/
theorem Mantissa.split {mantissa digits exponent : List Char} {places : Nat} {power : Int}
    (written : Mantissa mantissa digits places) (behind : Exponent exponent power) :
    ∃ whole fraction, digits = whole ++ fraction ∧ fraction.length = places ∧ digits ≠ [] ∧
      (mantissa ++ exponent).takeWhile isDigit = whole ∧
      splitFraction ((mantissa ++ exponent).dropWhile isDigit) = (fraction, exponent) := by
  have point : ∀ {whole fraction : List Char}, (∀ char ∈ whole, isDigit char = true) →
      (∀ char ∈ fraction, isDigit char = true) →
      (whole ++ '.' :: fraction ++ exponent).takeWhile isDigit = whole ∧
        splitFraction ((whole ++ '.' :: fraction ++ exponent).dropWhile isDigit) =
          (fraction, exponent) := by
    intro whole fraction before after
    have stop : Bare ('.' :: (fraction ++ exponent)) := bare_cons (by decide)
    rw [List.append_assoc, List.cons_append, takeWhile_digits before stop,
      dropWhile_digits before stop, Numeral.splitFraction, takeWhile_digits after behind.bare,
      dropWhile_digits after behind.bare]
    exact ⟨rfl, rfl⟩
  cases written with
  | whole some =>
    refine ⟨mantissa, [], (List.append_nil _).symm, rfl, some.1, ?_, ?_⟩
    · exact takeWhile_digits some.2 behind.bare
    · rw [dropWhile_digits some.2 behind.bare, behind.splitFraction]
  | @pointed whole fraction some all =>
    exact ⟨whole, fraction, rfl, rfl, fun none => some.1 (List.append_eq_nil_iff.1 none).1,
      point some.2 all⟩
  | fraction some =>
    have nothing : ∀ char ∈ ([] : List Char), isDigit char = true :=
      fun _ none => absurd none List.not_mem_nil
    exact ⟨[], digits, rfl, rfl, some.1, point nothing some.2⟩

/-- What is written as a numeral is read as it. -/
theorem Written.read {text : List Char} {numeral : Numeral} (written : Written text numeral) :
    ofChars? text = some numeral := by
  cases written with
  | numeral signed mantissa exponent =>
    obtain ⟨whole, fraction, rfl, rfl, some, taken, split⟩ := mantissa.split exponent
    rw [ofChars?_eq, splitSign_append signed mantissa.unsigned, taken, split,
      if_neg fun none => some (List.append_eq_nil_iff.2 none), exponent.read]
    rfl

/-- The numerals that are read are the ones of the grammar. -/
theorem ofChars?_eq_some_iff {text : List Char} {numeral : Numeral} :
    ofChars? text = some numeral ↔ Written text numeral :=
  ⟨written_of_read, Written.read⟩

end Numeral

end Parley
