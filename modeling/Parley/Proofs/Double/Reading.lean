/-
This file settles which number a string is taken as. A string denotes a numeral if it is
one of the grammar with blanks around it, and then it is taken as the number nearest to
the numeral; any other string is taken as zero.

No numeral has a blank in it. So what is left when the blanks are taken off both ends is
the numeral, and blanks that are added at the ends change nothing.
-/

import Parley.Proofs.Double.Grammar
import Parley.Proofs.Double.Nearest
import Parley.Value

namespace Parley

namespace Text

/-! ### Blanks at the ends -/

/-- A text of nothing but blanks. -/
def Blank (text : List Char) : Prop := ∀ char ∈ text, isBlank char = true

/-- What is taken off both ends is blank. -/
theorem exists_trimmed (text : List Char) :
    ∃ before after, Blank before ∧ Blank after ∧ text = before ++ (trimChars text ++ after) := by
  have blank (text : List Char) : Blank (text.takeWhile isBlank) :=
    List.all_eq_true.1 List.all_takeWhile
  refine ⟨text.takeWhile isBlank,
    ((text.dropWhile isBlank).reverse.takeWhile isBlank).reverse, blank text, ?_, ?_⟩
  · exact fun char member => blank _ char (List.mem_reverse.1 member)
  · rw [trimChars, ← List.reverse_append, List.takeWhile_append_dropWhile, List.reverse_reverse,
      List.takeWhile_append_dropWhile]

/-- Blanks around a text are taken off with its own. -/
theorem trimChars_surrounded {before after : List Char} (first : Blank before)
    (last : Blank after) (text : List Char) :
    trimChars (before ++ (text ++ after)) = trimChars text := by
  have behind : after.reverse.dropWhile isBlank = [] :=
    List.dropWhile_eq_nil_iff.2 fun char member => last char (List.mem_reverse.1 member)
  rw [trimChars, trimChars, List.dropWhile_append_of_pos first, List.dropWhile_append]
  split
  · next none =>
    have nothing := List.isEmpty_iff.1 none
    have blank : after.dropWhile isBlank = [] := List.dropWhile_eq_nil_iff.2 last
    rw [nothing, blank]
  · rw [List.reverse_append, List.dropWhile_append, if_pos (List.isEmpty_iff.2 behind)]

/-- Nothing is taken off a text without blanks. -/
theorem trimChars_of_solid {text : List Char} (solid : ∀ char ∈ text, isBlank char = false) :
    trimChars text = text := by
  have untouched {text : List Char} (solid : ∀ char ∈ text, isBlank char = false) :
      text.dropWhile isBlank = text := by
    cases text with
    | nil => rfl
    | cons head rest => exact List.dropWhile_cons_of_neg (by simp [solid head List.mem_cons_self])
  rw [trimChars, untouched solid,
    untouched fun char member => solid char (List.mem_reverse.1 member), List.reverse_reverse]

/-- A text that has nothing but characters is the text of these. -/
theorem eq_ofChars {text : Text} {chars : List Char} (all : text.chars? = some chars) :
    text = ofChars chars := by
  obtain ⟨symbols⟩ := text
  refine congrArg Text.mk ?_
  change symbols.mapM Symbol.toChar? = some chars at all
  induction symbols generalizing chars with
  | nil =>
    cases all
    rfl
  | cons symbol rest ih =>
    cases symbol with
    | half _ => cases all
    | char head =>
      obtain ⟨_, ⟨⟩, others⟩ := Option.bind_eq_some_iff.1 ((List.mapM_cons).symm.trans all)
      obtain ⟨tail, characters, ⟨⟩⟩ := Option.bind_eq_some_iff.1 others
      exact congrArg (Symbol.char head :: ·) (ih characters)

theorem chars?_append (first second : Text) :
    (first ++ second).chars? =
      first.chars?.bind fun chars => second.chars?.map fun others => chars ++ others := by
  rw [chars?, symbols_append, List.mapM_append]
  simp only [Option.bind_eq_bind, Option.pure_def, chars?, Option.map_eq_bind, Function.comp_def]

/-- Characters around a text leave halves in it as they are. -/
theorem chars?_surrounded (before after : List Char) (text : Text) :
    (ofChars before ++ text ++ ofChars after).chars? =
      text.chars?.map fun chars => before ++ (chars ++ after) := by
  rw [chars?_append, chars?_append, chars?_ofChars, chars?_ofChars]
  cases text.chars? with
  | none => rfl
  | some chars => exact congrArg some (List.append_assoc _ _ _)

end Text

namespace Numeral

open Parley.Text

/-! ### Numerals between blanks -/

/-- No digit is blank. -/
theorem isBlank_of_isDigit {char : Char} (digit : isDigit char = true) :
    isBlank char = false := by
  have apart : ∀ start ∈ zeros, ∀ range ∈ blankRanges,
      start + 9 < range.1 ∨ range.2 < start := by
    decide +kernel
  obtain ⟨start, found⟩ := Option.isSome_iff_exists.1 ((Option.isSome_map ..).symm.trans digit)
  have member := List.mem_of_find?_eq_some found
  have within := List.find?_some found
  simp only [Bool.and_eq_true, decide_eq_true_eq] at within
  refine Bool.eq_false_iff.2 fun blank => ?_
  obtain ⟨range, listed, inside⟩ := List.any_eq_true.1 blank
  simp only [Bool.and_eq_true, decide_eq_true_eq] at inside
  have := apart start member range listed
  omega

theorem Sign.solid {sign : List Char} {negative : Bool} (signed : Sign sign negative) :
    ∀ char ∈ sign, isBlank char = false := by
  cases signed with
  | absent => exact List.forall_mem_nil _
  | plus => exact List.forall_mem_singleton.2 (by decide)
  | minus => exact List.forall_mem_singleton.2 (by decide)

theorem Mantissa.solid {mantissa digits : List Char} {places : Nat}
    (written : Mantissa mantissa digits places) : ∀ char ∈ mantissa, isBlank char = false := by
  intro char member
  have point : isBlank '.' = false := by decide
  cases written with
  | whole some => exact isBlank_of_isDigit (some.2 char member)
  | pointed some all =>
    obtain before | rfl | after := by simpa only [List.mem_append, List.mem_cons] using member
    · exact isBlank_of_isDigit (some.2 char before)
    · exact point
    · exact isBlank_of_isDigit (all char after)
  | fraction some =>
    obtain rfl | after := List.mem_cons.1 member
    · exact point
    · exact isBlank_of_isDigit (some.2 char after)

theorem Exponent.solid {exponent : List Char} {power : Int} (written : Exponent exponent power) :
    ∀ char ∈ exponent, isBlank char = false := by
  intro char member
  cases written with
  | absent => cases member
  | marked marks signed some =>
    obtain rfl | sign | digit := by simpa only [List.mem_append, List.mem_cons] using member
    · obtain rfl | rfl := marks <;> decide
    · exact signed.solid char sign
    · exact isBlank_of_isDigit (some.2 char digit)

/-- No numeral has a blank in it. -/
theorem Written.solid {text : List Char} {numeral : Numeral} (written : Written text numeral) :
    ∀ char ∈ text, isBlank char = false := by
  intro char member
  cases written with
  | numeral signed mantissa exponent =>
    obtain sign | digit | power := by simpa only [List.mem_append] using member
    · exact signed.solid char sign
    · exact mantissa.solid char digit
    · exact exponent.solid char power

end Numeral

/-- A text denotes a numeral if it is one with blanks around it. -/
def Text.Denotes (text : Text) (numeral : Numeral) : Prop :=
  ∃ before body after, Blank before ∧ Blank after ∧ Numeral.Written body numeral ∧
    text = .ofChars (before ++ (body ++ after))

/-- The numeral that a text denotes is what it is without the blanks at its ends. -/
theorem Text.denotes_iff {text : Text} {numeral : Numeral} :
    text.Denotes numeral ↔
      ∃ chars, text.chars? = some chars ∧ Numeral.Written (trimChars chars) numeral := by
  constructor
  · rintro ⟨before, body, after, first, last, written, rfl⟩
    refine ⟨_, chars?_ofChars _, ?_⟩
    rwa [trimChars_surrounded first last, trimChars_of_solid written.solid]
  · rintro ⟨chars, all, written⟩
    obtain ⟨before, after, first, last, whole⟩ := exists_trimmed chars
    exact ⟨before, _, after, first, last, written, (eq_ofChars all).trans (congrArg _ whole)⟩

namespace Value

/-! ### Strings taken as numbers -/

theorem numberOfText_eq_of_denotes {text : Text} {numeral : Numeral}
    (denotes : text.Denotes numeral) : numberOfText text = numeral.toDouble := by
  obtain ⟨chars, all, written⟩ := Text.denotes_iff.1 denotes
  rw [numberOfText, all, Option.bind_some, written.read]

theorem numberOfText_eq_zero {text : Text} (none : ¬ ∃ numeral, text.Denotes numeral) :
    numberOfText text = .zero false := by
  rw [numberOfText]
  split
  · next numeral read =>
    obtain ⟨chars, all, read⟩ := Option.bind_eq_some_iff.1 read
    exact absurd ⟨numeral, Text.denotes_iff.2 ⟨chars, all, Numeral.written_of_read read⟩⟩ none
  · rfl

theorem numberOfText_surrounded {before after : List Char} (first : Text.Blank before)
    (last : Text.Blank after) (text : Text) :
    numberOfText (.ofChars before ++ text ++ .ofChars after) = numberOfText text := by
  rw [numberOfText, numberOfText, Text.chars?_surrounded, Option.bind_map]
  simp only [Function.comp_def, Text.trimChars_surrounded first last]

/-- A string is taken as the number nearest to the numeral that it denotes, with the sign of the
numeral, and as zero if it denotes none. That is always a number, and blanks at the ends of the
string do not change it. -/
theorem toNumber_string (text : Text) :
    (∀ numeral, text.Denotes numeral →
      (Value.string text).toNumber.Nearest
          (Double.withSign numeral.negative numeral.decimal.value) ∧
        (Value.string text).toNumber.isNegative = numeral.negative) ∧
      ((¬ ∃ numeral, text.Denotes numeral) → (Value.string text).toNumber = .zero false) ∧
      (Value.string text).toNumber ≠ .nan ∧
      ∀ before after, Text.Blank before → Text.Blank after →
        (Value.string (.ofChars before ++ text ++ .ofChars after)).toNumber =
          (Value.string text).toNumber := by
  refine ⟨fun numeral denotes => ?_, numberOfText_eq_zero, ?_, fun before after first last => ?_⟩
  · rw [toNumber, numberOfText_eq_of_denotes denotes]
    exact numeral.decimal.nearest_toDouble numeral.negative
  · by_cases some : ∃ numeral, text.Denotes numeral
    · obtain ⟨numeral, denotes⟩ := some
      rw [toNumber, numberOfText_eq_of_denotes denotes]
      exact (numeral.decimal.nearest_toDouble numeral.negative).1.ne_nan
    · rw [toNumber, numberOfText_eq_zero some]
      exact Double.noConfusion
  · exact numberOfText_surrounded first last text

theorem toNumber_string_between_blanks :
    ("\t-٣.5e2 " : Text).Denotes ⟨true, ⟨35, 1⟩⟩ ∧
      (Value.string "\t-٣.5e2 ").toNumber.Nearest (Double.withSign true (Decimal.value ⟨35, 1⟩)) ∧
      (¬ ∃ numeral, ("1_000" : Text).Denotes numeral) ∧
      (Value.string "1_000").toNumber = .zero false ∧
      Text.Blank [' '] ∧
      (Value.string (.ofChars [] ++ "1e3" ++ .ofChars [' '])).toNumber =
        (Value.string "1e3").toNumber := by
  have denotes : ("\t-٣.5e2 " : Text).Denotes ⟨true, ⟨35, 1⟩⟩ :=
    Text.denotes_iff.2 ⟨_, Text.chars?_ofChars _, Numeral.written_of_read (by decide +kernel)⟩
  have underscore : ¬ ∃ numeral, ("1_000" : Text).Denotes numeral := by
    rintro ⟨numeral, denotes⟩
    obtain ⟨chars, all, written⟩ := Text.denotes_iff.1 denotes
    obtain rfl := Option.some.inj ((Text.chars?_ofChars _).symm.trans all)
    have none : Numeral.ofChars? (Text.trimChars "1_000".toList) = none := by decide +kernel
    exact Option.some_ne_none _ (written.read.symm.trans none)
  have nothing : Text.Blank [] := List.forall_mem_nil _
  have blank : Text.Blank [' '] := List.forall_mem_singleton.2 (by decide)
  exact ⟨denotes, ((toNumber_string _).1 _ denotes).1, underscore,
    (toNumber_string _).2.1 underscore, blank, (toNumber_string _).2.2.2 [] [' '] nothing blank⟩

end Value

end Parley
