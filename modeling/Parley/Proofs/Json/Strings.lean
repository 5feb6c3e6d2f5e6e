/-
This file settles how strings are spelled in documents. A spelling is a row of
characters, escaped letters and escaped code units, and what it spells is a row of
symbols. The scanner of strings reads a spelling up to the quote behind it, and it reads
nothing else.

Escaped code units may be the halves of a pair; these are joined once the string has
been read. So a text is read from its spelling if no high half stands before a low half
in it, and every string of characters is such a text.
-/

import Mathlib
import Parley.Json.Printer
import Parley.Json.Token

namespace Parley.Json

open Parley.Text

/-! ### Spellings -/

/-- A row of characters between quotes, and the symbols that it spells. -/
inductive Spelling : List Char → List Symbol → Prop
  | nil : Spelling [] []
  | plain {char : Char} {rest : List Char} {symbols : List Symbol} (visible : ¬ char.toNat < 0x20)
      (quote : char ≠ '"') (mark : char ≠ '\\') (others : Spelling rest symbols) :
      Spelling (char :: rest) (.char char :: symbols)
  | letter {letter char : Char} {rest : List Char} {symbols : List Symbol}
      (escaped : escaped? letter = some char) (others : Spelling rest symbols) :
      Spelling ('\\' :: letter :: rest) (.char char :: symbols)
  | unit {first second third fourth : Char} {code : Nat} {rest : List Char} {symbols : List Symbol}
      (escaped : unit? first second third fourth = some code) (others : Spelling rest symbols) :
      Spelling ('\\' :: 'u' :: first :: second :: third :: fourth :: rest)
        (Symbol.ofCode code :: symbols)

/-- What a spelling spells is read up to the quote behind it. -/
theorem Spelling.scanString {spelled : List Char} {symbols : List Symbol}
    (spelling : Spelling spelled symbols) (start index : Nat) (tail : List Char) :
    ∃ next, scanString start index (spelled ++ '"' :: tail) = .ok (symbols, next, tail) := by
  induction spelling generalizing index with
  | nil => exact ⟨index + 1, rfl⟩
  | plain visible quote mark others ih =>
    obtain ⟨next, scanned⟩ := ih (index + 1)
    refine ⟨next, ?_⟩
    rw [List.cons_append, Json.scanString, if_neg visible, scanned]
    · rfl
    · exact quote
    · exact fun same => absurd same mark
    · exact fun _ _ _ _ _ _ same => absurd same mark
    · exact fun _ same => absurd same mark
    · exact fun _ _ same => absurd same mark
  | @letter letter char rest symbols escaped others ih =>
    -- The mark of a code unit is no letter that stands for a character.
    have other : letter ≠ 'u' := by
      rintro rfl
      cases escaped
    obtain ⟨next, scanned⟩ := ih (index + 2)
    refine ⟨next, ?_⟩
    rw [List.cons_append, List.cons_append, Json.scanString, escaped, scanned]
    · rfl
    · exact fun _ _ _ _ _ _ same => absurd same other
    · exact other
  | @unit first second third fourth code rest symbols escaped others ih =>
    obtain ⟨next, scanned⟩ := ih (index + 6)
    refine ⟨next, ?_⟩
    obtain ⟨head, behind, goesOn⟩ : ∃ head behind, rest ++ '"' :: tail = head :: behind :=
      List.exists_cons_of_ne_nil (List.append_ne_nil_of_right_ne_nil _ (List.cons_ne_nil _ _))
    simp only [List.cons_append]
    rw [goesOn, Json.scanString, escaped, ← goesOn, scanned]
    rfl

/-- What is read of a string is what its spelling spells. -/
theorem exists_spelling_of_scanString {start index next : Nat} {text tail : List Char}
    {symbols : List Symbol} (scanned : scanString start index text = .ok (symbols, next, tail)) :
    ∃ spelled, Spelling spelled symbols ∧ text = spelled ++ '"' :: tail := by
  fun_induction scanString start index text generalizing symbols next tail with
  | case1 => cases scanned
  | case2 index rest =>
    cases scanned
    exact ⟨[], .nil, rfl⟩
  | case3 => cases scanned
  | case4 index a b c d e rest code unit ih =>
    cases inner : scanString start (index + 6) (e :: rest) with
    | error =>
      rw [inner] at scanned
      cases scanned
    | ok result =>
      rw [inner] at scanned
      cases scanned
      obtain ⟨spelled, spelling, whole⟩ := ih inner
      exact ⟨_, .unit unit spelling, congrArg (['\\', 'u', a, b, c, d] ++ ·) whole⟩
  | case5 => cases scanned
  | case6 => cases scanned
  | case7 index letter rest char _ _ escaped ih =>
    cases inner : scanString start (index + 2) rest with
    | error =>
      rw [inner] at scanned
      cases scanned
    | ok result =>
      rw [inner] at scanned
      cases scanned
      obtain ⟨spelled, spelling, whole⟩ := ih inner
      exact ⟨_, .letter escaped spelling, congrArg (['\\', letter] ++ ·) whole⟩
  | case8 => cases scanned
  | case9 => cases scanned
  | case10 index char rest quote last _ _ mark visible ih =>
    cases inner : scanString start (index + 1) rest with
    | error =>
      rw [inner] at scanned
      cases scanned
    | ok result =>
      rw [inner] at scanned
      cases scanned
      obtain ⟨spelled, spelling, whole⟩ := ih inner
      have mark : char ≠ '\\' := by
        intro same
        cases rest with
        | nil => exact last same rfl
        | cons letter rest => exact mark letter rest same rfl
      exact ⟨_, .plain visible quote mark spelling, congrArg (char :: ·) whole⟩

/-! ### Texts as they are encoded -/

/-- The letter that is written behind a backslash for a character. -/
def letterFor? : Char → Option Char
  | '"' => some '"'
  | '\\' => some '\\'
  | '\n' => some 'n'
  | '\r' => some 'r'
  | '\t' => some 't'
  | '\x08' => some 'b'
  | '\x0c' => some 'f'
  | _ => none

/-- A symbol between quotes: by its letter if it has one, else as documents are written. -/
def encodedSymbol (symbol : Symbol) : List Char :=
  match symbol.toChar?.bind letterFor? with
  | some letter => ['\\', letter]
  | none => writtenSymbol symbol

/-- The symbols that a symbol is escaped as: itself, or the two halves of its pair. -/
def codeUnits (symbol : Symbol) : List Symbol :=
  if symbol.code < 0x10000 then [symbol]
  else
    [Symbol.ofCode (0xD800 + (symbol.code - 0x10000) / 0x400),
      Symbol.ofCode (0xDC00 + (symbol.code - 0x10000) % 0x400)]

theorem escaped?_of_letterFor? {char letter : Char} (escapes : letterFor? char = some letter) :
    escaped? letter = some char ∧ char.toNat < 0x80 := by
  rw [letterFor?.eq_def] at escapes
  split at escapes <;> cases escapes <;> exact ⟨rfl, by decide⟩

theorem hexValue?_digitChar {value : Nat} (small : value < 16) :
    hexValue? value.digitChar = some value := by
  have all : ∀ value : Fin 16, hexValue? value.val.digitChar = some value.val := by decide
  exact all ⟨value, small⟩

/-- The last hexadecimal digit of a number stands behind those of its sixteenth. -/
theorem hexDigits_succ (width code : Nat) :
    hexDigits (width + 2) code = hexDigits (width + 1) (code / 16) ++ [(code % 16).digitChar] := by
  by_cases small : code < 16
  · rw [hexDigits, hexDigits, Nat.toDigits_of_lt_base small, Nat.div_eq_of_lt small,
      Nat.mod_eq_of_lt small, Nat.toDigits_zero]
    exact congrArg (· ++ [code.digitChar]) List.replicate_succ'
  · have padding (length : Nat) : width + 2 - (length + 1) = width + 1 - length :=
      Nat.add_sub_add_right (width + 1) 1 length
    rw [hexDigits, hexDigits, Nat.toDigits_of_base_le (by decide) (Nat.not_lt.1 small),
      List.length_append, List.length_singleton, padding, List.append_assoc]

theorem hexDigits_four {code : Nat} (unit : code < 0x10000) :
    ∃ first second third fourth, hexDigits 4 code = [first, second, third, fourth] ∧
      unit? first second third fourth = some code := by
  have first : hexDigits 1 (code / 16 / 16 / 16) = [(code / 16 / 16 / 16).digitChar] := by
    rw [hexDigits, Nat.toDigits_of_lt_base (by omega)]
    rfl
  have digits := hexDigits_succ 2 code
  rw [hexDigits_succ 1, hexDigits_succ 0, first] at digits
  refine ⟨_, _, _, _, digits, ?_⟩
  rw [unit?, hexValue?_digitChar (by omega), hexValue?_digitChar (by omega),
    hexValue?_digitChar (by omega), hexValue?_digitChar (by omega)]
  show some _ = some _
  congr 1
  omega

theorem ofCode_code {symbol : Symbol} (small : symbol.code < 0x10000) :
    Symbol.ofCode symbol.code = symbol := by
  cases symbol with
  | half index =>
    have surrogate : 0xD800 ≤ 0xD800 + index.val ∧ 0xD800 + index.val < 0xE000 := by omega
    rw [Symbol.code, Symbol.ofCode, dif_pos surrogate]
    exact congrArg Symbol.half (Fin.ext (Nat.add_sub_cancel_left _ _))
  | char char =>
    have scalar : ¬ (0xD800 ≤ char.toNat ∧ char.toNat < 0xE000) := by
      obtain below | ⟨above, -⟩ := char.valid
      · exact fun surrogate => Nat.not_lt.2 surrogate.1 below
      · exact fun surrogate => Nat.not_lt.2 (Nat.le_of_lt_succ surrogate.2) above
    rw [Symbol.code, Symbol.ofCode, dif_neg scalar, Char.ofNat_toNat]

/-- An escaped code unit spells the symbol of the unit. -/
theorem Spelling.unitEscape {code : Nat} (small : code < 0x10000) {rest : List Char}
    {symbols : List Symbol} (others : Spelling rest symbols) :
    Spelling (unitEscape code ++ rest) (Symbol.ofCode code :: symbols) := by
  obtain ⟨first, second, third, fourth, digits, value⟩ := hexDigits_four small
  rw [Json.unitEscape, digits]
  exact .unit value others

theorem code_lt (symbol : Symbol) : symbol.code < 0x110000 := by
  cases symbol with
  | half index => exact Nat.lt_trans (Nat.add_lt_add_left index.isLt _) (by decide)
  | char char =>
    obtain below | ⟨-, below⟩ := char.valid
    · exact Nat.lt_trans below (by decide)
    · exact below

/-- What a symbol is written as spells its code units. -/
theorem Spelling.writtenSymbol (symbol : Symbol) {rest : List Char} {symbols : List Symbol}
    (others : Spelling rest symbols) :
    Spelling (writtenSymbol symbol ++ rest) (codeUnits symbol ++ symbols) := by
  have itself (small : symbol.code < 0x10000) : codeUnits symbol = [symbol] := if_pos small
  rw [Json.writtenSymbol]
  by_cases visible : 0x20 ≤ symbol.code ∧ symbol.code < 0x7F
  · cases symbol with
    | half index => exact absurd visible.2 (Nat.not_lt.2 (Nat.le_add_right_of_le (by decide)))
    | char char =>
      rw [itself (Nat.lt_trans visible.2 (by decide))]
      by_cases quote : char = '"'
      · subst quote
        exact .letter rfl others
      · by_cases mark : char = '\\'
        · subst mark
          exact .letter rfl others
        · have noQuote : (Symbol.char char).code ≠ 0x22 := fun same => quote (Char.toNat_inj.1 same)
          have noMark : (Symbol.char char).code ≠ 0x5C := fun same => mark (Char.toNat_inj.1 same)
          rw [if_neg noQuote, if_neg noMark, if_pos visible, Symbol.code, Char.ofNat_toNat]
          exact .plain (Nat.not_lt.2 visible.1) quote mark others
  · have quote : symbol.code ≠ 0x22 := by omega
    have mark : symbol.code ≠ 0x5C := by omega
    rw [if_neg quote, if_neg mark, if_neg visible]
    by_cases small : symbol.code < 0x10000
    · have spelled := others.unitEscape small
      rw [ofCode_code small] at spelled
      rw [if_pos small, itself small]
      exact spelled
    · have most := code_lt symbol
      rw [if_neg small, codeUnits, if_neg small, List.append_assoc]
      exact (others.unitEscape (by omega)).unitEscape (by omega)

/-- What a symbol is encoded as spells its code units. -/
theorem Spelling.encodedSymbol (symbol : Symbol) {rest : List Char} {symbols : List Symbol}
    (others : Spelling rest symbols) :
    Spelling (encodedSymbol symbol ++ rest) (codeUnits symbol ++ symbols) := by
  rw [Json.encodedSymbol]
  cases escapes : symbol.toChar?.bind letterFor? with
  | none => exact others.writtenSymbol symbol
  | some letter =>
    cases symbol with
    | half index => cases escapes
    | char char =>
      obtain ⟨spells, small⟩ := escaped?_of_letterFor? escapes
      have itself : codeUnits (.char char) = [.char char] :=
        if_pos (Nat.lt_trans small (by decide))
      rw [itself]
      exact .letter spells others

/-- A text between quotes. -/
def encodedText (text : Text) : List Char := '"' :: (text.symbols.flatMap encodedSymbol ++ ['"'])

theorem spelling_encoded (symbols : List Symbol) :
    Spelling (symbols.flatMap encodedSymbol) (symbols.flatMap codeUnits) := by
  induction symbols with
  | nil => exact .nil
  | cons symbol rest ih => exact ih.encodedSymbol symbol

theorem spelling_written (symbols : List Symbol) :
    Spelling (symbols.flatMap writtenSymbol) (symbols.flatMap codeUnits) := by
  induction symbols with
  | nil => exact .nil
  | cons symbol rest ih => exact ih.writtenSymbol symbol

/-! ### Halves of pairs -/

theorem joinHalves_char (char : Char) (rest : List Symbol) :
    joinHalves (.char char :: rest) = .char char :: joinHalves rest := by
  rw [joinHalves]
  rintro _ _ _ ⟨⟩

/-- A half stays by itself unless the other half of a pair comes next. -/
theorem joinHalves_half {high : Fin 2048} {rest : List Symbol}
    (apart : ∀ low, rest.head? = some (.half low) →
      Symbol.joined? (Symbol.half high).code (Symbol.half low).code = none) :
    joinHalves (.half high :: rest) = .half high :: joinHalves rest := by
  cases rest with
  | nil => rfl
  | cons next rest =>
    cases next with
    | char char =>
      rw [joinHalves]
      rintro _ _ _ - ⟨⟩
    | half low => rw [joinHalves, apart low rfl]

theorem exists_half {code : Nat} (surrogate : 0xD800 ≤ code ∧ code < 0xE000) :
    ∃ index, Symbol.ofCode code = .half index ∧ (Symbol.half index).code = code :=
  ⟨⟨code - 0xD800, by omega⟩, dif_pos surrogate, Nat.add_sub_cancel' surrogate.1⟩

theorem code_half_lt (index : Fin 2048) : (Symbol.half index).code < 0x10000 :=
  Nat.lt_trans (Nat.add_lt_add_left index.isLt _) (by decide)

/-- A symbol is its own code unit, or it is a character with a pair of them. -/
theorem codeUnits_cases (symbol : Symbol) :
    codeUnits symbol = [symbol] ∨
      ∃ char high low, symbol = .char char ∧ codeUnits symbol = [.half high, .half low] ∧
        (Symbol.half high).code < 0xDC00 ∧
        Symbol.joined? (Symbol.half high).code (Symbol.half low).code = some char := by
  by_cases small : symbol.code < 0x10000
  · exact .inl (if_pos small)
  · have most := code_lt symbol
    have upper : 0xD800 ≤ 0xD800 + (symbol.code - 0x10000) / 0x400 ∧
        0xD800 + (symbol.code - 0x10000) / 0x400 < 0xE000 := by omega
    have lower : 0xD800 ≤ 0xDC00 + (symbol.code - 0x10000) % 0x400 ∧
        0xDC00 + (symbol.code - 0x10000) % 0x400 < 0xE000 := by omega
    obtain ⟨high, isHigh, highCode⟩ := exists_half upper
    obtain ⟨low, isLow, lowCode⟩ := exists_half lower
    cases symbol with
    | half index => exact absurd (code_half_lt index) small
    | char char =>
      refine .inr ⟨char, high, low, rfl, ?_, by omega, ?_⟩
      · rw [codeUnits, if_neg small, isHigh, isLow]
      · have whole : 0x10000 + (0xD800 + (char.toNat - 0x10000) / 0x400 - 0xD800) * 0x400 +
            (0xDC00 + (char.toNat - 0x10000) % 0x400 - 0xDC00) = char.toNat := by
          rw [Symbol.code] at small
          omega
        rw [highCode, lowCode, Symbol.joined?, if_pos (by omega)]
        rw [Symbol.code, whole, Char.ofNat_toNat]

/-- Escaping a row of symbols by code units, and joining the halves, joins the halves that were
there. -/
theorem joinHalves_codeUnits (symbols : List Symbol) :
    joinHalves (symbols.flatMap codeUnits) = joinHalves symbols := by
  have half (index : Fin 2048) : codeUnits (.half index) = [.half index] :=
    if_pos (code_half_lt index)
  fun_induction joinHalves symbols with
  | case1 high low rest char joined ih =>
    rw [List.flatMap_cons, List.flatMap_cons, half, half]
    show joinHalves (.half high :: .half low :: rest.flatMap codeUnits) = _
    rw [joinHalves, joined, ih]
  | case2 high low rest apart ih =>
    rw [List.flatMap_cons, half] at ih ⊢
    rw [List.flatMap_cons, half]
    show joinHalves (.half high :: .half low :: rest.flatMap codeUnits) = _
    rw [joinHalves, apart]
    exact congrArg (Symbol.half high :: ·) ih
  | case3 symbol rest apart ih =>
    rw [List.flatMap_cons]
    obtain single | ⟨char, high, low, rfl, pair, -, joined⟩ := codeUnits_cases symbol
    · rw [single, List.singleton_append]
      cases symbol with
      | char char => rw [joinHalves_char, ih]
      | half high =>
        rw [joinHalves_half, ih]
        -- What comes next is a character, or the high half of its pair.
        intro low next
        cases rest with
        | nil => cases next
        | cons symbol rest =>
          cases symbol with
          | half other => exact absurd rfl (apart high other rest rfl)
          | char char =>
            obtain alone | ⟨_, first, _, -, pair, isHigh, -⟩ := codeUnits_cases (.char char)
            · rw [List.flatMap_cons, alone] at next
              cases next
            · rw [List.flatMap_cons, pair] at next
              cases next
              refine if_neg fun joins => ?_
              exact Nat.not_lt.2 joins.2.2.1 isHigh
    · rw [pair]
      show joinHalves (.half high :: .half low :: rest.flatMap codeUnits) = _
      rw [joinHalves, joined, ih]
  | case4 => rfl

/-- Where halves have been joined there is nothing left to join. -/
theorem joinHalves_joinHalves (symbols : List Symbol) :
    joinHalves (joinHalves symbols) = joinHalves symbols := by
  fun_induction joinHalves symbols with
  | case1 high low rest char joined ih => rw [joinHalves_char, ih]
  | case2 high low rest apart ih =>
    rw [joinHalves_half, ih]
    -- What comes next is the lower one of the two, or what it was joined to.
    intro next first
    rw [joinHalves.eq_def] at first
    split at first
    · next same =>
      cases same
      split at first
      · cases first
      · cases first
        exact apart
    · next same =>
      cases same
      cases first
      exact apart
    · cases first
  | case3 symbol rest apart ih =>
    cases symbol with
    | char char => rw [joinHalves_char, ih]
    | half high =>
      rw [joinHalves_half, ih]
      intro low first
      cases rest with
      | nil => cases first
      | cons symbol rest =>
        cases symbol with
        | half other => exact absurd rfl (apart high other rest rfl)
        | char char =>
          rw [joinHalves_char] at first
          cases first
  | case4 => rfl

/-- Strings of characters have no halves that could be joined. -/
theorem joinHalves_ofChars (chars : List Char) :
    joinHalves (ofChars chars).symbols = (ofChars chars).symbols := by
  induction chars with
  | nil => rfl
  | cons char rest ih => exact (joinHalves_char char _).trans (congrArg (Symbol.char char :: ·) ih)

end Parley.Json
