/-
Tokens of documents. A text falls into tokens from left to right, blanks between
them left out. A text that cannot be cut further ends in a faulty token, which
is an error only where the reader comes to it: `[1 "a` lacks a comma before it
has an open string.
-/

import Parley.Double.Numeral
import Parley.Json.Basic
import Parley.Json.Fault

namespace Parley.Json

open Parley.Text

/-- A token of a document. -/
inductive Token where
  | beginObject
  | endObject
  | beginArray
  | endArray
  | colon
  | comma
  | scalar (document : Json)
  | key (text : Text)
  | openString (fault : Fault)
  | longInteger (digits : Nat)
  | unknown
  | ending

/-- A token and the place where it begins. -/
structure Located where
  index : Nat
  token : Token

/-! ### Strings -/

/-- The value of a hexadecimal digit. -/
def hexValue? (char : Char) : Option Nat :=
  if '0' ≤ char ∧ char ≤ '9' then some (char.toNat - '0'.toNat)
  else if 'a' ≤ char ∧ char ≤ 'f' then some (char.toNat - 'a'.toNat + 10)
  else if 'A' ≤ char ∧ char ≤ 'F' then some (char.toNat - 'A'.toNat + 10)
  else none

/-- The code unit of four hexadecimal digits. -/
def unit? (first second third fourth : Char) : Option Nat := do
  let a ← hexValue? first
  let b ← hexValue? second
  let c ← hexValue? third
  let d ← hexValue? fourth
  return ((a * 16 + b) * 16 + c) * 16 + d

/-- The character that a letter behind a backslash stands for. -/
def escaped? : Char → Option Char
  | '"' => some '"'
  | '\\' => some '\\'
  | '/' => some '/'
  | 'b' => some '\x08'
  | 'f' => some '\x0c'
  | 'n' => some '\n'
  | 'r' => some '\r'
  | 't' => some '\t'
  | _ => none

/-- Joins neighbouring halves of a pair to the character they stand for. -/
def joinHalves : List Symbol → List Symbol
  | .half high :: .half low :: rest =>
    match Symbol.joined? (Symbol.half high).code (Symbol.half low).code with
    | some char => .char char :: joinHalves rest
    | none => .half high :: joinHalves (.half low :: rest)
  | symbol :: rest => symbol :: joinHalves rest
  | [] => []

/-- The rest of a string behind its opening quote, which stood at `start`: its symbols, the text
behind its closing quote, and the place of that text. -/
def scanString (start : Nat) : Nat → List Char →
    Except Fault (List Symbol × Nat × List Char)
  | _, [] => .error (.misplaced .unterminated start)
  | index, '"' :: rest => .ok ([], index + 1, rest)
  | _, ['\\'] => .error (.misplaced .unterminated start)
  | index, '\\' :: 'u' :: a :: b :: c :: d :: e :: rest =>
    match unit? a b c d with
    | some code => do
      let (symbols, next, tail) ← scanString start (index + 6) (e :: rest)
      return (Symbol.ofCode code :: symbols, next, tail)
    | none => .error (.misplaced .unicodeEscape (index + 1))
  | index, '\\' :: 'u' :: _ => .error (.misplaced .unicodeEscape (index + 1))
  | index, '\\' :: letter :: rest =>
    match escaped? letter with
    | some char => do
      let (symbols, next, tail) ← scanString start (index + 2) rest
      return (.char char :: symbols, next, tail)
    | none => .error (.misplaced .escape index)
  | index, char :: rest =>
    if char.toNat < 0x20 then .error (.misplaced .control index)
    else do
      let (symbols, next, tail) ← scanString start (index + 1) rest
      return (.char char :: symbols, next, tail)

/-- A string that is read leaves less text than there was. -/
theorem length_scanString {start index next : Nat} {text tail : List Char} {symbols : List Symbol}
    (found : scanString start index text = .ok (symbols, next, tail)) :
    tail.length < text.length := by
  fun_induction scanString start index text generalizing symbols next tail with
  | case1 => simp at found
  | case2 => simp at found; simp [found]
  | case3 => simp at found
  | case4 index a b c d e rest code unit ih =>
    cases inner : scanString start (index + 6) (e :: rest) with
    | error => simp [inner, bind, Except.bind] at found
    | ok result =>
      obtain ⟨innerSymbols, innerNext, innerTail⟩ := result
      simp [inner, bind, Except.bind, pure, Except.pure] at found
      have shorter := ih inner
      simp only [List.length_cons] at shorter ⊢
      rw [← found.2.2]
      omega
  | case5 => simp at found
  | case6 => simp at found
  | case7 index letter rest char _ letterFound _ ih =>
    cases inner : scanString start (index + 2) rest with
    | error => simp [inner, bind, Except.bind] at found
    | ok result =>
      obtain ⟨innerSymbols, innerNext, innerTail⟩ := result
      simp [inner, bind, Except.bind, pure, Except.pure] at found
      have shorter := ih inner
      simp only [List.length_cons]
      rw [← found.2.2]
      omega
  | case8 => simp at found
  | case9 => simp at found
  | case10 index char rest _ _ _ _ _ _ ih =>
    cases inner : scanString start (index + 1) rest with
    | error => simp [inner, bind, Except.bind] at found
    | ok result =>
      obtain ⟨innerSymbols, innerNext, innerTail⟩ := result
      simp [inner, bind, Except.bind, pure, Except.pure] at found
      have shorter := ih inner
      simp only [List.length_cons]
      rw [← found.2.2]
      omega

/-! ### Numbers -/

/-- Tells whether a character is one of the ten digits of ASCII. -/
def isPlainDigit (char : Char) : Bool := '0' ≤ char && char ≤ '9'

/-- The whole part of a number without its sign: a zero, or digits that do not begin with one. -/
def splitWhole : List Char → List Char × List Char
  | '0' :: rest => (['0'], rest)
  | text => (text.takeWhile isPlainDigit, text.dropWhile isPlainDigit)

/-- A point with digits behind it, if the text begins with one. -/
def splitPoint : List Char → List Char × List Char
  | '.' :: rest =>
    match rest.takeWhile isPlainDigit with
    | [] => ([], '.' :: rest)
    | digits => ('.' :: digits, rest.dropWhile isPlainDigit)
  | text => ([], text)

/-- The sign that a text begins with, if any, and the text behind it. -/
def splitMark : List Char → List Char × List Char
  | '+' :: rest => (['+'], rest)
  | '-' :: rest => (['-'], rest)
  | text => ([], text)

/-- An exponent, if the text begins with one. -/
def splitPower : List Char → List Char × List Char
  | [] => ([], [])
  | mark :: rest =>
    let (sign, tail) := splitMark rest
    match tail.takeWhile isPlainDigit with
    | [] => ([], mark :: rest)
    | digits =>
      if mark = 'e' ∨ mark = 'E' then (mark :: (sign ++ digits), tail.dropWhile isPlainDigit)
      else ([], mark :: rest)

/-- The token of a number: an integer, or with a point or an exponent a floating point number. -/
def numberToken (negative : Bool) (whole fraction power : List Char) : Token :=
  if fraction = [] ∧ power = [] then
    if digitLimit < whole.length then .longInteger whole.length
    else
      let size : Int := (digitsValue whole : Nat)
      .scalar (.int (if negative then -size else size))
  else
    match Numeral.ofChars? (whole ++ fraction ++ power) with
    | some numeral => .scalar (.float (numeral.decimal.toDouble negative))
    | none => .unknown

/-- The number that a text begins with, its sign left out: its token and its length. -/
def scanNumber (negative : Bool) (text : List Char) : Option (Token × Nat) :=
  let (whole, afterWhole) := splitWhole text
  let (fraction, afterFraction) := splitPoint afterWhole
  let (power, _) := splitPower afterFraction
  if whole = [] then none
  else some (numberToken negative whole fraction power,
    whole.length + fraction.length + power.length)

/-! ### Words and marks -/

/-- The words that are documents. -/
def words : List (List Char × Json) :=
  [("null".toList, .null), ("true".toList, .bool true), ("false".toList, .bool false),
    ("NaN".toList, .float .nan), ("Infinity".toList, .float (.infinite false)),
    ("-Infinity".toList, .float (.infinite true))]

/-- The token of a mark. -/
def markToken? : Char → Option Token
  | '\x7b' => some .beginObject
  | '\x7d' => some .endObject
  | '[' => some .beginArray
  | ']' => some .endArray
  | ':' => some .colon
  | ',' => some .comma
  | _ => none

/-- Tells whether a character may stand between tokens. -/
def isGap (char : Char) : Bool := char = ' ' || char = '\t' || char = '\n' || char = '\r'

/-- The token of a text that begins with neither a gap nor a quote, and how much longer than one
character it is. -/
def plainToken (char : Char) (rest : List Char) : Token × Nat :=
  match words.find? fun word => word.1.isPrefixOf (char :: rest) with
  | some (word, document) => (.scalar document, word.length - 1)
  | none =>
    let number :=
      if char = '-' then scanNumber true rest
      else (scanNumber false (char :: rest)).map fun found => (found.1, found.2 - 1)
    match number with
    | some found => found
    | none => ((markToken? char).getD .unknown, 0)

/-- The tokens of a text that begins at a place, the end of the text included. -/
def tokens (index : Nat) (text : List Char) : List Located :=
  match text with
  | [] => [⟨index, .ending⟩]
  | char :: rest =>
    if isGap char then tokens (index + 1) rest
    else if char = '"' then
      match _found : scanString index (index + 1) rest with
      | .ok (symbols, next, tail) => ⟨index, .key ⟨joinHalves symbols⟩⟩ :: tokens next tail
      | .error fault => [⟨index, .openString fault⟩]
    else
      let (token, more) := plainToken char rest
      ⟨index, token⟩ :: tokens (index + 1 + more) (rest.drop more)
termination_by text.length
decreasing_by
  · simp
  · have := length_scanString ‹_›
    simp only [List.length_cons]
    omega
  · simp only [List.length_cons, List.length_drop]
    omega

end Parley.Json
