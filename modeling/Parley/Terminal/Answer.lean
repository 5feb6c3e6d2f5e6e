/-
Answers typed at a prompt. An answer is an integer: digits with or without a minus
sign, with blanks around them that do not count. A plus sign and zeros may stand in
front, single underscores between the digits, and a point with zeros behind.
-/

import Parley.Text.Blank

namespace Parley

namespace Answer

/-- What is said about an answer that is no integer. -/
def notInteger : String :=
  "Input should be a valid integer, unable to parse string as an integer"

/-- What is said about an answer that is too long to be read. -/
def tooLong : String := "Unable to parse input string as an integer, exceeded maximum size"

/-- The most digits of an answer. -/
def limit : Nat := 4300

/-- Tells whether an answer begins with a number of too many digits, with or without a minus sign.
Blanks, a plus sign or zeros in front of the digits keep it from being looked at as it stands. -/
def isTooLong : List Char → Bool
  | '-' :: digits => isTooLong.counted digits
  | digits => isTooLong.counted digits
where
  /-- Tells whether a text begins with too many digits, the first of them no zero. -/
  counted (digits : List Char) : Bool :=
    digits.head? ≠ some '0' ∧ limit < (digits.takeWhile Char.isDigit).length

/-- Tells whether a character may surround an answer. -/
def isSpace (char : Char) : Bool :=
  Text.isBlank char && !(0x1C ≤ char.toNat && char.toNat ≤ 0x1F)

/-- Takes the blanks off both ends. -/
def dropSpaces (text : List Char) : List Char :=
  ((text.dropWhile isSpace).reverse.dropWhile isSpace).reverse

/-- Takes off a plus sign, behind which there is no minus sign. -/
def dropPlus? : List Char → Option (List Char)
  | '+' :: '-' :: _ => none
  | '+' :: rest => some rest
  | text => some text

/-- Leaves out zeros and underscores behind a zero or an underscore. They may stand before digits
and before a minus sign; before a point, or with nothing behind them, the last of them stays. -/
def dropZerosBehind (last : Char) : List Char → Option (List Char)
  | [] => some [last]
  | char :: rest =>
    if char = '0' ∨ char = '_' then dropZerosBehind char rest
    else if char.isDigit ∨ char = '-' then some (char :: rest)
    else if char = '.' then some (last :: char :: rest)
    else none

/-- Leaves out the zeros in front of a text that begins with a digit. -/
def dropZeros? : List Char → Option (List Char)
  | [] => none
  | char :: rest =>
    if char = '0' then dropZerosBehind char rest
    else if char.isDigit then some (char :: rest)
    else none

/-- Leaves out the zeros in front of a text, behind its minus sign if it has one. -/
def dropSignedZeros? : List Char → Option (List Char)
  | '-' :: size => (dropZeros? size).map ('-' :: ·)
  | size => dropZeros? size

/-- Leaves out a point with zeros, and nothing else, behind it. -/
def dropFraction (text : List Char) : List Char :=
  match text.dropWhile (· ≠ '.') with
  | _ :: '0' :: zeros => if zeros.all (· = '0') then text.takeWhile (· ≠ '.') else text
  | _ => text

/-- Tells whether two underscores stand side by side. -/
def hasDoubleUnderscore : List Char → Bool
  | '_' :: '_' :: _ => true
  | _ :: rest => hasDoubleUnderscore rest
  | [] => false

/-- Leaves out the underscores of a text that has each of them between two other characters. -/
def dropUnderscores (text : List Char) : List Char :=
  if text.head? = some '_' ∨ text.getLast? = some '_' ∨ hasDoubleUnderscore text then text
  else text.filter (· ≠ '_')

/-- The value of a row of digits. -/
def digitsValue (digits : List Char) : Nat :=
  digits.foldl (fun value digit => value * 10 + (digit.toNat - '0'.toNat)) 0

/-- The natural number that a text is: digits without a zero in front, or a single zero. -/
def natural? (text : List Char) : Option Nat :=
  if text = [] ∨ !text.all Char.isDigit ∨ limit < text.length then none
  else if text.head? = some '0' ∧ text ≠ ['0'] then none
  else some (digitsValue text)

/-- The integer that a text is: a natural number with or without a minus sign. -/
def integer? : List Char → Option Int
  | '-' :: size => (natural? size).map fun size => -(size : Int)
  | size => (natural? size).map Int.ofNat

/-- Leaves out what does not count of an answer, if what is left can be a number. -/
def tidy? (answer : List Char) : Option (List Char) :=
  ((dropPlus? (dropSpaces answer)).bind dropSignedZeros?).map fun text =>
    dropUnderscores (dropFraction text)

/-- The integer that an answer is, or what is said about it. Too many digits are complained of only
where the answer begins with them; behind anything that does not count they make it no integer. -/
def integer (answer : String) : Except String Int :=
  if isTooLong answer.toList then .error tooLong
  else match (tidy? answer.toList).bind integer? with
    | some number => .ok number
    | none => .error notInteger

end Answer

end Parley
