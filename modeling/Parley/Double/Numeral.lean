/-
Decimal numerals in texts. A numeral is a row of digits with at most one point
and at least one digit on one of its sides, with or without a sign in front and
an exponent behind. Digits of any script count. Nothing else is a numeral: no
name of infinity, no separators, no blanks inside.

Listings are less strict: in them underscores may stand between digits and blanks
around a numeral, and infinity has a name.
-/

import Parley.Double.Decimal
import Parley.Text.Blank
import Parley.Text.Digit

namespace Parley

/-- A numeral that has been read. -/
structure Numeral where
  negative : Bool
  decimal : Decimal
  deriving DecidableEq, Repr

namespace Numeral

open Parley.Text

/-- Takes a sign off the front. -/
def splitSign : List Char → Bool × List Char
  | '+' :: rest => (false, rest)
  | '-' :: rest => (true, rest)
  | text => (false, text)

/-- Takes a point and the digits behind it off the front. -/
def splitFraction : List Char → List Char × List Char
  | '.' :: rest => (rest.takeWhile isDigit, rest.dropWhile isDigit)
  | text => ([], text)

/-- The exponent that the end of a numeral denotes; no exponent is zero. -/
def exponent? : List Char → Option Int
  | [] => some 0
  | mark :: rest =>
    let (negative, digits) := splitSign rest
    if (mark = 'e' ∨ mark = 'E') ∧ digits ≠ [] ∧ digits.all isDigit then
      some (if negative then -digitsValue digits else digitsValue digits)
    else none

/-- The numeral that a text is. -/
def ofChars? (text : List Char) : Option Numeral :=
  let (negative, body) := splitSign text
  let whole := body.takeWhile isDigit
  let (fraction, tail) := splitFraction (body.dropWhile isDigit)
  if whole = [] ∧ fraction = [] then none
  else (exponent? tail).map fun exponent =>
    ⟨negative, digitsValue (whole ++ fraction), exponent - fraction.length⟩

/-- The number nearest to a numeral. -/
def toDouble (numeral : Numeral) : Double := numeral.decimal.toDouble numeral.negative

/-- Leaves out underscores, each of which must stand between two digits. -/
def dropUnderscores? : List Char → Option (List Char)
  | [] => some []
  | '_' :: _ => none
  | first :: '_' :: second :: rest =>
    if isDigit first && isDigit second then (dropUnderscores? (second :: rest)).map (first :: ·)
    else none
  | char :: rest => (dropUnderscores? rest).map (char :: ·)

end Numeral

/-- The numeral that a listing shows: one with or without underscores between its digits, and with
blanks around it. -/
def Numeral.ofListed? (text : List Char) : Option Numeral :=
  (Numeral.dropUnderscores? (Text.trimChars text)).bind Numeral.ofChars?

/-- The number that a listing shows: a numeral, or the name of an infinity or of what is not a
number, with blanks around it and in any case. -/
def Double.ofListed? (text : List Char) : Option Double :=
  let (negative, name) := Numeral.splitSign (Text.trimChars text)
  match String.ofList (name.map Char.toLower) with
  | "nan" => some .nan
  | "inf" | "infinity" => some (.infinite negative)
  | _ => (Numeral.ofListed? text).map Numeral.toDouble

end Parley
