/-
How numbers are written. A finite number is written with the fewest digits that
identify it, positionally while its leading digit stands between the fourth
place after the point and the sixteenth before it, and otherwise with an
exponent. Of two forms of a whole number, `3.0` belongs to listings, where
numbers must not be taken for integers, and `3` to running text.
-/

import Parley.Double.Decimal

namespace Parley

namespace Double

/-- The layout of written numbers. -/
structure Layout where
  /-- The least exponent of a leading digit that is written positionally. -/
  least : Int
  /-- The least exponent above it that is not. -/
  beyond : Int
  /-- The mark between digits and exponent. -/
  mark : Char
  /-- The least number of digits of an exponent. -/
  width : Nat

/-- Numbers from 0.0001 up to 10^16 are positional; exponents have a sign and two digits. -/
def layout : Layout := ⟨-4, 16, 'e', 2⟩

/-- The exponent of a number: its sign and its digits, filled up with zeros. -/
def exponentText (exponent : Int) : List Char :=
  let digits := Nat.toDigits 10 exponent.natAbs
  layout.mark :: (if exponent < 0 then '-' else '+') ::
    (List.replicate (layout.width - digits.length) '0' ++ digits)

/-- A positive decimal, laid out. -/
def decimalText (decimal : Decimal) : List Char :=
  let digits := Nat.toDigits 10 decimal.digits
  let lead : Int := decimal.exponent + (digits.length : Int) - 1
  if lead < layout.least ∨ layout.beyond ≤ lead then
    match digits with
    | [] => []
    | [digit] => digit :: exponentText lead
    | digit :: rest => digit :: '.' :: (rest ++ exponentText lead)
  else if lead < 0 then
    '0' :: '.' :: (List.replicate (-lead - 1).toNat '0' ++ digits)
  else if 0 ≤ decimal.exponent then
    digits ++ List.replicate decimal.exponent.toNat '0' ++ ['.', '0']
  else
    digits.take (lead.toNat + 1) ++ '.' :: digits.drop (lead.toNat + 1)

/-- A sign in front of a text. -/
def signed (negative : Bool) (text : List Char) : List Char :=
  if negative then '-' :: text else text

/-- A number as a listing shows it. -/
def listed : Double → List Char
  | nan => "nan".toList
  | infinite negative => signed negative "inf".toList
  | finite negative 0 _ => signed negative "0.0".toList
  | finite negative units _ => signed negative (decimalText (shortest units))

/-- A number as running text shows it: a whole number without fraction or exponent. -/
def plain (number : Double) : List Char :=
  match number with
  | nan => "NaN".toList
  | infinite negative => signed negative "Infinity".toList
  | finite _ _ _ =>
    match number.toInt? with
    | some int => signed (int < 0) (Nat.toDigits 10 int.natAbs)
    | none => number.listed

end Double

end Parley
