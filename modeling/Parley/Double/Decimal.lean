/-
Decimals: whole numbers scaled by a power of ten. A decimal is read as the
number nearest to it, and a finite number is written with the fewest digits
that read back as that number.

The digits are found on the decimal grids of 1, 2, … 17 digits. On each grid
the two neighbours of the number are read back; the first grid with a hit wins,
of two hits the nearer, of two equally near the even one. What is chosen reads
back because it was read back before it was chosen, and should no grid have a
hit, the exact decimal of the number is there to be taken.
-/

import Parley.Double.Basic

namespace Parley

/-- The decimal `digits · 10 ^ exponent`. -/
structure Decimal where
  digits : Nat
  exponent : Int
  deriving DecidableEq, Repr

namespace Decimal

/-- Moves the zeros at the end of the digits into the exponent, `fuel` of them at most. -/
def stripZeros : Nat → Decimal → Decimal
  | 0, decimal => decimal
  | fuel + 1, decimal =>
    if decimal.digits % 10 = 0 then stripZeros fuel ⟨decimal.digits / 10, decimal.exponent + 1⟩
    else decimal

/-- The power of ten that a decimal is multiplied with, as a pair of numerator and denominator. -/
def scale (exponent : Int) : Nat × Nat :=
  if 0 ≤ exponent then (Nat.pow 10 exponent.toNat, 1) else (1, Nat.pow 10 (-exponent).toNat)

/-- The number nearest to a decimal. The two outer cases are far beyond the largest and far
below the smallest number, where the power of ten need not be taken to know the answer. -/
def toDouble (negative : Bool) (decimal : Decimal) : Double :=
  if decimal.digits = 0 then .zero negative
  else if 400 < decimal.exponent then .infinite negative
  else if decimal.exponent < 0 ∧ decimal.digits.log2 + 1080 < 3 * (-decimal.exponent).toNat then
    .zero negative
  else
    .ofRatio negative (decimal.digits * (scale decimal.exponent).1 * Double.unitsPerOne)
      (scale decimal.exponent).2

end Decimal

namespace Double

/-- The exponent of the leading digit of a positive count of units, up to an error of one. -/
def leadingGuess (units : Nat) : Int := ((units.log2 : Int) - 1074) * 30103 / 100000

/-- Compares `units` with a power of ten. -/
def belowPower (units : Nat) (exponent : Int) : Bool :=
  units * (Decimal.scale exponent).2 < (Decimal.scale exponent).1 * unitsPerOne

/-- The exponent of the leading decimal digit of a positive count of units. -/
def leading (units : Nat) : Int :=
  let guess := leadingGuess units
  if belowPower units guess then guess - 1
  else if belowPower units (guess + 1) then guess
  else guess + 1

/-- Tells whether a decimal reads back as the positive number of that many units. -/
def readsBack (units : Nat) (decimal : Decimal) : Bool :=
  match decimal.toDouble false with
  | finite false others _ => others = units
  | _ => false

/-- The decimals of a grid that read back, the better one first. -/
def hits (units : Nat) (exponent : Int) : List Decimal :=
  let num := units * (Decimal.scale exponent).2
  let den := (Decimal.scale exponent).1 * unitsPerOne
  let below := num / den
  let excess := num % den
  let neighbours :=
    if 2 * excess < den ∨ (2 * excess = den ∧ below % 2 = 0) then [below, below + 1]
    else [below + 1, below]
  (neighbours.map fun digits => Decimal.stripZeros 20 ⟨digits, exponent⟩).filter
    (readsBack units)

/-- The exact decimal of a count of units. -/
def exactDecimal (units : Nat) : Decimal := ⟨units * Nat.pow 5 1074, -1074⟩

/-- The decimal of fewest digits that reads back as the positive number of that many units. -/
def shortest (units : Nat) : Decimal :=
  let top := leading units
  match (List.range 17).findSome? fun (index : Nat) => (hits units (top - index)).head? with
  | some decimal => decimal
  | none => exactDecimal units

end Double

end Parley
