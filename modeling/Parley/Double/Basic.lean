/-
Numbers are binary floating point numbers of 64 bits, kept as what they are: a
finite number is a sign and a count of units, the unit being the smallest
positive number, 2^-1074. Every finite number is a whole count of units, so sums
are sums of naturals, and the one place where anything is lost is rounding.

A count of units is a number when it fits: at most 53 significant bits, and
below the bound 2^2098 that stands for 2^1024. Rounding takes an exact ratio to
the nearest count on the grid of its size, a tie to the even neighbour, and to
infinity when that reaches the bound.
-/

namespace Parley

namespace Double

/-- The number of units in one. -/
def unitsPerOne : Nat := Nat.pow 2 1074

/-- The count of units at which numbers end and infinity begins. -/
def bound : Nat := Nat.pow 2 2098

/-- The distance between neighbouring numbers of the size of `units`. -/
def spacing (units : Nat) : Nat := Nat.pow 2 (units.log2 - 52)

/-- A count of units that is a number: below the bound and on the grid of its size. -/
structure Fits (units : Nat) : Prop where
  bounded : units < bound
  aligned : units % spacing units = 0

instance (units : Nat) : Decidable (Fits units) :=
  decidable_of_iff (units < bound ∧ units % spacing units = 0)
    ⟨fun both => ⟨both.1, both.2⟩, fun fits => ⟨fits.bounded, fits.aligned⟩⟩

theorem bound_pos : 0 < bound := Nat.pos_of_ne_zero (by decide +kernel)

theorem fits_zero : Fits 0 := ⟨bound_pos, Nat.zero_mod _⟩

end Double

/-- A floating point number: not a number at all, an infinity, or a signed count of units. -/
inductive Double where
  | nan
  | infinite (negative : Bool)
  | finite (negative : Bool) (units : Nat) (fits : Double.Fits units)
  deriving DecidableEq

namespace Double

/-- A zero of either sign. -/
def zero (negative : Bool) : Double := .finite negative 0 fits_zero

instance : Inhabited Double := ⟨zero false⟩

/-! ### Rounding -/

/-- The multiple of `step` nearest to `num / den`, of two equally near the even one. -/
def nearestMultiple (step num den : Nat) : Nat :=
  let whole := num / (den * step)
  let excess := num % (den * step)
  if 2 * excess < den * step ∨ (2 * excess = den * step ∧ whole % 2 = 0) then whole * step
  else (whole + 1) * step

/-- The count of units nearest to `num / den` among those with 53 significant bits. -/
def roundUnits (num den : Nat) : Nat := nearestMultiple (spacing (num / den)) num den

/-- The number with a sign and a count of units; a count that does not fit is infinite. -/
def ofUnits (negative : Bool) (units : Nat) : Double :=
  if fits : Fits units then .finite negative units fits else .infinite negative

/-- The number nearest to `num / den` units. -/
def ofRatio (negative : Bool) (num den : Nat) : Double :=
  ofUnits negative (roundUnits num den)

/-- The number nearest to an integer; one beyond the numbers becomes an infinity of its sign. -/
def ofInt (int : Int) : Double := ofRatio (int < 0) (int.natAbs * unitsPerOne) 1

/-- One. -/
def one : Double := ofInt 1

/-! ### Arithmetic -/

/-- Changes the sign. -/
def neg : Double → Double
  | nan => nan
  | infinite negative => infinite !negative
  | finite negative units fits => finite (!negative) units fits

/-- The sum, rounded; a sum that cancels out is positive zero. -/
def add : Double → Double → Double
  | nan, _ => nan
  | _, nan => nan
  | infinite first, infinite second => if first = second then infinite first else nan
  | infinite first, finite _ _ _ => infinite first
  | finite _ _ _, infinite second => infinite second
  | finite first units _, finite second others _ =>
    if first = second then ofRatio first (units + others) 1
    else if others < units then ofRatio first (units - others) 1
    else if units < others then ofRatio second (others - units) 1
    else zero false

/-- The difference, rounded. -/
def sub (left right : Double) : Double := left.add right.neg

/-- The product, rounded; zero times infinity is not a number. -/
def mul : Double → Double → Double
  | nan, _ => nan
  | _, nan => nan
  | infinite first, infinite second => infinite (first ^^ second)
  | infinite first, finite second units _ =>
    if units = 0 then nan else infinite (first ^^ second)
  | finite first units _, infinite second =>
    if units = 0 then nan else infinite (first ^^ second)
  | finite first units _, finite second others _ =>
    ofRatio (first ^^ second) (units * others) unitsPerOne

/-- The quotient, rounded. A number over zero is an infinity with the product of the signs, and
zero over zero is not a number. -/
def div : Double → Double → Double
  | nan, _ => nan
  | _, nan => nan
  | infinite _, infinite _ => nan
  | infinite first, finite second _ _ => infinite (first ^^ second)
  | finite first _ _, infinite second => zero (first ^^ second)
  | finite first units _, finite second others _ =>
    if others = 0 then if units = 0 then nan else infinite (first ^^ second)
    else ofRatio (first ^^ second) (units * unitsPerOne) others

/-! ### Order -/

/-- The place of a number on the line of units; the infinities lie at the bound. -/
def place? : Double → Option Int
  | nan => none
  | infinite negative => some (if negative then -bound else bound)
  | finite negative units _ => some (if negative then -units else units)

/-- Compares by size; the two zeros are equal, and what is not a number compares to nothing. -/
def compareWith (holds : Int → Int → Bool) (left right : Double) : Bool :=
  match left.place?, right.place? with
  | some first, some second => holds first second
  | _, _ => false

/-- Tells whether two numbers are of one size. -/
def equals : Double → Double → Bool := compareWith fun first second => first = second

/-- Tells whether one number is below another. -/
def less : Double → Double → Bool := compareWith fun first second => first < second

/-- Tells whether one number is not above another. -/
def lessOrEqual : Double → Double → Bool := compareWith fun first second => first ≤ second

/-- Tells whether a number is neither zero nor not a number. -/
def holds : Double → Bool
  | nan => false
  | infinite _ => true
  | finite _ units _ => units ≠ 0

/-- The integer that a number is, if it is one. -/
def toInt? : Double → Option Int
  | finite negative units _ =>
    if units % unitsPerOne = 0 then
      let size : Int := (units / unitsPerOne : Nat)
      some (if negative then -size else size)
    else none
  | _ => none

end Double

end Parley
