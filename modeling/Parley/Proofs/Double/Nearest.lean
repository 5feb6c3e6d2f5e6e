/-
This file settles that numbers are rounded correctly, and decimals with them: what a
ratio is taken to is the number nearest to it, and of two equally near ones the even
one. There is only one such number, up to the sign of zero.

Numbers are counts of units with a sign, so all is read off the grid of counts, once
for each side of zero. Where numbers end nothing changes on the grid: the bound lies
on it as any count does, and infinity stands there.
-/

import Parley.Double.Decimal
import Parley.Proofs.Double.Grid

namespace Parley

namespace Double

variable {ratio : ℚ} {units : Nat}

/-! ### The nearest number -/

/-- Tells whether a number has a minus sign. -/
def isNegative : Double → Bool
  | nan => false
  | infinite negative | finite negative _ _ => negative

/-- Tells whether a number is an even multiple of the spacing of its size. So is the bound, where
infinity stands. -/
def isEven : Double → Bool
  | nan => false
  | infinite _ => true
  | finite _ units _ => units / spacing units % 2 = 0

/-- A number is what a target is rounded to: every number at another place of the line is farther
from the target, or just as far where this one is even. Infinity stands at the bound, where numbers
end, and so it takes everything from half the last spacing before the bound on. -/
def Nearest (target : ℚ) (number : Double) : Prop :=
  ∃ place : Int, number.place? = some place ∧
    ∀ (other : Double) (elsewhere : Int), other.place? = some elsewhere → elsewhere ≠ place →
      |target * unitsPerOne - place| < |target * unitsPerOne - elsewhere| ∨
        |target * unitsPerOne - place| = |target * unitsPerOne - elsewhere| ∧
          number.isEven = true

theorem unitsPerOne_pos : 0 < unitsPerOne := Nat.pos_of_ne_zero (by decide +kernel)

/-- A rational number with a sign in front. -/
def withSign (negative : Bool) (size : ℚ) : ℚ := if negative then -size else size

/-- The bound is on the grid. -/
theorem aligned_bound : spacing bound ∣ bound := by
  decide +kernel

theorem even_bound : bound / spacing bound % 2 = 0 := by
  decide +kernel

/-- A count that is nearest stays so if whatever is beyond the bound is taken to the bound. -/
theorem NearestCount.clipped (nearest : NearestCount ratio units) {count : Nat}
    (aligned : spacing count ∣ count) (within : count ≤ bound) (other : count ≠ min units bound) :
    |ratio - (min units bound : Nat)| < |ratio - count| ∨
      |ratio - (min units bound : Nat)| = |ratio - count| ∧
        min units bound / spacing (min units bound) % 2 = 0 := by
  obtain least | beyond := le_or_gt units bound
  · rw [Nat.min_eq_left least] at other ⊢
    exact nearest.nearest count aligned other
  · rw [Nat.min_eq_right beyond.le] at other ⊢
    have last : (bound : ℚ) < units := by exact_mod_cast beyond
    have below : (count : ℚ) < bound := by exact_mod_cast within.lt_of_ne other
    have near : |ratio - units| ≤ |ratio - bound| :=
      (nearest.nearest bound aligned_bound beyond.ne).elim le_of_lt fun both => both.1.le
    have past : (bound : ℚ) < ratio := by
      by_contra before
      rw [abs_of_nonpos (by linarith), abs_of_nonpos (by linarith)] at near
      linarith
    rw [abs_of_nonneg (by linarith), abs_of_nonneg (by linarith)]
    exact .inl (by linarith)

theorem NearestCount.eq_zero (nearest : NearestCount 0 units) : units = 0 := by
  by_contra nonzero
  have size : (0 : ℚ) < units := by exact_mod_cast Nat.pos_of_ne_zero nonzero
  obtain farther | ⟨same, -⟩ := nearest.nearest 0 ⟨0, rfl⟩ fun zero => nonzero zero.symm
  · rw [Nat.cast_zero, sub_zero, abs_zero] at farther
    exact absurd farther (abs_nonneg _).not_gt
  · rw [Nat.cast_zero, sub_zero, abs_zero, zero_sub, abs_neg, abs_of_pos size] at same
    exact size.ne' same

/-- A count that is nearest to what is not negative is nearest on the whole line. -/
theorem NearestCount.onLine (nearest : NearestCount ratio units) (nonnegative : 0 ≤ ratio)
    {place : Int} (aligned : spacing place.natAbs ∣ place.natAbs) (within : place.natAbs ≤ bound)
    (other : place ≠ (min units bound : Nat)) :
    |ratio - (min units bound : Nat)| < |ratio - place| ∨
      |ratio - (min units bound : Nat)| = |ratio - place| ∧
        min units bound / spacing (min units bound) % 2 = 0 := by
  obtain positive | negative := le_or_gt 0 place
  · obtain ⟨count, rfl⟩ := Int.eq_ofNat_of_zero_le positive
    exact nearest.clipped aligned within fun same => other (congrArg Int.ofNat same)
  · -- On the other side of zero everything is farther away than its mirror image.
    have mirrored : (place : ℚ) = -(place.natAbs : ℚ) := by
      rw [← Int.cast_natCast, Int.ofNat_natAbs_of_nonpos negative.le, Int.cast_neg, neg_neg]
    have size : (0 : ℚ) < place.natAbs := by exact_mod_cast Int.natAbs_pos.2 negative.ne
    rw [mirrored, sub_neg_eq_add, abs_of_nonneg (a := ratio + _) (by linarith)]
    left
    obtain positive | zero := nonnegative.lt_or_eq
    · have near : |ratio - (min units bound : Nat)| ≤ |ratio - place.natAbs| := by
        by_cases same : place.natAbs = min units bound
        · rw [same]
        · exact (nearest.clipped aligned within same).elim le_of_lt fun both => both.1.le
      refine near.trans_lt (abs_lt.2 ⟨?_, ?_⟩)
      · linarith
      · linarith
    · subst zero
      rw [nearest.eq_zero, Nat.zero_min, Nat.cast_zero, sub_zero, abs_zero]
      linarith

theorem natAbs_signed (negative : Bool) (size : Nat) :
    (if negative = true then -(size : Int) else size).natAbs = size := by
  cases negative with
  | false => exact Int.natAbs_natCast size
  | true => exact (Int.natAbs_neg _).trans (Int.natAbs_natCast size)

/-- The places of numbers are on the grid, none beyond the bound. -/
theorem place_onGrid {number : Double} {place : Int} (placed : number.place? = some place) :
    spacing place.natAbs ∣ place.natAbs ∧ place.natAbs ≤ bound := by
  cases number with
  | nan => cases placed
  | infinite negative =>
    rw [← Option.some.inj placed, natAbs_signed]
    exact ⟨aligned_bound, le_rfl⟩
  | finite negative units fits =>
    rw [← Option.some.inj placed, natAbs_signed]
    exact ⟨Nat.dvd_of_mod_eq_zero fits.aligned, fits.bounded.le⟩

/-- The number of a count stands at the count, or at the bound if it is beyond. -/
theorem ofUnits_spec (negative : Bool) (aligned : spacing units ∣ units) :
    (ofUnits negative units).place? =
        some (if negative then -((min units bound : Nat) : Int) else (min units bound : Nat)) ∧
      ((ofUnits negative units).isEven = true ↔
        min units bound / spacing (min units bound) % 2 = 0) ∧
      (ofUnits negative units).isNegative = negative := by
  rw [ofUnits]
  split
  · next fits =>
    rw [Nat.min_eq_left fits.bounded.le]
    exact ⟨rfl, decide_eq_true_iff, rfl⟩
  · next misfit =>
    have beyond : bound ≤ units := Nat.le_of_not_lt fun bounded =>
      misfit ⟨bounded, Nat.mod_eq_zero_of_dvd aligned⟩
    rw [Nat.min_eq_right beyond]
    exact ⟨rfl, iff_of_true rfl even_bound, rfl⟩

/-- A number is nearest if its count is. -/
theorem nearest_ofUnits (negative : Bool) (nearest : NearestCount ratio units)
    (nonnegative : 0 ≤ ratio) :
    Nearest (withSign negative (ratio / unitsPerOne)) (ofUnits negative units) := by
  obtain ⟨placed, even, -⟩ := ofUnits_spec negative nearest.aligned
  have onLine := @NearestCount.onLine ratio units nearest nonnegative
  generalize min units bound = top at placed even onLine
  refine ⟨_, placed, fun other elsewhere there apart => ?_⟩
  obtain ⟨aligned, within⟩ := place_onGrid there
  have scale : (unitsPerOne : ℚ) ≠ 0 := by exact_mod_cast unitsPerOne_pos.ne'
  rw [even]
  cases negative with
  | false =>
    have target : withSign false (ratio / unitsPerOne) * unitsPerOne = ratio :=
      div_mul_cancel₀ ratio scale
    rw [target]
    exact onLine aligned within apart
  | true =>
    -- The whole line is mirrored.
    have target : withSign true (ratio / unitsPerOne) * unitsPerOne = -ratio := by
      rw [withSign, if_pos rfl, neg_mul, div_mul_cancel₀ ratio scale]
    have here : |-ratio - (-(top : Int) : Int)| = |ratio - top| := by
      rw [Int.cast_neg, Int.cast_natCast, neg_sub_neg, abs_sub_comm]
    have elsewhere : |-ratio - elsewhere| = |ratio - (-elsewhere : Int)| := by
      rw [Int.cast_neg, sub_neg_eq_add, ← abs_neg, neg_sub, sub_neg_eq_add, add_comm]
    rw [target, if_pos rfl, here, elsewhere]
    refine onLine ?_ ?_ fun same => apart ?_
    · rwa [Int.natAbs_neg]
    · rwa [Int.natAbs_neg]
    · rw [if_pos rfl, ← same, neg_neg]

/-- Rounding takes a ratio to the nearest number of its sign. -/
theorem nearest_ofRatio (negative : Bool) (num : Nat) {den : Nat} (positive : 0 < den) :
    Nearest (withSign negative (num / den / unitsPerOne)) (ofRatio negative num den) ∧
      (ofRatio negative num den).isNegative = negative := by
  have nearest := nearestCount_roundUnits num positive
  exact ⟨nearest_ofUnits negative nearest (div_nonneg num.cast_nonneg den.cast_nonneg),
    (ofUnits_spec negative nearest.aligned).2.2⟩

/-! ### There is only one -/

/-- What a number is, up to its sign. -/
def size? : Double → Option Nat
  | nan => none
  | infinite _ => some bound
  | finite _ units _ => some units

theorem size_of_place {number : Double} {place : Int} (placed : number.place? = some place) :
    number.size? = some place.natAbs := by
  cases number with
  | nan => cases placed
  | infinite negative => rw [← Option.some.inj placed, natAbs_signed, size?]
  | finite negative units fits => rw [← Option.some.inj placed, natAbs_signed, size?]

/-- A number is known by its place and its sign. -/
theorem eq_of_place {first second : Double} {place : Int} (placed : first.place? = some place)
    (placedToo : second.place? = some place) (signs : first.isNegative = second.isNegative) :
    first = second := by
  have same := (size_of_place placed).trans (size_of_place placedToo).symm
  cases first with
  | nan => cases placed
  | infinite negative =>
    cases second with
    | nan => cases placedToo
    | infinite other => exact congrArg infinite signs
    | finite other units fits => exact absurd (Option.some.inj same) fits.bounded.ne'
  | finite negative units fits =>
    cases second with
    | nan => cases placedToo
    | infinite other => exact absurd (Option.some.inj same) fits.bounded.ne
    | finite other others fitsToo =>
      cases signs
      cases same
      rfl

theorem isEven_iff {number : Double} {place : Int} (placed : number.place? = some place) :
    number.isEven = true ↔ place.natAbs / spacing place.natAbs % 2 = 0 := by
  cases number with
  | nan => cases placed
  | infinite negative =>
    rw [← Option.some.inj placed, natAbs_signed]
    exact iff_of_true rfl even_bound
  | finite negative units fits =>
    rw [← Option.some.inj placed, natAbs_signed]
    exact decide_eq_true_iff

/-- There is a number at every place on the grid up to the bound. -/
theorem exists_number {place : Int} (aligned : spacing place.natAbs ∣ place.natAbs)
    (within : place.natAbs ≤ bound) : ∃ number : Double, number.place? = some place := by
  refine ⟨ofUnits (place < 0) place.natAbs, ?_⟩
  rw [(ofUnits_spec _ aligned).1, Nat.min_eq_left within]
  refine congrArg some ?_
  split
  · next negative =>
    rw [Int.ofNat_natAbs_of_nonpos (of_decide_eq_true negative).le, neg_neg]
  · next positive =>
    exact Int.natAbs_of_nonneg (Int.not_lt.1 fun negative => positive (decide_eq_true negative))

/-- Between two even numbers there is another one. -/
theorem exists_number_between {low high : Int} {first second : Double}
    (placed : first.place? = some low) (placedToo : second.place? = some high)
    (even : first.isEven = true) (evenToo : second.isEven = true) (below : low < high) :
    ∃ (number : Double) (middle : Int),
      number.place? = some middle ∧ low < middle ∧ middle < high := by
  obtain ⟨aligned, within⟩ := place_onGrid placed
  obtain ⟨alignedToo, withinToo⟩ := place_onGrid placedToo
  rw [isEven_iff placed] at even
  rw [isEven_iff placedToo] at evenToo
  have there (place : Int) (onGrid : spacing place.natAbs ∣ place.natAbs)
      (inside : place.natAbs ≤ bound) (above : low < place) (under : place < high) :
      ∃ (number : Double) (middle : Int),
        number.place? = some middle ∧ low < middle ∧ middle < high := by
    obtain ⟨number, stands⟩ := exists_number onGrid inside
    exact ⟨number, place, stands, above, under⟩
  by_cases positive : 0 ≤ low
  · obtain ⟨middle, onGrid, above, under⟩ :=
      exists_between aligned alignedToo even evenToo (by omega)
    refine there middle ?_ ?_ (by omega) (by omega)
    · rwa [Int.natAbs_natCast]
    · rw [Int.natAbs_natCast]
      omega
  · by_cases negative : high ≤ 0
    · obtain ⟨middle, onGrid, above, under⟩ :=
        exists_between alignedToo aligned evenToo even (by omega)
      refine there (-middle) ?_ ?_ (by omega) (by omega)
      · rwa [Int.natAbs_neg, Int.natAbs_natCast]
      · rw [Int.natAbs_neg, Int.natAbs_natCast]
        omega
    · exact there 0 ⟨0, rfl⟩ (Nat.zero_le _) (by omega) (by omega)

namespace Nearest

variable {target : ℚ} {number first second : Double}

theorem farther (nearest : Nearest target number) {place : Int}
    (placed : number.place? = some place) {other : Double} {elsewhere : Int}
    (there : other.place? = some elsewhere) (apart : elsewhere ≠ place) :
    |target * unitsPerOne - place| < |target * unitsPerOne - elsewhere| ∨
      |target * unitsPerOne - place| = |target * unitsPerOne - elsewhere| ∧
        number.isEven = true := by
  obtain ⟨same, placedToo, least⟩ := nearest
  obtain rfl := Option.some.inj (placedToo.symm.trans placed)
  exact least other elsewhere there apart

theorem not_below (nearest : Nearest target first) (nearestToo : Nearest target second)
    {low high : Int} (placed : first.place? = some low) (placedToo : second.place? = some high) :
    ¬ low < high := by
  intro below
  have one := nearest.farther placed placedToo below.ne'
  have two := nearestToo.farther placedToo placed below.ne
  -- Both are as far, so both are even, and what lies between them is nearer.
  have tie : |target * unitsPerOne - low| = |target * unitsPerOne - high| :=
    le_antisymm (one.elim le_of_lt fun both => both.1.le) (two.elim le_of_lt fun both => both.1.le)
  have even := (one.resolve_left tie.not_lt).2
  have evenToo := (two.resolve_left tie.symm.not_lt).2
  obtain ⟨between, middle, stands, above, under⟩ :=
    exists_number_between placed placedToo even evenToo below
  have near := (nearest.farther placed stands above.ne').elim le_of_lt fun both => both.1.le
  have aboveToo : (low : ℚ) < middle := by exact_mod_cast above
  have underToo : (middle : ℚ) < high := by exact_mod_cast under
  obtain same | mirrored := abs_eq_abs.1 tie
  · linarith
  · refine near.not_gt (abs_lt.2 ⟨?_, ?_⟩)
    · rw [abs_of_nonneg (by linarith)]
      linarith
    · rw [abs_of_nonneg (by linarith)]
      linarith

/-- All numbers nearest to a target are at one place. -/
theorem place_unique (nearest : Nearest target first) (nearestToo : Nearest target second) :
    first.place? = second.place? := by
  obtain ⟨low, placed, -⟩ := id nearest
  obtain ⟨high, placedToo, -⟩ := id nearestToo
  have same : low = high := Int.le_antisymm
    (Int.not_lt.1 (nearestToo.not_below nearest placedToo placed))
    (Int.not_lt.1 (nearest.not_below nearestToo placed placedToo))
  rw [placed, placedToo, same]

/-- Only one number of each sign is nearest to a target. -/
theorem unique (nearest : Nearest target first) (nearestToo : Nearest target second)
    (signs : first.isNegative = second.isNegative) : first = second := by
  obtain ⟨place, placed, -⟩ := id nearest
  exact eq_of_place placed ((nearest.place_unique nearestToo).symm.trans placed) signs

/-- What is nearest to a target is a number. -/
theorem ne_nan (nearest : Nearest target number) : number ≠ nan := by
  rintro rfl
  obtain ⟨place, ⟨⟩, -⟩ := nearest

/-- A number is nearest to what it is itself. -/
theorem self {place : Int} (placed : number.place? = some place) :
    Nearest (place / unitsPerOne) number := by
  have scale : (unitsPerOne : ℚ) ≠ 0 := by exact_mod_cast unitsPerOne_pos.ne'
  refine ⟨place, placed, fun other elsewhere _ apart => .inl ?_⟩
  have distinct : (place : ℚ) - elsewhere ≠ 0 := by
    rw [sub_ne_zero]
    exact_mod_cast apart.symm
  rw [div_mul_cancel₀ _ scale, sub_self, abs_zero]
  exact abs_pos.2 distinct

end Nearest

/-! ### Both ends -/

/-- What is less than half a unit is rounded to zero. -/
theorem ofRatio_of_small (negative : Bool) {num den : Nat} (small : 2 * num < den) :
    ofRatio negative num den = zero negative := by
  have below : num / den = 0 := Nat.div_eq_of_lt (by omega)
  have rounded : roundUnits num den = 0 := by
    rw [roundUnits, below, spacing_small (Nat.zero_le _), nearestMultiple, Nat.mul_one, below,
      Nat.mod_eq_of_lt (by omega), if_pos (.inl small)]
  rw [ofRatio, rounded, ofUnits, dif_pos fits_zero]
  rfl

/-- What is not below the bound is rounded to infinity. -/
theorem ofRatio_of_large (negative : Bool) {num den : Nat} (positive : 0 < den)
    (large : bound * den ≤ num) : ofRatio negative num den = .infinite negative := by
  have whole : bound ≤ num / den := (Nat.le_div_iff_mul_le positive).2 large
  have below : bound ≤ floor (num / den) :=
    (apart (num / den) aligned_bound).resolve_right fun above =>
      absurd (above.trans whole) (Nat.not_le.2 (lt_floor_add _))
  have least : bound ≤ roundUnits num den := by
    refine below.trans ?_
    rw [roundUnits, nearestMultiple, ← Nat.div_div_eq_div_mul, floor]
    split
    · exact le_rfl
    · exact Nat.mul_le_mul_right _ (Nat.le_succ _)
  rw [ofRatio, ofUnits, dif_neg fun fits => Nat.not_lt.2 least fits.bounded]

end Double

/-! ### Decimals -/

namespace Decimal

/-- The rational number that a decimal is. -/
def value (decimal : Decimal) : ℚ := decimal.digits * 10 ^ decimal.exponent

theorem scale_pos (exponent : Int) : 0 < (scale exponent).2 := by
  rw [scale]
  split
  · exact Nat.one_pos
  · exact Nat.pow_pos (by decide)

theorem scale_value (exponent : Int) :
    ((scale exponent).1 : ℚ) / (scale exponent).2 = 10 ^ exponent := by
  rw [scale]
  split
  · next whole =>
    obtain ⟨power, rfl⟩ := Int.eq_ofNat_of_zero_le whole
    rw [Int.toNat_natCast, zpow_natCast, Nat.pow_eq, Nat.cast_pow, Nat.cast_one, div_one]
    rfl
  · next part =>
    obtain ⟨power, below⟩ := Int.exists_eq_neg_ofNat (Int.le_of_not_le part)
    rw [below, neg_neg, Int.toNat_natCast, zpow_neg, zpow_natCast, Nat.pow_eq, Nat.cast_pow,
      Nat.cast_one, one_div]
    rfl

/-- The largest power of ten that need not be looked at is beyond the numbers. -/
theorem bound_le {exponent : Nat} (large : 400 ≤ exponent) :
    Double.bound ≤ Nat.pow 10 exponent * Double.unitsPerOne := by
  have grows {low high : Nat} (below : low ≤ high)
      (least : Double.bound ≤ Nat.pow 10 low * Double.unitsPerOne) :
      Double.bound ≤ Nat.pow 10 high * Double.unitsPerOne :=
    least.trans (Nat.mul_le_mul_right _ (Nat.pow_le_pow_right (by decide) below))
  exact grows large (by decide +kernel)

theorem double_mul_unitsPerOne (exponent : Nat) :
    2 * (2 ^ exponent * Double.unitsPerOne) = 2 ^ (exponent + 1074 + 1) := by
  have power : Double.unitsPerOne = 2 ^ 1074 := by decide +kernel
  rw [power, ← Nat.pow_add, ← Nat.pow_succ']

/-- The answers that are known beforehand are those that rounding would give. -/
theorem toDouble_eq (negative : Bool) (decimal : Decimal) :
    decimal.toDouble negative =
      .ofRatio negative (decimal.digits * (scale decimal.exponent).1 * Double.unitsPerOne)
        (scale decimal.exponent).2 := by
  rw [toDouble]
  split
  · next none =>
    rw [Double.ofRatio_of_small]
    rw [none, Nat.zero_mul, Nat.zero_mul, Nat.mul_zero]
    exact scale_pos _
  · next some =>
    split
    · next large =>
      have power : scale decimal.exponent = (Nat.pow 10 decimal.exponent.toNat, 1) :=
        if_pos (by omega)
      rw [power, Double.ofRatio_of_large negative Nat.one_pos]
      calc Double.bound * 1 = Double.bound := Nat.mul_one _
        _ ≤ Nat.pow 10 decimal.exponent.toNat * Double.unitsPerOne := bound_le (by omega)
        _ ≤ decimal.digits * Nat.pow 10 decimal.exponent.toNat * Double.unitsPerOne :=
          Nat.mul_le_mul_right _ (Nat.le_mul_of_pos_left _ (Nat.pos_of_ne_zero some))
    · split
      · next small =>
        have power : scale decimal.exponent = (1, Nat.pow 10 (-decimal.exponent).toNat) :=
          if_neg (by omega)
        rw [power, Double.ofRatio_of_small]
        calc 2 * (decimal.digits * 1 * Double.unitsPerOne)
            < 2 * (2 ^ (decimal.digits.log2 + 1) * Double.unitsPerOne) := by
              rw [Nat.mul_one]
              exact Nat.mul_lt_mul_of_pos_left
                (Nat.mul_lt_mul_of_pos_right Nat.lt_log2_self Double.unitsPerOne_pos) Nat.two_pos
          _ = 2 ^ (decimal.digits.log2 + 1 + 1074 + 1) := double_mul_unitsPerOne _
          _ ≤ 2 ^ (3 * (-decimal.exponent).toNat) :=
              Nat.pow_le_pow_right Nat.two_pos (by omega)
          _ = 8 ^ (-decimal.exponent).toNat := by
              rw [Nat.pow_mul]
          _ ≤ 10 ^ (-decimal.exponent).toNat := Nat.pow_le_pow_left (by decide) _
      · rfl

/-- A decimal is read as the number nearest to it, with its sign. -/
theorem nearest_toDouble (negative : Bool) (decimal : Decimal) :
    Double.Nearest (Double.withSign negative decimal.value) (decimal.toDouble negative) ∧
      (decimal.toDouble negative).isNegative = negative := by
  have nearest := Double.nearest_ofRatio negative
    (decimal.digits * (scale decimal.exponent).1 * Double.unitsPerOne) (scale_pos decimal.exponent)
  have units : (Double.unitsPerOne : ℚ) ≠ 0 := by exact_mod_cast Double.unitsPerOne_pos.ne'
  have same : ((decimal.digits * (scale decimal.exponent).1 * Double.unitsPerOne : Nat) : ℚ) /
      (scale decimal.exponent).2 / Double.unitsPerOne = decimal.value := by
    rw [value, ← scale_value, Nat.cast_mul, Nat.cast_mul, mul_div_right_comm,
      mul_div_cancel_right₀ _ units, mul_div_assoc]
  rwa [same, ← toDouble_eq] at nearest

end Decimal

end Parley
