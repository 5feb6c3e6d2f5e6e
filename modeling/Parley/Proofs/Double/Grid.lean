/-
This file settles that rounding takes a ratio to the nearest count of units, and of two
equally near ones to the even one.

A count is a multiple of the spacing of its size, and the spacing grows with the size.
Rounding only looks at the grid of the spacing of the ratio itself, so there are two
things to show: that no count of another size lies between the two neighbours on that
grid, and that the neighbours are on the grids of their own sizes, the upper one as
well where it begins a new size.
-/

import Mathlib.Algebra.Order.Field.Basic
import Mathlib.Data.Nat.Log
import Mathlib.Tactic.Linarith
import Mathlib.Tactic.Ring
import Parley.Double.Basic

namespace Parley

namespace Double

/-! ### The grid -/

theorem spacing_pos (units : Nat) : 0 < spacing units := Nat.two_pow_pos _

/-- Larger counts lie on coarser grids. -/
theorem spacing_dvd {first second : Nat} (below : first ≤ second) :
    spacing first ∣ spacing second := by
  refine Nat.pow_dvd_pow 2 (Nat.sub_le_sub_right ?_ 52)
  rw [Nat.log2_eq_log_two, Nat.log2_eq_log_two]
  exact Nat.log_mono_right below

/-- Up to the first size that has a spacing, every count is on the grid. -/
theorem spacing_small {units : Nat} (small : units.log2 ≤ 52) : spacing units = 1 := by
  rw [spacing, Nat.sub_eq_zero_of_le small, Nat.pow_eq, Nat.pow_zero]

/-- The power of two that begins a size lies on its grid. -/
theorem pow_log2 {units : Nat} (large : ¬ units.log2 ≤ 52) :
    2 ^ units.log2 = 2 ^ 52 * spacing units := by
  show 2 ^ units.log2 = 2 ^ 52 * 2 ^ (units.log2 - 52)
  rw [← Nat.pow_add, Nat.add_sub_cancel' (Nat.le_of_not_le large)]

theorem log2_of_between {units other : Nat} (above : 2 ^ units.log2 ≤ other)
    (below : other < 2 ^ (units.log2 + 1)) : other.log2 = units.log2 :=
  (Nat.log2_eq_iff (Nat.ne_of_gt (Nat.lt_of_lt_of_le (Nat.two_pow_pos _) above))).2 ⟨above, below⟩

/-- The neighbour below a count on the grid of its size. -/
def floor (units : Nat) : Nat := units / spacing units * spacing units

theorem floor_le (units : Nat) : floor units ≤ units := Nat.div_mul_le_self _ _

theorem lt_floor_add (units : Nat) : units < floor units + spacing units := by
  rw [floor, ← Nat.succ_mul]
  exact Nat.lt_mul_of_div_lt (Nat.lt_succ_self _) (spacing_pos units)

theorem floor_of_small {units : Nat} (small : units.log2 ≤ 52) : floor units = units := by
  rw [floor, spacing_small small, Nat.div_one, Nat.mul_one]

theorem pow_log2_le_floor {units : Nat} (large : ¬ units.log2 ≤ 52) :
    2 ^ units.log2 ≤ floor units := by
  have nonzero : units ≠ 0 := by
    rintro rfl
    exact large (Nat.zero_le _)
  rw [pow_log2 large, floor]
  refine Nat.mul_le_mul_right _ ((Nat.le_div_iff_mul_le (spacing_pos units)).2 ?_)
  rw [← pow_log2 large]
  exact Nat.log2_self_le nonzero

/-- The neighbour below is of the same size. -/
theorem spacing_floor (units : Nat) : spacing (floor units) = spacing units := by
  by_cases small : units.log2 ≤ 52
  · rw [floor_of_small small]
  · have size := log2_of_between (pow_log2_le_floor small)
      (Nat.lt_of_le_of_lt (floor_le units) Nat.lt_log2_self)
    rw [spacing, size]
    rfl

/-- What is on a grid and above a point of it is a whole spacing above it. -/
theorem add_le_of_dvd {step first second : Nat} (point : step ∣ first) (other : step ∣ second)
    (above : first < second) : first + step ≤ second := by
  have gap : step ≤ second - first :=
    Nat.le_of_dvd (Nat.sub_pos_of_lt above) (Nat.dvd_sub other point)
  omega

theorem dvd_floor (units : Nat) : spacing units ∣ floor units := Nat.dvd_mul_left _ _

/-- The neighbour above is of the same size or begins the next one. -/
theorem spacing_ceiling (units : Nat) : spacing (floor units + spacing units) = spacing units ∨
    floor units + spacing units = 2 ^ 53 * spacing units ∧
      spacing (floor units + spacing units) = 2 * spacing units := by
  by_cases small : units.log2 ≤ 52
  · rw [floor_of_small small, spacing_small small]
    by_cases still : (units + 1).log2 ≤ 52
    · exact .inl (spacing_small still)
    · have least : 2 ^ 53 ≤ units + 1 :=
        (Nat.le_log2 (Nat.succ_ne_zero _)).1 (Nat.lt_of_not_le still)
      have most : units < 2 ^ 53 := Nat.lt_of_lt_of_le Nat.lt_log2_self
        (Nat.pow_le_pow_right (Nat.succ_pos 1) (Nat.succ_le_succ small))
      have next : units + 1 = 2 ^ 53 := Nat.le_antisymm most least
      rw [next]
      exact .inr ⟨rfl, rfl⟩
  · have double : 2 ^ (units.log2 + 1) = 2 ^ 53 * spacing units := by
      rw [Nat.pow_succ, pow_log2 small]
      ring
    have most : floor units + spacing units ≤ 2 ^ (units.log2 + 1) := by
      refine add_le_of_dvd (dvd_floor units) (double ▸ Nat.dvd_mul_left _ _) ?_
      exact Nat.lt_of_le_of_lt (floor_le units) Nat.lt_log2_self
    obtain below | next := Nat.lt_or_eq_of_le most
    · have size := log2_of_between (Nat.le_add_right_of_le (pow_log2_le_floor small)) below
      left
      rw [spacing, size]
      rfl
    · refine .inr ⟨next.trans double, ?_⟩
      rw [next, spacing, Nat.log2_two_pow, Nat.succ_sub (Nat.le_of_not_le small)]
      exact Nat.pow_succ'

/-- The neighbour above is on the grid of its size, and an even point of it if the neighbour below
is odd. -/
theorem ceiling_spec (units : Nat) :
    spacing (floor units + spacing units) ∣ floor units + spacing units ∧
      (units / spacing units % 2 = 1 →
        (floor units + spacing units) / spacing (floor units + spacing units) % 2 = 0) := by
  have whole : floor units + spacing units = (units / spacing units + 1) * spacing units :=
    (Nat.succ_mul _ _).symm
  obtain same | ⟨power, double⟩ := spacing_ceiling units
  · rw [same, whole, Nat.mul_div_cancel _ (spacing_pos units)]
    exact ⟨Nat.dvd_mul_left _ _, by omega⟩
  · rw [double, power, Nat.mul_div_mul_right _ _ (spacing_pos units)]
    exact ⟨Nat.mul_dvd_mul_right (by decide) _, fun _ => rfl⟩

/-- No count of whatever size lies between the neighbours of a count. -/
theorem apart (units : Nat) {count : Nat} (aligned : spacing count ∣ count) :
    count ≤ floor units ∨ floor units + spacing units ≤ count := by
  by_cases within : count ≤ floor units
  · exact .inl within
  · have above : floor units < count := Nat.lt_of_not_le within
    refine .inr (add_le_of_dvd (dvd_floor units) ?_ above)
    by_cases beyond : units ≤ count
    · exact (spacing_dvd beyond).trans aligned
    · -- The count is of the same size, as it stands between the count and its neighbour below.
      have large : ¬ units.log2 ≤ 52 := fun small => beyond (floor_of_small small ▸ above.le)
      have size := log2_of_between ((pow_log2_le_floor large).trans above.le)
        ((Nat.lt_of_not_le beyond).trans Nat.lt_log2_self)
      rwa [spacing, size] at aligned

/-- Between two even counts there is another one. -/
theorem exists_between {low high : Nat} (aligned : spacing low ∣ low)
    (alignedToo : spacing high ∣ high) (even : low / spacing low % 2 = 0)
    (evenToo : high / spacing high % 2 = 0) (below : low < high) :
    ∃ middle, spacing middle ∣ middle ∧ low < middle ∧ middle < high := by
  have itself : floor low = low := Nat.div_mul_cancel aligned
  have onGrid := (ceiling_spec low).1
  have size := spacing_ceiling low
  rw [itself] at onGrid size
  have step := add_le_of_dvd aligned ((spacing_dvd below.le).trans alignedToo) below
  obtain next | rfl := step.lt_or_eq
  · exact ⟨low + spacing low, onGrid, Nat.lt_add_of_pos_right (spacing_pos low), next⟩
  · -- The next count is odd if it is of the same size, and where a size ends the last one is.
    obtain same | ⟨power, -⟩ := size
    · rw [same, Nat.add_div_right _ (spacing_pos low)] at evenToo
      omega
    · have last : low = (2 ^ 53 - 1) * spacing low := by
        rw [Nat.sub_mul, ← power]
        omega
      have odd := Nat.div_eq_of_eq_mul_left (spacing_pos low) last
      omega

/-! ### The nearest count -/

/-- A count on the grid is nearest to a ratio if every other one is farther away, or just as far
where the count is even. -/
structure NearestCount (ratio : ℚ) (units : Nat) : Prop where
  aligned : spacing units ∣ units
  nearest : ∀ count : Nat, spacing count ∣ count → count ≠ units →
    |ratio - units| < |ratio - count| ∨
      |ratio - units| = |ratio - count| ∧ units / spacing units % 2 = 0

variable {ratio : ℚ} {units : Nat}

theorem nearestCount_floor (below : (floor units : ℚ) ≤ ratio)
    (nearer : ratio - floor units < floor units + spacing units - ratio ∨
      ratio - floor units = floor units + spacing units - ratio ∧
        units / spacing units % 2 = 0) : NearestCount ratio (floor units) := by
  have parity : floor units / spacing (floor units) = units / spacing units := by
    rw [spacing_floor]
    exact Nat.mul_div_cancel _ (spacing_pos units)
  refine ⟨spacing_floor units ▸ dvd_floor units, fun count aligned other => ?_⟩
  rw [parity, abs_of_nonneg (sub_nonneg.2 below)]
  obtain within | beyond := apart units aligned
  · have farther : (count : ℚ) < floor units := by exact_mod_cast within.lt_of_ne other
    rw [abs_of_nonneg (by linarith)]
    exact .inl (by linarith)
  · have farther : (floor units + spacing units : ℚ) ≤ count := by exact_mod_cast beyond
    have near := nearer.elim le_of_lt fun both => both.1.le
    rw [abs_of_nonpos (by linarith)]
    obtain nearer | ⟨tie, even⟩ := nearer
    · exact .inl (by linarith)
    · obtain later | same := farther.lt_or_eq
      · exact .inl (by linarith)
      · exact .inr ⟨by linarith, even⟩

theorem nearestCount_ceiling (above : ratio ≤ floor units + spacing units)
    (nearer : floor units + spacing units - ratio < ratio - floor units ∨
      floor units + spacing units - ratio = ratio - floor units ∧
        units / spacing units % 2 = 1) : NearestCount ratio (floor units + spacing units) := by
  obtain ⟨onGrid, even⟩ := ceiling_spec units
  refine ⟨onGrid, fun count aligned other => ?_⟩
  rw [Nat.cast_add, abs_of_nonpos (sub_nonpos.2 above)]
  obtain within | beyond := apart units aligned
  · have farther : (count : ℚ) ≤ floor units := by exact_mod_cast within
    have near := nearer.elim le_of_lt fun both => both.1.le
    rw [abs_of_nonneg (by linarith)]
    obtain nearer | ⟨tie, odd⟩ := nearer
    · exact .inl (by linarith)
    · obtain later | same := farther.lt_or_eq
      · exact .inl (by linarith)
      · exact .inr ⟨by linarith, even odd⟩
  · have farther : (floor units + spacing units : ℚ) < count := by
      exact_mod_cast beyond.lt_of_ne other.symm
    rw [abs_of_nonpos (by linarith)]
    exact .inl (by linarith)

/-- What a ratio is above its neighbour below, in parts of the denominator. -/
theorem sub_floor (num : Nat) {den : Nat} (positive : 0 < den) :
    ((num / den : ℚ) - floor (num / den)) * den = (num % (den * spacing (num / den)) : Nat) := by
  have parts : den * floor (num / den) + num % (den * spacing (num / den)) = num := by
    rw [floor, Nat.div_div_eq_div_mul, Nat.mul_comm _ (spacing _), ← Nat.mul_assoc]
    exact Nat.div_add_mod num _
  have counted :
      (den : ℚ) * floor (num / den) + (num % (den * spacing (num / den)) : Nat) = num := by
    exact_mod_cast parts
  have nonzero : (den : ℚ) ≠ 0 := by exact_mod_cast positive.ne'
  rw [sub_mul, div_mul_cancel₀ _ nonzero]
  linarith

/-- Rounding takes a ratio to the nearest count. -/
theorem nearestCount_roundUnits (num : Nat) {den : Nat} (positive : 0 < den) :
    NearestCount (num / den) (roundUnits num den) := by
  have whole : num / (den * spacing (num / den)) = num / den / spacing (num / den) :=
    (Nat.div_div_eq_div_mul _ _ _).symm
  have scale : (0 : ℚ) < den := by exact_mod_cast positive
  have excess := sub_floor num positive
  have short := Nat.mod_lt num (Nat.mul_pos positive (spacing_pos (num / den)))
  rw [roundUnits, nearestMultiple, whole]
  generalize num % (den * spacing (num / den)) = rest at excess short
  -- Distances are compared in parts of the denominator, where they are whole.
  have lower (less : 2 * rest < den * spacing (num / den)) :
      (num / den : ℚ) - floor (num / den) <
        floor (num / den) + spacing (num / den) - num / den := by
    have : (2 * rest : ℚ) < den * spacing (num / den) := by exact_mod_cast less
    refine lt_of_mul_lt_mul_right ?_ scale.le
    linarith
  have upper (more : den * spacing (num / den) < 2 * rest) :
      floor (num / den) + spacing (num / den) - num / den <
        (num / den : ℚ) - floor (num / den) := by
    have : (den * spacing (num / den) : ℚ) < 2 * rest := by exact_mod_cast more
    refine lt_of_mul_lt_mul_right ?_ scale.le
    linarith
  have middle (half : 2 * rest = den * spacing (num / den)) :
      (num / den : ℚ) - floor (num / den) =
        floor (num / den) + spacing (num / den) - num / den := by
    have : (2 * rest : ℚ) = den * spacing (num / den) := by exact_mod_cast half
    refine mul_right_cancel₀ scale.ne' ?_
    linarith
  split
  · next near =>
    refine nearestCount_floor ?_ ?_
    · rw [← sub_nonneg]
      exact nonneg_of_mul_nonneg_left (excess ▸ rest.cast_nonneg) scale
    · exact near.imp lower fun tie => ⟨middle tie.1, tie.2⟩
  · next far =>
    rw [Nat.succ_mul]
    have most : den * spacing (num / den) ≤ 2 * rest := by omega
    refine nearestCount_ceiling ?_ ?_
    · have : (rest : ℚ) < den * spacing (num / den) := by exact_mod_cast short
      refine le_of_mul_le_mul_right ?_ scale
      linarith
    · obtain more | half := most.lt_or_eq
      · exact .inl (upper more)
      · exact .inr ⟨(middle half.symm).symm, by omega⟩

end Double

end Parley
