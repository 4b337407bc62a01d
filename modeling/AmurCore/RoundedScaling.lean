import Mathlib.Algebra.Field.GeomSum
import Mathlib.Algebra.Order.BigOperators.Group.Finset
import Mathlib.Algebra.Order.Floor.Ring
import Mathlib.Tactic.Linarith
import Mathlib.Tactic.Ring

/-!
# Scaling with rounding

A number is scaled again and again, and each time the result is off by a bounded
error. The errors of earlier steps are scaled by the later ones, so they add up
to a geometric sum, and scaling back by the same steps leaves a drift that is
bounded for any number of steps. Nothing here is about a particular system.
-/

namespace RoundedScaling

universe u
variable {K : Type u} [Field K] [LinearOrder K] [IsStrictOrderedRing K]

/-! ### Rounding to a nearest integer -/

/-- Ties may go either way. -/
def Nearest (round : K → ℤ) : Prop := ∀ q, |(round q : K) - q| ≤ 1 / 2

section Floor
variable [FloorRing K] {round : K → ℤ}

theorem nearest_half_up : Nearest fun q : K => ⌊q + 1 / 2⌋ := by
  intro q
  have low := Int.floor_le (q + 1 / 2)
  have high := Int.lt_floor_add_one (q + 1 / 2)
  apply abs_le.mpr
  constructor <;> linarith

/-- Only a tie leaves a choice. -/
theorem Nearest.cases (nearest : Nearest round) (q : K) :
    (round q : K) = q + 1 / 2 - Int.fract (q + 1 / 2) ∨
      (Int.fract (q + 1 / 2) = 0 ∧ (round q : K) = q - 1 / 2) := by
  obtain ⟨low, high⟩ := abs_le.mp (nearest q)
  have below : round q ≤ ⌊q + 1 / 2⌋ := Int.le_floor.mpr (by linarith)
  have split := Int.floor_add_fract (q + 1 / 2)
  rcases below.eq_or_lt with up | down
  · left
    rw [up]
    linarith
  · right
    have whole : (round q : K) + 1 ≤ ⌊q + 1 / 2⌋ := by exact_mod_cast down
    have nonneg := Int.fract_nonneg (q + 1 / 2)
    constructor <;> linarith

end Floor

/-! ### Drift -/

/-- `v` is what `n` scalings by `f` leave of `u`, each off by `δ` at most. -/
def Drifts (f δ : K) (n : Nat) (u v : K) : Prop :=
  |v - f ^ n * u| ≤ δ * ∑ i ∈ Finset.range n, f ^ i

variable {f δ u v w : K} {n : Nat}

theorem Drifts.refl (f δ u : K) : Drifts f δ 0 u u := by
  simp [Drifts]

/-- One more scaling in front: its error is scaled by all that follow. -/
theorem Drifts.cons (positive : 0 ≤ f) (first : |v - f * u| ≤ δ) (rest : Drifts f δ n v w) :
    Drifts f δ (n + 1) u w := by
  have scaled : |f ^ n * (v - f * u)| ≤ f ^ n * δ := by
    rw [abs_mul, abs_of_nonneg (pow_nonneg positive n)]
    exact mul_le_mul_of_nonneg_left first (pow_nonneg positive n)
  have split : w - f ^ (n + 1) * u = (w - f ^ n * v) + f ^ n * (v - f * u) := by ring
  rw [Drifts, split, Finset.sum_range_succ]
  calc |(w - f ^ n * v) + f ^ n * (v - f * u)|
      ≤ |w - f ^ n * v| + |f ^ n * (v - f * u)| := abs_add_le _ _
    _ ≤ δ * ∑ i ∈ Finset.range n, f ^ i + f ^ n * δ := add_le_add rest scaled
    _ = δ * (∑ i ∈ Finset.range n, f ^ i + f ^ n) := by ring

omit [LinearOrder K] [IsStrictOrderedRing K] in
theorem inv_pow_mul_pow (nonzero : f ≠ 0) (n : Nat) : f⁻¹ ^ n * f ^ n = 1 := by
  rw [← mul_pow, inv_mul_cancel₀ nonzero, one_pow]

omit [LinearOrder K] [IsStrictOrderedRing K] in
/-- The sum of the powers of the inverse is that of the powers, scaled back. -/
theorem inv_pow_mul_sum (nonzero : f ≠ 0) (n : Nat) :
    (f⁻¹) ^ n * ∑ i ∈ Finset.range n, f ^ i = f⁻¹ * ∑ i ∈ Finset.range n, (f⁻¹) ^ i := by
  induction n with
  | zero => simp
  | succ n ih =>
    have last : f⁻¹ ^ (n + 1) * f ^ n = f⁻¹ := by
      rw [pow_succ, mul_right_comm, inv_pow_mul_pow nonzero, one_mul]
    rw [Finset.sum_range_succ, mul_add, last, geom_sum_succ, ← ih]
    ring

/-- Scaling `n` times and back again, the first errors are scaled back with the number. -/
theorem Drifts.there_and_back (positive : 0 < f) (there : Drifts f δ n u v)
    (back : Drifts f⁻¹ δ n v w) :
    |w - u| ≤ δ * (1 + f⁻¹) * ∑ i ∈ Finset.range n, (f⁻¹) ^ i := by
  have inverse : (0 : K) < f⁻¹ ^ n := pow_pos (inv_pos.mpr positive) n
  have undone : f⁻¹ ^ n * f ^ n = 1 := inv_pow_mul_pow (ne_of_gt positive) n
  have scaled : |f⁻¹ ^ n * (v - f ^ n * u)| ≤ δ * (f⁻¹ * ∑ i ∈ Finset.range n, f⁻¹ ^ i) := by
    rw [abs_mul, abs_of_pos inverse, ← inv_pow_mul_sum (ne_of_gt positive), ← mul_assoc,
      mul_comm δ, mul_assoc]
    exact mul_le_mul_of_nonneg_left there inverse.le
  have split : w - u = (w - f⁻¹ ^ n * v) + f⁻¹ ^ n * (v - f ^ n * u) := by
    rw [mul_sub, ← mul_assoc, undone, one_mul]
    ring
  rw [split]
  calc |(w - f⁻¹ ^ n * v) + f⁻¹ ^ n * (v - f ^ n * u)|
      ≤ |w - f⁻¹ ^ n * v| + |f⁻¹ ^ n * (v - f ^ n * u)| := abs_add_le _ _
    _ ≤ δ * ∑ i ∈ Finset.range n, f⁻¹ ^ i + δ * (f⁻¹ * ∑ i ∈ Finset.range n, f⁻¹ ^ i) :=
        add_le_add back scaled
    _ = δ * (1 + f⁻¹) * ∑ i ∈ Finset.range n, f⁻¹ ^ i := by ring

/-- A geometric sum stays below its limit. -/
theorem geom_sum_lt {g : K} (positive : 0 < g) (small : g < 1) (n : Nat) :
    ∑ i ∈ Finset.range n, g ^ i < 1 / (1 - g) := by
  have room : 0 < 1 - g := sub_pos.mpr small
  have power := pow_pos positive n
  rw [lt_div_iff₀ room, mul_comm, mul_neg_geom_sum]
  linarith

end RoundedScaling
