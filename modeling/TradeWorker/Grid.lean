import Mathlib.Algebra.Order.Archimedean.Basic
import Mathlib.Algebra.Order.Field.Basic
import Mathlib.Algebra.Order.Floor.Ring
import Mathlib.Order.Bounds.Basic
import Mathlib.Tactic.FieldSimp
import Mathlib.Tactic.Linarith
import Mathlib.Tactic.Ring

/-!
# Grids

The multiples of a step, in an ordered field with a floor. `down` is the last grid point at
or below a value; it is often computed with a slack, so that a value a hair below a point
counts as that point, and then it may lie above the value.
-/

namespace Grid

variable {K : Type*} [Field K] {step x y : K}

def points (step : K) : Set K := {x | ∃ n : ℤ, x = n * step}

theorem mul_mem_points (n : ℤ) : (n : K) * step ∈ points step := ⟨n, rfl⟩

theorem zero_mem_points : (0 : K) ∈ points step := ⟨0, by simp⟩

theorem add_step_mem_points (hx : x ∈ points step) : x + step ∈ points step := by
  obtain ⟨n, rfl⟩ := hx
  exact ⟨n + 1, by push_cast; ring⟩

/-- A grid is closed under whole multiples, so a coarser grid lies on a finer one. -/
theorem points_subset {fine : K} (h : step ∈ points fine) : points step ⊆ points fine := by
  obtain ⟨m, rfl⟩ := h
  rintro _ ⟨n, rfl⟩
  exact ⟨n * m, by push_cast; ring⟩

variable [LinearOrder K]

theorem min_mem_points (hx : x ∈ points step) (hy : y ∈ points step) :
    min x y ∈ points step := by
  rcases min_choice x y with h | h <;> rwa [h]

theorem max_mem_points (hx : x ∈ points step) (hy : y ∈ points step) :
    max x y ∈ points step := by
  rcases max_choice x y with h | h <;> rwa [h]

variable [IsStrictOrderedRing K]

/-- Between neighbours there is nothing. -/
theorem add_step_le_of_lt (hstep : 0 < step) (hx : x ∈ points step) (hy : y ∈ points step)
    (h : x < y) : x + step ≤ y := by
  obtain ⟨n, rfl⟩ := hx
  obtain ⟨m, rfl⟩ := hy
  have hlt : n < m := by exact_mod_cast (mul_lt_mul_iff_left₀ hstep).mp h
  have hle : ((n + 1 : ℤ) : K) ≤ m := by exact_mod_cast hlt
  calc (n : K) * step + step = ((n + 1 : ℤ) : K) * step := by push_cast; ring
    _ ≤ m * step := mul_le_mul_of_nonneg_right hle hstep.le

theorem lt_add_step_iff (hstep : 0 < step) (hx : x ∈ points step) (hy : y ∈ points step) :
    x < y + step ↔ x ≤ y := by
  constructor
  · intro h
    by_contra hlt
    exact absurd (add_step_le_of_lt hstep hy hx (not_le.mp hlt)) (not_le.mpr h)
  · intro h
    linarith

/-! ## Rounding down -/

variable [FloorRing K]

/-- The last point at or below a value. -/
def down (step x : K) : K := ⌊x / step⌋ * step

omit [IsStrictOrderedRing K] in
theorem down_mem (step x : K) : down step x ∈ points step := mul_mem_points _

theorem le_down_iff (hstep : 0 < step) (hy : y ∈ points step) : y ≤ down step x ↔ y ≤ x := by
  obtain ⟨n, rfl⟩ := hy
  rw [down, mul_le_mul_iff_left₀ hstep, Int.cast_le, Int.le_floor, le_div_iff₀ hstep]

theorem down_le (hstep : 0 < step) : down step x ≤ x :=
  (le_down_iff hstep (down_mem step x)).mp le_rfl

theorem lt_down_add_step (hstep : 0 < step) : x < down step x + step := by
  by_contra h
  have hle := (le_down_iff hstep (add_step_mem_points (down_mem step x))).mpr (not_lt.mp h)
  linarith

theorem down_mono (hstep : 0 < step) (h : x ≤ y) : down step x ≤ down step y :=
  (le_down_iff hstep (down_mem step x)).mpr ((down_le hstep).trans h)

/-- A slack lets `down` pass the value exactly when a point lies within it. -/
theorem lt_down_add_slack_iff {slack : K} (hstep : 0 < step) :
    x < down step (x + slack) ↔ ∃ y ∈ points step, x < y ∧ y ≤ x + slack := by
  constructor
  · exact fun h => ⟨_, down_mem _ _, h, down_le hstep⟩
  · rintro ⟨y, hy, hlt, hle⟩
    exact lt_of_lt_of_le hlt ((le_down_iff hstep hy).mpr hle)

end Grid
