import Mathlib.Algebra.Order.Floor.Semiring
import SphereBench.Proofs.Exact.Scalar
import SphereBench.Experiment.Config
/-!
# Exact configurations

With exact scalars every number is finite, and the check of a configuration is the plain conditions
on its parameters. The number of steps is the least that covers the duration.
-/

namespace SphereBench.Config
variable {c : Config ℝ}

theorem check_eq_ok_iff : c.check = .ok () ↔
    0 < c.dt ∧ 0 < c.duration ∧ 0 < c.mass ∧ c.iterations ≠ 0 ∧ 0 ≤ c.tolerance := by
  simp only [check, Scalar.isPositiveFinite_real]
  by_cases hdt : 0 < c.dt
  · by_cases hduration : 0 < c.duration
    · by_cases hmass : 0 < c.mass
      · by_cases hiterations : c.iterations = 0
        · simp [hdt, hduration, hmass, hiterations]
        · simp [hdt, hduration, hmass, hiterations, Scalar.isFinite]
      · simp [hdt, hduration, hmass]
    · simp [hdt, hduration]
  · simp [hdt]

/-- A number of steps that can be counted is the quotient rounded up. -/
theorem stepCount_eq (hsteps : ⌈c.duration / c.dt⌉₊ < 2 ^ 64) :
    c.stepCount = ⌈c.duration / c.dt⌉₊ := by
  show min ⌈c.duration / c.dt⌉₊ (2 ^ 64 - 1) = ⌈c.duration / c.dt⌉₊
  omega

theorem stepCount_ne_zero (hdt : 0 < c.dt) (hduration : 0 < c.duration)
    (hsteps : ⌈c.duration / c.dt⌉₊ < 2 ^ 64) : c.stepCount ≠ 0 := by
  rw [stepCount_eq hsteps]
  exact (Nat.ceil_pos.mpr (div_pos hduration hdt)).ne'

/-- The steps cover the duration. -/
theorem duration_le (hdt : 0 < c.dt) (hsteps : ⌈c.duration / c.dt⌉₊ < 2 ^ 64) :
    c.duration ≤ c.stepCount * c.dt := by
  rw [stepCount_eq hsteps, ← div_le_iff₀ hdt]
  exact Nat.le_ceil _

/-- The last step is needed. -/
theorem lt_duration_add (hdt : 0 < c.dt) (hduration : 0 < c.duration)
    (hsteps : ⌈c.duration / c.dt⌉₊ < 2 ^ 64) : c.stepCount * c.dt < c.duration + c.dt := by
  have hlt := Nat.ceil_lt_add_one (div_pos hduration hdt).le
  rw [← stepCount_eq hsteps] at hlt
  calc (c.stepCount : ℝ) * c.dt < (c.duration / c.dt + 1) * c.dt := mul_lt_mul_of_pos_right hlt hdt
    _ = c.duration + c.dt := by field_simp

end SphereBench.Config
