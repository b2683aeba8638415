import Mathlib.Algebra.BigOperators.Group.List.Basic
import Mathlib.Analysis.SpecialFunctions.Trigonometric.Basic
import Mathlib.Tactic.LinearCombination
import SphereBench.Scalar
/-!
# Exact scalars

The real numbers as a type of scalars. Every number is finite and no operation rounds, so the
operations that treat special values apart become those of an ordered field. The laws of motion
are stated over this instance.
-/

namespace SphereBench

noncomputable instance : Scalar ℝ where
  sqrt := Real.sqrt
  abs x := |x|
  sin := Real.sin
  cos := Real.cos
  hypot x y := Real.sqrt (x * x + y * y)
  isFinite _ := true
  ceilCount x := min ⌈x⌉₊ (2 ^ 64 - 1)
  decLt _ _ := inferInstance
  decLe _ _ := inferInstance

namespace Scalar

@[simp] theorem sqrt_real (x : ℝ) : Scalar.sqrt x = Real.sqrt x := rfl
@[simp] theorem abs_real (x : ℝ) : Scalar.abs x = |x| := rfl
@[simp] theorem sin_real (x : ℝ) : Scalar.sin x = Real.sin x := rfl
@[simp] theorem cos_real (x : ℝ) : Scalar.cos x = Real.cos x := rfl

@[simp] theorem maxNum_real (a b : ℝ) : maxNum a b = max a b := by
  rw [maxNum]
  split
  · rename_i h
    exact (max_eq_right (le_of_lt h)).symm
  · rename_i h
    rw [if_pos (beq_self_eq_true a)]
    exact (max_eq_left (not_lt.mp h)).symm

@[simp] theorem minNum_real (a b : ℝ) : minNum a b = min a b := by
  rw [minNum]
  split
  · rename_i h
    exact (min_eq_right (le_of_lt h)).symm
  · rename_i h
    rw [if_pos (beq_self_eq_true a)]
    exact (min_eq_left (not_lt.mp h)).symm

@[simp] theorem isPositiveFinite_real (x : ℝ) : isPositiveFinite x = decide (0 < x) := by
  simp [isPositiveFinite, isFinite]

@[simp] theorem sum_real (xs : List ℝ) : Scalar.sum xs = xs.sum := by
  rw [Scalar.sum, emptySum, neg_zero, List.sum_eq_foldl]

end Scalar

/-- The sum of the first `n` positive numbers. -/
noncomputable def triangle (n : ℕ) : ℝ := n * (n + 1) / 2

@[simp] theorem triangle_zero : triangle 0 = 0 := by simp [triangle]
@[simp] theorem triangle_one : triangle 1 = 1 := by norm_num [triangle]

theorem triangle_nonneg (n : ℕ) : 0 ≤ triangle n := by
  simp only [triangle]
  positivity

theorem triangle_succ (n : ℕ) : triangle (n + 1) = triangle n + (n + 1) := by
  simp only [triangle]
  push_cast
  ring

theorem triangle_monotone : Monotone triangle := by
  refine monotone_nat_of_le_succ ?_
  intro n
  rw [triangle_succ, le_add_iff_nonneg_right]
  positivity

theorem triangle_add (m n : ℕ) : triangle (m + n) = triangle m + m * n + triangle n := by
  simp only [triangle]
  push_cast
  ring

end SphereBench
