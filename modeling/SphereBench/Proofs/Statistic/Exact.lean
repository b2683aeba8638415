import Mathlib.Algebra.BigOperators.Group.List.Basic
import Mathlib.Algebra.Order.BigOperators.Group.List
import SphereBench.Proofs.Exact.Scalar
import SphereBench.Statistic.Tally
/-!
# Exact statistics

In exact arithmetic the running aggregates of a tally are the sums that define the statistics. The
streams of a fall from rest, whose samples are multiples of the natural or of the triangular
numbers, are summed up in closed form.
-/

namespace SphereBench

/-- The samples `a * f 1` to `a * f n`. -/
noncomputable def multiples (a : ℝ) (f : ℕ → ℝ) (n : ℕ) : List ℝ :=
  (List.range n).map fun i : ℕ => a * f (i + 1)

section multiples
variable (a : ℝ) (f : ℕ → ℝ) (n : ℕ)

@[simp] theorem multiples_zero : multiples a f 0 = [] := rfl

@[simp] theorem length_multiples : (multiples a f n).length = n := by simp [multiples]

theorem multiples_succ : multiples a f (n + 1) = multiples a f n ++ [a * f (n + 1)] := by
  simp [multiples, List.range_succ]

theorem map_abs_multiples {f : ℕ → ℝ} (hf : ∀ i, 0 ≤ f i) :
    (multiples a f n).map (|·|) = multiples |a| f n := by
  rw [multiples, multiples, List.map_map]
  refine List.map_congr_left ?_
  intro i _
  rw [Function.comp_apply, abs_mul, abs_of_nonneg (hf (i + 1))]

theorem sum_multiples_cast : (multiples a Nat.cast n).sum = a * (n * (n + 1) / 2) := by
  induction n with
  | zero => simp
  | succ n ih =>
    rw [multiples_succ, List.sum_append, ih, List.sum_singleton]
    push_cast
    ring

theorem sum_sq_multiples_cast :
    ((multiples a Nat.cast n).map (· ^ 2)).sum = a ^ 2 * (n * (n + 1) * (2 * n + 1) / 6) := by
  induction n with
  | zero => simp
  | succ n ih =>
    rw [multiples_succ, List.map_append, List.sum_append, ih, List.map_singleton,
      List.sum_singleton]
    push_cast
    ring

theorem sum_multiples_triangle :
    (multiples a triangle n).sum = a * (n * (n + 1) * (n + 2) / 6) := by
  induction n with
  | zero => simp
  | succ n ih =>
    rw [multiples_succ, List.sum_append, ih, List.sum_singleton, triangle]
    push_cast
    ring

end multiples

namespace Tally

/-- The running mean is the mean. -/
theorem mean_ofList (xs : List ℝ) : (ofList xs).mean = xs.sum / xs.length := by
  induction xs using List.reverseRecOn with
  | nil => simp [empty]
  | append_singleton xs x ih =>
    rw [ofList_append_singleton]
    simp only [push, ih, count_ofList, List.sum_append, List.sum_singleton, List.length_append,
      List.length_singleton]
    rcases Nat.eq_zero_or_pos xs.length with h | h
    · simp [List.eq_nil_of_length_eq_zero h]
    · have hpos : (0 : ℝ) < xs.length := by exact_mod_cast h
      push_cast
      field_simp
      ring

/-- The running sum of squared deviations is the sum of squares less that of the mean. -/
theorem deviation_ofList (xs : List ℝ) :
    (ofList xs).deviation = (xs.map (· ^ 2)).sum - xs.sum ^ 2 / xs.length := by
  induction xs using List.reverseRecOn with
  | nil => simp [empty]
  | append_singleton xs x ih =>
    rw [ofList_append_singleton]
    simp only [push, ih, mean_ofList, count_ofList, List.map_append, List.map_singleton,
      List.sum_append, List.sum_singleton, List.length_append, List.length_singleton]
    rcases Nat.eq_zero_or_pos xs.length with h | h
    · simp [List.eq_nil_of_length_eq_zero h]
    · have hpos : (0 : ℝ) < xs.length := by exact_mod_cast h
      push_cast
      field_simp
      ring

variable (a : ℝ) {n : ℕ}

/-- In a stream that grows in absolute value the last sample has the greatest. -/
theorem value_maxAbs_multiples {f : ℕ → ℝ} (hf : ∀ i, 0 ≤ f i) (hmono : Monotone f)
    (hn : n ≠ 0) : (ofList (multiples a f n)).value .maxAbs = |a| * f n := by
  have hmaxAbs : ∀ m, (ofList (multiples a f (m + 1))).maxAbs = |a| * f (m + 1) := by
    intro m
    induction m with
    | zero =>
      have hfirst := mul_nonneg (abs_nonneg a) (hf 1)
      simp [multiples, ofList, push, empty, abs_mul, abs_of_nonneg (hf 1), hfirst]
    | succ m ih =>
      have hle := mul_le_mul_of_nonneg_left (hmono (Nat.le_succ (m + 1))) (abs_nonneg a)
      rw [multiples_succ, ofList_append_singleton]
      simp only [push, ih, Scalar.maxNum_real, Scalar.abs_real, abs_mul,
        abs_of_nonneg (hf (m + 1 + 1))]
      exact max_eq_right hle
  obtain ⟨m, rfl⟩ := Nat.exists_eq_succ_of_ne_zero hn
  rw [value, if_neg (by simp)]
  exact hmaxAbs m

/-- The mean is reported as zero where there is no sample, as division has it anyway. -/
theorem value_mean_ofList (xs : List ℝ) : (ofList xs).value .mean = xs.sum / xs.length := by
  rw [value, count_ofList, mean_ofList]
  split
  · rename_i h
    rw [h, Nat.cast_zero, div_zero]
  · rfl

theorem value_mean_multiples_cast (hn : n ≠ 0) :
    (ofList (multiples a Nat.cast n)).value .mean = a * (n + 1) / 2 := by
  have hpos : (0 : ℝ) < n := by exact_mod_cast Nat.pos_of_ne_zero hn
  rw [value_mean_ofList, sum_multiples_cast, length_multiples]
  field_simp

theorem value_variance_multiples_cast (hn : n ≠ 0) :
    (ofList (multiples a Nat.cast n)).value .variance =
      if n = 1 then 0 else a ^ 2 * (n * (n + 1)) / 12 := by
  rw [value, if_neg (by simpa using hn), count_ofList, length_multiples]
  by_cases h1 : n = 1
  · subst h1
    simp
  · have hlt : 1 < n := by omega
    have hpos : (0 : ℝ) < n := by positivity
    have hsub : (0 : ℝ) < n - 1 := by
      rw [sub_pos]
      exact_mod_cast hlt
    rw [if_neg h1, deviation_ofList, sum_multiples_cast, sum_sq_multiples_cast, length_multiples]
    simp only [gt_iff_lt, hlt, if_true, Nat.cast_sub hlt.le, Nat.cast_one]
    field_simp
    ring

theorem value_mean_multiples_triangle (hn : n ≠ 0) :
    (ofList (multiples a triangle n)).value .mean = a * ((n + 1) * (n + 2)) / 6 := by
  have hpos : (0 : ℝ) < n := by exact_mod_cast Nat.pos_of_ne_zero hn
  rw [value_mean_ofList, sum_multiples_triangle, length_multiples]
  field_simp

/-- Samples that are all zero have no statistic but zero. -/
theorem value_ofList_replicate_zero (m : ℕ) (k : Statistic) :
    (ofList (List.replicate m (0 : ℝ))).value k = 0 := by
  have h : (ofList (List.replicate m (0 : ℝ))) = { (empty : Tally ℝ) with count := m } := by
    induction m with
    | zero => rfl
    | succ m ih =>
      rw [List.replicate_succ', ofList_append_singleton, ih]
      simp [push, empty]
  simp only [h, value]
  cases k <;> simp [empty]

end Tally

end SphereBench
