import Mathlib.Tactic.FieldSimp
import SphereBench.Proofs.Statistic.Exact
import SphereBench.Proofs.Statistic.Calls
/-!
# Statistics in two passes

A statistic is defined over all samples at once: the mean first, then the deviations from it. A
signal never sees a sample again, and moves its mean and its squared deviations along with each new
one. In exact arithmetic it reports what the definitions say, after every sample, and the order of
the samples does not show.
-/

namespace SphereBench

namespace Samples
noncomputable section

/-- Arithmetic mean. -/
def mean (xs : List ℝ) : ℝ := xs.sum / xs.length

/-- Root of the mean square. -/
def rootMeanSquare (xs : List ℝ) : ℝ := Real.sqrt ((xs.map (· ^ 2)).sum / xs.length)

/-- Sum of the squared deviations from the mean, over one less than there are samples. Fewer than
two samples have no variance. -/
def variance (xs : List ℝ) : ℝ :=
  if xs.length < 2 then 0 else (xs.map fun x => (x - mean xs) ^ 2).sum / (xs.length - 1)

end

variable {xs ys : List ℝ}

theorem sum_sq_sub (xs : List ℝ) (m : ℝ) :
    (xs.map fun x => (x - m) ^ 2).sum =
      (xs.map (· ^ 2)).sum - 2 * m * xs.sum + xs.length * m ^ 2 := by
  induction xs with
  | nil => simp
  | cons x xs ih =>
    simp only [List.map_cons, List.sum_cons, List.length_cons, ih]
    push_cast
    ring

/-- The squared deviations from the mean, from the sums alone. -/
theorem sum_sq_sub_mean (hne : xs ≠ []) :
    (xs.map fun x => (x - mean xs) ^ 2).sum =
      (xs.map (· ^ 2)).sum - xs.sum ^ 2 / xs.length := by
  have hlength : (xs.length : ℝ) ≠ 0 := by simpa using hne
  rw [sum_sq_sub, mean]
  field_simp
  ring

theorem variance_nonneg (xs : List ℝ) : 0 ≤ variance xs := by
  rw [variance]
  split
  · exact le_refl _
  · rename_i h
    have hlength : (1 : ℝ) ≤ xs.length := by exact_mod_cast (by omega : 1 ≤ xs.length)
    refine div_nonneg (List.sum_nonneg ?_) (sub_nonneg.mpr hlength)
    intro y hy
    obtain ⟨x, _, rfl⟩ := List.mem_map.mp hy
    exact sq_nonneg _

theorem rootMeanSquare_perm (h : xs.Perm ys) : rootMeanSquare xs = rootMeanSquare ys := by
  rw [rootMeanSquare, rootMeanSquare, (h.map _).sum_eq, h.length_eq]

theorem variance_perm (h : xs.Perm ys) : variance xs = variance ys := by
  rw [variance, variance, mean, mean, h.sum_eq, h.length_eq, (h.map _).sum_eq]

end Samples

namespace Tally

theorem squares_ofList (xs : List ℝ) : (ofList xs).squares = (xs.map (· ^ 2)).sum := by
  induction xs using List.reverseRecOn with
  | nil => rfl
  | append_singleton xs x ih =>
    rw [ofList_append_singleton, List.map_append, List.sum_append, ← ih, List.map_singleton,
      List.sum_singleton, sq]
    rfl

/-- The root mean square of nothing is reported as zero, as division has it anyway. -/
theorem value_rms_ofList (xs : List ℝ) :
    (ofList xs).value .rms = Samples.rootMeanSquare xs := by
  rw [value, count_ofList, squares_ofList, Samples.rootMeanSquare]
  split
  · rename_i h
    rw [h, Nat.cast_zero, div_zero, Real.sqrt_zero]
  · rfl

theorem value_variance_ofList (xs : List ℝ) :
    (ofList xs).value .variance = Samples.variance xs := by
  rw [value, count_ofList, Samples.variance]
  by_cases hlt : xs.length < 2
  · rw [if_pos hlt]
    simp only [gt_iff_lt, if_neg (show ¬ 1 < xs.length by omega), ite_self]
  · have hne : xs ≠ [] := by
      rintro rfl
      exact hlt Nat.two_pos
    rw [if_neg hlt, if_neg (by omega)]
    simp only [gt_iff_lt, if_pos (show 1 < xs.length by omega)]
    rw [deviation_ofList, Samples.sum_sq_sub_mean hne, Nat.cast_sub (by omega), Nat.cast_one]

/-- The order of the samples does not show in a statistic that is made of sums. -/
theorem value_ofList_perm {xs ys : List ℝ} (h : xs.Perm ys) {k : Statistic}
    (hk : k ∈ [Statistic.mean, .rms, .variance]) : (ofList xs).value k = (ofList ys).value k := by
  simp only [List.mem_cons, List.not_mem_nil, or_false] at hk
  rcases hk with rfl | rfl | rfl
  · rw [value_mean_ofList, value_mean_ofList, h.sum_eq, h.length_eq]
  · rw [value_rms_ofList, value_rms_ofList, Samples.rootMeanSquare_perm h]
  · rw [value_variance_ofList, value_variance_ofList, Samples.variance_perm h]

end Tally

namespace Signal
open SignalCall

/-- **What a signal reports.** After any calls, an enabled statistic has its value by definition on
the samples that have come since the signal was new or last reset. Every statistic of no samples is
zero, no variance is negative, and mean, root mean square and variance are the same for the same
samples in any other order. -/
theorem perform_twoPass (calls : List (SignalCall ℝ)) :
    let s := perform call .empty calls
    let xs := held calls
    (∀ k ∈ s.enabled, s.value? k = some (s.tally.value k)) ∧
    (xs = [] → ∀ k, s.tally.value k = 0) ∧
    s.tally.value .mean = Samples.mean xs ∧
    s.tally.value .rms = Samples.rootMeanSquare xs ∧
    s.tally.value .variance = Samples.variance xs ∧ 0 ≤ s.tally.value .variance ∧
    ∀ calls', xs.Perm (held calls') → ∀ k ∈ [Statistic.mean, .rms, .variance],
      (perform call .empty calls').tally.value k = s.tally.value k := by
  intro s xs
  have htally : s.tally = Tally.ofList xs := tally_perform calls
  rw [htally]
  refine ⟨?_, ?_, Tally.value_mean_ofList xs, Tally.value_rms_ofList xs,
    Tally.value_variance_ofList xs, ?_, ?_⟩
  · intro k hk
    rw [value?, if_pos hk, htally]
  · intro hnone k
    rw [hnone]
    rfl
  · rw [Tally.value_variance_ofList]
    exact Samples.variance_nonneg xs
  · intro calls' hperm k hk
    rw [tally_perform, Tally.value_ofList_perm hperm hk]

end Signal

end SphereBench
