import SphereBench.Proofs.Double.Order
import SphereBench.Proofs.Statistic.Calls
/-!
# Extrema of a stream of doubles

A stream of doubles may hold infinities, and values that are not a number at any place. The extrema
skip the latter: the first sample is stored as both extrema even if it is not a number, but it gives
way to the first number that comes.
-/

namespace SphereBench

namespace Samples

/-- The samples that are numbers. -/
def numbers (xs : List Float) : Set Float := {x | x ∈ xs ∧ ¬ x.isNaN}

/-- A sample to which every number among the samples is related. Where there is no number, this is
any sample. -/
structure IsExtremum (r : Float → Float → Prop) (xs : List Float) (m : Float) : Prop where
  mem : m ∈ xs
  bound : ∀ x ∈ numbers xs, r x m

variable {r : Float → Float → Prop} {choose : Float → Float → Float} {xs : List Float} {m : Float}

/-- An extremum by a preference is a number if there is one. -/
theorem IsExtremum.mem_numbers (h : IsExtremum r xs m) (hr : Double.IsPreference r choose)
    (hne : (numbers xs).Nonempty) : m ∈ numbers xs := by
  obtain ⟨x, hx⟩ := hne
  exact ⟨h.mem, hr.number (h.bound x hx)⟩

/-- An extremum by a preference is not a number only if nothing is. -/
theorem IsExtremum.isNaN_iff (h : IsExtremum r xs m) (hr : Double.IsPreference r choose) :
    m.isNaN ↔ ∀ x ∈ xs, x.isNaN := by
  constructor
  · intro hm x hx
    by_contra hnumber
    exact hr.number (h.bound x ⟨hx, hnumber⟩) hm
  · intro hall
    exact hall m h.mem

theorem isExtremum_singleton (hr : Double.IsPreference r choose) (x : Float) :
    IsExtremum r [x] x where
  mem := List.mem_singleton_self x
  bound := by
    rintro y ⟨hy, hnumber⟩
    cases List.mem_singleton.mp hy
    exact hr.self hnumber

/-- The choice between the extremum so far and one more sample is the next extremum. -/
theorem IsExtremum.concat (h : IsExtremum r xs m) (hr : Double.IsPreference r choose) (x : Float) :
    IsExtremum r (xs ++ [x]) (choose m x) where
  mem := by
    rcases hr.eq_or m x with heq | heq
    · rw [heq]
      exact List.mem_append_left _ h.mem
    · rw [heq]
      exact List.mem_append_right _ (List.mem_singleton_self x)
  bound := by
    rintro y ⟨hy, hnumber⟩
    rcases List.mem_append.mp hy with hy | hy
    · -- The extremum so far is a number, as `y` is related to it.
      have hym := h.bound y ⟨hy, hnumber⟩
      exact hr.trans hym (hr.left x (hr.number hym))
    · cases List.mem_singleton.mp hy
      exact hr.right m hnumber

end Samples

namespace Tally
open Samples Double

/-- The first sample is an extremum as it is, and each later one is compared with the extremum so
far. -/
theorem isExtremum_running {r : Float → Float → Prop} {choose : Float → Float → Float}
    (hr : IsPreference r choose) {extremum : Tally Float → Float}
    (hpush : ∀ t x, extremum (t.push x) = if t.count + 1 = 1 then x else choose (extremum t) x)
    {xs : List Float} (hne : xs ≠ []) : IsExtremum r xs (extremum (ofList xs)) := by
  induction xs using List.reverseRecOn with
  | nil => exact absurd rfl hne
  | append_singleton xs x ih =>
    rw [ofList_append_singleton, hpush, count_ofList]
    by_cases hxs : xs = []
    · subst hxs
      exact isExtremum_singleton hr x
    · rw [if_neg (by simpa using hxs)]
      exact (ih hxs).concat hr x

theorem isExtremum_max {xs : List Float} (hne : xs ≠ []) :
    IsExtremum (· ≤ ·) xs (ofList xs).max :=
  isExtremum_running isPreference_maxNum (fun _ _ => rfl) hne

theorem isExtremum_min {xs : List Float} (hne : xs ≠ []) :
    IsExtremum (· ≥ ·) xs (ofList xs).min :=
  isExtremum_running isPreference_minNum (fun _ _ => rfl) hne

/-- The greatest absolute value starts as zero, as if that were a sample before all others. -/
theorem isExtremum_maxAbs (xs : List Float) :
    IsExtremum (· ≤ ·) (0 :: xs.map Float.abs) (ofList xs).maxAbs := by
  induction xs using List.reverseRecOn with
  | nil => exact isExtremum_singleton isPreference_maxNum 0
  | append_singleton xs x ih =>
    rw [ofList_append_singleton, List.map_append, ← List.cons_append]
    exact ih.concat isPreference_maxNum x.abs

theorem isGreatest_max {xs : List Float} (h : (numbers xs).Nonempty) (hne : xs ≠ []) :
    IsGreatest (numbers xs) (ofList xs).max :=
  ⟨(isExtremum_max hne).mem_numbers isPreference_maxNum h, (isExtremum_max hne).bound⟩

theorem isLeast_min {xs : List Float} (h : (numbers xs).Nonempty) (hne : xs ≠ []) :
    IsLeast (numbers xs) (ofList xs).min :=
  ⟨(isExtremum_min hne).mem_numbers isPreference_minNum h, (isExtremum_min hne).bound⟩

theorem maxAbs_eq_zero {xs : List Float} (h : numbers xs = ∅) : (ofList xs).maxAbs = 0 := by
  have hextremum := isExtremum_maxAbs xs
  have hzero : (0 : Float) ∈ numbers (0 :: xs.map Float.abs) := ⟨List.mem_cons_self, by decide⟩
  obtain ⟨hmem, hnumber⟩ := hextremum.mem_numbers isPreference_maxNum ⟨0, hzero⟩
  rcases List.mem_cons.mp hmem with heq | hmem
  · exact heq
  · obtain ⟨x, hx, heq⟩ := List.mem_map.mp hmem
    rw [← heq, isNaN_abs] at hnumber
    exact absurd ⟨hx, hnumber⟩ (Set.eq_empty_iff_forall_notMem.mp h x)

/-- The greatest absolute value is that of a sample, also while it is zero. -/
theorem isGreatest_maxAbs {xs : List Float} (h : (numbers xs).Nonempty) :
    IsGreatest (Float.abs '' numbers xs) (ofList xs).maxAbs := by
  have hextremum := isExtremum_maxAbs xs
  have hbound : ∀ x ∈ numbers xs, x.abs ≤ (ofList xs).maxAbs := by
    rintro x ⟨hx, hnumber⟩
    refine hextremum.bound x.abs ⟨List.mem_cons_of_mem _ (List.mem_map_of_mem hx), ?_⟩
    rwa [isNaN_abs]
  obtain ⟨y, hy⟩ := h
  refine ⟨?_, Set.forall_mem_image.mpr hbound⟩
  rcases List.mem_cons.mp hextremum.mem with heq | hmem
  · rw [heq]
    exact ⟨y, hy, abs_eq_zero (heq ▸ hbound y hy)⟩
  · obtain ⟨x, hx, heq⟩ := List.mem_map.mp hmem
    refine ⟨x, ⟨hx, ?_⟩, heq⟩
    rw [← isNaN_abs, heq]
    exact (not_isNaN_of_le (hbound y hy)).2

/-- No sample lies farther out than both extrema. -/
theorem maxAbs_eq_maxNum {xs : List Float} (h : (numbers xs).Nonempty) (hne : xs ≠ []) :
    (ofList xs).maxAbs = Scalar.maxNum (ofList xs).max.abs (ofList xs).min.abs := by
  have hmax := isGreatest_max h hne
  have hmin := isLeast_min h hne
  obtain ⟨⟨x, hx, heq⟩, hbound⟩ := isGreatest_maxAbs h
  have hnumber {y : Float} (hy : y ∈ numbers xs) : ¬ y.abs.isNaN := by
    rw [isNaN_abs]
    exact hy.2
  have hle : x.abs ≤ Scalar.maxNum (ofList xs).max.abs (ofList xs).min.abs := by
    rcases abs_le_abs_or (hmin.2 hx) (hmax.2 hx) with hle | hle
    · exact le_trans hle (isPreference_maxNum.right _ (hnumber hmin.1))
    · exact le_trans hle (isPreference_maxNum.left _ (hnumber hmax.1))
  rw [← heq] at hbound ⊢
  rcases isPreference_maxNum.eq_or (ofList xs).max.abs (ofList xs).min.abs with hend | hend
  · rw [hend] at hle ⊢
    exact abs_antisymm hle (hbound ⟨_, hmax.1, rfl⟩)
  · rw [hend] at hle ⊢
    exact abs_antisymm hle (hbound ⟨_, hmin.1, rfl⟩)

end Tally

namespace Signal
open SignalCall Samples

/-- **The extrema of a stream.** After any calls that leave a sample since the signal was new or
last reset, the extrema are those of the samples that are numbers, wherever the others stand, with
infinities among the numbers. If there is no number, the greatest and the least value are not
numbers and the greatest absolute value is zero. -/
theorem perform_extrema (calls : List (SignalCall Float)) (hheld : held calls ≠ []) :
    let s := perform call .empty calls
    let value := s.tally.value
    let numbers := numbers (held calls)
    (∀ k ∈ s.enabled, s.value? k = some (value k)) ∧
    (numbers.Nonempty → IsGreatest numbers (value .maxPositive) ∧
      IsLeast numbers (value .maxNegative) ∧ IsGreatest (Float.abs '' numbers) (value .maxAbs) ∧
      value .maxAbs = Scalar.maxNum (value .maxPositive).abs (value .maxNegative).abs) ∧
    ((value .maxPositive).isNaN ↔ ∀ x ∈ held calls, x.isNaN) ∧
    ((value .maxNegative).isNaN ↔ ∀ x ∈ held calls, x.isNaN) ∧
    ((∀ x ∈ held calls, x.isNaN) → value .maxAbs = 0) := by
  intro s value numbers
  have hcount : (Tally.ofList (held calls)).count ≠ 0 := by simpa using hheld
  have hmax : value .maxPositive = (Tally.ofList (held calls)).max := by
    simp only [value, s, tally_perform, Tally.value, if_neg hcount]
  have hmin : value .maxNegative = (Tally.ofList (held calls)).min := by
    simp only [value, s, tally_perform, Tally.value, if_neg hcount]
  have hmaxAbs : value .maxAbs = (Tally.ofList (held calls)).maxAbs := by
    simp only [value, s, tally_perform, Tally.value, if_neg hcount]
  rw [hmax, hmin, hmaxAbs]
  refine ⟨fun k hk => if_pos hk, ?_, ?_, ?_, ?_⟩
  · intro h
    exact ⟨Tally.isGreatest_max h hheld, Tally.isLeast_min h hheld, Tally.isGreatest_maxAbs h,
      Tally.maxAbs_eq_maxNum h hheld⟩
  · exact (Tally.isExtremum_max hheld).isNaN_iff Double.isPreference_maxNum
  · exact (Tally.isExtremum_min hheld).isNaN_iff Double.isPreference_minNum
  · intro hnone
    apply Tally.maxAbs_eq_zero
    exact Set.eq_empty_iff_forall_notMem.mpr fun x hx => hx.2 (hnone x hx.1)

/-- A stream that starts and ends with a value that is not a number, after a reset that drops a
greater sample. -/
def gappyStream : List (SignalCall Float) :=
  [.enable .maxAbs, .insert 9, .reset, .insert (0 / 0), .extend [2, -1 / 0], .enable .maxPositive,
    .insert (0 / 0)]

/-- The gaps hide neither the greatest number nor the infinity. -/
theorem extrema_gappyStream : held gappyStream ≠ [] ∧
    (perform call .empty gappyStream).value? .maxPositive = some 2 ∧
    (perform call .empty gappyStream).value? .maxAbs = some (1 / 0) ∧
    IsGreatest (numbers (held gappyStream)) 2 ∧
    IsGreatest (Float.abs '' numbers (held gappyStream)) (1 / 0) := by
  have hsamples : held gappyStream = [0 / 0, 2, -1 / 0, 0 / 0] := rfl
  have hheld : held gappyStream ≠ [] := by simp [hsamples]
  have hnumbers : (numbers (held gappyStream)).Nonempty :=
    ⟨2, by simp [hsamples], by decide +kernel⟩
  obtain ⟨hvalue, hextrema, -⟩ := perform_extrema gappyStream hheld
  obtain ⟨hmax, -, hmaxAbs, -⟩ := hextrema hnumbers
  have hmax_eq : (perform call .empty gappyStream).tally.value .maxPositive = 2 := by
    decide +kernel
  have hmaxAbs_eq : (perform call .empty gappyStream).tally.value .maxAbs = 1 / 0 := by
    decide +kernel
  rw [hmax_eq] at hmax
  rw [hmaxAbs_eq] at hmaxAbs
  refine ⟨hheld, ?_, ?_, hmax, hmaxAbs⟩
  · rw [hvalue .maxPositive (by decide), hmax_eq]
  · rw [hvalue .maxAbs (by decide), hmaxAbs_eq]

end Signal

end SphereBench
