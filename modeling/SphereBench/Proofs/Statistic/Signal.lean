import SphereBench.Statistic.VectorSignal
/-!
# Signals and their samples

A signal that has taken some samples keeps its choice of statistics and holds the tally of the
samples; a vector signal is four signals of components. Nothing here depends on the scalars.
-/

namespace SphereBench
variable {K : Type}

namespace Signal

/-- The statistics of a signal after a list of them is enabled. -/
theorem mem_enableKinds {s : Signal K} {ks : List Statistic} {k : Statistic} :
    k ∈ (s.enableKinds ks).enabled ↔ k ∈ s.enabled ∨ k ∈ ks := by
  induction ks generalizing s with
  | nil => simp [enableKinds]
  | cons j ks ih =>
    have hcons : s.enableKinds (j :: ks) = (s.enable j).enableKinds ks := rfl
    rw [hcons, ih, enable, StatisticSet.mem_insert, List.mem_cons]
    constructor
    · intro h
      rcases h with (h | h) | h
      · exact .inr (.inl h)
      · exact .inl h
      · exact .inr (.inr h)
    · intro h
      rcases h with h | h | h
      · exact .inl (.inr h)
      · exact .inl (.inl h)
      · exact .inr h

@[simp] theorem tally_enableKinds (s : Signal K) (ks : List Statistic) :
    (s.enableKinds ks).tally = s.tally := by
  induction ks generalizing s with
  | nil => rfl
  | cons j ks ih =>
    have hcons : s.enableKinds (j :: ks) = (s.enable j).enableKinds ks := rfl
    rw [hcons, ih]
    rfl

variable [Scalar K]

@[simp] theorem extend_nil (s : Signal K) : s.extend [] = s := rfl

theorem extend_cons (s : Signal K) (x : K) (xs : List K) :
    s.extend (x :: xs) = (s.insert x).extend xs := rfl

/-- The last sample of a list is taken last. -/
theorem extend_concat (s : Signal K) (xs : List K) (x : K) :
    s.extend (xs ++ [x]) = (s.extend xs).insert x := by
  simp [extend]

@[simp] theorem enabled_extend (s : Signal K) (xs : List K) :
    (s.extend xs).enabled = s.enabled := by
  induction xs generalizing s with
  | nil => rfl
  | cons x xs ih =>
    rw [extend_cons, ih]
    rfl

theorem tally_extend (s : Signal K) (xs : List K) :
    (s.extend xs).tally = xs.foldl Tally.push s.tally := by
  induction xs generalizing s with
  | nil => rfl
  | cons x xs ih =>
    rw [extend_cons, ih]
    rfl

/-- The report of a new signal on a list of samples. -/
theorem value?_extend_empty {ks : List Statistic} {k : Statistic} (hk : k ∈ ks) (xs : List K) :
    ((empty.enableKinds ks).extend xs).value? k = some ((Tally.ofList xs).value k) := by
  have hmem : k ∈ ((empty.enableKinds ks).extend xs : Signal K).enabled := by
    rw [enabled_extend]
    exact mem_enableKinds.mpr (.inr hk)
  have htally : ((empty.enableKinds ks).extend xs).tally = Tally.ofList xs := by
    rw [tally_extend, tally_enableKinds]
    rfl
  rw [value?, if_pos hmem, htally]

theorem count_extend (s : Signal K) (xs : List K) : (s.extend xs).count = s.count + xs.length := by
  induction xs generalizing s with
  | nil => rfl
  | cons x xs ih =>
    rw [extend_cons, ih, List.length_cons]
    simp only [count, insert, Tally.count_push]
    omega

end Signal

namespace VectorSignal

/-- Statistics are enabled on all four signals alike. -/
theorem enableKinds_eq (s : VectorSignal K) (ks : List Statistic) :
    s.enableKinds ks = s.update (·.enableKinds ks) := by
  induction ks generalizing s with
  | nil => rfl
  | cons k ks ih =>
    have hcons : s.enableKinds (k :: ks) = (s.enable k).enableKinds ks := rfl
    rw [hcons, ih]
    rfl

variable [Scalar K]

theorem extend_concat (s : VectorSignal K) (vs : List (Vec3 K)) (v : Vec3 K) :
    s.extend (vs ++ [v]) = (s.extend vs).insert v := by
  simp [extend]

/-- A list of vectors is taken component by component. -/
theorem extend_eq (s : VectorSignal K) (vs : List (Vec3 K)) :
    s.extend vs = ⟨s.x.extend (vs.map (·.x)), s.y.extend (vs.map (·.y)), s.z.extend (vs.map (·.z)),
      s.magnitude.extend (vs.map (·.length))⟩ := by
  induction vs generalizing s with
  | nil => rfl
  | cons v vs ih =>
    have hcons : s.extend (v :: vs) = (s.insert v).extend vs := rfl
    rw [hcons, ih]
    rfl

theorem count_extend (s : VectorSignal K) (vs : List (Vec3 K)) :
    (s.extend vs).count = s.count + vs.length := by
  rw [extend_eq]
  exact (Signal.count_extend s.magnitude _).trans (congrArg _ (List.length_map _))

/-- The four signals of a new vector signal that has taken a list of vectors. -/
theorem extend_empty (ks : List Statistic) (vs : List (Vec3 K)) :
    (empty.enableKinds ks).extend vs =
      ⟨(Signal.empty.enableKinds ks).extend (vs.map (·.x)),
        (Signal.empty.enableKinds ks).extend (vs.map (·.y)),
        (Signal.empty.enableKinds ks).extend (vs.map (·.z)),
        (Signal.empty.enableKinds ks).extend (vs.map (·.length))⟩ := by
  rw [enableKinds_eq, extend_eq]
  rfl

end VectorSignal

end SphereBench
