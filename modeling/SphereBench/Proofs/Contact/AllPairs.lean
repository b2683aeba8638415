import Mathlib.Data.List.Sort
import SphereBench.Proofs.Exact.Vector
import SphereBench.Proofs.Contact.Detection
/-!
# Detection against all pairs

The first phase of detection compares boxes only, and so has to be shown harmless: in exact
arithmetic it drops no pair of spheres that the second phase would report. The contacts are then
those of all pairs whose centres are nearer than the sum of the radii.
-/

namespace SphereBench.Contact

/-- Every pair of indices below `n`, the smaller one first, in lexicographic order. -/
def indexPairs (n : Nat) : List (Nat × Nat) :=
  (List.range n).flatMap fun i => (List.range' (i + 1) (n - (i + 1))).map fun j => (i, j)

theorem mem_indexPairs {n i j : Nat} : (i, j) ∈ indexPairs n ↔ i < j ∧ j < n := by
  simp only [indexPairs, List.mem_flatMap, List.mem_range, List.mem_map, List.mem_range'_1,
    Prod.mk.injEq]
  constructor
  · intro h
    obtain ⟨_, hi, _, hj, rfl, rfl⟩ := h
    omega
  · intro h
    exact ⟨i, by omega, j, by omega, rfl, rfl⟩

theorem pairwise_indexPairs (n : Nat) :
    (indexPairs n).Pairwise (Prod.Lex (· < ·) (· < ·)) := by
  rw [indexPairs, List.pairwise_flatMap]
  constructor
  · intro i _
    rw [List.pairwise_map]
    exact (List.pairwise_lt_range' (s := i + 1)).imp fun h => Prod.Lex.right _ h
  · refine List.pairwise_lt_range.imp ?_
    intro i i' hlt p hp p' hp'
    obtain ⟨j, _, rfl⟩ := List.mem_map.mp hp
    obtain ⟨j', _, rfl⟩ := List.mem_map.mp hp'
    exact Prod.Lex.left _ _ hlt

/-- Whether the spheres with two indices have centres nearer than the sum of the radii. -/
noncomputable def isNear (spheres : List (Sphere ℝ)) (p : Nat × Nat) : Bool :=
  match spheres[p.1]?, spheres[p.2]? with
  | some a, some b => decide ((b.position - a.position).lengthSq < (a.radius + b.radius) ^ 2)
  | _, _ => false

theorem isNear_iff {spheres : List (Sphere ℝ)} {i j : Nat} :
    isNear spheres (i, j) ↔ ∃ a b, spheres[i]? = some a ∧ spheres[j]? = some b ∧
      (b.position - a.position).lengthSq < (a.radius + b.radius) ^ 2 := by
  rw [isNear]
  split
  · rename_i a b ha hb
    simp [ha, hb]
  · rename_i h
    constructor
    · intro hf
      cases hf
    · intro hex
      obtain ⟨a, b, ha, hb, _⟩ := hex
      exact (h a b ha hb).elim

/-- The second phase reports a pair exactly if it is near. -/
theorem isSome_between? (i : Nat) (a : Sphere ℝ) (j : Nat) (b : Sphere ℝ) :
    (between? i a j b).isSome ↔
      (b.position - a.position).lengthSq < (a.radius + b.radius) ^ 2 := by
  simp only [between?]
  rw [sq, ← not_le]
  split
  · rename_i h
    simp [h]
  · rename_i h
    simp [h]

/-- The boxes of two spheres overlap if no component of their offset is longer than the sum of the
radii. -/
theorem overlaps_bounds_iff {a b : Sphere ℝ} :
    a.bounds.overlaps b.bounds ↔
      |(b.position - a.position).x| ≤ a.radius + b.radius ∧
        |(b.position - a.position).y| ≤ a.radius + b.radius ∧
        |(b.position - a.position).z| ≤ a.radius + b.radius := by
  simp only [Box.overlaps, Bool.and_eq_true, decide_eq_true_eq]
  simp only [Sphere.bounds, Vec3.const, Vec3.sub_x, Vec3.sub_y, Vec3.sub_z, Vec3.add_x, Vec3.add_y,
    Vec3.add_z, abs_le]
  constructor
  · rintro ⟨⟨⟨⟨⟨_, _⟩, _⟩, _⟩, _⟩, _⟩
    refine ⟨⟨?_, ?_⟩, ⟨?_, ?_⟩, ?_, ?_⟩ <;> linarith
  · rintro ⟨⟨_, _⟩, ⟨_, _⟩, _, _⟩
    refine ⟨⟨⟨⟨⟨?_, ?_⟩, ?_⟩, ?_⟩, ?_⟩, ?_⟩ <;> linarith

/-- Near spheres have overlapping boxes, since no component of the offset is longer than the
offset itself. -/
theorem overlaps_bounds {a b : Sphere ℝ} (ha : 0 ≤ a.radius) (hb : 0 ≤ b.radius)
    (h : (b.position - a.position).lengthSq < (a.radius + b.radius) ^ 2) :
    a.bounds.overlaps b.bounds := by
  obtain ⟨hx, hy, hz⟩ := Vec3.abs_lt_of_lengthSq_lt (add_nonneg ha hb) h
  exact overlaps_bounds_iff.mpr ⟨hx.le, hy.le, hz.le⟩

/-- The pairs that both phases accept are the near ones. -/
theorem filter_candidates {spheres : List (Sphere ℝ)} (hr : ∀ s ∈ spheres, 0 ≤ s.radius) :
    ((candidates spheres).filter fun p => (at? spheres p.1 p.2).isSome) =
      (indexPairs spheres.length).filter (isNear spheres) := by
  -- Both lists increase strictly, so that only their members have to be compared.
  refine ((pairwise_candidates spheres).filter _).eq_of_mem_iff
    ((pairwise_indexPairs spheres.length).filter _) ?_
  intro p
  obtain ⟨i, j⟩ := p
  rw [List.mem_filter, List.mem_filter, mem_candidates, mem_indexPairs, isNear_iff]
  constructor
  · intro hmem
    obtain ⟨⟨hij, a, b, ha, hb, _⟩, hsome⟩ := hmem
    simp only [at?, ha, hb] at hsome
    have hj := (List.getElem?_eq_some_iff.mp hb).1
    exact ⟨⟨hij, hj⟩, a, b, ha, hb, (isSome_between? i a j b).mp hsome⟩
  · intro hmem
    obtain ⟨⟨hij, _⟩, a, b, ha, hb, h⟩ := hmem
    have ho := overlaps_bounds (hr a (List.mem_of_getElem? ha)) (hr b (List.mem_of_getElem? hb)) h
    refine ⟨⟨hij, a, b, ha, hb, ho⟩, ?_⟩
    simp only [at?, ha, hb]
    exact (isSome_between? i a j b).mpr h

/-- The contacts are those of all pairs of spheres whose centres are nearer than the sum of the
radii: every such pair has one, no other pair has, and they are listed in the strictly increasing
order of their indices. -/
theorem detect_eq_near_pairs (spheres : List (Sphere ℝ)) (hr : ∀ s ∈ spheres, 0 ≤ s.radius) :
    (detect spheres).map some =
        ((indexPairs spheres.length).filter (isNear spheres)).map (fun p => at? spheres p.1 p.2) ∧
      ((detect spheres).Pairwise fun c d =>
        c.bodyA < d.bodyA ∨ c.bodyA = d.bodyA ∧ c.bodyB < d.bodyB) ∧
      ∀ c, c ∈ detect spheres ↔ ∃ i j a b, i < j ∧ spheres[i]? = some a ∧ spheres[j]? = some b ∧
        (b.position - a.position).lengthSq < (a.radius + b.radius) ^ 2 ∧
        between? i a j b = some c := by
  refine ⟨?_, ?_, ?_⟩
  · rw [← filter_candidates hr, detect, List.map_filterMap_some_eq_filter_map_isSome,
      List.filter_map]
    rfl
  · refine (pairwise_detect spheres).imp ?_
    intro c d h
    simpa only [bodies, Prod.lex_def] using h
  · intro c
    rw [mem_detect]
    constructor
    · intro hmem
      obtain ⟨i, j, a, b, hij, ha, hb, _, hc⟩ := hmem
      exact ⟨i, j, a, b, hij, ha, hb, (isSome_between? i a j b).mp (by simp [hc]), hc⟩
    · intro hnear
      obtain ⟨i, j, a, b, hij, ha, hb, h, hc⟩ := hnear
      have ho := overlaps_bounds (hr a (List.mem_of_getElem? ha)) (hr b (List.mem_of_getElem? hb)) h
      exact ⟨i, j, a, b, hij, ha, hb, ho, hc⟩

/-- Two spheres that penetrate each other, and a third one that touches the second. -/
noncomputable def rowOfThree : List (Sphere ℝ) :=
  [.solid "a" ⟨0, 0, 0⟩ 1 1, .solid "b" ⟨1, 0, 0⟩ 1 1, .solid "c" ⟨3.0, 0, 0⟩ 1 1]

/-- The boxes of the last two overlap, but only the first two are in contact. -/
theorem bodies_detect_rowOfThree :
    (∀ s ∈ rowOfThree, 0 ≤ s.radius) ∧ (detect rowOfThree).map bodies = [(0, 1)] := by
  have hr : ∀ s ∈ rowOfThree, 0 ≤ s.radius := by simp [rowOfThree, Sphere.solid]
  refine ⟨hr, ?_⟩
  have hpairs : (indexPairs rowOfThree.length).filter (isNear rowOfThree) = [(0, 1)] := by
    rw [show indexPairs rowOfThree.length = [(0, 1), (0, 2), (1, 2)] by decide]
    norm_num [isNear, rowOfThree, Sphere.solid, Vec3.lengthSq_real]
  obtain ⟨hmap, _, _⟩ := detect_eq_near_pairs rowOfThree hr
  rw [hpairs, List.map_singleton, List.map_eq_singleton_iff] at hmap
  obtain ⟨c, hdetect, hc⟩ := hmap
  rw [hdetect, List.map_singleton, bodies_of_at? hc.symm]

end SphereBench.Contact
