import SphereBench.Contact.Detection
/-!
# Order and members of the detected contacts

Which pairs of spheres the two phases report, and in which order. A comparison may come out in any
way here: nothing is assumed of the scalars.
-/

namespace SphereBench.Contact
variable {K : Type}

/-- The indices of the two bodies. -/
def bodies (c : Contact K) : Nat × Nat := (c.bodyA, c.bodyB)

variable [Scalar K]

/-- Behind the head of a list, indices counted from `i` count from `i + 1`. -/
private theorem getElem?_cons_sub {α : Type} (x : α) (xs : List α) {i q : Nat} (h : i < q) :
    (x :: xs)[q - i]? = xs[q - (i + 1)]? := by
  rw [show q - i = q - (i + 1) + 1 by omega, List.getElem?_cons_succ]

theorem mem_overlapsFrom {boxes : List (Box K)} {i p q : Nat} :
    (p, q) ∈ overlapsFrom i boxes ↔ i ≤ p ∧ p < q ∧
      ∃ a b, boxes[p - i]? = some a ∧ boxes[q - i]? = some b ∧ a.overlaps b := by
  induction boxes generalizing i with
  | nil => simp [overlapsFrom]
  | cons box rest ih =>
    rw [overlapsFrom, List.mem_append, List.mem_filterMap, ih]
    constructor
    · intro hmem
      rcases hmem with ⟨⟨b, j⟩, hj, h⟩ | ⟨hp, hq, a, b, ha, hb, h⟩
      · obtain ⟨hij, hb⟩ := List.mk_mem_zipIdx_iff_le_and_getElem?_sub.mp hj
        simp only [Option.ite_none_right_eq_some, Option.some.injEq, Prod.mk.injEq] at h
        obtain ⟨ho, rfl, rfl⟩ := h
        exact ⟨Nat.le_refl _, by omega, box, b, by simp, (getElem?_cons_sub _ _ hij).trans hb, ho⟩
      · exact ⟨by omega, hq, a, b, (getElem?_cons_sub _ _ hp).trans ha,
          (getElem?_cons_sub _ _ (by omega)).trans hb, h⟩
    · intro hpair
      obtain ⟨hp, hq, a, b, ha, hb, h⟩ := hpair
      rw [getElem?_cons_sub _ _ (by omega)] at hb
      rcases Nat.eq_or_lt_of_le hp with rfl | hp
      · left
        simp only [Nat.sub_self, List.getElem?_cons_zero, Option.some.injEq] at ha
        subst ha
        exact ⟨(b, q), List.mk_mem_zipIdx_iff_le_and_getElem?_sub.mpr ⟨by omega, hb⟩, by simp [h]⟩
      · right
        rw [getElem?_cons_sub _ _ hp] at ha
        exact ⟨by omega, hq, a, b, ha, hb, h⟩

theorem pairwise_overlapsFrom (i : Nat) (boxes : List (Box K)) :
    (overlapsFrom i boxes).Pairwise (Prod.Lex (· < ·) (· < ·)) := by
  induction boxes generalizing i with
  | nil => simp [overlapsFrom]
  | cons box rest ih =>
    rw [overlapsFrom, List.pairwise_append, List.pairwise_filterMap]
    refine ⟨?_, ih (i + 1), ?_⟩
    · have hidx : (rest.zipIdx (i + 1)).Pairwise fun x y => x.2 < y.2 := by
        rw [← List.pairwise_map (f := Prod.snd), List.zipIdx_map_snd]
        exact List.pairwise_lt_range'
      refine hidx.imp ?_
      intro x y hlt p hp p' hp'
      simp only [Option.ite_none_right_eq_some, Option.some.injEq] at hp hp'
      obtain ⟨_, rfl⟩ := hp
      obtain ⟨_, rfl⟩ := hp'
      exact Prod.Lex.right _ hlt
    · intro p hp p' hp'
      obtain ⟨⟨b, j⟩, _, h⟩ := List.mem_filterMap.mp hp
      simp only [Option.ite_none_right_eq_some, Option.some.injEq] at h
      obtain ⟨_, rfl⟩ := h
      exact Prod.Lex.left _ _ (mem_overlapsFrom (p := p'.1) (q := p'.2).mp hp').1

/-- The first phase reports the pairs with overlapping boxes. -/
theorem mem_candidates {spheres : List (Sphere K)} {i j : Nat} :
    (i, j) ∈ candidates spheres ↔ i < j ∧ ∃ a b, spheres[i]? = some a ∧ spheres[j]? = some b ∧
      a.bounds.overlaps b.bounds := by
  rw [candidates, mem_overlapsFrom]
  constructor
  · intro hmem
    obtain ⟨_, hij, _, _, ha, hb, h⟩ := hmem
    simp only [Nat.sub_zero, List.getElem?_map, Option.map_eq_some_iff] at ha hb
    obtain ⟨a, ha, rfl⟩ := ha
    obtain ⟨b, hb, rfl⟩ := hb
    exact ⟨hij, a, b, ha, hb, h⟩
  · intro hpair
    obtain ⟨hij, a, b, ha, hb, h⟩ := hpair
    exact ⟨Nat.zero_le i, hij, a.bounds, b.bounds, by simp [ha], by simp [hb], h⟩

theorem pairwise_candidates (spheres : List (Sphere K)) :
    (candidates spheres).Pairwise (Prod.Lex (· < ·) (· < ·)) :=
  pairwise_overlapsFrom 0 _

/-- A contact carries the indices with which it was asked for. -/
theorem bodies_of_between? {i j : Nat} {a b : Sphere K} {c : Contact K}
    (h : between? i a j b = some c) : c.bodies = (i, j) := by
  simp only [between?] at h
  split at h
  · cases h
  · cases h
    rfl

theorem at?_eq_some {spheres : List (Sphere K)} {i j : Nat} {c : Contact K} :
    at? spheres i j = some c ↔
      ∃ a b, spheres[i]? = some a ∧ spheres[j]? = some b ∧ between? i a j b = some c := by
  rw [at?]
  split
  · rename_i a b ha hb
    simp [ha, hb]
  · rename_i h
    constructor
    · intro hc
      cases hc
    · intro hex
      obtain ⟨a, b, ha, hb, _⟩ := hex
      exact (h a b ha hb).elim

theorem bodies_of_at? {spheres : List (Sphere K)} {i j : Nat} {c : Contact K}
    (h : at? spheres i j = some c) : c.bodies = (i, j) := by
  obtain ⟨a, b, _, _, h⟩ := at?_eq_some.mp h
  exact bodies_of_between? h

/-- Both phases report a pair if the boxes overlap and the spheres penetrate each other. -/
theorem mem_detect {spheres : List (Sphere K)} {c : Contact K} :
    c ∈ detect spheres ↔ ∃ i j a b, i < j ∧ spheres[i]? = some a ∧ spheres[j]? = some b ∧
      a.bounds.overlaps b.bounds ∧ between? i a j b = some c := by
  rw [detect, List.mem_filterMap]
  constructor
  · intro hmem
    obtain ⟨⟨i, j⟩, hij, hc⟩ := hmem
    obtain ⟨hlt, a, b, ha, hb, ho⟩ := mem_candidates.mp hij
    obtain ⟨a', b', ha', hb', hc⟩ := at?_eq_some.mp hc
    cases ha.symm.trans ha'
    cases hb.symm.trans hb'
    exact ⟨i, j, a, b, hlt, ha, hb, ho, hc⟩
  · intro hpair
    obtain ⟨i, j, a, b, hlt, ha, hb, ho, hc⟩ := hpair
    exact ⟨(i, j), mem_candidates.mpr ⟨hlt, a, b, ha, hb, ho⟩, at?_eq_some.mpr ⟨a, b, ha, hb, hc⟩⟩

theorem detect_eq_nil {spheres : List (Sphere K)}
    (h : ∀ i j a b, i < j → spheres[i]? = some a → spheres[j]? = some b → between? i a j b = none) :
    detect spheres = [] := by
  rw [List.eq_nil_iff_forall_not_mem]
  intro c hc
  obtain ⟨i, j, a, b, hij, ha, hb, _, hc⟩ := mem_detect.mp hc
  rw [h i j a b hij ha hb] at hc
  cases hc

/-- Contacts are listed in the lexicographic order of their indices, no pair twice. -/
theorem pairwise_detect (spheres : List (Sphere K)) :
    (detect spheres).Pairwise fun c d => Prod.Lex (· < ·) (· < ·) c.bodies d.bodies := by
  rw [detect, List.pairwise_filterMap]
  refine (pairwise_candidates spheres).imp ?_
  intro p q hpq c hc d hd
  rw [bodies_of_at? hc, bodies_of_at? hd]
  exact hpq

theorem bodyA_lt_bodyB {spheres : List (Sphere K)} {c : Contact K} (h : c ∈ detect spheres) :
    c.bodyA < c.bodyB := by
  obtain ⟨i, j, a, b, hlt, _, _, _, hc⟩ := mem_detect.mp h
  have hij := bodies_of_between? hc
  simp only [bodies, Prod.mk.injEq] at hij
  omega

end SphereBench.Contact
