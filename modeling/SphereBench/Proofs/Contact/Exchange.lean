import Mathlib.Data.List.FinRange
import Mathlib.Data.List.Sort
import SphereBench.Proofs.Contact.Independent
import SphereBench.Solver.Direct
/-!
# Contacts in another order

Contacts that share no sphere may change places: the response to the one does not see the response
to the other. Two orders of the same contacts therefore have the same outcome if all contacts of one
sphere come in the same order in both, however much else is different. Sorting the one order into
the other shows it, since an insertion passes only contacts that share no sphere with the one to be
inserted. Nothing here depends on the scalars.
-/

namespace SphereBench

section Fold
variable {α β : Type} {f : β → α → β} {P : β → Prop}

/-- A step may be inserted further back, behind steps with which it commutes. -/
theorem foldl_orderedInsert (r : α → α → Prop) [DecidableRel r] (keep : ∀ b x, P b → P (f b x))
    {x : α} {l : List α} (comm : ∀ y ∈ l, ¬ r x y → ∀ b, P b → f (f b x) y = f (f b y) x) {b : β}
    (hb : P b) : (l.orderedInsert r x).foldl f b = l.foldl f (f b x) := by
  induction l generalizing b with
  | nil => rfl
  | cons y l ih =>
    rw [List.orderedInsert_cons]
    split
    · rfl
    · rename_i hxy
      have htail := ih (fun z hz => comm z (List.mem_cons_of_mem y hz)) (keep b y hb)
      rw [List.foldl_cons, List.foldl_cons, htail, comm y List.mem_cons_self hxy b hb]

/-- The steps of a fold may be sorted, if those that are out of order commute. -/
theorem foldl_insertionSort (r : α → α → Prop) [DecidableRel r] (keep : ∀ b x, P b → P (f b x))
    {l : List α} (comm : l.Pairwise fun x y => ¬ r x y → ∀ b, P b → f (f b x) y = f (f b y) x)
    {b : β} (hb : P b) : (l.insertionSort r).foldl f b = l.foldl f b := by
  induction l generalizing b with
  | nil => rfl
  | cons x l ih =>
    obtain ⟨hhead, htail⟩ := List.pairwise_cons.mp comm
    have hinsert : ∀ y ∈ l.insertionSort r, ¬ r x y → ∀ b, P b → f (f b x) y = f (f b y) x :=
      fun y hy => hhead y ((List.mem_insertionSort r).mp hy)
    rw [List.insertionSort_cons, foldl_orderedInsert r keep hinsert hb, ih htail (keep b x hb),
      List.foldl_cons]

/-- A permutation of positions, listed by its values, is sorted into the positions in order. -/
theorem insertionSort_map_finRange {m n : ℕ} (place : Fin m ≃ Fin n) :
    ((List.finRange n).map place.symm).insertionSort (· ≤ ·) = List.finRange m := by
  have hnodup : ((List.finRange n).map place.symm).Nodup :=
    (List.nodup_finRange n).map place.symm.injective
  have hperm : ((List.finRange n).map place.symm).Perm (List.finRange m) := by
    refine (List.perm_ext_iff_of_nodup hnodup (List.nodup_finRange m)).mpr ?_
    intro i
    refine iff_of_true (List.mem_map.mpr ⟨place i, List.mem_finRange _, ?_⟩) (List.mem_finRange i)
    exact place.symm_apply_apply i
  have hsorted := List.pairwise_insertionSort (· ≤ ·) ((List.finRange n).map place.symm)
  exact ((List.perm_insertionSort _ _).trans hperm).eq_of_pairwise' hsorted
    (List.sortedLT_finRange m).sortedLE.pairwise

/-- Steps that are numbered may be taken in another order, if those that change places commute. -/
theorem foldl_map_symm {m n : ℕ} {place : Fin m ≃ Fin n} {f : β → Fin m → β}
    (keep : ∀ b i, P b → P (f b i))
    (comm : ∀ i j, i < j → place j < place i → ∀ b, P b → f (f b i) j = f (f b j) i) {b : β}
    (hb : P b) :
    ((List.finRange n).map place.symm).foldl f b = (List.finRange m).foldl f b := by
  have hcomm : ((List.finRange n).map place.symm).Pairwise fun i j =>
      ¬ i ≤ j → ∀ b, P b → f (f b i) j = f (f b j) i := by
    rw [List.pairwise_map]
    refine (List.sortedLT_finRange n).pairwise.imp ?_
    intro p q hpq hlt b hb
    have hplace : place (place.symm p) < place (place.symm q) := by
      rwa [place.apply_symm_apply, place.apply_symm_apply]
    exact (comm _ _ (not_le.mp hlt) hplace b hb).symm
  rw [← foldl_insertionSort (· ≤ ·) keep hcomm hb, insertionSort_map_finRange]

end Fold

namespace Contact
variable {K : Type} {c d : Contact K}

theorem updateBodies_eq {spheres : List (Sphere K)} {a b : Sphere K}
    (ha : spheres[c.bodyA]? = some a) (hb : spheres[c.bodyB]? = some b)
    (change : Sphere K → Sphere K → Sphere K × Sphere K) :
    c.updateBodies spheres change =
      (spheres.set c.bodyA (change a b).1).set c.bodyB (change a b).2 := by
  simp only [updateBodies, ha, hb]

theorem updateBodies_eq_self {spheres : List (Sphere K)}
    (h : ¬ ∃ a b, spheres[c.bodyA]? = some a ∧ spheres[c.bodyB]? = some b)
    (change : Sphere K → Sphere K → Sphere K × Sphere K) :
    c.updateBodies spheres change = spheres := by
  rw [updateBodies]
  split
  · rename_i a b ha hb
    exact absurd ⟨a, b, ha, hb⟩ h
  · rfl

/-- Changes of two contacts that share no sphere commute. -/
theorem updateBodies_comm (h : c.Apart d) (spheres : List (Sphere K))
    (change change' : Sphere K → Sphere K → Sphere K × Sphere K) :
    d.updateBodies (c.updateBodies spheres change) change' =
      c.updateBodies (d.updateBodies spheres change') change := by
  -- Neither contact sees what the other one does to the list.
  have hdA := getElem?_updateBodies_of_not_involves (h.symm _ d.involves_bodyA) spheres change
  have hdB := getElem?_updateBodies_of_not_involves (h.symm _ d.involves_bodyB) spheres change
  have hcA := getElem?_updateBodies_of_not_involves (h _ c.involves_bodyA) spheres change'
  have hcB := getElem?_updateBodies_of_not_involves (h _ c.involves_bodyB) spheres change'
  by_cases hc : ∃ a b, spheres[c.bodyA]? = some a ∧ spheres[c.bodyB]? = some b
  · by_cases hd : ∃ a b, spheres[d.bodyA]? = some a ∧ spheres[d.bodyB]? = some b
    · obtain ⟨a, b, ha, hb⟩ := hc
      obtain ⟨a', b', ha', hb'⟩ := hd
      have hAA : c.bodyA ≠ d.bodyA := fun heq => h _ c.involves_bodyA (.inl heq.symm)
      have hAB : c.bodyA ≠ d.bodyB := fun heq => h _ c.involves_bodyA (.inr heq.symm)
      have hBA : c.bodyB ≠ d.bodyA := fun heq => h _ c.involves_bodyB (.inl heq.symm)
      have hBB : c.bodyB ≠ d.bodyB := fun heq => h _ c.involves_bodyB (.inr heq.symm)
      rw [updateBodies_eq (hdA.trans ha') (hdB.trans hb'), updateBodies_eq ha hb,
        updateBodies_eq (hcA.trans ha) (hcB.trans hb), updateBodies_eq ha' hb',
        List.set_comm _ _ hBA, List.set_comm _ _ hAA, List.set_comm _ _ hBB, List.set_comm _ _ hAB]
    · have hd' := hd
      rw [← hdA, ← hdB] at hd'
      rw [updateBodies_eq_self hd', updateBodies_eq_self hd]
  · have hc' := hc
    rw [← hcA, ← hcB] at hc'
    rw [updateBodies_eq_self hc', updateBodies_eq_self hc]

/-- `place` tells where in the second list each contact of the first one stands. Contacts that
change places share no sphere. -/
structure KeepsOrder (contacts contacts' : List (Contact K))
    (place : Fin contacts.length ≃ Fin contacts'.length) : Prop where
  get_place : ∀ i, contacts'.get (place i) = contacts.get i
  lt_place : ∀ i j, i < j → ¬ (contacts.get i).Apart (contacts.get j) → place i < place j

namespace KeepsOrder
variable {contacts contacts' : List (Contact K)}
  {place : Fin contacts.length ≃ Fin contacts'.length}

theorem apart (h : KeepsOrder contacts contacts' place) {i j : Fin contacts.length} (hij : i < j)
    (hplace : place j < place i) : (contacts.get i).Apart (contacts.get j) := by
  by_contra hshare
  exact (h.lt_place i j hij hshare).not_gt hplace

/-- The second list, by the positions that its contacts have in the first one. -/
theorem eq_map_get (h : KeepsOrder contacts contacts' place) :
    contacts' = ((List.finRange contacts'.length).map place.symm).map contacts.get := by
  rw [List.map_map]
  refine (List.map_get_finRange contacts').symm.trans (List.map_congr_left ?_)
  intro p _
  rw [Function.comp_apply, ← h.get_place, place.apply_symm_apply]

variable [Scalar K]

/-- The direct solver leaves the same spheres for both lists. -/
theorem respondEach_eq (h : KeepsOrder contacts contacts' place) (spheres : List (Sphere K))
    (params : SolverParameters K) :
    respondEach spheres contacts' params = respondEach spheres contacts params := by
  let step : List (Sphere K) → Fin contacts.length → List (Sphere K) := fun spheres i =>
    (contacts.get i).updateBodies spheres ((contacts.get i).respond params.restitution)
  have hcomm : ∀ i j, i < j → place j < place i → ∀ spheres, True →
      step (step spheres i) j = step (step spheres j) i :=
    fun i j hij hplace spheres _ => updateBodies_comm (h.apart hij hplace) spheres _ _
  calc respondEach spheres contacts' params
      = (((List.finRange contacts'.length).map place.symm).map contacts.get).foldl
          (fun spheres c => c.updateBodies spheres (c.respond params.restitution)) spheres :=
        congrArg (respondEach spheres · params) h.eq_map_get
    _ = ((List.finRange contacts'.length).map place.symm).foldl step spheres := List.foldl_map
    _ = (List.finRange contacts.length).foldl step spheres :=
        foldl_map_symm (P := fun _ => True) (fun _ _ h => h) hcomm trivial
    _ = ((List.finRange contacts.length).map contacts.get).foldl
          (fun spheres c => c.updateBodies spheres (c.respond params.restitution)) spheres := by
        rw [List.foldl_map]
    _ = respondEach spheres contacts params :=
        congrArg (respondEach spheres · params) (List.map_get_finRange contacts)

end KeepsOrder

end Contact

end SphereBench
