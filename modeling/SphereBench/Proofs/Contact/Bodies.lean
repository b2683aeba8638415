import Mathlib.Algebra.BigOperators.Group.List.Basic
import Mathlib.Tactic.Abel
import SphereBench.Contact.Basic
/-!
# Changes of the bodies of a contact

Solvers change the spheres of a list only two at a time, through `Contact.updateBodies`. What such
a change keeps can therefore be read off the change of the two spheres alone. Nothing here depends
on the scalars.
-/

namespace SphereBench.Contact
variable {K : Type}

/-- Either a body is missing and nothing changes, or both are replaced. -/
theorem updateBodies_cases {P : List (Sphere K) → Prop} (c : Contact K) (spheres : List (Sphere K))
    (change : Sphere K → Sphere K → Sphere K × Sphere K) (same : P spheres)
    (changed : ∀ a b, spheres[c.bodyA]? = some a → spheres[c.bodyB]? = some b →
      P ((spheres.set c.bodyA (change a b).1).set c.bodyB (change a b).2)) :
    P (c.updateBodies spheres change) := by
  rw [updateBodies]
  split
  · rename_i a b ha hb
    exact changed a b ha hb
  · exact same

/-- The first body after a change of two spheres that are there. -/
theorem getElem?_updateBodies_bodyA {c : Contact K} {spheres : List (Sphere K)} {a b : Sphere K}
    (hne : c.bodyA ≠ c.bodyB) (ha : spheres[c.bodyA]? = some a) (hb : spheres[c.bodyB]? = some b)
    (change : Sphere K → Sphere K → Sphere K × Sphere K) :
    (c.updateBodies spheres change)[c.bodyA]? = some (change a b).1 := by
  have hlen := (List.getElem?_eq_some_iff.mp ha).1
  simp only [updateBodies, ha, hb, List.getElem?_set_ne hne.symm, List.getElem?_set_self hlen]

/-- The second body after a change of two spheres that are there. -/
theorem getElem?_updateBodies_bodyB {c : Contact K} {spheres : List (Sphere K)} {a b : Sphere K}
    (ha : spheres[c.bodyA]? = some a) (hb : spheres[c.bodyB]? = some b)
    (change : Sphere K → Sphere K → Sphere K × Sphere K) :
    (c.updateBodies spheres change)[c.bodyB]? = some (change a b).2 := by
  have hlen : c.bodyB < (spheres.set c.bodyA (change a b).1).length := by
    rw [List.length_set]
    exact (List.getElem?_eq_some_iff.mp hb).1
  simp only [updateBodies, ha, hb, List.getElem?_set_self hlen]

@[simp] theorem length_updateBodies (c : Contact K) (spheres : List (Sphere K))
    (change : Sphere K → Sphere K → Sphere K × Sphere K) :
    (c.updateBodies spheres change).length = spheres.length := by
  apply updateBodies_cases (P := fun l => l.length = spheres.length)
  · rfl
  · intro a b _ _
    simp

/-- A property of every sphere survives a change that keeps it for the two bodies. -/
theorem forall_mem_updateBodies {P : Sphere K → Prop} {c : Contact K} {spheres : List (Sphere K)}
    {change : Sphere K → Sphere K → Sphere K × Sphere K} (h : ∀ s ∈ spheres, P s)
    (keep : ∀ a b, P a → P b → P (change a b).1 ∧ P (change a b).2) :
    ∀ s ∈ c.updateBodies spheres change, P s := by
  apply updateBodies_cases (P := fun l => ∀ s ∈ l, P s)
  · exact h
  · intro a b ha hb s hs
    obtain ⟨hA, hB⟩ := keep a b (h a (List.mem_of_getElem? ha)) (h b (List.mem_of_getElem? hb))
    rcases List.mem_or_eq_of_mem_set hs with hs | rfl
    · rcases List.mem_or_eq_of_mem_set hs with hs | rfl
      · exact h s hs
      · exact hA
    · exact hB

/-- A property of every sphere survives a change of one that keeps it. -/
theorem forall_mem_modify {P : Sphere K → Prop} {spheres : List (Sphere K)}
    {change : Sphere K → Sphere K} (h : ∀ s ∈ spheres, P s) (keep : ∀ s, P s → P (change s))
    (i : Nat) : ∀ s ∈ spheres.modify i change, P s := by
  intro s hs
  obtain ⟨j, hj⟩ := List.mem_iff_getElem?.mp hs
  rw [List.getElem?_modify] at hj
  obtain ⟨b, hb, rfl⟩ := Option.map_eq_some_iff.mp hj
  have hP := h b (List.mem_of_getElem? hb)
  split
  · exact keep b hP
  · exact hP

/-- A member that is replaced by one with the same image leaves all images alone. -/
theorem map_set_of_eq {α β : Type} (f : α → β) {xs : List α} {i : Nat} {a x : α}
    (h : xs[i]? = some a) (hx : f x = f a) : (xs.set i x).map f = xs.map f := by
  obtain ⟨hi, rfl⟩ := List.getElem?_eq_some_iff.mp h
  rw [List.map_set, hx, ← List.getElem_map f (h := by simpa using hi), List.set_getElem_self]

/-- A sum over a list after one of its members is replaced. -/
theorem sum_map_set {α M : Type} [AddCommGroup M] (f : α → M) {xs : List α} {i : Nat} {x : α}
    (hx : xs[i]? = some x) (x' : α) :
    ((xs.set i x').map f).sum = (xs.map f).sum + (f x' - f x) := by
  obtain ⟨hi, rfl⟩ := List.getElem?_eq_some_iff.mp hx
  rw [List.map_set, List.sum_set', dif_pos (by simpa using hi), List.getElem_map]
  abel

/-- A sum over all spheres after one of them, if there is one with the index, is changed so that its
term grows by `d`. -/
theorem sum_map_modify {M : Type} [AddCommGroup M] (f : Sphere K → M) {d : M}
    {change : Sphere K → Sphere K} (h : ∀ b, f (change b) = f b + d) (spheres : List (Sphere K))
    (i : Nat) :
    ((spheres.modify i change).map f).sum =
      (spheres.map f).sum + if i < spheres.length then d else 0 := by
  induction spheres generalizing i with
  | nil => simp
  | cons b bs ih =>
    cases i with
    | zero =>
      simp [h]
      abel
    | succ i =>
      have htail := ih i
      simp only [List.modify_succ_cons, List.map_cons, List.sum_cons, List.length_cons,
        Nat.succ_lt_succ_iff, htail]
      abel

/-- A sum over all spheres after two of them are replaced. -/
theorem sum_map_set_set {M : Type} [AddCommGroup M] (f : Sphere K → M) {spheres : List (Sphere K)}
    {i j : Nat} (hne : i ≠ j) {a b : Sphere K} (ha : spheres[i]? = some a)
    (hb : spheres[j]? = some b) (a' b' : Sphere K) :
    (((spheres.set i a').set j b').map f).sum =
      (spheres.map f).sum + (f a' + f b' - (f a + f b)) := by
  have hb' : (spheres.set i a')[j]? = some b := by rw [List.getElem?_set_ne hne, hb]
  rw [sum_map_set f hb', sum_map_set f ha]
  abel

/-- A sum over all spheres survives a change to which the two bodies contribute the same before and
after. -/
theorem sum_updateBodies {M : Type} [AddCommGroup M] (f : Sphere K → M) {c : Contact K}
    {spheres : List (Sphere K)} {change : Sphere K → Sphere K → Sphere K × Sphere K}
    (hne : c.bodyA ≠ c.bodyB)
    (keep : ∀ a ∈ spheres, ∀ b ∈ spheres, f (change a b).1 + f (change a b).2 = f a + f b) :
    ((c.updateBodies spheres change).map f).sum = (spheres.map f).sum := by
  apply updateBodies_cases (P := fun l => (l.map f).sum = (spheres.map f).sum)
  · rfl
  · intro a b ha hb
    have hsum := keep a (List.mem_of_getElem? ha) b (List.mem_of_getElem? hb)
    rw [sum_map_set_set f hne ha hb, hsum, sub_self, add_zero]

/-- What a change leaves alone in the two bodies, it leaves alone in all spheres. -/
theorem map_updateBodies {α : Type} (g : Sphere K → α) {c : Contact K} {spheres : List (Sphere K)}
    {change : Sphere K → Sphere K → Sphere K × Sphere K}
    (keep : ∀ a b, g (change a b).1 = g a ∧ g (change a b).2 = g b) :
    (c.updateBodies spheres change).map g = spheres.map g := by
  apply updateBodies_cases (P := fun l => l.map g = spheres.map g)
  · rfl
  · intro a b ha hb
    obtain ⟨hA, hB⟩ := keep a b
    obtain ⟨hi, rfl⟩ := List.getElem?_eq_some_iff.mp ha
    obtain ⟨hj, rfl⟩ := List.getElem?_eq_some_iff.mp hb
    have hsetA : (spheres.map g).set c.bodyA (g spheres[c.bodyA]) = spheres.map g := by
      rw [← List.map_set, List.set_getElem_self]
    have hsetB : (spheres.map g).set c.bodyB (g spheres[c.bodyB]) = spheres.map g := by
      rw [← List.map_set, List.set_getElem_self]
    rw [List.map_set, List.map_set, hA, hB, hsetA, hsetB]

/-- A change that commutes with a map of the spheres may be made before or after it. -/
theorem updateBodies_map (f : Sphere K → Sphere K) {c d : Contact K} (spheres : List (Sphere K))
    {change change' : Sphere K → Sphere K → Sphere K × Sphere K} (hA : d.bodyA = c.bodyA)
    (hB : d.bodyB = c.bodyB)
    (comm : ∀ a b, change' (f a) (f b) = (f (change a b).1, f (change a b).2)) :
    d.updateBodies (spheres.map f) change' = (c.updateBodies spheres change).map f := by
  simp only [updateBodies, List.getElem?_map, hA, hB]
  cases spheres[c.bodyA]? with
  | none => rfl
  | some a =>
    cases spheres[c.bodyB]? with
    | none => rfl
    | some b => simp [comm, List.map_set]

/-- The speed at which two spheres that are there separate. -/
theorem normalVelocity_eq_separation [Scalar K] {c : Contact K} {spheres : List (Sphere K)}
    {a b : Sphere K} (ha : spheres[c.bodyA]? = some a) (hb : spheres[c.bodyB]? = some b) :
    c.normalVelocity spheres = c.separation a b := by
  simp only [normalVelocity, ha, hb]

end SphereBench.Contact
