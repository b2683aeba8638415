import SphereBench.Proofs.Contact.Bodies
/-!
# Independent contacts

What a solver does to a contact is seen by its two bodies only. Contacts that share no sphere
therefore do not see each other: neither the spheres of the one nor the speed at which they separate
depend on the other. Nothing here depends on the scalars.
-/

namespace SphereBench.Contact
variable {K : Type} {c d : Contact K}

/-- The sphere with index `i` is one of the two bodies of the contact. -/
def Involves (c : Contact K) (i : ℕ) : Prop := c.bodyA = i ∨ c.bodyB = i

/-- Two contacts without a common sphere. -/
def Apart (c d : Contact K) : Prop := ∀ i, c.Involves i → ¬ d.Involves i

/-- No sphere occurs in two of the contacts. -/
def Independent (contacts : List (Contact K)) : Prop := contacts.Pairwise Apart

@[simp] theorem involves_bodyA (c : Contact K) : c.Involves c.bodyA := .inl rfl
@[simp] theorem involves_bodyB (c : Contact K) : c.Involves c.bodyB := .inr rfl

theorem Apart.symm (h : c.Apart d) : d.Apart c := fun i hd hc => h i hc hd

/-- A change leaves the spheres alone that are not bodies of the contact. -/
theorem getElem?_updateBodies_of_not_involves {i : ℕ} (h : ¬ c.Involves i)
    (spheres : List (Sphere K)) (change : Sphere K → Sphere K → Sphere K × Sphere K) :
    (c.updateBodies spheres change)[i]? = spheres[i]? := by
  obtain ⟨hA, hB⟩ := not_or.mp h
  apply updateBodies_cases (P := fun l => l[i]? = spheres[i]?)
  · rfl
  · intro a b _ _
    rw [List.getElem?_set_ne hB, List.getElem?_set_ne hA]

variable [Scalar K]

/-- A contact does not see the change of another one with which it shares no sphere. -/
theorem normalVelocity_updateBodies (h : c.Apart d) (spheres : List (Sphere K))
    (change : Sphere K → Sphere K → Sphere K × Sphere K) :
    d.normalVelocity (c.updateBodies spheres change) = d.normalVelocity spheres := by
  have hA : ¬ c.Involves d.bodyA := h.symm _ d.involves_bodyA
  have hB : ¬ c.Involves d.bodyB := h.symm _ d.involves_bodyB
  rw [normalVelocity, getElem?_updateBodies_of_not_involves hA,
    getElem?_updateBodies_of_not_involves hB, normalVelocity]

end SphereBench.Contact
