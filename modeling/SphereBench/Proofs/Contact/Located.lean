import SphereBench.Proofs.Double.NotANumber
import SphereBench.Proofs.Contact.Detection
/-!
# Spheres without a place

In double precision a position or a radius may be a value that is not a number. Every comparison
with such a value fails, and the two phases of detection ask in opposite ways. The second phase asks
whether two spheres are far enough from each other, and so takes a sphere without a place to be in
contact with every other one. The first phase asks whether the boxes overlap, in each of six
comparisons, and drops such a sphere. Infinite positions and radii are numbers here.
-/

namespace SphereBench

/-- A component is not a number. -/
def Vec3.HasNaN (v : Vec3 Float) : Prop := v.x.isNaN ∨ v.y.isNaN ∨ v.z.isNaN

/-- The components of the position and the radius are numbers. -/
structure Sphere.IsLocated (s : Sphere Float) : Prop where
  position : ¬ s.position.HasNaN
  radius : ¬ s.radius.isNaN

theorem Sphere.not_isLocated_iff {s : Sphere Float} :
    ¬ s.IsLocated ↔ s.position.HasNaN ∨ s.radius.isNaN := by
  constructor
  · intro h
    by_contra hnone
    obtain ⟨hposition, hradius⟩ := not_or.mp hnone
    exact h ⟨hposition, hradius⟩
  · rintro (h | h) hlocated
    · exact hlocated.position h
    · exact hlocated.radius h

namespace Vec3
open Double (spreads_add spreads_sub spreads_mul)

variable {v w : Vec3 Float}

theorem HasNaN.sub (h : v.HasNaN ∨ w.HasNaN) : (v - w).HasNaN := by
  rcases h with (h | h | h) | (h | h | h)
  · exact .inl (spreads_sub (.inl h))
  · exact .inr (.inl (spreads_sub (.inl h)))
  · exact .inr (.inr (spreads_sub (.inl h)))
  · exact .inl (spreads_sub (.inr h))
  · exact .inr (.inl (spreads_sub (.inr h)))
  · exact .inr (.inr (spreads_sub (.inr h)))

theorem HasNaN.lengthSq (h : v.HasNaN) : v.lengthSq.isNaN := by
  rcases h with h | h | h
  · exact spreads_add (.inl (spreads_add (.inl (spreads_mul (.inl h)))))
  · exact spreads_add (.inl (spreads_add (.inr (spreads_mul (.inl h)))))
  · exact spreads_add (.inr (spreads_mul (.inl h)))

end Vec3

namespace Contact
open Double (spreads_add spreads_mul not_isNaN_of_le)

variable {a b s : Sphere Float}

/-- The lower corner of the box of a sphere shows whether the sphere has a place. -/
theorem isLocated_of_least (h : ¬ s.bounds.least.HasNaN) : s.IsLocated := by
  by_contra hlost
  apply h
  rcases Sphere.not_isLocated_iff.mp hlost with hposition | hradius
  · exact .sub (.inl hposition)
  · exact .sub (.inr (.inl hradius))

/-- A comparison of boxes looks at all components of the lower corner of both. -/
theorem isLocated_of_overlaps (h : a.bounds.overlaps b.bounds) : a.IsLocated ∧ b.IsLocated := by
  simp only [Box.overlaps, Bool.and_eq_true, decide_eq_true_eq] at h
  obtain ⟨⟨⟨⟨⟨hax, hbx⟩, hay⟩, hby⟩, haz⟩, hbz⟩ := h
  constructor
  · refine isLocated_of_least ?_
    rintro (hx | hy | hz)
    · exact (not_isNaN_of_le hax).1 hx
    · exact (not_isNaN_of_le hay).1 hy
    · exact (not_isNaN_of_le haz).1 hz
  · refine isLocated_of_least ?_
    rintro (hx | hy | hz)
    · exact (not_isNaN_of_le hbx).1 hx
    · exact (not_isNaN_of_le hby).1 hy
    · exact (not_isNaN_of_le hbz).1 hz

/-- The second phase alone reports a contact with every sphere that has no place. -/
theorem isSome_between?_of_not_isLocated (h : ¬ (a.IsLocated ∧ b.IsLocated)) (i j : Nat) :
    (between? i a j b).isSome := by
  have hfar : ¬ (a.radius + b.radius) * (a.radius + b.radius) ≤
      (b.position - a.position).lengthSq := by
    intro hle
    obtain ⟨hreach, hdistance⟩ := not_isNaN_of_le hle
    rw [not_and_or, Sphere.not_isLocated_iff, Sphere.not_isLocated_iff] at h
    rcases h with (hposition | hradius) | (hposition | hradius)
    · exact hdistance (Vec3.HasNaN.sub (.inr hposition)).lengthSq
    · exact hreach (spreads_mul (.inl (spreads_add (.inl hradius))))
    · exact hdistance (Vec3.HasNaN.sub (.inl hposition)).lengthSq
    · exact hreach (spreads_mul (.inl (spreads_add (.inr hradius))))
  simp only [between?, if_neg hfar, Option.isSome_some]

/-- Both bodies of a detected contact have a place. -/
theorem isLocated_of_mem_detect {spheres : List (Sphere Float)} {c : Contact Float}
    (hc : c ∈ detect spheres) :
    ∃ a b, spheres[c.bodyA]? = some a ∧ spheres[c.bodyB]? = some b ∧ a.IsLocated ∧ b.IsLocated := by
  obtain ⟨i, j, a, b, -, ha, hb, hoverlaps, hbetween⟩ := mem_detect.mp hc
  obtain ⟨rfl, rfl⟩ := Prod.mk.inj (bodies_of_between? hbetween)
  exact ⟨a, b, ha, hb, isLocated_of_overlaps hoverlaps⟩

end Contact

end SphereBench
