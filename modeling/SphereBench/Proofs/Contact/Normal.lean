import SphereBench.Proofs.Exact.Vector
import SphereBench.Proofs.Contact.Detection
/-!
# Normals of the detected contacts

The normal of a contact is the offset of the two centres over their distance, or the z axis where
the distance is too small to divide by. In exact arithmetic it is a unit vector in both cases, so
that an impulse along it has the size that a solver computes.
-/

namespace SphereBench.Contact

/-- The direction of an offset is a unit vector, also if the offset is almost zero. -/
theorem lengthSq_direction (offset : Vec3 ℝ) :
    (direction offset offset.length).lengthSq = 1 := by
  rw [direction]
  split
  · rename_i h
    have hpos : (0 : ℝ) < 1e-9 := by norm_num
    exact Vec3.lengthSq_div_length (hpos.trans h).ne'
  · simp [Vec3.lengthSq_real]

theorem lengthSq_normal_of_between? {i j : Nat} {a b : Sphere ℝ} {c : Contact ℝ}
    (h : between? i a j b = some c) : c.normal.lengthSq = 1 := by
  simp only [between?] at h
  split at h
  · cases h
  · cases h
    exact lengthSq_direction (b.position - a.position)

/-- The normal of a detected contact is a unit vector. -/
theorem lengthSq_normal {spheres : List (Sphere ℝ)} {c : Contact ℝ} (h : c ∈ detect spheres) :
    c.normal.lengthSq = 1 := by
  obtain ⟨i, j, a, b, _, _, _, _, hc⟩ := mem_detect.mp h
  exact lengthSq_normal_of_between? hc

end SphereBench.Contact
