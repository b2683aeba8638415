import SphereBench.Proofs.Contact.Geometry
import SphereBench.Proofs.Simulation.Naming
import SphereBench.Proofs.Simulation.Stack
import SphereBench.Scalar.Double
/-!
# Layout of a stack

Neighbours in a stack touch, and this is the boundary case of both phases of detection: boxes that
touch overlap, while spheres that touch have no contact. So the first phase reports the neighbours
and the second one drops them. Other pairs are reported only if the spheres have no extent, as then
all of them are the same point.
-/

namespace SphereBench

namespace IsStack

variable {radius : ℝ} {spheres : List (Sphere ℝ)} {i j : ℕ} {a b : Sphere ℝ}

theorem distance (h : IsStack radius spheres) (ha : spheres[i]? = some a)
    (hb : spheres[j]? = some b) : a.distance b = |2 * radius * (j - i)| := by
  rw [Sphere.distance, h.offset ha hb, Vec3.length_alongZ]

/-- Neighbours touch. -/
theorem distance_succ (h : IsStack radius spheres) (hr : 0 ≤ radius) (ha : spheres[i]? = some a)
    (hb : spheres[i + 1]? = some b) : a.distance b = a.radius + b.radius := by
  rw [h.distance ha hb, (h i a ha).2, (h (i + 1) b hb).2, Nat.cast_succ, add_sub_cancel_left,
    mul_one, abs_of_nonneg (mul_nonneg zero_le_two hr), two_mul]

/-- The boxes of neighbours touch. Those of other spheres are apart, unless they have no extent. -/
theorem overlaps_iff (h : IsStack radius spheres) (hr : 0 ≤ radius) (hij : i < j)
    (ha : spheres[i]? = some a) (hb : spheres[j]? = some b) :
    a.bounds.overlaps b.bounds ↔ j = i + 1 ∨ radius = 0 := by
  obtain ⟨between, rfl⟩ := Nat.exists_eq_add_of_lt hij
  have hsum : 0 ≤ radius + radius := add_nonneg hr hr
  have hprod : 0 ≤ radius * between := mul_nonneg hr (Nat.cast_nonneg between)
  have hoffset : 2 * radius * (((i + between + 1 : ℕ) : ℝ) - i) =
      radius + radius + 2 * (radius * between) := by
    push_cast
    ring
  -- What is left of the offset after one diameter decides.
  rw [Contact.overlaps_bounds_iff, h.offset ha hb, (h i a ha).2, (h _ b hb).2, Vec3.alongZ_x,
    Vec3.alongZ_y, Vec3.alongZ_z, abs_zero, hoffset, abs_of_nonneg (by linarith),
    and_iff_right hsum, and_iff_right hsum, add_le_iff_nonpos_right]
  constructor
  · intro hle
    have hzero : radius * between = 0 := by linarith
    rcases mul_eq_zero.mp hzero with hradius | hbetween
    · exact .inr hradius
    · rw [Nat.cast_eq_zero.mp hbetween]
      exact .inl rfl
  · rintro (hnext | rfl)
    · have hbetween : between = 0 := by omega
      simp [hbetween]
    · simp

/-- The first phase reports the neighbours in a stack, and other pairs only if the spheres have no
extent. -/
theorem mem_candidates_iff (h : IsStack radius spheres) (hr : 0 ≤ radius) :
    (i, j) ∈ Contact.candidates spheres ↔
      i < j ∧ j < spheres.length ∧ (j = i + 1 ∨ radius = 0) := by
  rw [Contact.mem_candidates]
  constructor
  · rintro ⟨hij, a, b, ha, hb, hoverlap⟩
    exact ⟨hij, (List.getElem?_eq_some_iff.mp hb).1, (h.overlaps_iff hr hij ha hb).mp hoverlap⟩
  · rintro ⟨hij, hj, hnear⟩
    have ha := List.getElem?_eq_getElem (hij.trans hj)
    have hb := List.getElem?_eq_getElem hj
    exact ⟨hij, _, _, ha, hb, (h.overlaps_iff hr hij ha hb).mpr hnear⟩

end IsStack

/-- Spheres of unit mass at rest along the z axis, one above the other, each touching the next. -/
structure StackLayout (radius : ℝ) (spheres : List (Sphere ℝ)) : Prop where
  body : ∀ b ∈ spheres, b.AtRest ∧ b.mass = 1 ∧ b.radius = radius
  onAxis : ∀ b ∈ spheres, b.position.x = 0 ∧ b.position.y = 0
  lowest : ∀ b, spheres[0]? = some b → b.position.z = radius
  /-- The centres are apart by a diameter for each step upwards. -/
  spacing : ∀ (i j : ℕ) (a b : Sphere ℝ), i < j → spheres[i]? = some a → spheres[j]? = some b →
    b.position.z - a.position.z = 2 * radius * (j - i)
  touching : 0 ≤ radius → ∀ (i : ℕ) (a b : Sphere ℝ), spheres[i]? = some a →
    spheres[i + 1]? = some b → a.distance b = a.radius + b.radius
  /-- To touch is not enough for a contact. -/
  detect : Contact.detect spheres = []
  /-- It is enough for the first phase. -/
  candidates : 0 ≤ radius → ∀ i j, (i, j) ∈ Contact.candidates spheres ↔
    i < j ∧ j < spheres.length ∧ (j = i + 1 ∨ radius = 0)

/-- Spheres of unit mass at rest are laid out like that if each is where it has to be. -/
theorem IsStack.layout {radius : ℝ} {spheres : List (Sphere ℝ)} (h : IsStack radius spheres)
    (hbody : ∀ b ∈ spheres, b.AtRest ∧ b.mass = 1 ∧ b.radius = radius) :
    StackLayout radius spheres where
  body := hbody
  onAxis b hb := by
    obtain ⟨i, hi⟩ := List.mem_iff_getElem?.mp hb
    rw [(h i b hi).1]
    exact ⟨rfl, rfl⟩
  lowest b hb := by
    rw [(h 0 b hb).1]
    simp
  spacing i j a b _ ha hb := by rw [← Vec3.sub_z, h.offset ha hb, Vec3.alongZ_z]
  touching hr _ _ _ ha hb := h.distance_succ hr ha hb
  detect := h.detect_eq_nil
  candidates hr _ _ := h.mem_candidates_iff hr

namespace Simulation

/-- **Names and geometry of a new stack.** In any arithmetic it has as many spheres as were asked
for, with the numbers from one on as their names: no two are alike, and each is found under its own
index, while any other name is unknown. In exact arithmetic the centres are on the z axis, a
diameter apart from one to the next, whatever the radius is, and no two spheres are in contact,
although the boxes of all neighbours overlap unless the radius is negative. -/
theorem stack_layout (count : ℕ) :
    (∀ (K : Type) [Scalar K] (radius : K), (stack count radius).spheres.length = count ∧
      (stack count radius).FindsByNumber count) ∧
    ∀ radius : ℝ, StackLayout radius (stack count radius).spheres := by
  constructor
  · intro K _ radius
    have hfinds := (IsNumbered.stack count radius).findsByNumber
    rw [length_stack] at hfinds
    exact ⟨length_stack count radius, hfinds⟩
  · intro radius
    exact (IsStack.stack count radius).layout fun _ => body_stack

/-- In double precision a name that another one begins with, that other one, and the same with a
zero too many; in exact arithmetic the boxes of the three highest spheres. -/
theorem stack_layout_twelve :
    (stack 12 (0.5 : Float)).indexOf "sphere_1" = .ok 0 ∧
      (stack 12 (0.5 : Float)).indexOf "sphere_12" = .ok 11 ∧
      (stack 12 (0.5 : Float)).indexOf "sphere_012" = .error (.unknownBody "sphere_012") ∧
      (0 : ℝ) ≤ 0.5 ∧ (10, 11) ∈ Contact.candidates (stack 12 (0.5 : ℝ)).spheres ∧
      (9, 11) ∉ Contact.candidates (stack 12 (0.5 : ℝ)).spheres ∧
      Contact.detect (stack 12 (0.5 : ℝ)).spheres = [] := by
  obtain ⟨hnames, hgeometry⟩ := stack_layout 12
  obtain ⟨-, hfinds⟩ := hnames Float 0.5
  have hlayout := hgeometry 0.5
  have hr : (0 : ℝ) ≤ 0.5 := by norm_num
  have hother : ∀ k < 13, "sphere_012" ≠ stackName k := by decide
  refine ⟨hfinds.found 1 (by decide) (by decide), hfinds.found 12 (by decide) (by decide),
    hfinds.unknown _ fun k _ hle => hother k (Nat.lt_succ_of_le hle), hr, ?_, ?_, hlayout.detect⟩
  · rw [hlayout.candidates hr, length_stack]
    exact ⟨by decide, by decide, .inl rfl⟩
  · rw [hlayout.candidates hr]
    norm_num

end Simulation

end SphereBench
