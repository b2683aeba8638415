import SphereBench.Proofs.Body.Rest
import SphereBench.Proofs.Contact.AllPairs
import SphereBench.Proofs.Galilean.Solver
import SphereBench.Proofs.Simulation.Calls
/-!
# Stacks at rest and in free fall

The spheres of a stack touch, and spheres that only touch are not in contact. A stack at rest
therefore falls freely: without contacts a step is the free motion of every sphere, and seen from a
frame that falls along nothing happens at all.
-/

namespace SphereBench

/-- Spheres of one radius, above each other so that neighbours touch. The lowest one has its centre
one radius above the origin. -/
def IsStack (radius : ℝ) (spheres : List (Sphere ℝ)) : Prop :=
  ∀ (i : Nat) (b : Sphere ℝ), spheres[i]? = some b →
    b.position = .alongZ (radius * ((2 * i + 1 : Nat) : ℝ)) ∧ b.radius = radius

namespace IsStack

variable {radius : ℝ} {spheres : List (Sphere ℝ)}

/-- The spheres of a new stack. -/
theorem stack (count : Nat) (radius : ℝ) :
    IsStack radius (Simulation.stack count radius).spheres := by
  intro i b hb
  obtain ⟨_, rfl⟩ := Simulation.getElem?_stack_eq_some.mp hb
  exact ⟨rfl, rfl⟩

/-- A stack stays one if a sphere is changed but not moved. -/
theorem modify (h : IsStack radius spheres) {change : Sphere ℝ → Sphere ℝ}
    (hposition : ∀ b, (change b).position = b.position)
    (hradius : ∀ b, (change b).radius = b.radius) (k : Nat) :
    IsStack radius (spheres.modify k change) := by
  intro i b hb
  rw [List.getElem?_modify] at hb
  obtain ⟨a, ha, rfl⟩ := Option.map_eq_some_iff.mp hb
  split
  · rw [hposition, hradius]
    exact h i a ha
  · exact h i a ha

/-- The centres of two spheres of a stack are apart by a diameter for each step from one to the
other. -/
theorem offset (h : IsStack radius spheres) {i j : Nat} {a b : Sphere ℝ} (ha : spheres[i]? = some a)
    (hb : spheres[j]? = some b) : b.position - a.position = .alongZ (2 * radius * (j - i)) := by
  rw [(h i a ha).1, (h j b hb).1]
  ext
  · simp
  · simp
  · simp only [Vec3.sub_z, Vec3.alongZ_z]
    push_cast
    ring

/-- Two spheres of a stack are apart by at least the sum of their radii. -/
theorem between?_eq_none (h : IsStack radius spheres) {i j : Nat} {a b : Sphere ℝ} (hij : i < j)
    (ha : spheres[i]? = some a) (hb : spheres[j]? = some b) : Contact.between? i a j b = none := by
  rw [← Option.not_isSome_iff_eq_none, Contact.isSome_between?, not_lt, h.offset ha hb,
    (h i a ha).2, (h j b hb).2, Vec3.lengthSq_real]
  have hgap : (1 : ℝ) ≤ j - i := by
    rw [le_sub_iff_add_le, add_comm]
    exact_mod_cast hij
  have hsq : (1 : ℝ) ≤ (j - i) ^ 2 := one_le_pow₀ hgap
  simp only [Vec3.alongZ_x, Vec3.alongZ_y, Vec3.alongZ_z]
  nlinarith [mul_le_mul_of_nonneg_left hsq (sq_nonneg (2 * radius))]

theorem detect_eq_nil (h : IsStack radius spheres) : Contact.detect spheres = [] :=
  Contact.detect_eq_nil fun _ _ _ _ hij ha hb => h.between?_eq_none hij ha hb

end IsStack

/-- What a solver reports on a step without contacts. -/
noncomputable def Solver.idleReport : Solver → Option (Diagnostics ℝ)
  | sequential => some .idle
  | direct => none

namespace Simulation

/-- The spheres of a new stack rest, whatever their number and their radius. -/
theorem body_stack {count : ℕ} {radius : ℝ} {b : Sphere ℝ}
    (hb : b ∈ (stack count radius).spheres) : b.AtRest ∧ b.mass = 1 ∧ b.radius = radius := by
  obtain ⟨i, _, rfl⟩ := List.mem_map.mp hb
  exact ⟨Sphere.atRest_solid _ _ _ _, rfl, rfl⟩

theorem setMass_eq (s : Simulation ℝ) (i : Nat) {mass : ℝ} (h : 0 < mass) :
    s.setMass i mass = s.modify i ({ · with mass := mass }) := by
  simp [setMass, checkMass, h, Except.bind]

theorem setInertia_eq (s : Simulation ℝ) (i : Nat) {inertia : Vec3 ℝ}
    (h : 0 < inertia.minComponent) :
    s.setInertia i inertia = s.modify i ({ · with inertia := inertia }) := by
  have hfinite : inertia.isFinite = true := rfl
  simp [setInertia, checkInertia, hfinite, h, Except.bind]

/-- Without contacts a solver does nothing. -/
theorem solveContacts_of_detect_eq_nil {spheres : List (Sphere ℝ)} (h : Contact.detect spheres = [])
    (params : SolverParameters ℝ) (dt : ℝ) :
    solveContacts params dt spheres = (spheres, params.kind.idleReport) := by
  simp only [solveContacts, h]
  cases params.kind with
  | sequential => rfl
  | direct => rfl

variable {s : Simulation ℝ} {f : Boost} {resting : List (Sphere ℝ)}

/-- Spheres that rest in a falling frame are still at rest in it after they have moved. -/
theorem moved_of_atRest (hspheres : s.spheres = resting.map f.sphere)
    (hrest : ∀ b ∈ resting, b.AtRest) :
    s.moved = resting.map (f.later s.params.gravity s.params.dt 1).sphere := by
  rw [moved, hspheres, List.map_map]
  refine List.map_congr_left ?_
  intro b hb
  have hadvance := f.advance_sphere 0 s.params.gravity s.params.dt b
  rw [zero_add, (hrest b hb).advance_zero] at hadvance
  exact hadvance

/-- A stack that rests in a falling frame has no contacts after it has moved. -/
theorem contacts_of_atRest (hspheres : s.spheres = resting.map f.sphere)
    (hrest : ∀ b ∈ resting, b.AtRest) {radius : ℝ} (hstack : IsStack radius resting) :
    s.contacts = [] := by
  rw [contacts, moved_of_atRest hspheres hrest, Boost.detect_map_sphere, hstack.detect_eq_nil,
    List.map_nil]

/-- A step of a stack in free fall: the frame in which it rests moves on, and nothing else
happens. -/
theorem advance_of_atRest (hspheres : s.spheres = resting.map f.sphere)
    (hrest : ∀ b ∈ resting, b.AtRest) {radius : ℝ} (hstack : IsStack radius resting) :
    s.advance.spheres = resting.map (f.later s.params.gravity s.params.dt 1).sphere ∧
      s.advance.diagnostics = s.params.solver.kind.idleReport := by
  have hcontacts := contacts_of_atRest hspheres hrest hstack
  rw [advance_spheres, advance_diagnostics, solveContacts_of_detect_eq_nil hcontacts,
    moved_of_atRest hspheres hrest]
  exact ⟨rfl, rfl⟩

end Simulation

end SphereBench
