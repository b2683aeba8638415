import SphereBench.Proofs.Solver.Convergence
import SphereBench.Proofs.Solver.Sweeps
/-!
# Feasible states

The rows of a solution can be relaxed as intended if their bodies are two different spheres that are
there, if the masses are positive and if no impulse so far pulls. All states of a solution are of
this kind, and so is any other state in which sweeps could be taken up.
-/

namespace SphereBench

theorem Sphere.invMass_pos {s : Sphere ℝ} (h : 0 < s.mass) : 0 < s.invMass :=
  one_div_pos.mpr h

noncomputable section

/-- The reciprocal mass of the sphere with an index; zero where there is none. -/
def Bodies.invMassAt (spheres : List (Sphere ℝ)) (i : ℕ) : ℝ :=
  (spheres[i]?.map Sphere.invMass).getD 0

/-- The sum of the reciprocal masses of the two bodies of a contact. -/
def Contact.invMassSum (c : Contact ℝ) (spheres : List (Sphere ℝ)) : ℝ :=
  Bodies.invMassAt spheres c.bodyA + Bodies.invMassAt spheres c.bodyB

end

theorem Bodies.invMassAt_eq {spheres : List (Sphere ℝ)} {i : ℕ} {b : Sphere ℝ}
    (h : spheres[i]? = some b) : invMassAt spheres i = b.invMass := by
  rw [invMassAt, h]
  rfl

theorem Contact.invMassSum_eq {c : Contact ℝ} {spheres : List (Sphere ℝ)} {a b : Sphere ℝ}
    (ha : spheres[c.bodyA]? = some a) (hb : spheres[c.bodyB]? = some b) :
    c.invMassSum spheres = a.invMass + b.invMass := by
  rw [invMassSum, Bodies.invMassAt_eq ha, Bodies.invMassAt_eq hb]

theorem Contact.invMassSum_nonneg {spheres : List (Sphere ℝ)} (hmass : ∀ b ∈ spheres, 0 < b.mass)
    (c : Contact ℝ) : 0 ≤ c.invMassSum spheres := by
  have hat (i : ℕ) : 0 ≤ Bodies.invMassAt spheres i := by
    rw [Bodies.invMassAt]
    cases hi : spheres[i]? with
    | none => exact le_refl _
    | some b => exact (Sphere.invMass_pos (hmass b (List.mem_of_getElem? hi))).le
  exact add_nonneg (hat c.bodyA) (hat c.bodyB)

theorem Contact.invMassSum_pos {c : Contact ℝ} {spheres : List (Sphere ℝ)}
    (hmass : ∀ b ∈ spheres, 0 < b.mass) (hA : c.bodyA < spheres.length)
    (hB : c.bodyB < spheres.length) : 0 < c.invMassSum spheres := by
  rw [invMassSum_eq (List.getElem?_eq_getElem hA) (List.getElem?_eq_getElem hB)]
  exact add_pos (Sphere.invMass_pos (hmass _ (List.getElem_mem hA)))
    (Sphere.invMass_pos (hmass _ (List.getElem_mem hB)))

/-- Impulses do not change how easily a sphere is moved. -/
theorem Contact.invMassSum_impel (c : Contact ℝ) (p : ℕ → Vec3 ℝ) (spheres : List (Sphere ℝ)) :
    c.invMassSum (Bodies.impel p spheres) = c.invMassSum spheres := by
  have hat (i : ℕ) :
      Bodies.invMassAt (Bodies.impel p spheres) i = Bodies.invMassAt spheres i := by
    rw [Bodies.invMassAt, Bodies.getElem?_impel, Option.map_map]
    rfl
  rw [invMassSum, invMassSum, hat, hat]

namespace Relaxation

variable {first s : Relaxation ℝ} {k : ℕ} {row : ContactRow ℝ}

/-- A state in which each row can be relaxed. -/
structure IsFeasible (s : Relaxation ℝ) : Prop where
  mass_pos : ∀ b ∈ s.spheres, 0 < b.mass
  bodies_ne : ∀ r ∈ s.rows, r.contact.bodyA ≠ r.contact.bodyB
  inRange : s.InRange
  impulse_nonneg : ∀ r ∈ s.rows, 0 ≤ r.impulse

theorem IsPartial.isFeasible (h : first.IsPartial s) (hmass : ∀ b ∈ first.spheres, 0 < b.mass)
    (hrange : first.InRange) : s.IsFeasible where
  mass_pos := by
    intro b hb
    rw [h.spheres_eq] at hb
    obtain ⟨i, hi⟩ := List.mem_iff_getElem?.mp hb
    rw [Bodies.getElem?_impel] at hi
    obtain ⟨a, ha, rfl⟩ := Option.map_eq_some_iff.mp hi
    exact hmass a (List.mem_of_getElem? ha)
  bodies_ne := h.bodies_ne
  inRange := h.inRange hrange
  impulse_nonneg := h.impulse_nonneg

theorem inRange_start {spheres : List (Sphere ℝ)} {contacts : List (Contact ℝ)}
    (hbodies : ∀ c ∈ contacts, c.bodyA < c.bodyB ∧ c.bodyB < spheres.length)
    (params : SolverParameters ℝ) (dt : ℝ) : (start spheres contacts params dt).InRange := by
  intro r hr
  obtain ⟨c, hc, rfl⟩ := List.mem_map.mp hr
  obtain ⟨hAB, hB⟩ := hbodies c hc
  exact ⟨hAB.trans hB, hB⟩

namespace IsPartial

theorem sweeps (h : first.IsPartial s) (n : ℕ) : first.IsPartial (s.sweeps n) :=
  sweeps_induction (fun _ k h => h.relax k) h n

theorem partway (h : first.IsPartial s) (k : ℕ) : first.IsPartial (s.partway k) :=
  partway_induction (fun _ k h => h.relax k) h k

theorem length_rows (h : first.IsPartial s) : s.rows.length = first.rows.length := by
  rw [← h.rows_eq, List.length_map]

/-- The contacts and the targets of the rows are those that they had at the start. -/
theorem map_rows (h : first.IsPartial s) :
    s.rows.map (fun r => (r.contact, r.target)) =
      first.rows.map fun r => (r.contact, r.target) := by
  rw [← h.rows_eq, List.map_map]
  rfl

/-- The row of a contact has the contact and the target that it had at the start. -/
theorem exists_row {spheres : List (Sphere ℝ)} {contacts : List (Contact ℝ)}
    {params : SolverParameters ℝ} {dt : ℝ} (h : (start spheres contacts params dt).IsPartial s)
    {c : Contact ℝ} (hc : contacts[k]? = some c) :
    ∃ row, s.rows[k]? = some row ∧ row.contact = c ∧
      row.target = c.target params dt spheres := by
  have hstart : (start spheres contacts params dt).rows[k]? =
      some ⟨c, c.target params dt spheres, 0⟩ := by
    rw [start, List.getElem?_map, hc]
    rfl
  rw [← h.rows_eq, List.getElem?_map] at hstart
  obtain ⟨row, hrow, heq⟩ := Option.map_eq_some_iff.mp hstart
  obtain ⟨hcontact, htarget, -⟩ := ContactRow.mk.inj heq
  exact ⟨row, hrow, hcontact, htarget⟩

end IsPartial

/-- No sweep of a solution leads to a state from which it could not go on. -/
theorem isFeasible_sweeps {spheres : List (Sphere ℝ)} {contacts : List (Contact ℝ)}
    (hmass : ∀ b ∈ spheres, 0 < b.mass)
    (hbodies : ∀ c ∈ contacts, c.bodyA < c.bodyB ∧ c.bodyB < spheres.length)
    (params : SolverParameters ℝ) (dt : ℝ) (n : ℕ) :
    ((start spheres contacts params dt).sweeps n).IsFeasible :=
  ((isPartial_start spheres (fun c hc => (hbodies c hc).1.ne) params dt).sweeps n).isFeasible
    hmass (inRange_start hbodies params dt)

namespace IsFeasible

/-- The two bodies of a row. -/
theorem exists_bodies (h : s.IsFeasible) (hrow : row ∈ s.rows) :
    ∃ a b, s.spheres[row.contact.bodyA]? = some a ∧ s.spheres[row.contact.bodyB]? = some b ∧
      0 < a.mass ∧ 0 < b.mass := by
  obtain ⟨hA, hB⟩ := h.inRange row hrow
  exact ⟨_, _, List.getElem?_eq_getElem hA, List.getElem?_eq_getElem hB,
    h.mass_pos _ (List.getElem_mem hA), h.mass_pos _ (List.getElem_mem hB)⟩

/-- All that one change of impulse does: a kick that brings the row to its proposed impulse. -/
theorem exists_relax_eq (h : s.IsFeasible) (hrow : s.rows[k]? = some row) :
    ∃ a b, s.spheres[row.contact.bodyA]? = some a ∧ s.spheres[row.contact.bodyB]? = some b ∧
      0 < a.mass ∧ 0 < b.mass ∧
      s.relax k =
        (⟨row.contact.updateBodies s.spheres (row.kick (row.proposed a b - row.impulse)),
          s.rows.set k { row with impulse := row.proposed a b }⟩,
        row.proposed a b - row.impulse) := by
  obtain ⟨a, b, ha, hb, hmassA, hmassB⟩ := h.exists_bodies (List.mem_of_getElem? hrow)
  exact ⟨a, b, ha, hb, hmassA, hmassB, relax_eq hrow ha hb⟩

end IsFeasible

end Relaxation

end SphereBench
