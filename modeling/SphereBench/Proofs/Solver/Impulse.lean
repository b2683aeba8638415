import Mathlib.Algebra.BigOperators.Group.List.Basic
import Mathlib.Algebra.BigOperators.Group.Finset.Basic
import Mathlib.Algebra.BigOperators.Ring.Finset
import SphereBench.Proofs.Exact.Vector
import SphereBench.Proofs.Solver.Induction
/-!
# Net impulses

A sequential solution keeps one number for each contact, the impulse so far. These numbers determine
the spheres: whatever sweeps have been made, each sphere has its first velocity and, over its mass,
the sum of the impulses of its contacts. No contact ever pulls.
-/

namespace SphereBench
noncomputable section

/-- The impulse of a contact on the sphere with index `i`: along the normal on its second body, and
against it on its first. -/
def Contact.impulseOn (c : Contact ℝ) (impulse : ℝ) (i : ℕ) : Vec3 ℝ :=
  (if c.bodyB = i then c.normal * impulse else 0) - (if c.bodyA = i then c.normal * impulse else 0)

/-- The sum of the impulses so far on the sphere with index `i`. -/
def Relaxation.netImpulse (rows : List (ContactRow ℝ)) (i : ℕ) : Vec3 ℝ :=
  (rows.map fun r => r.contact.impulseOn r.impulse i).sum

/-- The spheres after an impulse on each of them. -/
def Bodies.impel (p : ℕ → Vec3 ℝ) (spheres : List (Sphere ℝ)) : List (Sphere ℝ) :=
  spheres.mapIdx fun i b => { b with velocity := b.velocity + p i * b.invMass }

end

namespace Bodies

variable {p q : ℕ → Vec3 ℝ} {spheres : List (Sphere ℝ)}

theorem getElem?_impel (p : ℕ → Vec3 ℝ) (spheres : List (Sphere ℝ)) (i : ℕ) :
    (impel p spheres)[i]? =
      spheres[i]?.map fun b => { b with velocity := b.velocity + p i * b.invMass } :=
  List.getElem?_mapIdx

@[simp] theorem length_impel (p : ℕ → Vec3 ℝ) (spheres : List (Sphere ℝ)) :
    (impel p spheres).length = spheres.length := List.length_mapIdx

theorem impel_zero (spheres : List (Sphere ℝ)) : impel (fun _ => 0) spheres = spheres := by
  apply List.ext_getElem?
  intro i
  simp [getElem?_impel]

/-- Impulses that agree on all spheres have the same effect. -/
theorem impel_congr (h : ∀ i < spheres.length, p i = q i) : impel p spheres = impel q spheres := by
  apply List.ext_getElem?
  intro i
  by_cases hi : i < spheres.length
  · rw [getElem?_impel, getElem?_impel, h i hi]
  · rw [getElem?_impel, getElem?_impel, List.getElem?_eq_none (not_lt.mp hi)]
    rfl

/-- A kick is an impulse on two spheres. -/
theorem updateBodies_impel (row : ContactRow ℝ) (applied : ℝ)
    (hne : row.contact.bodyA ≠ row.contact.bodyB) (hA : row.contact.bodyA < spheres.length)
    (hB : row.contact.bodyB < spheres.length) :
    row.contact.updateBodies (impel p spheres) (row.kick applied) =
      impel (fun i => p i + row.contact.impulseOn applied i) spheres := by
  have ha := getElem?_impel p spheres row.contact.bodyA
  have hb := getElem?_impel p spheres row.contact.bodyB
  rw [List.getElem?_eq_getElem hA, Option.map_some] at ha
  rw [List.getElem?_eq_getElem hB, Option.map_some] at hb
  simp only [Contact.updateBodies, ha, hb, ContactRow.kick]
  apply List.ext_getElem?
  intro i
  rw [List.getElem?_set, List.getElem?_set, List.length_set, length_impel, getElem?_impel,
    getElem?_impel]
  by_cases hiB : row.contact.bodyB = i
  · subst hiB
    rw [if_pos rfl, if_pos hB, List.getElem?_eq_getElem hB, Option.map_some]
    simp only [Contact.impulseOn, if_true, if_neg hne, sub_zero]
    congr 2
    simp only [Sphere.invMass, Vec3.mul_eq_smul]
    module
  · rw [if_neg hiB]
    by_cases hiA : row.contact.bodyA = i
    · subst hiA
      rw [if_pos rfl, if_pos hA, List.getElem?_eq_getElem hA, Option.map_some]
      simp only [Contact.impulseOn, if_true, if_neg hiB, zero_sub]
      congr 2
      simp only [Sphere.invMass, Vec3.mul_eq_smul]
      module
    · rw [if_neg hiA]
      simp only [Contact.impulseOn, if_neg hiA, if_neg hiB, sub_zero, add_zero]

end Bodies

namespace Relaxation

/-- The row with index `k` gets another impulse. -/
theorem netImpulse_set {rows : List (ContactRow ℝ)} {k : ℕ} {r : ContactRow ℝ}
    (hr : rows[k]? = some r) (impulse : ℝ) (i : ℕ) :
    netImpulse (rows.set k { r with impulse := impulse }) i =
      netImpulse rows i + r.contact.impulseOn (impulse - r.impulse) i := by
  obtain ⟨hk, rfl⟩ := List.getElem?_eq_some_iff.mp hr
  have hchange : rows[k].contact.impulseOn impulse i - rows[k].contact.impulseOn rows[k].impulse i =
      rows[k].contact.impulseOn (impulse - rows[k].impulse) i := by
    simp only [Contact.impulseOn, Vec3.mul_eq_smul]
    split <;> split <;> module
  rw [netImpulse, List.map_set, List.sum_set', dif_pos (by simpa using hk), List.getElem_map,
    ← hchange, netImpulse]
  abel

/-- A state of a solution, between two changes of impulse: the contacts and their targets are those
of the start, no impulse pulls, and the impulses tell how the spheres differ from the first ones. -/
structure IsPartial (first s : Relaxation ℝ) : Prop where
  bodies_ne : ∀ r ∈ s.rows, r.contact.bodyA ≠ r.contact.bodyB
  rows_eq : (s.rows.map fun r => { r with impulse := 0 }) = first.rows
  impulse_nonneg : ∀ r ∈ s.rows, 0 ≤ r.impulse
  spheres_eq : s.spheres = Bodies.impel (netImpulse s.rows) first.spheres

theorem isPartial_start (spheres : List (Sphere ℝ)) {contacts : List (Contact ℝ)}
    (hne : ∀ c ∈ contacts, c.bodyA ≠ c.bodyB) (params : SolverParameters ℝ) (dt : ℝ) :
    (start spheres contacts params dt).IsPartial (start spheres contacts params dt) where
  bodies_ne := by
    intro r hr
    obtain ⟨c, hc, rfl⟩ := List.mem_map.mp hr
    exact hne c hc
  rows_eq := by
    simp only [start, List.map_map]
    rfl
  impulse_nonneg := by
    intro r hr
    obtain ⟨c, _, rfl⟩ := List.mem_map.mp hr
    exact le_refl _
  spheres_eq := by
    have hnone : netImpulse (start spheres contacts params dt).rows = fun _ => 0 := by
      funext i
      apply List.sum_eq_zero
      simp [start, Contact.impulseOn, Vec3.mul_eq_smul]
    rw [hnone, Bodies.impel_zero]

theorem IsPartial.length_spheres {first s : Relaxation ℝ} (h : first.IsPartial s) :
    s.spheres.length = first.spheres.length := by
  rw [h.spheres_eq, Bodies.length_impel]

/-- One change of impulse: the row may give back what it has given, but no more. -/
theorem IsPartial.relax {first s : Relaxation ℝ} (h : first.IsPartial s) (k : ℕ) :
    first.IsPartial (s.relax k).1 := by
  rcases relax_cases s k with heq | ⟨row, a, b, hrow, ha, hb, heq⟩
  · rw [heq]
    exact h
  · have hne := h.bodies_ne row (List.mem_of_getElem? hrow)
    have hA : row.contact.bodyA < first.spheres.length :=
      h.length_spheres ▸ (List.getElem?_eq_some_iff.mp ha).1
    have hB : row.contact.bodyB < first.spheres.length :=
      h.length_spheres ▸ (List.getElem?_eq_some_iff.mp hb).1
    rw [heq]
    refine ⟨?_, ?_, ?_, ?_⟩
    · intro r hr
      rcases List.mem_or_eq_of_mem_set hr with hr | rfl
      · exact h.bodies_ne r hr
      · exact hne
    · obtain ⟨hk, rfl⟩ := List.getElem?_eq_some_iff.mp hrow
      have hlen : k < (s.rows.map fun r => ({ r with impulse := 0 } : ContactRow ℝ)).length := by
        rwa [List.length_map]
      have hsame : ({ s.rows[k] with impulse := 0 } : ContactRow ℝ) =
          (s.rows.map fun r => { r with impulse := 0 })[k] := by
        rw [List.getElem_map]
      rw [List.map_set, ← h.rows_eq, hsame, List.set_getElem_self]
    · intro r hr
      rcases List.mem_or_eq_of_mem_set hr with hr | rfl
      · exact h.impulse_nonneg r hr
      · simp only [ContactRow.proposed, Scalar.maxNum_real]
        exact le_max_right _ _
    · have hnet : netImpulse (s.rows.set k { row with impulse := row.proposed a b }) =
          fun i => netImpulse s.rows i +
            row.contact.impulseOn (row.proposed a b - row.impulse) i :=
        funext (netImpulse_set hrow _)
      rw [hnet, ← Bodies.updateBodies_impel row _ hne hA hB, ← h.spheres_eq]

/-- A solution ends in a state whose impulses tell how far the spheres have changed, and reports
the residual of that state. -/
theorem exists_isPartial_solve_eq (spheres : List (Sphere ℝ)) {contacts : List (Contact ℝ)}
    (hne : ∀ c ∈ contacts, c.bodyA ≠ c.bodyB) (params : SolverParameters ℝ) (dt : ℝ) :
    ∃ s, (start spheres contacts params dt).IsPartial s ∧
      (solve spheres contacts params dt).1 = s.spheres ∧
      (contacts ≠ [] → (solve spheres contacts params dt).2.residual.normal = s.residual) := by
  have hstart := isPartial_start spheres hne params dt
  by_cases hempty : contacts = []
  · subst hempty
    exact ⟨_, hstart, rfl, fun h => absurd rfl h⟩
  · have hend := iterate_induction (P := (start spheres contacts params dt).IsPartial)
      (fun _ k h => h.relax k) params.tolerance (max 1 params.iterations) hstart 0 0
    rw [solve, if_neg (by simpa using hempty)]
    exact ⟨_, hend, rfl, fun _ => rfl⟩

/-- The work of all impulses along a motion of the spheres, added up sphere by sphere or contact by
contact. -/
theorem sum_dot_netImpulse {rows : List (ContactRow ℝ)} {n : ℕ}
    (hrange : ∀ r ∈ rows, r.contact.bodyA < n ∧ r.contact.bodyB < n) (w : ℕ → Vec3 ℝ) :
    ∑ i ∈ Finset.range n, (netImpulse rows i).dot (w i) =
      (rows.map fun r =>
        r.impulse * (w r.contact.bodyB - w r.contact.bodyA).dot r.contact.normal).sum := by
  induction rows with
  | nil => simp [netImpulse, Vec3.dot]
  | cons r rows ih =>
    obtain ⟨hA, hB⟩ := hrange r List.mem_cons_self
    have htail := ih fun r' hr' => hrange r' (List.mem_cons_of_mem r hr')
    have hhead : ∑ i ∈ Finset.range n, (r.contact.impulseOn r.impulse i).dot (w i) =
        r.impulse * (w r.contact.bodyB - w r.contact.bodyA).dot r.contact.normal := by
      have hterm (i : ℕ) : (r.contact.impulseOn r.impulse i).dot (w i) =
          (if r.contact.bodyB = i then r.impulse * (w i).dot r.contact.normal else 0) -
            (if r.contact.bodyA = i then r.impulse * (w i).dot r.contact.normal else 0) := by
        simp only [Contact.impulseOn]
        split <;> split <;> simp only [Vec3.dot, Vec3.sub_x, Vec3.sub_y, Vec3.sub_z, Vec3.mul_x,
          Vec3.mul_y, Vec3.mul_z, Vec3.zero_x, Vec3.zero_y, Vec3.zero_z] <;> ring
      simp only [hterm, Finset.sum_sub_distrib, Finset.sum_ite_eq, Finset.mem_range, if_pos hA,
        if_pos hB]
      simp only [Vec3.dot, Vec3.sub_x, Vec3.sub_y, Vec3.sub_z]
      ring
    have hsplit (i : ℕ) : (netImpulse (r :: rows) i).dot (w i) =
        (r.contact.impulseOn r.impulse i).dot (w i) + (netImpulse rows i).dot (w i) := by
      simp only [netImpulse, List.map_cons, List.sum_cons, Vec3.dot, Vec3.add_x, Vec3.add_y,
        Vec3.add_z]
      ring
    simp only [hsplit, Finset.sum_add_distrib, hhead, htail, List.map_cons, List.sum_cons]

end Relaxation

end SphereBench
