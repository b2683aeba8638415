import Mathlib.Algebra.BigOperators.Fin
import SphereBench.Proofs.Solver.Feasible
/-!
# The ledger of a solution

A sweep may take back from a contact what an earlier one has given to it, when another contact has
meanwhile driven its bodies apart. The row of the contact keeps the balance. It is the sum of all
changes so far, it never becomes negative, and the balances of all rows tell the velocities of all
spheres, not only at the end but after each single change. So a contact may pull back part of its
push, but in sum it only pushes.
-/

namespace SphereBench

/-- The spheres after each contact has given an impulse along its normal: a sphere gets the impulses
of the contacts that have it as their second body, less those of the contacts that have it as their
first one, over its mass. -/
noncomputable def Contact.pushEach (contacts : List (Contact ℝ)) (size : Fin contacts.length → ℝ)
    (spheres : List (Sphere ℝ)) : List (Sphere ℝ) :=
  spheres.mapIdx fun i b =>
    { b with
      velocity := b.velocity +
        (∑ k with (contacts.get k).bodyB = i, (contacts.get k).normal * size k -
          ∑ k with (contacts.get k).bodyA = i, (contacts.get k).normal * size k) * (1 / b.mass) }

theorem Contact.pushEach_eq_impel (contacts : List (Contact ℝ)) (size : Fin contacts.length → ℝ)
    (spheres : List (Sphere ℝ)) :
    pushEach contacts size spheres =
      Bodies.impel (fun i => ∑ k, (contacts.get k).impulseOn (size k) i) spheres := by
  simp only [pushEach, Bodies.impel, Sphere.invMass, impulseOn, Finset.sum_sub_distrib,
    Finset.sum_filter]

namespace Relaxation

noncomputable section

/-- The impulse so far of the row with an index; zero where there is none. -/
def impulseAt (s : Relaxation ℝ) (j : ℕ) : ℝ := (s.rows[j]?.map (·.impulse)).getD 0

/-- The sum of all changes of the row with index `j`, in `m` sweeps and the first `k` rows of the
next one. -/
def given (s : Relaxation ℝ) (m k j : ℕ) : ℝ :=
  ∑ i ∈ Finset.range (if j < k then m + 1 else m), (s.sweeps i).applied j

end

variable {first s : Relaxation ℝ}

/-- One change is booked to its own row. -/
theorem impulseAt_relax (s : Relaxation ℝ) (k : ℕ) :
    (s.relax k).1.impulseAt k = s.impulseAt k + (s.relax k).2 := by
  rcases relax_cases s k with heq | ⟨row, a, b, hrow, -, -, heq⟩
  · rw [heq, add_zero]
  · have hlen := (List.getElem?_eq_some_iff.mp hrow).1
    rw [heq]
    simp only [impulseAt, List.getElem?_set_self hlen, hrow, Option.map_some, Option.getD_some,
      add_sub_cancel]

theorem impulseAt_partway (s : Relaxation ℝ) (k j : ℕ) :
    (s.partway k).impulseAt j = s.impulseAt j + if j < k then s.applied j else 0 := by
  by_cases hj : j < k
  · have hbefore : (s.partway j).impulseAt j = s.impulseAt j := by
      rw [impulseAt, getElem?_rows_partway, if_neg j.lt_irrefl, impulseAt]
    rw [if_pos hj, applied, ← hbefore, ← impulseAt_relax, impulseAt, getElem?_rows_partway,
      if_pos hj, impulseAt]
  · rw [impulseAt, getElem?_rows_partway, if_neg hj, if_neg hj, add_zero, impulseAt]

theorem impulseAt_sweeps (s : Relaxation ℝ) (m : ℕ) {j : ℕ} (hj : j < s.rows.length) :
    (s.sweeps m).impulseAt j =
      s.impulseAt j + ∑ i ∈ Finset.range m, (s.sweeps i).applied j := by
  induction m with
  | zero => simp
  | succ m ih =>
    rw [sweeps_succ, sweep_eq, impulseAt_partway, length_rows_sweeps, if_pos hj, ih,
      Finset.sum_range_succ, add_assoc]

/-- The balance of a row is the sum of its changes. -/
theorem impulseAt_partway_sweeps (s : Relaxation ℝ) (m k : ℕ) {j : ℕ} (hj : j < s.rows.length) :
    ((s.sweeps m).partway k).impulseAt j = s.impulseAt j + s.given m k j := by
  rw [impulseAt_partway, impulseAt_sweeps s m hj, given, add_assoc]
  by_cases hjk : j < k
  · rw [if_pos hjk, if_pos hjk, Finset.sum_range_succ]
  · rw [if_neg hjk, if_neg hjk, add_zero]

section Solution

variable {spheres : List (Sphere ℝ)} {contacts : List (Contact ℝ)} {params : SolverParameters ℝ}
  {dt : ℝ}

/-- The rows of a solution, by contact and balance. -/
theorem IsPartial.map_rows_eq_ofFn (h : (start spheres contacts params dt).IsPartial s) :
    s.rows.map (fun r => (r.contact, r.impulse)) =
      List.ofFn fun j => (contacts.get j, s.impulseAt j) := by
  apply List.ext_getElem?
  intro j
  rw [List.getElem?_map, List.getElem?_ofFn]
  by_cases hj : j < contacts.length
  · obtain ⟨row, hrow, hcontact, -⟩ := h.exists_row (List.getElem?_eq_getElem hj)
    rw [dif_pos hj, hrow, Option.map_some, hcontact, impulseAt, hrow]
    rfl
  · have hlen : s.rows.length ≤ j := by
      rw [h.length_rows, start, List.length_map]
      exact not_lt.mp hj
    rw [dif_neg hj, List.getElem?_eq_none hlen, Option.map_none]

/-- The spheres of a solution, as told by the balances of its rows. -/
theorem IsPartial.spheres_eq_pushEach (h : (start spheres contacts params dt).IsPartial s) :
    s.spheres = Contact.pushEach contacts (fun j => s.impulseAt j) spheres := by
  have hnet (i : ℕ) : netImpulse s.rows i =
      ∑ j, (contacts.get j).impulseOn (s.impulseAt j) i := by
    calc netImpulse s.rows i
        = ((s.rows.map fun r => (r.contact, r.impulse)).map fun p =>
            p.1.impulseOn p.2 i).sum := by rw [List.map_map]; rfl
      _ = ∑ j, (contacts.get j).impulseOn (s.impulseAt j) i := by
          rw [h.map_rows_eq_ofFn, List.map_ofFn, List.sum_ofFn]
          rfl
  rw [h.spheres_eq, Contact.pushEach_eq_impel]
  exact Bodies.impel_congr fun i _ => hnet i

theorem IsPartial.impulseAt_nonneg (h : first.IsPartial s) (j : ℕ) : 0 ≤ s.impulseAt j := by
  rw [impulseAt]
  cases hrow : s.rows[j]? with
  | none => exact le_refl _
  | some row => exact h.impulse_nonneg row (List.mem_of_getElem? hrow)

/-- **Contacts only push.** After each change of impulse of each sweep, every row holds the sum of
its changes so far. This sum is never negative, and the spheres are the first ones after each
contact has pushed its bodies apart with it. So they are at the end, after the number of sweeps that
the solution reports. -/
theorem solve_onlyPushes {spheres : List (Sphere ℝ)} {contacts : List (Contact ℝ)}
    (hbodies : ∀ c ∈ contacts, c.bodyA < c.bodyB ∧ c.bodyB < spheres.length)
    (params : SolverParameters ℝ) (dt : ℝ) :
    let s := start spheres contacts params dt
    let n := (solve spheres contacts params dt).2.iterations
    (∀ m k, ∀ j : Fin contacts.length, 0 ≤ s.given m k j) ∧
    (∀ m k, ((s.sweeps m).partway k).rows.map (fun r => (r.contact, r.impulse)) =
        List.ofFn fun j => (contacts.get j, s.given m k j)) ∧
    (∀ m k, ((s.sweeps m).partway k).spheres =
        Contact.pushEach contacts (fun j => s.given m k j) spheres) ∧
    (solve spheres contacts params dt).1 =
      Contact.pushEach contacts (fun j => s.given n 0 j) spheres := by
  intro s n
  have hpartial (m k : ℕ) : s.IsPartial ((s.sweeps m).partway k) :=
    ((isPartial_start spheres (fun c hc => (hbodies c hc).1.ne) params dt).sweeps m).partway k
  have hbalance (m k : ℕ) (j : Fin contacts.length) :
      ((s.sweeps m).partway k).impulseAt j = s.given m k j := by
    have hj : j < s.rows.length := by simp only [s, start, List.length_map, j.isLt]
    have hzero : s.impulseAt j = 0 := by
      simp only [s, start, impulseAt, List.getElem?_map, List.getElem?_eq_getElem j.isLt,
        Option.map_some, Option.getD_some]
    rw [impulseAt_partway_sweeps s m k hj, hzero, zero_add]
  have hspheres (m k : ℕ) : ((s.sweeps m).partway k).spheres =
      Contact.pushEach contacts (fun j => s.given m k j) spheres := by
    rw [(hpartial m k).spheres_eq_pushEach]
    simp only [hbalance]
  refine ⟨?_, ?_, hspheres, ?_⟩
  · intro m k j
    rw [← hbalance]
    exact (hpartial m k).impulseAt_nonneg j
  · intro m k
    rw [(hpartial m k).map_rows_eq_ofFn]
    simp only [hbalance]
  · rw [solve_fst_eq_sweeps, ← hspheres n 0, partway_zero]

end Solution

/-- A unit mass runs into two others along the same line. The second contact slows it down further,
so that the first one takes back a quarter of its push in the next sweep. In sum, and whatever
further sweeps there are, neither contact pulls. -/
theorem given_sharedBody :
    let spheres := Bodies.corner ⟨1, 0, 0⟩ 0 0
    let contacts := [Contact.alongX, { Contact.alongX with bodyB := 2 }]
    let params : SolverParameters ℝ := ⟨.sequential, 5, 0, 0, 0⟩
    let s := start spheres contacts params 1
    (∀ c ∈ contacts, c.bodyA < c.bodyB ∧ c.bodyB < spheres.length) ∧
    s.applied 0 = 1 / 2 ∧ (s.sweeps 1).applied 0 = -1 / 8 ∧
    (∀ m k, ∀ j : Fin contacts.length, 0 ≤ s.given m k j) ∧
    ∃ size : Fin contacts.length → ℝ, (∀ j, 0 ≤ size j) ∧
      (solve spheres contacts params 1).1 = Contact.pushEach contacts size spheres := by
  intro spheres contacts params s
  have hbodies : ∀ c ∈ contacts, c.bodyA < c.bodyB ∧ c.bodyB < spheres.length := by
    simp [contacts, spheres, Contact.alongX, Bodies.corner]
  obtain ⟨hnonneg, -, -, hsolve⟩ := solve_onlyPushes hbodies params 1
  refine ⟨hbodies, ?_, ?_, hnonneg, _, fun j => hnonneg _ 0 j, hsolve⟩
  · norm_num [s, spheres, contacts, params, start, applied, partway, relaxEach, relax,
      Contact.target, Contact.alongX, Bodies.corner, Sphere.solid, Sphere.invMass,
      Contact.normalVelocity, Contact.separation, ContactRow.proposed, Vec3.dot]
  · norm_num [s, spheres, contacts, params, start, sweeps, sweep, applied, partway, relaxEach,
      relax, Contact.target, Contact.alongX, Bodies.corner, Sphere.solid, Sphere.invMass,
      Contact.normalVelocity, Contact.separation, ContactRow.proposed, Vec3.dot,
      Contact.updateBodies, ContactRow.kick, List.range, List.range.loop]

end Relaxation

end SphereBench
