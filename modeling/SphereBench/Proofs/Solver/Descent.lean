import Mathlib.Algebra.BigOperators.Fin
import Mathlib.Algebra.BigOperators.Intervals
import SphereBench.Proofs.Body.Energy
import SphereBench.Proofs.Contact.Bodies
import SphereBench.Proofs.Solver.Feasible
import SphereBench.Proofs.Solver.Sweeps
/-!
# Descent of the sequential solver

Why sweeps settle: there is a quantity that no change of impulse raises, the kinetic energy less
what the impulses so far are worth at their targets. A row moves its impulse towards the value at
which its own target is met, or only as far as it may without pulling. In both cases the quantity
falls by at least the energy that the change of impulse would give to the two bodies at rest. This
holds of one row whatever the other rows of its bodies have done, and so it adds up over all rows of
all sweeps.
-/

namespace SphereBench

/-- An impulse along a unit normal does work on the approach, and adds what its own size costs. -/
theorem linearEnergy_kick (row : ContactRow ℝ) (hn : row.contact.normal.lengthSq = 1) (impulse : ℝ)
    {a b : Sphere ℝ} (ha : 0 < a.mass) (hb : 0 < b.mass) :
    (row.kick impulse a b).1.linearEnergy + (row.kick impulse a b).2.linearEnergy =
      a.linearEnergy + b.linearEnergy +
        (impulse * row.contact.separation a b + impulse ^ 2 * (a.invMass + b.invMass) / 2) := by
  rw [Vec3.lengthSq_real] at hn
  simp only [ContactRow.kick, Sphere.linearEnergy, Sphere.invMass, Contact.separation,
    Vec3.lengthSq_real, Vec3.dot, Vec3.add_x, Vec3.add_y, Vec3.add_z, Vec3.sub_x, Vec3.sub_y,
    Vec3.sub_z, Vec3.mul_x, Vec3.mul_y, Vec3.mul_z]
  field_simp
  linear_combination impulse ^ 2 * (a.mass + b.mass) * hn

/-- A change of impulse moves towards the impulse that meets the target, and not past it. -/
theorem ContactRow.descent {row : ContactRow ℝ} {a b : Sphere ℝ} (himpulse : 0 ≤ row.impulse)
    (ha : 0 < a.mass) (hb : 0 < b.mass) :
    (row.proposed a b - row.impulse) *
      (row.contact.separation a b - row.target +
        (row.proposed a b - row.impulse) * (a.invMass + b.invMass)) ≤ 0 := by
  have hinv : 0 < a.invMass + b.invMass :=
    add_pos (Sphere.invMass_pos ha) (Sphere.invMass_pos hb)
  simp only [proposed, Scalar.maxNum_real]
  by_cases hpull : row.impulse +
      (row.target - row.contact.separation a b) / (a.invMass + b.invMass) ≤ 0
  · -- The row would have to pull, and gives back all its impulse instead.
    have hsep : row.impulse * (a.invMass + b.invMass) ≤
        row.contact.separation a b - row.target := by
      rwa [← neg_sub, neg_div, ← sub_eq_add_neg, sub_nonpos, le_div_iff₀ hinv] at hpull
    rw [max_eq_right hpull, zero_sub, neg_mul, neg_mul, neg_nonpos, ← sub_eq_add_neg]
    exact mul_nonneg himpulse (sub_nonneg.mpr hsep)
  · -- The impulse meets the target exactly.
    rw [max_eq_left (not_le.mp hpull).le, add_sub_cancel_left, div_mul_cancel₀ _ hinv.ne',
      ← neg_sub row.target, neg_add_cancel, mul_zero]

/-- The kinetic energy of the linear motion, less what the impulses so far are worth at the targets
of their rows. -/
noncomputable def Relaxation.objective (s : Relaxation ℝ) : ℝ :=
  Bodies.linearEnergy s.spheres - (s.rows.map fun r => r.target * r.impulse).sum

namespace Relaxation

variable {first s : Relaxation ℝ} {k : ℕ} {row : ContactRow ℝ}

/-- **One change of impulse.** It takes out at least the energy that its own size costs. -/
theorem IsFeasible.objective_relax_le (h : s.IsFeasible) (hrow : s.rows[k]? = some row)
    (hn : row.contact.normal.lengthSq = 1) :
    (s.relax k).1.objective ≤
      s.objective - 1 / 2 * row.contact.invMassSum s.spheres * (s.relax k).2 ^ 2 := by
  obtain ⟨a, b, ha, hb, hmassA, hmassB, hrelax⟩ := h.exists_relax_eq hrow
  have hmem := List.mem_of_getElem? hrow
  have hdescent := ContactRow.descent (h.impulse_nonneg row hmem) hmassA hmassB
  have henergy : Bodies.linearEnergy (row.contact.updateBodies s.spheres
      (row.kick (row.proposed a b - row.impulse))) = Bodies.linearEnergy s.spheres +
        ((row.proposed a b - row.impulse) * row.contact.separation a b +
          (row.proposed a b - row.impulse) ^ 2 * (a.invMass + b.invMass) / 2) := by
    simp only [Contact.updateBodies, ha, hb]
    rw [Bodies.linearEnergy, Contact.sum_map_set_set _ (h.bodies_ne row hmem) ha hb,
      linearEnergy_kick row hn _ hmassA hmassB, add_sub_cancel_left, Bodies.linearEnergy]
  have hworth : ((s.rows.set k { row with impulse := row.proposed a b }).map
      fun r => r.target * r.impulse).sum = (s.rows.map fun r => r.target * r.impulse).sum +
        (row.target * row.proposed a b - row.target * row.impulse) :=
    Contact.sum_map_set (fun r : ContactRow ℝ => r.target * r.impulse) hrow _
  rw [hrelax, objective, objective, henergy, hworth, Contact.invMassSum_eq ha hb]
  linarith

section Solution

variable {spheres : List (Sphere ℝ)} {contacts : List (Contact ℝ)}
  (hmass : ∀ b ∈ spheres, 0 < b.mass)
  (hcontacts : ∀ c ∈ contacts,
    c.bodyA < c.bodyB ∧ c.bodyB < spheres.length ∧ c.normal.lengthSq = 1)
  (params : SolverParameters ℝ) (dt : ℝ)
include hmass hcontacts

/-- A row of a sweep, in any state of a solution. -/
theorem objective_partway_succ_le (h : (start spheres contacts params dt).IsPartial s)
    {c : Contact ℝ} (hc : contacts[k]? = some c) :
    (s.partway (k + 1)).objective ≤
      (s.partway k).objective - 1 / 2 * c.invMassSum spheres * s.applied k ^ 2 := by
  have hpartway := h.partway k
  have hfeasible := hpartway.isFeasible hmass
    (inRange_start (fun c hc => ⟨(hcontacts c hc).1, (hcontacts c hc).2.1⟩) params dt)
  obtain ⟨row, hrow, hcontact, -⟩ := hpartway.exists_row hc
  have hn : row.contact.normal.lengthSq = 1 :=
    hcontact ▸ (hcontacts c (List.mem_of_getElem? hc)).2.2
  have hle := hfeasible.objective_relax_le hrow hn
  rw [hcontact, hpartway.spheres_eq, Contact.invMassSum_impel] at hle
  rw [partway_succ]
  exact hle

/-- The squared changes of a sweep, weighted, are paid for by what it takes out. -/
theorem sum_applied_le (h : (start spheres contacts params dt).IsPartial s) :
    ∑ k : Fin contacts.length, contacts[k].invMassSum spheres * s.applied k ^ 2 ≤
      2 * (s.objective - s.sweep.1.objective) := by
  have hlength : s.rows.length = contacts.length := by
    rw [h.length_rows, start, List.length_map]
  let lost (k : ℕ) : ℝ := (s.partway k).objective - (s.partway (k + 1)).objective
  have hrow (k : Fin contacts.length) :
      contacts[k].invMassSum spheres * s.applied k ^ 2 ≤ 2 * lost k := by
    have hle := objective_partway_succ_le hmass hcontacts params dt h
      (List.getElem?_eq_getElem k.isLt)
    simp only [lost, Fin.getElem_fin]
    linarith
  calc ∑ k : Fin contacts.length, contacts[k].invMassSum spheres * s.applied k ^ 2
      ≤ ∑ k : Fin contacts.length, 2 * lost k := Finset.sum_le_sum fun k _ => hrow k
    _ = 2 * ∑ k ∈ Finset.range contacts.length, lost k := by
        rw [← Finset.mul_sum, Finset.sum_range]
    _ = 2 * (s.objective - s.sweep.1.objective) := by
        rw [Finset.sum_range_sub', sweep_eq, hlength, partway_zero]

end Solution

/-- **Descent.** Every change of impulse of every sweep lowers the objective by at least half its
square, times the reciprocal masses of its bodies. So the objective does not grow over any number of
sweeps, and the squares of all changes so far, with these weights, sum up to at most twice what has
been taken out of it. The spheres of a solution are those after the number of sweeps that it
reports. -/
theorem descent_sweeps {spheres : List (Sphere ℝ)} {contacts : List (Contact ℝ)}
    (hmass : ∀ b ∈ spheres, 0 < b.mass)
    (hcontacts : ∀ c ∈ contacts,
      c.bodyA < c.bodyB ∧ c.bodyB < spheres.length ∧ c.normal.lengthSq = 1)
    (params : SolverParameters ℝ) (dt : ℝ) :
    let s := start spheres contacts params dt
    (∀ m, ∀ k : Fin contacts.length, ((s.sweeps m).partway (k + 1)).objective ≤
      ((s.sweeps m).partway k).objective -
        1 / 2 * contacts[k].invMassSum spheres * (s.sweeps m).applied k ^ 2) ∧
    (Antitone fun m => (s.sweeps m).objective) ∧
    (∀ m, ∑ i ∈ Finset.range m, ∑ k : Fin contacts.length,
        contacts[k].invMassSum spheres * (s.sweeps i).applied k ^ 2 ≤
      2 * (s.objective - (s.sweeps m).objective)) ∧
    (solve spheres contacts params dt).1 =
      (s.sweeps (solve spheres contacts params dt).2.iterations).spheres := by
  intro s
  have hpartial (m : ℕ) : s.IsPartial (s.sweeps m) :=
    (isPartial_start spheres (fun c hc => (hcontacts c hc).1.ne) params dt).sweeps m
  have hsweep (m : ℕ) := sum_applied_le hmass hcontacts params dt (hpartial m)
  refine ⟨?_, ?_, ?_, solve_fst_eq_sweeps spheres contacts params dt⟩
  · intro m k
    exact objective_partway_succ_le hmass hcontacts params dt (hpartial m)
      (List.getElem?_eq_getElem k.isLt)
  · refine antitone_nat_of_succ_le ?_
    intro m
    have hnonneg : 0 ≤ ∑ k : Fin contacts.length,
        contacts[k].invMassSum spheres * (s.sweeps m).applied k ^ 2 :=
      Finset.sum_nonneg fun k _ =>
        mul_nonneg (Contact.invMassSum_nonneg hmass contacts[k]) (sq_nonneg _)
    have hle := hnonneg.trans (hsweep m)
    rw [← sweeps_succ] at hle
    linarith
  · intro m
    calc ∑ i ∈ Finset.range m, ∑ k : Fin contacts.length,
          contacts[k].invMassSum spheres * (s.sweeps i).applied k ^ 2
        ≤ ∑ i ∈ Finset.range m, 2 * ((s.sweeps i).objective - (s.sweeps (i + 1)).objective) :=
          Finset.sum_le_sum fun i _ => hsweep i
      _ = 2 * (s.objective - (s.sweeps m).objective) := by
          rw [← Finset.mul_sum, Finset.sum_range_sub', sweeps_zero]

/-- Two unit masses hit a third one from two sides and are thrown back: the objective starts at
their energy and only falls, and what it has lost bounds the impulses. -/
theorem objective_sweeps_corner :
    let spheres := Bodies.corner ⟨1, 0, 0⟩ 0 ⟨0, -1, 0⟩
    let contacts := [Contact.alongX, Contact.alongY]
    let s := start spheres contacts ⟨.sequential, 5, 0, 1, 0⟩ 1
    (∀ b ∈ spheres, 0 < b.mass) ∧
    (∀ c ∈ contacts, c.bodyA < c.bodyB ∧ c.bodyB < spheres.length ∧ c.normal.lengthSq = 1) ∧
    (∀ m, (s.sweeps m).objective ≤ 1) ∧
    ∀ m, ∑ i ∈ Finset.range m, ∑ k : Fin contacts.length,
        contacts[k].invMassSum spheres * (s.sweeps i).applied k ^ 2 ≤
      2 * (1 - (s.sweeps m).objective) := by
  intro spheres contacts s
  have hmass : ∀ b ∈ spheres, 0 < b.mass := by
    simp [spheres, Bodies.corner, Sphere.solid]
  have hcontacts : ∀ c ∈ contacts,
      c.bodyA < c.bodyB ∧ c.bodyB < spheres.length ∧ c.normal.lengthSq = 1 := by
    simp [contacts, spheres, Contact.alongX, Contact.alongY, Bodies.corner, Vec3.lengthSq_real]
  have hstart : s.objective = 1 := by
    norm_num [s, spheres, contacts, objective, start, Bodies.linearEnergy, Sphere.linearEnergy,
      Bodies.corner, Sphere.solid, Vec3.lengthSq_real]
  obtain ⟨-, hantitone, hsum, -⟩ := descent_sweeps hmass hcontacts ⟨.sequential, 5, 0, 1, 0⟩ 1
  refine ⟨hmass, hcontacts, ?_, ?_⟩
  · intro m
    exact (hantitone (Nat.zero_le m)).trans hstart.le
  · intro m
    rw [← hstart]
    exact hsum m

end Relaxation

end SphereBench
