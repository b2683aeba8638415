import Mathlib.Algebra.Order.BigOperators.Group.Finset
import SphereBench.Proofs.Contact.Bodies
import SphereBench.Proofs.Solver.Feasible
/-!
# What no change certifies

A solution reports two errors, the change of impulse in its last sweep and the residual of the state
that it ends in. The first is measured row by row while the spheres still move, the second on all
rows afterwards. They agree on what it means to be done. A row that is settled proposes the impulse
that it has, and a row that keeps its impulse moves no sphere. So a sweep without any change has met
every row in one and the same state, and that state is settled.
-/

namespace SphereBench

namespace ContactRow

variable {r : ContactRow ℝ} {spheres : List (Sphere ℝ)}

/-- A row that pushes separates at its target, and one that does not, at its target or faster. -/
structure IsSettled (r : ContactRow ℝ) (spheres : List (Sphere ℝ)) : Prop where
  pushing : 0 < r.impulse → r.contact.normalVelocity spheres = r.target
  idle : r.impulse = 0 → r.target ≤ r.contact.normalVelocity spheres

theorem isSettled_of_pos (h : 0 < r.impulse) :
    r.IsSettled spheres ↔ r.contact.normalVelocity spheres = r.target :=
  ⟨fun hs => hs.pushing h, fun heq => ⟨fun _ => heq, fun hzero => absurd hzero h.ne'⟩⟩

theorem isSettled_of_eq_zero (h : r.impulse = 0) :
    r.IsSettled spheres ↔ r.target ≤ r.contact.normalVelocity spheres :=
  ⟨fun hs => hs.idle h, fun hle => ⟨fun hpos => absurd h hpos.ne', fun _ => hle⟩⟩

/-- The residual of a row tells whether it is settled. -/
theorem violation_eq_zero_iff (hr : 0 ≤ r.impulse) :
    r.violation spheres = 0 ↔ r.IsSettled spheres := by
  rcases hr.eq_or_lt with hzero | hpos
  · rw [isSettled_of_eq_zero hzero.symm, violation, if_neg hzero.not_lt, Scalar.minNum_real,
      min_eq_right_iff, sub_nonneg]
  · rw [isSettled_of_pos hpos, violation, if_pos hpos, sub_eq_zero]

/-- The impulse that a row proposes tells whether it is settled. -/
theorem proposed_eq_impulse_iff {a b : Sphere ℝ} (ha : spheres[r.contact.bodyA]? = some a)
    (hb : spheres[r.contact.bodyB]? = some b) (hinv : 0 < a.invMass + b.invMass)
    (hr : 0 ≤ r.impulse) : r.proposed a b = r.impulse ↔ r.IsSettled spheres := by
  have hspeed := Contact.normalVelocity_eq_separation ha hb
  rw [proposed, Scalar.maxNum_real]
  rcases hr.eq_or_lt with hzero | hpos
  · rw [isSettled_of_eq_zero hzero.symm, hspeed, ← hzero, zero_add, max_eq_right_iff,
      div_le_iff₀ hinv, zero_mul, sub_nonpos]
  · -- A positive impulse is not the bound, and so the bound is not what keeps it.
    have hkept (x : ℝ) : max x 0 = r.impulse ↔ x = r.impulse := by
      constructor
      · intro h
        rcases max_choice x 0 with hx | hx
        · rw [← hx, h]
        · exact absurd (hx.symm.trans h) hpos.ne
      · rintro rfl
        exact max_eq_left hr
    rw [isSettled_of_pos hpos, hspeed, hkept, add_eq_left, div_eq_zero_iff, or_iff_left hinv.ne',
      sub_eq_zero, eq_comm]

/-- A row that keeps its impulse moves neither of its bodies. -/
theorem kick_zero (r : ContactRow ℝ) (a b : Sphere ℝ) : r.kick 0 a b = (a, b) := by
  ext <;> simp [kick]

end ContactRow

namespace Relaxation

variable {s : Relaxation ℝ} {k : ℕ} {row : ContactRow ℝ}

theorem sumSquares_eq_sum (s : Relaxation ℝ) (k : ℕ) :
    s.sumSquares k = ∑ j ∈ Finset.range k, s.applied j ^ 2 := by
  induction k with
  | zero => rw [sumSquares_zero, Finset.sum_range_zero]
  | succ k ih => rw [sumSquares_succ, Finset.sum_range_succ, ih, sq]

/-- The change that a sweep reports is zero exactly if no row changes its impulse. -/
theorem sweep_snd_eq_zero_iff (s : Relaxation ℝ) :
    s.sweep.2 = 0 ↔ ∀ k < s.rows.length, s.applied k = 0 := by
  have hnonneg : ∀ k ∈ Finset.range s.rows.length, 0 ≤ s.applied k ^ 2 := fun k _ => sq_nonneg _
  have hsum := Finset.sum_nonneg hnonneg
  rw [sweep_eq, rootMean, Scalar.sqrt_real, sumSquares_eq_sum,
    Real.sqrt_eq_zero (div_nonneg hsum (Nat.cast_nonneg _)), div_eq_zero_iff,
    Finset.sum_eq_zero_iff_of_nonneg hnonneg]
  simp only [Finset.mem_range, sq_eq_zero_iff, Nat.cast_eq_zero]
  exact or_iff_left_of_imp fun hempty k hk => absurd hk (by simp [hempty])

/-- Further sweeps change nothing if the next one does not. -/
theorem sweeps_eq_self (h : s.sweep = (s, 0)) (n : ℕ) : s.sweeps n = s := by
  induction n with
  | zero => rfl
  | succ n ih => rw [sweeps_succ, ih, h]

namespace IsFeasible

/-- A row keeps its impulse exactly if it is settled. -/
theorem relax_snd_eq_zero_iff (h : s.IsFeasible) (hrow : s.rows[k]? = some row) :
    (s.relax k).2 = 0 ↔ row.IsSettled s.spheres := by
  obtain ⟨a, b, ha, hb, hmassA, hmassB, hrelax⟩ := h.exists_relax_eq hrow
  have hinv := add_pos (Sphere.invMass_pos hmassA) (Sphere.invMass_pos hmassB)
  rw [hrelax, sub_eq_zero]
  exact ContactRow.proposed_eq_impulse_iff ha hb hinv
    (h.impulse_nonneg row (List.mem_of_getElem? hrow))

/-- A row that keeps its impulse changes nothing else. -/
theorem relax_fst_eq_self (h : s.IsFeasible) (hkept : (s.relax k).2 = 0) : (s.relax k).1 = s := by
  cases hrow : s.rows[k]? with
  | none => rw [relax, hrow]
  | some row =>
    obtain ⟨a, b, -, -, -, -, hrelax⟩ := h.exists_relax_eq hrow
    rw [hrelax, sub_eq_zero] at hkept
    rw [hrelax, hkept, sub_self]
    have hspheres : (row.contact.updateBodies s.spheres (row.kick 0)).map id = s.spheres.map id :=
      Contact.map_updateBodies id fun a b => by simp only [row.kick_zero, and_self]
    rw [List.map_id, List.map_id] at hspheres
    obtain ⟨hk, rfl⟩ := List.getElem?_eq_some_iff.mp hrow
    exact Relaxation.ext hspheres (List.set_getElem_self hk)

/-- As long as no row changes its impulse, a sweep stays where it began. -/
theorem partway_eq_self (h : s.IsFeasible) (hkept : ∀ j < k, s.applied j = 0) :
    s.partway k = s := by
  induction k with
  | zero => rfl
  | succ k ih =>
    have hpartway := ih fun j hj => hkept j (hj.trans k.lt_succ_self)
    have hlast := hkept k k.lt_succ_self
    rw [applied, hpartway] at hlast
    rw [partway_succ, hpartway]
    exact h.relax_fst_eq_self hlast

/-- In a converged state no row changes its impulse: each of them meets the state as it is. -/
theorem applied_eq_zero (h : s.IsFeasible) (hs : s.IsConverged) (k : ℕ) : s.applied k = 0 := by
  induction k using Nat.strong_induction_on with
  | h k ih =>
    rw [applied, h.partway_eq_self ih]
    cases hrow : s.rows[k]? with
    | none => rw [relax, hrow]
    | some row =>
      have hmem := List.mem_of_getElem? hrow
      rw [h.relax_snd_eq_zero_iff hrow,
        ← ContactRow.violation_eq_zero_iff (h.impulse_nonneg row hmem)]
      exact hs row hmem

/-- A sweep changes no impulse exactly if every row is settled in the state that it starts from. -/
theorem sweep_snd_eq_zero_iff_isConverged (h : s.IsFeasible) : s.sweep.2 = 0 ↔ s.IsConverged := by
  rw [sweep_snd_eq_zero_iff]
  refine ⟨fun hkept row hmem => ?_, fun hs k _ => h.applied_eq_zero hs k⟩
  obtain ⟨k, hk, rfl⟩ := List.mem_iff_getElem.mp hmem
  have hrow := List.getElem?_eq_getElem hk
  have happlied := hkept k hk
  rw [applied, h.partway_eq_self fun j hj => hkept j (hj.trans hk)] at happlied
  rw [ContactRow.violation_eq_zero_iff (h.impulse_nonneg _ hmem), ← h.relax_snd_eq_zero_iff hrow]
  exact happlied

/-- A sweep over a converged state leaves all of it as it is. -/
theorem sweep_eq_self (h : s.IsFeasible) (hs : s.IsConverged) : s.sweep = (s, 0) :=
  Prod.ext (h.partway_eq_self fun k _ => h.applied_eq_zero hs k)
    (h.sweep_snd_eq_zero_iff_isConverged.mpr hs)

end IsFeasible

/-- Without any impulse, it is enough that every contact separates at its target already. -/
theorem isConverged_start_iff (spheres : List (Sphere ℝ)) (contacts : List (Contact ℝ))
    (params : SolverParameters ℝ) (dt : ℝ) :
    (start spheres contacts params dt).IsConverged ↔
      ∀ c ∈ contacts, c.target params dt spheres ≤ c.normalVelocity spheres := by
  simp only [IsConverged, start, List.forall_mem_map]
  refine forall₂_congr fun c _ => ?_
  rw [ContactRow.violation_eq_zero_iff le_rfl, ContactRow.isSettled_of_eq_zero rfl]

/-- What a solution with contacts reports, in terms of the states around its last sweep. -/
theorem exists_report_eq (spheres : List (Sphere ℝ)) {contacts : List (Contact ℝ)}
    (hcontacts : contacts ≠ []) (params : SolverParameters ℝ) (dt : ℝ) :
    let first := start spheres contacts params dt
    let report := (solve spheres contacts params dt).2
    ∃ n, report.iterations = n + 1 ∧ report.change.normal = (first.sweeps n).sweep.2 ∧
      report.residual.normal = (first.sweeps (n + 1)).residual := by
  obtain ⟨n, -, heq, -⟩ := exists_solve_eq_sweeps spheres hcontacts params dt
  rw [heq]
  exact ⟨n, rfl, rfl, rfl⟩

/-- **Certificate of convergence.** A solution whose last sweep changed no impulse has no residual,
and it has none exactly if each contact that pushes separates at its target and each other one at
its target or faster. Wherever there is no residual, a further sweep changes neither a velocity nor
an impulse. So spheres that separate fast enough from the beginning are left as they are. -/
theorem solve_certificate {spheres : List (Sphere ℝ)} {contacts : List (Contact ℝ)}
    (hmass : ∀ b ∈ spheres, 0 < b.mass)
    (hbodies : ∀ c ∈ contacts, c.bodyA < c.bodyB ∧ c.bodyB < spheres.length)
    (hcontacts : contacts ≠ []) (params : SolverParameters ℝ) (dt : ℝ) :
    let after := (solve spheres contacts params dt).1
    let report := (solve spheres contacts params dt).2
    let s := (start spheres contacts params dt).sweeps report.iterations
    (after = s.spheres ∧
      s.rows.map (fun r => (r.contact, r.target)) =
        contacts.map (fun c => (c, c.target params dt spheres)) ∧
      ∀ r ∈ s.rows, 0 ≤ r.impulse) ∧
    (report.residual.normal = 0 ↔ ∀ r ∈ s.rows, r.IsSettled s.spheres) ∧
    (report.change.normal = 0 → report.residual.normal = 0) ∧
    (∀ t : Relaxation ℝ, t.IsFeasible → t.residual = 0 → t.sweep = (t, 0)) ∧
    ((∀ c ∈ contacts, c.target params dt spheres ≤ c.normalVelocity spheres) →
      after = spheres ∧ report.residual.normal = 0) := by
  intro after report s
  have hne : ∀ c ∈ contacts, c.bodyA ≠ c.bodyB := fun c hc => (hbodies c hc).1.ne
  have hrows := ((isPartial_start spheres hne params dt).sweeps report.iterations).map_rows
  have hfeasible := isFeasible_sweeps hmass hbodies params dt
  have hnonneg : ∀ r ∈ s.rows, 0 ≤ r.impulse := (hfeasible _).impulse_nonneg
  have hspheres : after = s.spheres := solve_fst_eq_sweeps spheres contacts params dt
  obtain ⟨n, hiterations, hchange, hlast⟩ := exists_report_eq spheres hcontacts params dt
  have hresidual : report.residual.normal = s.residual := by rw [hlast, ← hiterations]
  refine ⟨⟨hspheres, hrows.trans (List.map_map ..), hnonneg⟩, ?_, ?_, ?_, ?_⟩
  · rw [hresidual, residual_eq_zero_iff]
    exact forall₂_congr fun r hr => ContactRow.violation_eq_zero_iff (hnonneg r hr)
  · -- The last sweep has left the state that it found, and has found it converged.
    intro hzero
    rw [hchange, (hfeasible n).sweep_snd_eq_zero_iff_isConverged] at hzero
    rw [hlast, sweeps_succ, (hfeasible n).sweep_eq_self hzero, residual_eq_zero_iff]
    exact hzero
  · intro t ht hzero
    exact ht.sweep_eq_self (t.residual_eq_zero_iff.mp hzero)
  · intro hseparate
    have hconverged := (isConverged_start_iff spheres contacts params dt).mpr hseparate
    have hsweep := (hfeasible 0).sweep_eq_self hconverged
    have hself : s = start spheres contacts params dt := sweeps_eq_self hsweep report.iterations
    rw [hspheres, hresidual, residual_eq_zero_iff, hself]
    exact ⟨rfl, hconverged⟩

/-- If the outer spheres of a corner run into the middle one, the first sweep leaves no residual and
the second one changes nothing; if they leave it, already the first one changes nothing. -/
theorem solve_certificate_corner :
    let colliding := Bodies.corner ⟨1, 0, 0⟩ 0 ⟨0, -1, 0⟩
    let leaving := Bodies.corner ⟨-1, 0, 0⟩ 0 ⟨0, 1, 0⟩
    let contacts := [Contact.alongX, Contact.alongY]
    let params : SolverParameters ℝ := ⟨.sequential, 5, 0, 0, 0⟩
    let s := (start colliding contacts params 1).sweep.1
    (∀ b ∈ colliding ++ leaving, 0 < b.mass) ∧
    (∀ c ∈ contacts, c.bodyA < c.bodyB ∧ c.bodyB < 3) ∧
    s.residual = 0 ∧ s.sweep = (s, 0) ∧ (solve leaving contacts params 1).1 = leaving := by
  intro colliding leaving contacts params s
  have hmass : ∀ b ∈ colliding ++ leaving, 0 < b.mass := by
    simp [colliding, leaving, Bodies.corner, Sphere.solid]
  obtain ⟨hcolliding, hleaving⟩ := List.forall_mem_append.mp hmass
  have hbodies : ∀ c ∈ contacts, c.bodyA < c.bodyB ∧ c.bodyB < 3 := by
    simp [contacts, Contact.alongX, Contact.alongY]
  have hcontacts : contacts ≠ [] := List.cons_ne_nil _ _
  have hresidual : s.residual = 0 :=
    s.residual_eq_zero_iff.mpr (isConverged_sweep_corner (.inl rfl) rfl rfl)
  obtain ⟨-, -, -, hnext, -⟩ := solve_certificate hcolliding hbodies hcontacts params 1
  obtain ⟨-, -, -, -, hunchanged⟩ := solve_certificate hleaving hbodies hcontacts params 1
  refine ⟨hmass, hbodies, hresidual, ?_, (hunchanged ?_).1⟩
  · exact hnext s (isFeasible_sweeps hcolliding hbodies params 1 1) hresidual
  · norm_num [contacts, params, leaving, Contact.target, Contact.normalVelocity,
      Contact.separation, Contact.alongX, Contact.alongY, Bodies.corner, Sphere.solid, Vec3.dot]

end Relaxation

end SphereBench
