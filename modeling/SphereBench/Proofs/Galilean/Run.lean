import SphereBench.Proofs.Galilean.Solver
import SphereBench.Proofs.Simulation.Calls
/-!
# Runs in another frame

Two simulations of the same spheres, of which the second is seen from another frame and has another
gravity, stay so through any calls: only the frame moves on. A uniform gravity therefore shows
neither in the motion of the spheres against each other nor in their contacts.
-/

namespace SphereBench

/-- Two simulations of the same spheres: what differs is the frame of the second, and its gravity,
which is stronger by `d`. -/
structure Boosted (f : Boost) (d : Vec3 ℝ) (s t : Simulation ℝ) : Prop where
  spheres_eq : t.spheres = s.spheres.map f.sphere
  params_eq : t.params = { s.params with gravity := s.params.gravity + d }

namespace Boosted

variable {f : Boost} {d : Vec3 ℝ} {s t : Simulation ℝ}

/-- A change of one sphere that commutes with the change of frame. -/
theorem modify_map_sphere {change : Sphere ℝ → Sphere ℝ}
    (comm : ∀ b, change (f.sphere b) = f.sphere (change b)) (spheres : List (Sphere ℝ)) (i : Nat) :
    (spheres.map f.sphere).modify i change = (spheres.modify i change).map f.sphere := by
  induction spheres generalizing i with
  | nil => simp
  | cons b bs ih =>
    cases i with
    | zero => simp [comm]
    | succ i => simp [ih]

theorem spheres_eq_nil_iff (h : Boosted f d s t) : t.spheres = [] ↔ s.spheres = [] := by
  rw [h.spheres_eq, List.map_eq_nil_iff]

theorem checkStep_eq (h : Boosted f d s t) : t.checkStep = s.checkStep := by
  simp only [Simulation.checkStep, h.spheres_eq, h.params_eq, List.isEmpty_map]

/-- Free motion of all spheres. -/
theorem moved_eq (h : Boosted f d s t) :
    t.moved = s.moved.map (f.later d s.params.dt 1).sphere := by
  simp only [Simulation.moved, h.spheres_eq, h.params_eq, List.map_map, Function.comp_def,
    Boost.advance_sphere]

/-- A step finds the same contacts in both frames. -/
theorem contacts_eq (h : Boosted f d s t) :
    t.contacts = s.contacts.map (f.later d s.params.dt 1).contact := by
  rw [Simulation.contacts, h.moved_eq, Boost.detect_map_sphere]
  rfl

/-- Apart from the point, which lies in the frame, the contacts of a step are equal. -/
theorem map_contacts (h : Boosted f d s t) :
    (t.contacts.map fun c => (c.bodies, c.normal, c.depth)) =
      s.contacts.map fun c => (c.bodies, c.normal, c.depth) := by
  rw [h.contacts_eq, List.map_map]
  rfl

theorem solveContacts_eq (h : Boosted f d s t) :
    Simulation.solveContacts t.params.solver t.params.dt t.moved =
      ((Simulation.solveContacts s.params.solver s.params.dt s.moved).1.map
          (f.later d s.params.dt 1).sphere,
        (Simulation.solveContacts s.params.solver s.params.dt s.moved).2) := by
  rw [h.moved_eq, h.params_eq, Boost.solveContacts_map_sphere]

theorem advance (h : Boosted f d s t) :
    Boosted (f.later d s.params.dt 1) d s.advance t.advance where
  spheres_eq := by rw [Simulation.advance_spheres, h.solveContacts_eq]; rfl
  params_eq := h.params_eq

/-- A step reports the same in both frames. -/
theorem advance_diagnostics_eq (h : Boosted f d s t) :
    t.advance.diagnostics = s.advance.diagnostics := by
  rw [Simulation.advance_diagnostics, h.solveContacts_eq]
  rfl

/-- Both simulations accept a step or, without spheres, both refuse it. -/
theorem after_step_cases (h : Boosted f d s t) (hdt : 0 < s.params.dt) :
    (s.spheres = [] ∧ s.after .step = s ∧ t.after .step = t) ∨
      (s.after .step = s.advance ∧ t.after .step = t.advance) := by
  have hs : Scalar.isPositiveFinite s.params.dt := by simpa using hdt
  have ht : Scalar.isPositiveFinite t.params.dt := by simpa [h.params_eq] using hdt
  rw [Simulation.after_step_of_isPositiveFinite hs, Simulation.after_step_of_isPositiveFinite ht]
  by_cases hnil : s.spheres = []
  · left
    rw [if_pos hnil, if_pos (h.spheres_eq_nil_iff.mpr hnil)]
    exact ⟨hnil, rfl, rfl⟩
  · right
    rw [if_neg hnil, if_neg (mt h.spheres_eq_nil_iff.mp hnil)]
    exact ⟨rfl, rfl⟩

/-- After the same call the simulations differ as before, only that a step has moved the frame. -/
theorem after (h : Boosted f d s t) (hdt : 0 < s.params.dt) (c : Call ℝ) :
    Boosted (f.later d s.params.dt (Call.steps [c])) d (s.after c) (t.after c) := by
  cases c with
  | push i force =>
    simp only [Simulation.after_push, Call.steps, Boost.later_zero]
    refine ⟨?_, h.params_eq⟩
    rw [h.spheres_eq]
    refine modify_map_sphere ?_ s.spheres i
    intro b
    rfl
  | twist i torque =>
    simp only [Simulation.after_twist, Call.steps, Boost.later_zero]
    refine ⟨?_, h.params_eq⟩
    rw [h.spheres_eq]
    refine modify_map_sphere ?_ s.spheres i
    intro b
    rfl
  | step =>
    rcases h.after_step_cases hdt with ⟨hs, heqs, heqt⟩ | ⟨heqs, heqt⟩
    · -- Without spheres there is no step, and no sphere that could show it.
      have ht : t.spheres = [] := h.spheres_eq_nil_iff.mpr hs
      rw [heqs, heqt]
      exact ⟨by rw [hs, ht, List.map_nil], h.params_eq⟩
    · rw [heqs, heqt]
      exact h.advance

/-- After the same calls the simulations differ as before, only that the frame has moved on. -/
theorem perform (h : Boosted f d s t) (hdt : 0 < s.params.dt) (calls : List (Call ℝ)) :
    Boosted (f.later d s.params.dt (Call.steps calls)) d (s.perform calls) (t.perform calls) := by
  induction calls generalizing f s t with
  | nil =>
    rw [Call.steps, Boost.later_zero]
    exact h
  | cons c cs ih =>
    have htail := ih (h.after hdt c) (by rwa [Simulation.params_after])
    rw [Simulation.params_after, Boost.later_later, ← Call.steps_cons] at htail
    exact htail

/-- Equal reports stay equal, and a step makes them equal. -/
theorem diagnostics_perform (h : Boosted f d s t) (hdt : 0 < s.params.dt) (calls : List (Call ℝ))
    (hd : t.diagnostics = s.diagnostics ∨ s.spheres ≠ [] ∧ 0 < Call.steps calls) :
    (t.perform calls).diagnostics = (s.perform calls).diagnostics := by
  induction calls generalizing f s t with
  | nil =>
    rcases hd with hd | ⟨_, hsteps⟩
    · exact hd
    · exact absurd hsteps (Nat.lt_irrefl 0)
  | cons c cs ih =>
    refine ih (h.after hdt c) (by rwa [Simulation.params_after]) ?_
    cases c with
    | push i force =>
      rw [Simulation.after_push, Simulation.after_push]
      simpa [Call.steps] using hd
    | twist i torque =>
      rw [Simulation.after_twist, Simulation.after_twist]
      simpa [Call.steps] using hd
    | step =>
      left
      rcases h.after_step_cases hdt with ⟨hs, heqs, heqt⟩ | ⟨heqs, heqt⟩
      · rw [heqs, heqt]
        exact hd.resolve_right fun hne => hne.1 hs
      · rw [heqs, heqt]
        exact h.advance_diagnostics_eq

/-- Runs in both frames end with the same result. -/
theorem run_fst_eq (h : Boosted f d s t) (n : Nat) :
    (t.run n).1 = (s.run n).1 := by
  rw [Simulation.run_fst, Simulation.run_fst, h.checkStep_eq]

end Boosted

namespace Simulation

/-- Let the second of two simulations of the same spheres have all positions shifted by `c`, all
velocities by `u` and gravity by `d`. After the same calls and `n` further steps, in any contacts,
the spheres differ by the motion of the frame alone, which a body in free fall would have; the
results and reports are equal, and so are the contacts of the next step. -/
theorem run_galilean {s t : Simulation ℝ} {c u d : Vec3 ℝ}
    (hspheres : t.spheres = s.spheres.map fun b =>
      { b with position := b.position + c, velocity := b.velocity + u })
    (hparams : t.params = { s.params with gravity := s.params.gravity + d })
    (hdt : 0 < s.params.dt) (calls : List (Call ℝ)) (n : Nat) :
    let dt := s.params.dt
    let N : ℝ := (Call.steps calls + n : Nat)
    let s' := ((s.perform calls).run n).2
    let t' := ((t.perform calls).run n).2
    ((t.perform calls).run n).1 = ((s.perform calls).run n).1 ∧
      (t'.spheres = s'.spheres.map fun b =>
        { b with
          position := b.position + (c + u * (N * dt) + d * (dt ^ 2 * (N * (N + 1) / 2)))
          velocity := b.velocity + (u + d * (N * dt)) }) ∧
      ((t'.contacts.map fun c => (c.bodies, c.normal, c.depth)) =
        s'.contacts.map fun c => (c.bodies, c.normal, c.depth)) ∧
      (t.diagnostics = s.diagnostics ∨ s.spheres ≠ [] ∧ 0 < Call.steps calls + n →
        t'.diagnostics = s'.diagnostics) ∧
      ∀ (i j : Nat) (p q p' q' : Sphere ℝ), s'.spheres[i]? = some p → s'.spheres[j]? = some q →
        t'.spheres[i]? = some p' → t'.spheres[j]? = some q' →
        q'.position - p'.position = q.position - p.position ∧
          q'.velocity - p'.velocity = q.velocity - p.velocity := by
  intro dt N s' t'
  have h : Boosted ⟨c, u⟩ d s t := ⟨hspheres, hparams⟩
  have hcalls := h.perform hdt calls
  have hs' : s' = s.perform (calls ++ List.replicate n .step) := by
    rw [perform_append]
    exact run_snd _ n
  have ht' : t' = t.perform (calls ++ List.replicate n .step) := by
    rw [perform_append]
    exact run_snd _ n
  have hsteps : Call.steps (calls ++ List.replicate n (.step : Call ℝ)) = Call.steps calls + n := by
    rw [Call.steps_append, Call.steps_replicate]
  have h' := h.perform hdt (calls ++ List.replicate n .step)
  rw [hsteps, ← hs', ← ht'] at h'
  refine ⟨hcalls.run_fst_eq n, h'.spheres_eq, h'.map_contacts, ?_, ?_⟩
  · intro hd
    rw [hs', ht']
    exact h.diagnostics_perform hdt _ (by rwa [hsteps])
  · intro i j p q p' q' hp hq hp' hq'
    rw [h'.spheres_eq, List.getElem?_map, hp] at hp'
    rw [h'.spheres_eq, List.getElem?_map, hq] at hq'
    cases hp'
    cases hq'
    exact ⟨Vec3.add_sub_add_right _ _ _, Vec3.add_sub_add_right _ _ _⟩

/-- Two spheres that penetrate and approach each other, without gravity. -/
noncomputable def weightlessPair : Simulation ℝ where
  spheres :=
    [.solid "light" 0 1 1, { Sphere.solid "heavy" ⟨1.5, 0, 0⟩ 1 2.0 with velocity := ⟨-1, 0, 0⟩ }]
  params := { SimulationParameters.default with gravity := 0, dt := 0.5 }
  time := 0
  diagnostics := none

/-- The same two spheres in free fall. -/
noncomputable def fallingPair : Simulation ℝ :=
  { weightlessPair with params := { weightlessPair.params with gravity := .alongZ (-8) } }

/-- In two steps the falling pair falls six units below the other, and its solver reports the
same. -/
theorem run_fallingPair : 0 < weightlessPair.params.dt ∧
    ((fallingPair.run 2).2.spheres = (weightlessPair.run 2).2.spheres.map fun b =>
      { b with position := b.position + .alongZ (-6), velocity := b.velocity + .alongZ (-8) }) ∧
    (fallingPair.run 2).2.diagnostics = (weightlessPair.run 2).2.diagnostics := by
  have hdt : 0 < weightlessPair.params.dt := by norm_num [weightlessPair]
  have hspheres : fallingPair.spheres = weightlessPair.spheres.map fun b =>
      { b with position := b.position + 0, velocity := b.velocity + 0 } := by
    simp [fallingPair]
  have hparams : fallingPair.params =
      { weightlessPair.params with gravity := weightlessPair.params.gravity + .alongZ (-8) } := by
    simp [fallingPair, weightlessPair]
  obtain ⟨_, hrun, _, hdiagnostics, _⟩ := run_galilean hspheres hparams hdt [] 2
  refine ⟨hdt, hrun.trans (List.map_congr_left ?_), hdiagnostics (.inl rfl)⟩
  intro b _
  refine Sphere.ext rfl ?_ rfl ?_ rfl rfl rfl rfl rfl rfl
  · ext <;> norm_num [Call.steps, weightlessPair]
  · ext <;> norm_num [Call.steps, weightlessPair]

end Simulation

end SphereBench
