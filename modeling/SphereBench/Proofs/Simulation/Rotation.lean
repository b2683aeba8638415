import SphereBench.Proofs.Body.Isotropic
import SphereBench.Proofs.Simulation.Calls
/-!
# Rotation over whole runs

Contacts have no friction and act on the centres only, so that nothing but torques changes the
rotation of a sphere. In exact arithmetic the angular momentum of an isotropic sphere is therefore
its first one and what the torques at all steps have added, whatever else happens to the sphere.
-/

namespace SphereBench

/-- The torque that a call lets act on the sphere with index `i`: what is pending, if the call is a
step and is accepted. -/
def Call.torqueAt {K : Type} [Scalar K] (s : Simulation K) (i : Nat) : Call K → List (Vec3 K)
  | .step =>
    match s.step with
    | .ok _ => (s.spheres[i]?.map Sphere.torque).toList
    | .error _ => []
  | _ => []

namespace Simulation

/-- The torques that are pending on the sphere with index `i` at the accepted steps among some
calls, in order. -/
def torquesAt {K : Type} [Scalar K] (i : Nat) (s : Simulation K) : List (Call K) → List (Vec3 K)
  | [] => []
  | c :: cs => c.torqueAt s i ++ (s.after c).torquesAt i cs

variable {s : Simulation ℝ} {i : Nat} {b : Sphere ℝ} {c : ℝ}

/-- A change of pending loads concerns neither inertia nor motion. -/
theorem isotropic_modify {spheres : List (Sphere ℝ)} (hb : spheres[i]? = some b)
    (h : b.IsIsotropic c) (j : ℕ) (load : Sphere ℝ → Sphere ℝ)
    (hload : ∀ a, (load a).inertia = a.inertia ∧ (load a).orientation = a.orientation ∧
      (load a).angularMomentum = a.angularMomentum) :
    ∃ b', (spheres.modify j load)[i]? = some b' ∧ b'.IsIsotropic c ∧
      b'.angularMomentum = b.angularMomentum := by
  simp only [List.getElem?_modify, hb, Option.map_eq_map, Option.map_some]
  by_cases hj : j = i
  · obtain ⟨hinertia, horientation, hmomentum⟩ := hload b
    rw [if_pos hj]
    exact ⟨_, rfl, ⟨hinertia.trans h.inertia, by rw [horientation, h.orientation]⟩, hmomentum⟩
  · rw [if_neg hj]
    exact ⟨b, rfl, h, rfl⟩

/-- A call keeps a sphere isotropic, and only the torque that it lets act changes the angular
momentum. -/
theorem isotropic_after (hb : s.spheres[i]? = some b) (h : b.IsIsotropic c) (hc : c ≠ 0)
    (call : Call ℝ) :
    ∃ b', (s.after call).spheres[i]? = some b' ∧ b'.IsIsotropic c ∧
      b'.angularMomentum = b.angularMomentum + (call.torqueAt s i).sum * s.params.dt := by
  have hnone : b.angularMomentum + ([] : List (Vec3 ℝ)).sum * s.params.dt = b.angularMomentum := by
    simp
  cases call with
  | push j force =>
    rw [after_push]
    obtain ⟨b', hb', h', heq⟩ := isotropic_modify hb h j
      (fun b => { b with force := b.force + force }) fun _ => ⟨rfl, rfl, rfl⟩
    exact ⟨b', hb', h', heq.trans hnone.symm⟩
  | twist j torque =>
    rw [after_twist]
    obtain ⟨b', hb', h', heq⟩ := isotropic_modify hb h j
      (fun b => { b with torque := b.torque + torque }) fun _ => ⟨rfl, rfl, rfl⟩
    exact ⟨b', hb', h', heq.trans hnone.symm⟩
  | step =>
    simp only [after, Simulation.call, Call.torqueAt]
    cases hstep : s.step with
    | error e => exact ⟨b, hb, h, hnone.symm⟩
    | ok t =>
      obtain ⟨_, _, rfl⟩ := step_eq_ok_iff.mp hstep
      obtain ⟨p, v, hadvance⟩ := getElem?_advance hb
      have hturn := h.advance s.params.gravity s.params.dt
      refine ⟨_, hadvance, ⟨hturn.inertia, hturn.orientation⟩, ?_⟩
      simp only [hb, Option.map_some, Option.toList_some, List.sum_singleton]
      exact h.angularMomentum_advance hc s.params.gravity s.params.dt

/-- Any sequence of calls keeps a sphere isotropic, and only the torques change its angular
momentum. -/
theorem isotropic_perform (hb : s.spheres[i]? = some b) (h : b.IsIsotropic c) (hc : c ≠ 0)
    (calls : List (Call ℝ)) :
    ∃ b', (s.perform calls).spheres[i]? = some b' ∧ b'.IsIsotropic c ∧
      b'.angularMomentum = b.angularMomentum + (s.torquesAt i calls).sum * s.params.dt := by
  induction calls generalizing s b with
  | nil => exact ⟨b, hb, h, by simp [torquesAt]⟩
  | cons call calls ih =>
    obtain ⟨b₁, hb₁, h₁, hmomentum₁⟩ := isotropic_after hb h hc call
    obtain ⟨b₂, hb₂, h₂, hmomentum₂⟩ := ih hb₁ h₁
    refine ⟨b₂, hb₂, h₂, ?_⟩
    rw [hmomentum₂, hmomentum₁, params_after, torquesAt, List.sum_append]
    simp only [Vec3.mul_eq_smul]
    module

/-- Let the three principal moments of a sphere be equal and its orientation have unit norm. After
any calls, with any contacts, its orientation has unit norm, its inertia in the frame of the world
is the same about every axis, and its angular momentum has changed by the impulse of the torques
that were pending at the steps. If these were all zero, neither spin nor angular momentum nor the
energy of the rotation has changed. -/
theorem perform_angularMomentum (hb : s.spheres[i]? = some b) (hc : 0 < c)
    (hinertia : b.inertia = .const c) (horientation : b.orientation.normSq = 1)
    (calls : List (Call ℝ)) :
    ∃ b', (s.perform calls).spheres[i]? = some b' ∧ b'.orientation.normSq = 1 ∧
      b'.worldInertia = .diagonal (.const c) ∧
      b'.angularMomentum = b.angularMomentum +
        ((s.torquesAt i calls).map fun torque : Vec3 ℝ => torque * s.params.dt).sum ∧
      ((∀ torque ∈ s.torquesAt i calls, torque = 0) →
        b'.spin = b.spin ∧ b'.angularMomentum = b.angularMomentum ∧
          b'.spinEnergy = b.spinEnergy) := by
  have h : b.IsIsotropic c := ⟨hinertia, horientation⟩
  obtain ⟨b', hb', h', hmomentum⟩ := isotropic_perform hb h hc.ne' calls
  have himpulse : ((s.torquesAt i calls).map fun torque : Vec3 ℝ => torque * s.params.dt).sum =
      (s.torquesAt i calls).sum * s.params.dt := by
    simp only [Vec3.mul_eq_smul, List.smul_sum]
  refine ⟨b', hb', h'.orientation, h'.worldInertia_eq, ?_, ?_⟩
  · rw [hmomentum, himpulse]
  · intro hzero
    have hsame : b'.angularMomentum = b.angularMomentum := by
      rw [hmomentum, List.sum_eq_zero hzero, Vec3.zero_mul, add_zero]
    have hspin : b'.spin = b.spin := by
      rw [h'.spin_eq hc.ne', h.spin_eq hc.ne', hsame]
    refine ⟨hspin, hsame, ?_⟩
    rw [Sphere.spinEnergy, Sphere.spinEnergy, hspin, hsame]

/-- Two spheres that penetrate each other, of which the first spins. -/
noncomputable def spinningPair : Simulation ℝ where
  spheres :=
    [{ Sphere.solid "top" 0 1 2.5 with spin := .alongZ 4 }, .solid "other" ⟨1.5, 0, 0⟩ 1 1]
  params := { SimulationParameters.default with dt := 0.5 }
  time := 0
  diagnostics := none

/-- A torque across the axis of the spin acts for half a time unit. -/
theorem angularMomentum_spinningPair :
    ∃ b, spinningPair.spheres[0]? = some b ∧ (0 : ℝ) < 1 ∧ b.inertia = .const 1 ∧
      b.orientation.normSq = 1 ∧
      ∃ b', (spinningPair.perform [.twist 0 ⟨6, 0, 0⟩, .step]).spheres[0]? = some b' ∧
        b'.angularMomentum = ⟨3, 0, 4⟩ ∧ b'.worldInertia = .diagonal (.const 1) := by
  obtain ⟨b, hb⟩ : ∃ b, spinningPair.spheres[0]? = some b := ⟨_, rfl⟩
  have hb' : b = { Sphere.solid "top" 0 1 2.5 with spin := .alongZ 4 } := by
    cases hb
    rfl
  have hinertia : b.inertia = .const 1 := by
    rw [hb']
    ext <;> norm_num [Sphere.solid, Sphere.solidInertia, Vec3.const]
  have horientation : b.orientation.normSq = 1 := by
    rw [hb']
    simp [Sphere.solid, Quaternion.normSq, Quaternion.identity]
  obtain ⟨b', hfinal, _, hworld, hmomentum, _⟩ := perform_angularMomentum hb one_pos hinertia
    horientation [.twist 0 ⟨6, 0, 0⟩, .step]
  refine ⟨b, hb, one_pos, hinertia, horientation, b', hfinal, ?_, hworld⟩
  have hstart : b.angularMomentum = .alongZ 4 := by
    rw [Sphere.IsIsotropic.angularMomentum_eq ⟨hinertia, horientation⟩, hb']
    ext <;> simp
  have htorques : spinningPair.torquesAt 0 [.twist 0 ⟨6, 0, 0⟩, .step] = [⟨6, 0, 0⟩] := by
    have hstep : (spinningPair.after (.twist 0 ⟨6, 0, 0⟩)).step =
        .ok (spinningPair.after (.twist 0 ⟨6, 0, 0⟩)).advance := by
      rw [step_eq_ok_iff, after_twist]
      refine ⟨List.cons_ne_nil _ _, ?_, rfl⟩
      norm_num [spinningPair]
    simp only [torquesAt, Call.torqueAt, hstep]
    simp [after_twist, spinningPair, Sphere.solid]
  rw [hmomentum, hstart, htorques]
  ext <;> norm_num [spinningPair]

end Simulation

end SphereBench
