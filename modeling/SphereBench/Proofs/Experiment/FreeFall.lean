import SphereBench.Proofs.Experiment.Config
import SphereBench.Proofs.Experiment.Stack
import SphereBench.Proofs.Experiment.Trial
import SphereBench.Proofs.Statistic.Exact
/-!
# The report on the unpushed stack

If nothing pushes, the report of the experiment is known in advance. The stack falls freely, and
what the report calls errors are the velocity and the distance that the top sphere has gained, and
the energy that the integration loses. None of them depends on the mass of the top sphere, and the
solver has nothing to do.
-/

namespace SphereBench

/-- How many of `n` steps without contacts a solver reports on. -/
def Solver.reportCount : Solver → ℕ → ℕ
  | sequential, n => n
  | direct, _ => 0

/-- The traces of a fall of `n` steps. -/
noncomputable def Traces.fall (gravity dt : ℝ) (solver : Solver) (n : ℕ) : Traces ℝ :=
  ofSamples ((multiples (gravity * dt ^ 2) triangle n).map .alongZ)
    ((multiples (gravity * dt) Nat.cast n).map .alongZ) (List.replicate n 0)
    (multiples (gravity * dt ^ 2 / 9) Nat.cast n)
    (List.replicate (solver.reportCount n) 0) (List.replicate (solver.reportCount n) 0)

theorem relativeChange_real (x reference : ℝ) :
    relativeChange x reference =
      if reference = 0 then x - reference else (x - reference) / reference := by
  by_cases h : reference = 0
  · rw [relativeChange, if_pos h, if_pos (beq_iff_eq.mpr h)]
  · rw [relativeChange, if_neg h, if_neg (mt beq_iff_eq.mp h)]

theorem relativeOffset_zero : relativeOffset (0 : Vec3 ℝ) 0 (0 : Vec3 ℝ).length = 0 := by
  rw [relativeOffset, Vec3.length_zero, if_pos (beq_self_eq_true (0 : ℝ)), sub_zero]

namespace TrackedBody

/-- What the run compares with. -/
noncomputable def restReference (c : Config ℝ) : Reference ℝ where
  position := (topSphere c.mass).position
  velocity := 0
  angularMomentum := 0
  energy := (topSphere c.mass).energy (.alongZ c.gravity)

/-- The energy after `k` steps: the integration loses what the fall gains in half a step. -/
theorem energy_fall (gravity dt mass : ℝ) (k : ℕ) :
    ((Boost.fall gravity dt k).sphere (topSphere mass)).energy (.alongZ gravity) =
      -(mass * gravity * (9 / 2)) - mass * gravity ^ 2 * dt ^ 2 * k / 2 := by
  have hspin : ((Boost.fall gravity dt k).sphere (topSphere mass)).spin = 0 := rfl
  have hmass : ((Boost.fall gravity dt k).sphere (topSphere mass)).mass = mass := rfl
  have hposition : (topSphere mass).position = .alongZ (9 / 2) := by
    ext <;> norm_num [topSphere, Simulation.stackSphere, Sphere.solid, stackRadius]
  have hvelocity : (topSphere mass).velocity = 0 := rfl
  simp only [Sphere.energy, Sphere.kineticEnergy, hspin, hmass, Boost.sphere_position,
    Boost.sphere_velocity, Boost.fall_shift, Boost.fall_velocity, hposition, hvelocity,
    Vec3.lengthSq, Vec3.dot, Vec3.add_x, Vec3.add_y, Vec3.add_z, Vec3.alongZ_x, Vec3.alongZ_y,
    Vec3.alongZ_z, Vec3.zero_x, Vec3.zero_y, Vec3.zero_z, triangle]
  norm_num
  ring

/-- The relative error of the energy grows in proportion to the number of steps. Without gravity
there is no energy to compare with, and no error. -/
theorem relativeChange_energy_fall (gravity dt : ℝ) {mass : ℝ} (hmass : 0 < mass) (k : ℕ) :
    relativeChange
        (((Boost.fall gravity dt k).sphere (topSphere mass)).energy (.alongZ gravity))
        ((topSphere mass).energy (.alongZ gravity)) = gravity * dt ^ 2 / 9 * k := by
  have hrest := energy_fall gravity dt mass 0
  rw [Boost.fall_zero_sphere] at hrest
  rw [energy_fall, hrest, relativeChange_real]
  by_cases hg : gravity = 0
  · simp [hg]
  · have hne : -(mass * gravity * (9 / 2)) - mass * gravity ^ 2 * dt ^ 2 * (0 : ℕ) / 2 ≠ 0 := by
      have := hmass.ne'
      simp [hg, this]
    rw [if_neg hne]
    field_simp
    push_cast
    ring

variable {c : Config ℝ} {ε : Type}

theorem reference_initial (c : Config ℝ) :
    (world.reference (initial c) : Except (RunError ℝ ε) (Reference ℝ)) =
      .ok (restReference c) := by
  have hsphere : (initial c).sphere = topSphere c.mass := rfl
  have hmomentum : (topSphere c.mass).angularMomentum = 0 := Sphere.angularMomentum_eq_zero rfl
  simp only [Instrument.reference, Instrument.vector, Instrument.scalar, world, sample, hsphere,
    hmomentum]
  rfl

/-- The sample of the solver is zero, where it reports. -/
theorem diagnostics_fallen_succ (c : Config ℝ) (k : ℕ) :
    (fallen c (k + 1)).diagnostics = c.solver.idleReport.map fun _ => ⟨0, 0⟩ := by
  simp only [diagnostics, fallen, if_neg (Nat.succ_ne_zero k)]
  cases c.solver with
  | sequential => rfl
  | direct => rfl

theorem replicate_reportCount_append (solver : Solver) (k : ℕ) {part : Convergence ℝ → ℝ}
    (hpart : part ⟨0, 0⟩ = 0) :
    List.replicate (solver.reportCount k) (0 : ℝ) ++
        ((solver.idleReport.map fun _ => (⟨0, 0⟩ : Convergence ℝ)).toList.map part) =
      List.replicate (solver.reportCount (k + 1)) 0 := by
  cases solver with
  | sequential =>
    simp [Solver.reportCount, Solver.idleReport, List.replicate_succ', hpart]
  | direct => simp [Solver.reportCount, Solver.idleReport]

/-- What is observed after a step is the next sample of the fall. -/
theorem addTo_fall (hmass : 0 < c.mass) (k : ℕ) :
    (world.addTo (restReference c) (.fall c.gravity c.dt c.solver k) (fallen c (k + 1)) :
      Except (RunError ℝ ε) (Traces ℝ)) = .ok (.fall c.gravity c.dt c.solver (k + 1)) := by
  have hadd : (world.addTo (restReference c) (.fall c.gravity c.dt c.solver k)
      (fallen c (k + 1)) : Except (RunError ℝ ε) (Traces ℝ)) =
        .ok ((Traces.fall c.gravity c.dt c.solver k).add (restReference c)
          (fallen c (k + 1)).sphere.velocity (fallen c (k + 1)).sphere.position
          (fallen c (k + 1)).sphere.angularMomentum
          ((fallen c (k + 1)).sphere.energy (.alongZ c.gravity)) (fallen c (k + 1)).diagnostics) :=
    rfl
  have hmomentum : (fallen c (k + 1)).sphere.angularMomentum = 0 := by
    rw [sphere_fallen]
    exact Sphere.angularMomentum_eq_zero rfl
  have hposition : (fallen c (k + 1)).sphere.position - (restReference c).position =
      .alongZ (c.gravity * c.dt ^ 2 * triangle (k + 1)) := by
    rw [sphere_fallen, Boost.sphere_position, Boost.fall_shift, restReference, add_sub_cancel_left]
  have hvelocity : (fallen c (k + 1)).sphere.velocity - (restReference c).velocity =
      .alongZ (c.gravity * c.dt * (k + 1 : ℕ)) := by
    have hrest : (topSphere c.mass).velocity = 0 := rfl
    rw [sphere_fallen, Boost.sphere_velocity, Boost.fall_velocity, restReference, hrest, zero_add,
      sub_zero]
  have hoffset : relativeOffset (0 : Vec3 ℝ) (restReference c).angularMomentum
      (restReference c).angularMomentum.length = 0 := relativeOffset_zero
  have henergy : relativeChange ((fallen c (k + 1)).sphere.energy (.alongZ c.gravity))
      (restReference c).energy = c.gravity * c.dt ^ 2 / 9 * (k + 1 : ℕ) := by
    rw [sphere_fallen, restReference, relativeChange_energy_fall _ _ hmass]
  rw [hadd, Traces.fall, Traces.add_ofSamples, hposition, hvelocity, hmomentum, hoffset, henergy,
    diagnostics_fallen_succ, replicate_reportCount_append _ _ rfl,
    replicate_reportCount_append _ _ rfl, ← List.replicate_succ', Traces.fall, multiples_succ,
    multiples_succ, multiples_succ, List.map_append, List.map_append]
  rfl

/-- The traces and the state after any number of steps. -/
theorem stepMany_fallen (hmass : 0 < c.mass) (hdt : 0 < c.dt) (hforce : c.force = 0) (n : ℕ) :
    world.stepMany c.push (restReference c) n .start (fallen c 0) =
      (.ok (.fall c.gravity c.dt c.solver n), fallen c n) := by
  have hstart : Traces.fall c.gravity c.dt c.solver 0 = .start := by
    cases hsolver : c.solver <;> rfl
  rw [← hstart]
  refine World.stepMany_eq (T := Traces.fall c.gravity c.dt c.solver) (S := fallen c) ?_
  intro k _
  rw [World.stepOnce_eq (applyForce_fallen hforce k) (step_fallen hdt k), addTo_fall hmass]

end TrackedBody

/-- The report on a fall of `n` steps in closed form. Neither the mass of the top sphere nor the
limits of the solver appear in it, and the solver only in the number of its reports. -/
structure FallReport (gravity dt : ℝ) (solver : Solver) (n : ℕ) (r : Report ℝ) : Prop where
  steps : r.steps = n
  simTime : r.simTime = n * dt
  velocity_maxAbs : r.traces.velocity.magnitude.value? .maxAbs = some (n * |gravity| * dt)
  velocity_mean :
    r.traces.velocity.magnitude.value? .mean = some (|gravity| * dt * (n + 1) / 2)
  velocity_variance : r.traces.velocity.magnitude.value? .variance =
    some (if n = 1 then 0 else (|gravity| * dt) ^ 2 * (n * (n + 1)) / 12)
  position_maxAbs : r.traces.position.magnitude.value? .maxAbs =
    some (|gravity| * dt ^ 2 * (n * (n + 1)) / 2)
  position_mean : r.traces.position.magnitude.value? .mean =
    some (|gravity| * dt ^ 2 * ((n + 1) * (n + 2)) / 6)
  energy_maxAbs : r.traces.energy.value? .maxAbs = some (n * |gravity| * dt ^ 2 / 9)
  energy_mean : r.traces.energy.value? .mean = some (gravity * dt ^ 2 * (n + 1) / 18)
  angularMomentum : ∀ k ∈ reportedStatistics,
    r.traces.angularMomentum.x.value? k = some 0 ∧ r.traces.angularMomentum.y.value? k = some 0 ∧
      r.traces.angularMomentum.z.value? k = some 0 ∧
      r.traces.angularMomentum.magnitude.value? k = some 0
  solver : ∀ s ∈ [r.traces.change, r.traces.residual],
    s.count = solver.reportCount n ∧ ∀ k ∈ reportedStatistics, s.value? k = some 0

namespace Traces

variable {gravity dt : ℝ} {solver : Solver} {n : ℕ} {k : Statistic}

/-- The magnitudes of vectors along the z axis are the absolute values of their components. -/
theorem value?_magnitude_alongZ (hk : k ∈ reportedStatistics) (a : ℝ) {f : ℕ → ℝ}
    (hf : ∀ i, 0 ≤ f i) (n : ℕ) :
    ((VectorSignal.empty.enableKinds reportedStatistics).extend
        ((multiples a f n).map .alongZ)).magnitude.value? k =
      some ((Tally.ofList (multiples |a| f n)).value k) := by
  have hlength : ((multiples a f n).map Vec3.alongZ).map (·.length) = multiples |a| f n := by
    rw [← map_abs_multiples a n hf, List.map_map]
    exact List.map_congr_left fun x _ => Vec3.length_alongZ x
  rw [VectorSignal.extend_empty, hlength]
  exact Signal.value?_extend_empty hk _

theorem value?_fall_velocity (hk : k ∈ reportedStatistics) :
    (fall gravity dt solver n).velocity.magnitude.value? k =
      some ((Tally.ofList (multiples |gravity * dt| Nat.cast n)).value k) :=
  value?_magnitude_alongZ hk _ (fun i => Nat.cast_nonneg i) n

theorem value?_fall_position (hk : k ∈ reportedStatistics) :
    (fall gravity dt solver n).position.magnitude.value? k =
      some ((Tally.ofList (multiples |gravity * dt ^ 2| triangle n)).value k) :=
  value?_magnitude_alongZ hk _ triangle_nonneg n

theorem value?_fall_energy (hk : k ∈ reportedStatistics) :
    (fall gravity dt solver n).energy.value? k =
      some ((Tally.ofList (multiples (gravity * dt ^ 2 / 9) Nat.cast n)).value k) :=
  Signal.value?_extend_empty hk _

/-- A reported signal of zeros. -/
theorem value?_zeros (hk : k ∈ reportedStatistics) (m : ℕ) :
    ((Signal.empty.enableKinds reportedStatistics).extend (List.replicate m (0 : ℝ))).value? k =
      some 0 := by
  rw [Signal.value?_extend_empty hk, Tally.value_ofList_replicate_zero]

theorem fall_angularMomentum : (fall gravity dt solver n).angularMomentum =
    let zeros := (Signal.empty.enableKinds reportedStatistics).extend (List.replicate n (0 : ℝ))
    ⟨zeros, zeros, zeros, zeros⟩ := by
  have h : (fall gravity dt solver n).angularMomentum = (VectorSignal.empty.enableKinds
      reportedStatistics).extend (List.replicate n (0 : Vec3 ℝ)) := rfl
  rw [h, VectorSignal.extend_empty]
  simp only [List.map_replicate, Vec3.zero_x, Vec3.zero_y, Vec3.zero_z, Vec3.length_zero]

end Traces

/-- The statistics of a fall. -/
theorem FallReport.of_traces {gravity dt : ℝ} {solver : Solver} {n : ℕ} {r : Report ℝ} (hn : n ≠ 0)
    (hdt : 0 < dt) (hsteps : r.steps = n) (hsimTime : r.simTime = n * dt)
    (htraces : r.traces = .fall gravity dt solver n) : FallReport gravity dt solver n r where
  steps := hsteps
  simTime := hsimTime
  velocity_maxAbs := by
    rw [htraces, Traces.value?_fall_velocity (by decide),
      Tally.value_maxAbs_multiples _ (fun i => Nat.cast_nonneg i) Nat.mono_cast hn, abs_abs,
      abs_mul, abs_of_pos hdt]
    ring_nf
  velocity_mean := by
    rw [htraces, Traces.value?_fall_velocity (by decide), Tally.value_mean_multiples_cast _ hn,
      abs_mul, abs_of_pos hdt]
  velocity_variance := by
    rw [htraces, Traces.value?_fall_velocity (by decide), Tally.value_variance_multiples_cast _ hn,
      abs_mul, abs_of_pos hdt]
  position_maxAbs := by
    rw [htraces, Traces.value?_fall_position (by decide),
      Tally.value_maxAbs_multiples _ triangle_nonneg triangle_monotone hn, abs_abs, abs_mul,
      abs_of_pos (pow_pos hdt 2), triangle, ← mul_div_assoc]
  position_mean := by
    rw [htraces, Traces.value?_fall_position (by decide), Tally.value_mean_multiples_triangle _ hn,
      abs_mul, abs_of_pos (pow_pos hdt 2)]
  energy_maxAbs := by
    have hpos : (0 : ℝ) < dt ^ 2 / 9 := by positivity
    rw [htraces, Traces.value?_fall_energy (by decide),
      Tally.value_maxAbs_multiples _ (fun i => Nat.cast_nonneg i) Nat.mono_cast hn,
      mul_div_assoc, abs_mul, abs_of_pos hpos]
    ring_nf
  energy_mean := by
    rw [htraces, Traces.value?_fall_energy (by decide), Tally.value_mean_multiples_cast _ hn]
    ring_nf
  angularMomentum := by
    intro k hk
    rw [htraces, Traces.fall_angularMomentum]
    exact ⟨Traces.value?_zeros hk n, Traces.value?_zeros hk n, Traces.value?_zeros hk n,
      Traces.value?_zeros hk n⟩
  solver := by
    intro s hs
    have hzeros : s = (Signal.empty.enableKinds reportedStatistics).extend
        (List.replicate (solver.reportCount n) (0 : ℝ)) := by
      simp only [htraces, List.mem_cons, List.not_mem_nil, or_false] at hs
      rcases hs with rfl | rfl
      · rfl
      · rfl
    rw [hzeros, Signal.count_extend, List.length_replicate]
    refine ⟨?_, ?_⟩
    · rw [Signal.count, Signal.tally_enableKinds]
      exact Nat.zero_add _
    · intro k hk
      exact Traces.value?_zeros hk _

/-- The run of the unpushed stack. -/
theorem observeStack_eq {c : Config ℝ} (hcheck : c.check = .ok ()) (hforce : c.force = 0) :
    observeStack c = .ok
      (⟨0, TrackedBody.restReference c, .fall c.gravity c.dt c.solver c.stepCount⟩,
        TrackedBody.fallen c c.stepCount) := by
  obtain ⟨hdt, _, hmass, _, _⟩ := Config.check_eq_ok_iff.mp hcheck
  have hobserve := World.observe_eq hcheck (TrackedBody.reference_initial c)
    (TrackedBody.configure_initial hdt)
    (TrackedBody.stepMany_fallen hmass hdt hforce c.stepCount)
  simp only [observeStack, hcheck, TrackedBody.ofConfig_eq hmass, hobserve]
  rfl

/-- With nothing pushing, every configuration that is accepted and whose steps can be counted has
the report of a fall from rest: the clock shows the time of all steps, the errors of velocity and
position are what the fall gains, that of the energy is what the integration loses, and all others
are zero. No step meets a contact. The samples are given by gravity, time step, solver and number of
steps alone. -/
theorem runStack_unpushed {c : Config ℝ} (hcheck : c.check = .ok ()) (hforce : c.force = 0)
    (hsteps : ⌈c.duration / c.dt⌉₊ < 2 ^ 64) (wallTime : ℝ) (book : Logbook ℝ) :
    (∃ report, (runStack c wallTime book).1 = .ok report ∧
      FallReport c.gravity c.dt c.solver ⌈c.duration / c.dt⌉₊ report ∧
      report.traces = .fall c.gravity c.dt c.solver ⌈c.duration / c.dt⌉₊) ∧
    ∃ t₀ r t₁, TrackedBody.ofConfig c = .ok t₀ ∧
      (TrackedBody.world.reference t₀ : Except (RunError ℝ (SimulationError ℝ)) (Reference ℝ)) =
        .ok r ∧
      TrackedBody.world.configure c.settings t₀ = (.ok (), t₁) ∧
      ∀ k < ⌈c.duration / c.dt⌉₊, ∃ traces t,
        TrackedBody.world.stepMany c.push r k .start t₁ = (.ok traces, t) ∧
        (TrackedBody.world.applyForce c.push t).2.simulation.contacts = [] := by
  obtain ⟨hdt, hduration, hmass, _, _⟩ := Config.check_eq_ok_iff.mp hcheck
  have hne := Config.stepCount_ne_zero hdt hduration hsteps
  have hle := Config.duration_le hdt hsteps
  have hlt := Config.lt_duration_add hdt hduration hsteps
  rw [← Config.stepCount_eq hsteps]
  constructor
  · have hclock : (TrackedBody.fallen c c.stepCount).simulation.time = c.stepCount * c.dt := rfl
    have hdrift : ¬ c.dt * World.allowedDrift < |c.stepCount * c.dt - 0 - c.duration| := by
      rw [not_lt, sub_zero, abs_of_nonneg (sub_nonneg.mpr hle)]
      norm_num [World.allowedDrift]
      linarith
    simp only [runStack, observeStack_eq hcheck hforce, World.conclude, hclock, Scalar.abs_real,
      if_neg hdrift]
    refine ⟨_, rfl, FallReport.of_traces hne hdt rfl ?_ rfl, rfl⟩
    exact sub_zero _
  · refine ⟨_, _, _, TrackedBody.ofConfig_eq hmass, TrackedBody.reference_initial c,
      TrackedBody.configure_initial hdt, ?_⟩
    intro k _
    refine ⟨_, _, TrackedBody.stepMany_fallen hmass hdt hforce k, ?_⟩
    rw [TrackedBody.applyForce_fallen hforce]
    exact TrackedBody.contacts_fallen c k

/-- A run of two steps with a heavy top sphere. -/
noncomputable def Config.twoSteps : Config ℝ :=
  { Config.default with dt := 0.5, mass := 3.0, gravity := -2.0, duration := 1 }

/-- Its greatest errors of velocity and position, and its mean error of energy. -/
theorem runStack_twoSteps : Config.twoSteps.check = .ok () ∧ Config.twoSteps.force = 0 ∧
    ⌈Config.twoSteps.duration / Config.twoSteps.dt⌉₊ < 2 ^ 64 ∧
    ∃ report, (runStack Config.twoSteps 0 .empty).1 = .ok report ∧ report.steps = 2 ∧
      report.simTime = 1 ∧ report.traces.velocity.magnitude.value? .maxAbs = some 2 ∧
      report.traces.position.magnitude.value? .maxAbs = some (3 / 2) ∧
      report.traces.energy.value? .mean = some (-1 / 12) := by
  have hcheck : Config.twoSteps.check = .ok () := by
    rw [Config.check_eq_ok_iff]
    norm_num [Config.twoSteps, Config.default]
  have hforce : Config.twoSteps.force = 0 := rfl
  have hceil : ⌈Config.twoSteps.duration / Config.twoSteps.dt⌉₊ = 2 := by
    norm_num [Config.twoSteps]
  have hsteps : ⌈Config.twoSteps.duration / Config.twoSteps.dt⌉₊ < 2 ^ 64 := by norm_num [hceil]
  obtain ⟨⟨report, hok, hreport, _⟩, _⟩ := runStack_unpushed hcheck hforce hsteps 0 .empty
  rw [hceil] at hreport
  refine ⟨hcheck, hforce, hsteps, report, hok, hreport.steps, hreport.simTime.trans ?_,
    hreport.velocity_maxAbs.trans ?_, hreport.position_maxAbs.trans ?_,
    hreport.energy_mean.trans ?_⟩
  all_goals norm_num [Config.twoSteps]

end SphereBench
