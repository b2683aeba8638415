import Mathlib.Logic.Function.Iterate
import SphereBench.Proofs.Experiment.Config
import SphereBench.Proofs.Experiment.Interaction
import SphereBench.Proofs.Experiment.Trial
/-!
# Runs in one batch

A run takes its samples one by one while the world moves on. What it reports could as well have been
computed afterwards, from the list of everything that the world has shown: the signals are those of
the differences in order, and they depend on the world in no other way.
-/

namespace SphereBench
variable {K σ ε : Type}

namespace Instrument

/-- What a state shows of the tracked body. -/
structure Shows (i : Instrument K σ) (s : σ) (r : Reference K) : Prop where
  position : i.sample s .position = .vector r.position
  velocity : i.sample s .linearVelocity = .vector r.velocity
  angularMomentum : i.sample s .angularMomentum = .vector r.angularMomentum
  energy : i.sample s .energy = .scalar r.energy

variable {i : Instrument K σ} {s : σ}

theorem vector_eq_ok_iff {quantity : Observable} {v : Vec3 K} :
    (i.vector s quantity : Except (RunError K ε) (Vec3 K)) = .ok v ↔
      i.sample s quantity = .vector v := by
  rw [vector]
  cases i.sample s quantity <;> simp

theorem scalar_eq_ok_iff {quantity : Observable} {x : K} :
    (i.scalar s quantity : Except (RunError K ε) K) = .ok x ↔ i.sample s quantity = .scalar x := by
  rw [scalar]
  cases i.sample s quantity <;> simp

theorem reference_eq_ok_iff {r : Reference K} :
    (i.reference s : Except (RunError K ε) (Reference K)) = .ok r ↔ i.Shows s r := by
  simp only [reference, bind_eq_ok_iff, vector_eq_ok_iff, scalar_eq_ok_iff]
  constructor
  · rintro ⟨p, hp, v, hv, h, hh, e, he, hr⟩
    cases hr
    exact ⟨hp, hv, hh, he⟩
  · intro h
    exact ⟨_, h.position, _, h.velocity, _, h.angularMomentum, _, h.energy, rfl⟩

variable [Scalar K]

/-- What is observed after a step is taken into the traces, whatever it is. -/
theorem addTo_eq_ok_iff {r : Reference K} {t t' : Traces K} :
    (i.addTo r t s : Except (RunError K ε) (Traces K)) = .ok t' ↔
      ∃ seen, i.Shows s seen ∧
        t' = t.add r seen.velocity seen.position seen.angularMomentum seen.energy
          (i.diagnostics s) := by
  simp only [addTo, bind_eq_ok_iff, vector_eq_ok_iff, scalar_eq_ok_iff]
  constructor
  · rintro ⟨v, hv, p, hp, h, hh, e, he, ht⟩
    cases ht
    exact ⟨⟨p, v, h, e⟩, ⟨hp, hv, hh, he⟩, rfl⟩
  · rintro ⟨seen, h, rfl⟩
    exact ⟨_, h.velocity, _, h.position, _, h.angularMomentum, _, h.energy, rfl⟩

end Instrument

namespace Traces
variable [Scalar K]

/-- The signals of a run of `n` steps, in one batch: the differences between what is seen after each
step and what is seen first, in order, and of the solver what it reports, where it reports. -/
def batch (first : Reference K) (seen : ℕ → Reference K) (reported : ℕ → Option (Convergence K))
    (n : ℕ) : Traces K :=
  let steps := List.range' 1 n
  let signal (xs : List K) : Signal K :=
    (Signal.empty.enableKinds [.maxAbs, .variance, .mean]).extend xs
  let vectors (vs : List (Vec3 K)) : VectorSignal K :=
    (VectorSignal.empty.enableKinds [.maxAbs, .variance, .mean]).extend vs
  { position := vectors (steps.map fun k => (seen k).position - first.position)
    velocity := vectors (steps.map fun k => (seen k).velocity - first.velocity)
    angularMomentum := vectors (steps.map fun k =>
      if first.angularMomentum.length == 0 then (seen k).angularMomentum - first.angularMomentum
      else ((seen k).angularMomentum - first.angularMomentum) / first.angularMomentum.length)
    energy := signal (steps.map fun k =>
      if first.energy == 0 then (seen k).energy - first.energy
      else ((seen k).energy - first.energy) / first.energy)
    change := signal ((steps.filterMap reported).map (·.change))
    residual := signal ((steps.filterMap reported).map (·.residual)) }

variable (first : Reference K) (seen : ℕ → Reference K) (reported : ℕ → Option (Convergence K))
  (n : ℕ)

theorem batch_eq_ofSamples : batch first seen reported n =
    ofSamples ((List.range' 1 n).map fun k => (seen k).position - first.position)
      ((List.range' 1 n).map fun k => (seen k).velocity - first.velocity)
      ((List.range' 1 n).map fun k =>
        relativeOffset (seen k).angularMomentum first.angularMomentum first.angularMomentum.length)
      ((List.range' 1 n).map fun k => relativeChange (seen k).energy first.energy)
      (((List.range' 1 n).filterMap reported).map (·.change))
      (((List.range' 1 n).filterMap reported).map (·.residual)) := rfl

/-- One more step adds what is seen and reported after it. -/
theorem batch_succ : batch first seen reported (n + 1) =
    (batch first seen reported n).add first (seen (n + 1)).velocity (seen (n + 1)).position
      (seen (n + 1)).angularMomentum (seen (n + 1)).energy (reported (n + 1)) := by
  have hreported : [n + 1].filterMap reported = (reported (n + 1)).toList := by
    cases h : reported (n + 1) <;> simp [h]
  rw [batch_eq_ofSamples, batch_eq_ofSamples, add_ofSamples, List.range'_1_concat, Nat.add_comm 1 n,
    List.filterMap_append, hreported]
  simp only [List.map_append, List.map_singleton]

/-- Four of the signals have a sample for every step, the other two one for every report of the
solver. -/
theorem count_batch :
    (batch first seen reported n).position.count = n ∧
      (batch first seen reported n).velocity.count = n ∧
      (batch first seen reported n).angularMomentum.count = n ∧
      (batch first seen reported n).energy.count = n ∧
      (batch first seen reported n).change.count =
        (List.range' 1 n).countP (fun k => (reported k).isSome) ∧
      (batch first seen reported n).residual.count =
        (List.range' 1 n).countP (fun k => (reported k).isSome) := by
  have hvectors (f : ℕ → Vec3 K) : ((VectorSignal.empty.enableKinds
      [.maxAbs, .variance, .mean]).extend ((List.range' 1 n).map f)).count = n := by
    rw [VectorSignal.count_extend, List.length_map, List.length_range']
    exact Nat.zero_add n
  have hsignal (xs : List K) : ((Signal.empty.enableKinds
      [.maxAbs, .variance, .mean]).extend xs).count = xs.length := by
    rw [Signal.count_extend]
    exact Nat.zero_add _
  refine ⟨hvectors _, hvectors _, hvectors _, (hsignal _).trans ?_, (hsignal _).trans ?_,
    (hsignal _).trans ?_⟩
  · rw [List.length_map, List.length_range']
  · rw [List.length_map, List.length_filterMap_eq_countP]
  · rw [List.length_map, List.length_filterMap_eq_countP]

end Traces

namespace World
variable [Scalar K] {w : World K σ ε} {force : Vec3 K} {r : Reference K}

/-- The state after a step under a force, accepted or not. -/
def next (w : World K σ ε) (force : Vec3 K) (s : σ) : σ := (w.step (w.applyForce force s).2).2

/-- A step under a force that is accepted, and what the world shows after it. -/
structure StepShows (w : World K σ ε) (force : Vec3 K) (s : σ) (seen : Reference K) : Prop where
  applied : (w.applyForce force s).1 = .ok ()
  stepped : (w.step (w.applyForce force s).2).1 = .ok ()
  shows : w.Shows (w.next force s) seen

theorem stepOnce_eq_ok_iff {t t' : Traces K} {s s' : σ} :
    w.stepOnce force r t s = (.ok t', s') ↔
      s' = w.next force s ∧ ∃ seen, w.StepShows force s seen ∧
        t' = t.add r seen.velocity seen.position seen.angularMomentum seen.energy
          (w.diagnostics s') := by
  constructor
  · intro h
    rcases hforce : w.applyForce force s with ⟨e | ⟨⟩, s₁⟩
    · simp [stepOnce, hforce] at h
    · rcases hstep : w.step s₁ with ⟨e | ⟨⟩, s₂⟩
      · simp [stepOnce, hforce, hstep] at h
      · rw [stepOnce_eq hforce hstep, Prod.mk.injEq, Instrument.addTo_eq_ok_iff] at h
        obtain ⟨⟨seen, hseen, ht⟩, rfl⟩ := h
        have hnext : w.next force s = s₂ := by rw [next, hforce, hstep]
        refine ⟨hnext.symm, seen, ⟨by rw [hforce], by rw [hforce, hstep], ?_⟩, ht⟩
        rw [hnext]
        exact hseen
  · rintro ⟨rfl, seen, h, ht⟩
    have hforce : w.applyForce force s = (.ok (), (w.applyForce force s).2) :=
      Prod.ext h.applied rfl
    have hstep : w.step (w.applyForce force s).2 = (.ok (), w.next force s) :=
      Prod.ext h.stepped rfl
    rw [stepOnce_eq hforce hstep, Prod.mk.injEq, Instrument.addTo_eq_ok_iff]
    exact ⟨⟨seen, h.shows, ht⟩, rfl⟩

/-- A run through all steps has accepted each of them and seen something after it. -/
theorem stepMany_eq_ok {n : ℕ} {t t' : Traces K} {s s' : σ}
    (h : w.stepMany force r n t s = (.ok t', s')) :
    s' = (w.next force)^[n] s ∧ ∃ seen : ℕ → Reference K,
      ∀ k < n, w.StepShows force ((w.next force)^[k] s) (seen (k + 1)) := by
  induction n generalizing t s with
  | zero =>
    cases h
    exact ⟨rfl, fun _ => r, fun k hk => absurd hk (Nat.not_lt_zero k)⟩
  | succ n ih =>
    rw [stepMany] at h
    rcases hstep : w.stepOnce force r t s with ⟨e | t₁, s₁⟩
    · simp [hstep] at h
    · rw [hstep] at h
      obtain ⟨rfl, first, hfirst, -⟩ := stepOnce_eq_ok_iff.mp hstep
      obtain ⟨hs', rest, hrest⟩ := ih h
      -- The steps of the rest are counted from the second one on.
      refine ⟨hs', fun k => if k = 1 then first else rest (k - 1), ?_⟩
      intro k hk
      cases k with
      | zero => exact hfirst
      | succ k => exact hrest k (by omega)

/-- A run along accepted steps has the signals of the batch. -/
theorem stepMany_eq_batch (r : Reference K) (seen : ℕ → Reference K) {n : ℕ} {s : σ}
    (h : ∀ k < n, w.StepShows force ((w.next force)^[k] s) (seen (k + 1))) :
    w.stepMany force r n .start s =
      (.ok (.batch r seen (fun k => w.diagnostics ((w.next force)^[k] s)) n),
        (w.next force)^[n] s) := by
  apply stepMany_eq (T := .batch r seen fun k => w.diagnostics ((w.next force)^[k] s))
    (S := fun k => (w.next force)^[k] s)
  intro k hk
  rw [stepOnce_eq_ok_iff, Function.iterate_succ_apply']
  refine ⟨rfl, seen (k + 1), h k hk, ?_⟩
  rw [Traces.batch_succ, Function.iterate_succ_apply']

/-- The state of the world after some steps of a run, as long as it is not stopped. -/
def stateAt (w : World K σ ε) (c : Config K) (s : σ) (k : ℕ) : σ :=
  (w.next c.push)^[k] (w.configure c.settings s).2

/-- What precedes the end of a completed run is determined by what the world shows. -/
theorem observe_eq_batch {c : Config K} {o : Observation K} {s s' : σ}
    (h : w.observe c s = (.ok o, s')) :
    w.Shows s o.reference ∧ s' = w.stateAt c s c.stepCount ∧ ∃ seen : ℕ → Reference K,
      (∀ k, 1 ≤ k → k ≤ c.stepCount → w.Shows (w.stateAt c s k) (seen k)) ∧
      o.traces = .batch o.reference seen (fun k => w.diagnostics (w.stateAt c s k))
        c.stepCount := by
  obtain ⟨-, -, hfirst, s₁, hconfigure, hsteps⟩ := observe_eq_ok h
  have hstart : s₁ = w.stateAt c s 0 := (congrArg Prod.snd hconfigure).symm
  subst hstart
  obtain ⟨hstate, seen, hseen⟩ := stepMany_eq_ok hsteps
  refine ⟨Instrument.reference_eq_ok_iff.mp hfirst, hstate, seen, ?_, ?_⟩
  · intro k hk hkn
    obtain ⟨j, rfl⟩ := Nat.exists_eq_add_of_le' hk
    have hshows := (hseen j (by omega)).shows
    rw [stateAt, Function.iterate_succ_apply']
    exact hshows
  · have hrun := hsteps.symm.trans (stepMany_eq_batch o.reference seen hseen)
    exact Except.ok.inj (Prod.mk.inj hrun).1

theorem conduct_eq_ok {c : Config K} {wallTime : K} {book : Logbook K} {s : σ} {report : Report K}
    (h : (w.conduct c wallTime book s).result = .ok report) :
    ∃ o s', w.observe c s = (.ok o, s') ∧ report.traces = o.traces := by
  rw [conduct] at h
  rcases hobserve : w.observe c s with ⟨e | o, s'⟩
  · simp [hobserve] at h
  · refine ⟨o, s', rfl, ?_⟩
    simp only [hobserve, conclude] at h
    split at h
    · cases h
    · cases h
      rfl

end World

/-- The actions of a run: the settings, and then in turn the force and the step. -/
theorem Config.filter_script [Scalar K] (c : Config K) :
    c.script.filter Interaction.isAction = .configure ⟨c.dt, c.iterations, c.tolerance⟩ ::
      (List.replicate c.stepCount [.applyForce ⟨0, 0, c.force⟩, .step]).flatten := by
  rw [script, List.filter_append, List.filter_cons_of_pos rfl, List.filter_flatten,
    List.map_replicate]
  rfl

namespace World
variable [Scalar K] {w : World K σ ε}

/-- A run that ends with a report has taken its samples as if in one batch. The world was asked for
nothing but the settings, after its first observation, and then in turn for the force and a step; it
accepted everything, and the signals of the report are those of what it showed. -/
theorem conduct_eq_batch {c : Config K} {wallTime : K} {book : Logbook K} {s : σ}
    {report : Report K} (h : (w.conduct c wallTime book s).result = .ok report) :
    ∃ (first : Reference K) (seen : ℕ → Reference K),
      w.Shows s first ∧
      (∀ k, 1 ≤ k → k ≤ c.stepCount → w.Shows (w.stateAt c s k) (seen k)) ∧
      w.replay c.script s = (.ok (), w.stateAt c s c.stepCount) ∧
      (w.conduct c wallTime book s).state = w.stateAt c s c.stepCount ∧
      w.actions c wallTime book s = .configure ⟨c.dt, c.iterations, c.tolerance⟩ ::
        (List.replicate c.stepCount [.applyForce ⟨0, 0, c.force⟩, .step]).flatten ∧
      report.traces =
        .batch first seen (fun k => w.diagnostics (w.stateAt c s k)) c.stepCount ∧
      report.traces.velocity.count = c.stepCount ∧
      report.traces.position.count = c.stepCount ∧
      report.traces.angularMomentum.count = c.stepCount ∧
      report.traces.energy.count = c.stepCount ∧
      report.traces.change.count = (List.range' 1 c.stepCount).countP
        (fun k => (w.diagnostics (w.stateAt c s k)).isSome) ∧
      report.traces.residual.count = (List.range' 1 c.stepCount).countP
        (fun k => (w.diagnostics (w.stateAt c s k)).isSome) := by
  obtain ⟨o, s', hobserve, htraces⟩ := conduct_eq_ok h
  obtain ⟨hfirst, rfl, seen, hseen, hbatch⟩ := observe_eq_batch hobserve
  have hcheck := (observe_eq_ok hobserve).1
  have hreplay : w.replay c.script s = (.ok (), w.stateAt c s c.stepCount) := by
    rw [← outcome_observe w hcheck, hobserve]
    rfl
  have hcount := Traces.count_batch o.reference seen (fun k => w.diagnostics (w.stateAt c s k))
    c.stepCount
  rw [← hbatch, ← htraces] at hcount
  obtain ⟨hposition, hvelocity, hangular, henergy, hchange, hresidual⟩ := hcount
  refine ⟨o.reference, seen, hfirst, hseen, hreplay, ?_, ?_, htraces.trans hbatch, hvelocity,
    hposition, hangular, henergy, hchange, hresidual⟩
  · rw [state_conduct, hobserve]
  · rw [actions_eq hcheck (recorded_replay hreplay []), List.nil_append, Config.filter_script]

/-- A body that glides along the z axis and never stops. The solver reports on the first of its
steps only. -/
noncomputable def glider : World ℝ ℕ Unit where
  time k := k * 0.5
  sample k
    | .position => .vector (.alongZ (k * 0.5))
    | .linearVelocity => .vector (.alongZ 1)
    | .angularVelocity => .vector 0
    | .angularMomentum => .vector 0
    | .energy => .scalar 1
  diagnostics k := if k = 1 then some ⟨1, 0⟩ else none
  configure _ k := (.ok (), k)
  applyForce _ k := (.ok (), k)
  step k := (.ok (), k + 1)

/-- What is seen of it after some steps. -/
noncomputable def gliderSeen (k : ℕ) : Reference ℝ := ⟨.alongZ (k * 0.5), .alongZ 1, 0, 1⟩

/-- Two steps of half a time unit. -/
noncomputable def gliderRun : Config ℝ := { Config.default with dt := 0.5, duration := 1 }

/-- In two steps the world is asked for five actions, and the solver has reported once. -/
theorem batch_glider : ∃ report,
    (glider.conduct gliderRun 0 .empty 0).result = .ok report ∧
      glider.actions gliderRun 0 .empty 0 =
        [.configure gliderRun.settings, .applyForce 0, .step, .applyForce 0, .step] ∧
      report.traces.energy.count = 2 ∧ report.traces.change.count = 1 := by
  have hcheck : gliderRun.check = .ok () := by
    rw [Config.check_eq_ok_iff]
    norm_num [gliderRun, Config.default]
  have hcount : gliderRun.stepCount = 2 := by
    rw [Config.stepCount_eq] <;> norm_num [gliderRun]
  have hshows (k : ℕ) : glider.Shows k (gliderSeen k) := ⟨rfl, rfl, rfl, rfl⟩
  have hnext (k : ℕ) : (glider.next gliderRun.push)^[k] 0 = k := by
    induction k with
    | zero => rfl
    | succ k ih =>
      rw [Function.iterate_succ_apply', ih]
      rfl
  have hsteps : ∀ k < gliderRun.stepCount, glider.StepShows gliderRun.push
      ((glider.next gliderRun.push)^[k] 0) (gliderSeen (k + 1)) := by
    intro k _
    rw [hnext]
    exact ⟨rfl, rfl, hshows (k + 1)⟩
  have hrun := stepMany_eq_batch (gliderSeen 0) gliderSeen hsteps
  rw [hnext] at hrun
  have hobserve := observe_eq hcheck (Instrument.reference_eq_ok_iff.mpr (hshows 0)) rfl hrun
  have hdrift : ¬ gliderRun.dt * allowedDrift <
      Scalar.abs (glider.time gliderRun.stepCount - glider.time 0 - gliderRun.duration) := by
    rw [hcount]
    norm_num [glider, gliderRun, allowedDrift]
  obtain ⟨report, hreport⟩ : ∃ report,
      (glider.conduct gliderRun 0 .empty 0).result = .ok report := by
    simp only [conduct, hobserve, conclude, if_neg hdrift]
    exact ⟨_, rfl⟩
  have hstate (k : ℕ) : glider.stateAt gliderRun 0 k = k := hnext k
  obtain ⟨first, seen, -, -, -, -, hactions, -, -, -, -, henergy, hchange, -⟩ :=
    conduct_eq_batch hreport
  refine ⟨report, hreport, hactions.trans ?_, henergy.trans hcount, hchange.trans ?_⟩
  · rw [hcount]
    rfl
  · simp only [hstate, hcount]
    simp [List.range', glider]

end World

end SphereBench
