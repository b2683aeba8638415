import SphereBench.Proofs.Experiment.Batch
/-!
# The length of a run

The number of steps is the duration over the time step, rounded up, and at the end of the run the
clock of the world may miss the duration by little more than one time step. The two fit together: a
clock that keeps time never fails the check, whatever the duration is, and for a clock that runs
fast or slow it is known how far it may be off.
-/

namespace SphereBench

/-- A quotient up to the greatest count can be counted. -/
theorem Config.ceil_lt_of_div_le {c : Config ℝ} (h : c.duration / c.dt ≤ 2 ^ 64 - 1) :
    ⌈c.duration / c.dt⌉₊ < 2 ^ 64 := by
  have hceil : ⌈c.duration / c.dt⌉₊ ≤ 2 ^ 64 - 1 := by
    rw [Nat.ceil_le]
    exact_mod_cast h
  omega

namespace World
variable {σ ε : Type} {w : World ℝ σ ε} {c : Config ℝ} {rate : ℝ} {s : σ}

/-- A run in which nothing fails, of a world whose clock may show any time at first. Only the steps
move the clock, each of them by the same multiple of the time step. -/
structure RunsSteadily (w : World ℝ σ ε) (c : Config ℝ) (rate : ℝ) (s : σ) : Prop where
  shows_first : ∃ first, w.Shows s first
  configured : (w.configure c.settings s).1 = .ok ()
  shows_step : ∀ k < c.stepCount, ∃ seen, w.StepShows c.push (w.stateAt c s k) seen
  time_configure : w.time (w.stateAt c s 0) = w.time s
  time_step : ∀ k < c.stepCount,
    w.time (w.stateAt c s (k + 1)) = w.time (w.stateAt c s k) + rate * c.dt

/-- The clock after some of the steps. -/
theorem RunsSteadily.time_stateAt (h : w.RunsSteadily c rate s) {k : ℕ} (hk : k ≤ c.stepCount) :
    w.time (w.stateAt c s k) = w.time s + k * (rate * c.dt) := by
  induction k with
  | zero => rw [h.time_configure, Nat.cast_zero, zero_mul, add_zero]
  | succ k ih =>
    rw [h.time_step k hk, ih (Nat.le_of_succ_le hk)]
    push_cast
    ring

/-- All steps are taken. -/
theorem RunsSteadily.observe_eq_ok (h : w.RunsSteadily c rate s) (hcheck : c.check = .ok ()) :
    ∃ first traces,
      w.observe c s = (.ok ⟨w.time s, first, traces⟩, w.stateAt c s c.stepCount) := by
  obtain ⟨first, hfirst⟩ := h.shows_first
  have : Nonempty (Reference ℝ) := ⟨first⟩
  choose! seen hseen using h.shows_step
  have hsteps := stepMany_eq_batch first (fun k => seen (k - 1)) hseen
  have hconfigure : w.configure c.settings s = (.ok (), (w.configure c.settings s).2) :=
    Prod.ext h.configured rfl
  exact ⟨first, _,
    observe_eq hcheck (Instrument.reference_eq_ok_iff.mpr hfirst) hconfigure hsteps⟩

/-- The verdict on the clock, from the difference that it shows. -/
theorem RunsSteadily.result_conduct (h : w.RunsSteadily c rate s) (hcheck : c.check = .ok ())
    (wallTime : ℝ) (book : Logbook ℝ) :
    (|c.stepCount * rate * c.dt - c.duration| ≤ 1.1 * c.dt → ∃ report,
      (w.conduct c wallTime book s).result = .ok report ∧
        report.simTime = c.stepCount * rate * c.dt) ∧
    (1.1 * c.dt < |c.stepCount * rate * c.dt - c.duration| →
      (w.conduct c wallTime book s).result =
        .error (.drift c.duration (c.stepCount * rate * c.dt) (1.1 * c.dt))) := by
  obtain ⟨first, traces, hobserve⟩ := h.observe_eq_ok hcheck
  have hclock : w.time (w.stateAt c s c.stepCount) - w.time s = c.stepCount * rate * c.dt := by
    rw [h.time_stateAt le_rfl]
    ring
  have htolerance : c.dt * allowedDrift = 1.1 * c.dt := mul_comm _ _
  simp only [conduct, hobserve, conclude, hclock, htolerance, Scalar.abs_real]
  constructor
  · intro hdrift
    rw [if_neg (not_lt.mpr hdrift)]
    exact ⟨_, rfl, rfl⟩
  · intro hdrift
    rw [if_pos hdrift]

/-- **The length of a run.** The number of steps is the least that covers the duration. A clock that
moves by the same multiple of the time step in each of them is accepted exactly if it ends within
the tolerance, and is accepted in particular if that multiple is one. -/
theorem conduct_steadily {c : Config ℝ} (hcheck : c.check = .ok ())
    (hcount : c.duration / c.dt ≤ 2 ^ 64 - 1) :
    1 ≤ c.stepCount ∧ (c.stepCount - 1) * c.dt < c.duration ∧ c.duration ≤ c.stepCount * c.dt ∧
    ∀ {σ ε : Type} (w : World ℝ σ ε) (s : σ) (rate : ℝ), w.RunsSteadily c rate s →
      ∀ (wallTime : ℝ) (book : Logbook ℝ),
      (|c.stepCount * rate * c.dt - c.duration| ≤ 1.1 * c.dt → ∃ report,
        (w.conduct c wallTime book s).result = .ok report ∧
          report.simTime = c.stepCount * rate * c.dt) ∧
      (1.1 * c.dt < |c.stepCount * rate * c.dt - c.duration| →
        (w.conduct c wallTime book s).result =
          .error (.drift c.duration (c.stepCount * rate * c.dt) (1.1 * c.dt))) ∧
      (rate = 1 → ∃ report, (w.conduct c wallTime book s).result = .ok report ∧
        report.simTime = c.stepCount * c.dt) := by
  obtain ⟨hdt, hduration, -⟩ := Config.check_eq_ok_iff.mp hcheck
  have hsteps := Config.ceil_lt_of_div_le hcount
  have hcover := Config.duration_le hdt hsteps
  have hneeded := Config.lt_duration_add hdt hduration hsteps
  refine ⟨Nat.one_le_iff_ne_zero.mpr (Config.stepCount_ne_zero hdt hduration hsteps), by linarith,
    hcover, ?_⟩
  intro σ ε w s rate h wallTime book
  obtain ⟨haccepted, hrefused⟩ := h.result_conduct hcheck wallTime book
  refine ⟨haccepted, hrefused, ?_⟩
  rintro rfl
  -- A clock that keeps time is ahead of the duration, by less than one step.
  have hdrift : |c.stepCount * 1 * c.dt - c.duration| ≤ 1.1 * c.dt := by
    rw [mul_one, abs_of_nonneg (sub_nonneg.mpr hcover)]
    linarith
  simpa only [mul_one] using haccepted hdrift

theorem stateAt_glider (c : Config ℝ) (k : ℕ) : glider.stateAt c 0 k = k := by
  induction k with
  | zero => rfl
  | succ k ih =>
    rw [stateAt, Function.iterate_succ_apply', ← stateAt, ih]
    rfl

/-- The glider runs steadily, but its clock knows only one length of a step. -/
theorem runsSteadily_glider {c : Config ℝ} {rate : ℝ} (hrate : rate * c.dt = 0.5) :
    glider.RunsSteadily c rate 0 := by
  have hshows (k : ℕ) : glider.Shows k (gliderSeen k) := ⟨rfl, rfl, rfl, rfl⟩
  refine ⟨⟨_, hshows 0⟩, rfl, ?_, rfl, ?_⟩
  · intro k _
    rw [stateAt_glider]
    exact ⟨_, rfl, rfl, hshows (k + 1)⟩
  · intro k _
    rw [stateAt_glider, stateAt_glider, hrate]
    simp only [glider]
    push_cast
    ring

/-- Four steps of one time unit. -/
noncomputable def longGliderRun : Config ℝ := { Config.default with dt := 1, duration := 4.0 }

/-- The clock of the glider keeps time with steps of half a unit, and loses half of the time with
steps of a whole one. -/
theorem conduct_glider_steadily :
    (∃ report, (glider.conduct gliderRun 0 .empty 0).result = .ok report ∧ report.simTime = 1) ∧
      (glider.conduct longGliderRun 0 .empty 0).result = .error (.drift 4.0 2 1.1) := by
  have hcheck : gliderRun.check = .ok () := by
    rw [Config.check_eq_ok_iff]
    norm_num [gliderRun, Config.default]
  have hcheckLong : longGliderRun.check = .ok () := by
    rw [Config.check_eq_ok_iff]
    norm_num [longGliderRun, Config.default]
  have hsteps : gliderRun.stepCount = 2 := by
    rw [Config.stepCount_eq] <;> norm_num [gliderRun]
  have hstepsLong : longGliderRun.stepCount = 4 := by
    rw [Config.stepCount_eq] <;> norm_num [longGliderRun]
  obtain ⟨-, -, -, hrun⟩ := conduct_steadily hcheck (by norm_num [gliderRun])
  obtain ⟨-, -, -, hrunLong⟩ := conduct_steadily hcheckLong (by norm_num [longGliderRun])
  obtain ⟨-, -, hkept⟩ := hrun glider 0 1
    (runsSteadily_glider (by norm_num [gliderRun])) 0 .empty
  obtain ⟨-, hlost, -⟩ := hrunLong glider 0 0.5
    (runsSteadily_glider (by norm_num [longGliderRun])) 0 .empty
  constructor
  · obtain ⟨report, hreport, htime⟩ := hkept rfl
    refine ⟨report, hreport, htime.trans ?_⟩
    rw [hsteps]
    norm_num [gliderRun]
  · rw [hlost (by rw [hstepsLong]; norm_num [longGliderRun]), hstepsLong]
    norm_num [longGliderRun]

end World

end SphereBench
