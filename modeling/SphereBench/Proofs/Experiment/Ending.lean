import Mathlib.Logic.ExistsUnique
import SphereBench.Proofs.Experiment.Batch
import SphereBench.Proofs.Experiment.Logbook
/-!
# How a run ends

A run can be refused for its configuration, be interrupted by its world, end at the wrong time, or
be completed. In each case it is known what becomes of the world and of the logbook, whatever the
world is; and from the result alone one can tell which case it was. The logbook of a completed run
has the eleven entries that `Report.EnteredIn` lists, and those that it had under other names.
-/

namespace SphereBench

/-- How a run can end. -/
inductive Ending where
  /-- The configuration was not accepted. -/
  | refused
  /-- The world failed, or showed something of the wrong shape. -/
  | interrupted
  /-- All steps were taken, but the clock is too far from the duration. -/
  | drifted
  | completed
  deriving DecidableEq, Repr

/-- The way in which a run has ended, told from its result. A stack that cannot be built has had no
run. -/
def Ending.of? {K ε α : Type} : Except (RunError K ε) α → Option Ending
  | .error (.build _) => none
  | .error (.invalidConfig _) => some refused
  | .error (.world _) => some interrupted
  | .error (.shape _ _ _) => some interrupted
  | .error (.drift _ _ _) => some drifted
  | .ok _ => some completed

/-- The names under which a completed run leaves entries. -/
def Report.names : List String :=
  ["wallTime", "simTime", "timeRatio", "energy0", "energyError", "angMomentum0", "angMomentumErr",
    "linPositionErr", "linVelocityErr", "rmsErrorTotal", "constraintResidualTotal"]

variable {K σ ε : Type}

/-- An interaction fails because of the world, or because of the shape of what it shows. -/
theorem Ending.of?_answer {w : World K σ ε} {s s' : σ} {q : Interaction K} {e : RunError K ε}
    (h : w.answer q s = (.error e, s')) :
    Ending.of? (α := Report K) (.error e) = some .interrupted := by
  have haction {x : Except ε Unit} (hx : x.mapError RunError.world = .error e) :
      Ending.of? (α := Report K) (.error e) = some .interrupted := by
    cases x with
    | error cause =>
      cases hx
      rfl
    | ok _ => cases hx
  cases q with
  | sample quantity expected =>
    by_cases hshape : (w.sample s quantity).shape = expected
    · simp [World.answer, hshape] at h
    · simp only [World.answer, if_neg hshape] at h
      cases h
      rfl
  | configure settings => exact haction (congrArg Prod.fst h)
  | applyForce force => exact haction (congrArg Prod.fst h)
  | step => exact haction (congrArg Prod.fst h)

variable [Scalar K]

namespace Report

/-- A logbook with the entries of a completed run: five values, and the statistics of six signals,
of which those of vectors are entered by their magnitudes. -/
structure EnteredIn (r : Report K) (book : Logbook K) : Prop where
  wallTime : book.get? "wallTime" = some (.value r.wallTime)
  simTime : book.get? "simTime" = some (.value r.simTime)
  timeRatio : book.get? "timeRatio" = some (.value r.timeRatio)
  energy0 : book.get? "energy0" = some (.value r.energy0)
  energyError : book.get? "energyError" = some (.statistics r.traces.energy.values)
  angMomentum0 : book.get? "angMomentum0" = some (.value r.angularMomentum0)
  angMomentumErr : book.get? "angMomentumErr" =
    some (.statistics r.traces.angularMomentum.magnitude.values)
  linPositionErr : book.get? "linPositionErr" =
    some (.statistics r.traces.position.magnitude.values)
  linVelocityErr : book.get? "linVelocityErr" =
    some (.statistics r.traces.velocity.magnitude.values)
  rmsErrorTotal : book.get? "rmsErrorTotal" = some (.statistics r.traces.change.values)
  constraintResidualTotal : book.get? "constraintResidualTotal" =
    some (.statistics r.traces.residual.values)

theorem names_eq (r : Report K) : names = "wallTime" :: r.entries.map (·.1) := rfl

/-- The entries of a report are found under their names, whatever was there before. -/
theorem enteredIn_insertAll (r : Report K) (book : Logbook K) :
    r.EnteredIn (book.insertAll (("wallTime", .value r.wallTime) :: r.entries)) := by
  have hfound : ∀ e ∈ ("wallTime", .value r.wallTime) :: r.entries,
      (book.insertAll (("wallTime", .value r.wallTime) :: r.entries)).get? e.1 = some e.2 := by
    intro e he
    apply Logbook.get?_insertAll_of_mem ?_ he
    rw [List.map_cons, ← names_eq]
    decide
  simp only [entries, List.forall_mem_cons] at hfound
  obtain ⟨hwallTime, hsimTime, htimeRatio, henergy0, henergy, hangular0, hangular, hposition,
    hvelocity, hchange, hresidual, -⟩ := hfound
  exact ⟨hwallTime, hsimTime, htimeRatio, henergy0, henergy, hangular0, hangular, hposition,
    hvelocity, hchange, hresidual⟩

end Report

namespace World

/-- What a report says of a completed run apart from its signals: the steps, the times, and how
large the energy and the angular momentum were before the first step. -/
structure Reports (w : World K σ ε) (c : Config K) (wallTime : K) (s s' : σ) (r : Report K) :
    Prop where
  steps : r.steps = c.stepCount
  wallTime : r.wallTime = wallTime
  simTime : r.simTime = w.time s' - w.time s
  timeRatio : r.timeRatio = r.wallTime / r.simTime
  energy0 : w.sample s .energy = .scalar r.energy0
  angularMomentum0 : ∃ h, w.sample s .angularMomentum = .vector h ∧ r.angularMomentum0 = h.length

/-- What an ending means: the result of the run, the logbook and the world that it leaves, and the
actions that it has asked for. -/
def EndsBy (w : World K σ ε) (c : Config K) (wallTime : K) (book : Logbook K) (s : σ) :
    Ending → Prop
  | .refused => ∃ fault, c.check = .error fault ∧
      w.conduct c wallTime book s = ⟨.error (.invalidConfig fault), book, s⟩ ∧
      w.actions c wallTime book s = []
  | .interrupted => c.check = .ok () ∧ ∃ before q after s₁ e s',
      c.script = before ++ q :: after ∧
      w.replay before s = (.ok (), s₁) ∧ w.answer q s₁ = (.error e, s') ∧
      w.conduct c wallTime book s = ⟨.error e, book, s'⟩ ∧
      w.actions c wallTime book s = (before ++ [q]).filter Interaction.isAction
  | .drifted => c.check = .ok () ∧ ∃ s' book',
      w.replay c.script s = (.ok (), s') ∧
      c.dt * 1.1 < Scalar.abs (w.time s' - w.time s - c.duration) ∧
      w.conduct c wallTime book s =
        ⟨.error (.drift c.duration (w.time s' - w.time s) (c.dt * 1.1)), book', s'⟩ ∧
      w.actions c wallTime book s = c.script.filter Interaction.isAction ∧
      book'.get? "wallTime" = some (.value wallTime) ∧
      ∀ name, name ≠ "wallTime" → book'.get? name = book.get? name
  | .completed => c.check = .ok () ∧ ∃ s' report book',
      w.replay c.script s = (.ok (), s') ∧
      ¬ c.dt * 1.1 < Scalar.abs (w.time s' - w.time s - c.duration) ∧
      w.conduct c wallTime book s = ⟨.ok report, book', s'⟩ ∧
      w.actions c wallTime book s = c.script.filter Interaction.isAction ∧
      w.Reports c wallTime s s' report ∧
      report.EnteredIn book' ∧
      ∀ name, name ∉ Report.names → book'.get? name = book.get? name

variable {w : World K σ ε} {c : Config K} {wallTime : K} {book : Logbook K} {s s' : σ}

/-- The result of a run tells how it ended. -/
theorem EndsBy.of?_result {ending : Ending} (h : w.EndsBy c wallTime book s ending) :
    Ending.of? (w.conduct c wallTime book s).result = some ending := by
  cases ending with
  | refused =>
    obtain ⟨fault, -, hrun, -⟩ := h
    rw [hrun]
    rfl
  | interrupted =>
    obtain ⟨-, before, q, after, s₁, e, s', -, -, hq, hrun, -⟩ := h
    rw [hrun]
    exact Ending.of?_answer hq
  | drifted =>
    obtain ⟨-, s', book', -, -, hrun, -⟩ := h
    rw [hrun]
    rfl
  | completed =>
    obtain ⟨-, s', report, book', -, -, hrun, -⟩ := h
    rw [hrun]
    rfl

/-- A run leaves entries under the names of a report alone. -/
theorem get?_book_conduct {name : String} (hname : name ∉ Report.names) :
    (w.conduct c wallTime book s).book.get? name = book.get? name := by
  have hwall : name ≠ "wallTime" := fun h => hname (h ▸ List.mem_cons_self)
  rw [conduct]
  rcases w.observe c s with ⟨e | o, s'⟩
  · rfl
  · simp only [conclude]
    split
    · rw [Logbook.get?_insert, if_neg hwall]
    · rw [Logbook.get?_insertAll_of_not_mem (fun h => hname (List.mem_cons_of_mem _ h)),
        Logbook.get?_insert, if_neg hwall]

/-- A configuration that is refused leaves world and logbook alone. -/
theorem endsBy_refused {fault : ConfigFault} (hcheck : c.check = .error fault) :
    w.EndsBy c wallTime book s .refused := by
  refine ⟨fault, hcheck, ?_, ?_⟩
  · rw [conduct, observe, hcheck]
  · rw [actions, state_conduct, observe, hcheck]

/-- The first failure ends a run and leaves the logbook alone. -/
theorem endsBy_interrupted {e : RunError K ε} (hcheck : c.check = .ok ())
    (hreplay : w.replay c.script s = (.error e, s')) :
    w.EndsBy c wallTime book s .interrupted := by
  have hobserve := outcome_eq_error ((w.outcome_observe hcheck s).trans hreplay)
  obtain ⟨before, q, after, s₁, hscript, hbefore, hq⟩ := replay_eq_error_iff.mp hreplay
  refine ⟨hcheck, before, q, after, s₁, e, s', hscript, hbefore, hq, ?_, ?_⟩
  · rw [conduct, hobserve]
  · have hrecord := recorded_replay_error hbefore hq after []
    rw [← hscript] at hrecord
    exact actions_eq hcheck hrecord wallTime book

/-- A run whose clock is right ends with a report, and makes the entries of this report. -/
theorem exists_reports_of_observe {o : Observation K} (hobserve : w.observe c s = (.ok o, s'))
    (hclock : ¬ c.dt * 1.1 < Scalar.abs (w.time s' - w.time s - c.duration)) :
    ∃ report, w.Reports c wallTime s s' report ∧
      w.conduct c wallTime book s = ⟨.ok report,
        book.insertAll (("wallTime", .value report.wallTime) :: report.entries), s'⟩ := by
  obtain ⟨-, hstart, hreference, -⟩ := observe_eq_ok hobserve
  have hfirst : w.Shows s o.reference := Instrument.reference_eq_ok_iff.mp hreference
  have hsimTime : w.time s' - o.start = w.time s' - w.time s := by rw [hstart]
  simp only [conduct, hobserve, conclude, hsimTime, allowedDrift, if_neg hclock]
  refine ⟨_, ?_, rfl⟩
  exact ⟨rfl, rfl, rfl, rfl, hfirst.energy, _, hfirst.angularMomentum, rfl⟩

/-- A run through all steps makes its entries, but only that of the computing time if the clock is
wrong. -/
theorem endsBy_of_replay (hcheck : c.check = .ok ())
    (hreplay : w.replay c.script s = (.ok (), s')) :
    w.EndsBy c wallTime book s
      (if c.dt * 1.1 < Scalar.abs (w.time s' - w.time s - c.duration) then .drifted
      else .completed) := by
  have hactions := actions_eq hcheck (recorded_replay hreplay []) wallTime book
  obtain ⟨o, hobserve⟩ := outcome_eq_ok ((w.outcome_observe hcheck s).trans hreplay)
  have hclock : w.time s' - o.start = w.time s' - w.time s := by rw [(observe_eq_ok hobserve).2.1]
  by_cases hdrift : c.dt * 1.1 < Scalar.abs (w.time s' - w.time s - c.duration)
  · rw [if_pos hdrift]
    refine ⟨hcheck, s', book.insert "wallTime" (.value wallTime), hreplay, hdrift, ?_, hactions, ?_,
      ?_⟩
    · simp only [conduct, hobserve, conclude, hclock, allowedDrift, if_pos hdrift]
    · rw [Logbook.get?_insert, if_pos rfl]
    · intro name hname
      rw [Logbook.get?_insert, if_neg hname]
  · rw [if_neg hdrift]
    obtain ⟨report, hreports, hrun⟩ := exists_reports_of_observe hobserve hdrift
    refine ⟨hcheck, s', report, _, hreplay, hdrift, hrun, hactions, hreports,
      report.enteredIn_insertAll book, ?_⟩
    intro name hname
    have hbook : (w.conduct c wallTime book s).book.get? name = book.get? name :=
      get?_book_conduct hname
    rw [hrun] at hbook
    exact hbook

/-- Every run ends in exactly one of the four ways. -/
theorem existsUnique_ending (w : World K σ ε) (c : Config K) (wallTime : K) (book : Logbook K)
    (s : σ) : ∃! ending, w.EndsBy c wallTime book s ending := by
  have hunique {ending : Ending} (h : w.EndsBy c wallTime book s ending) :
      ∃! ending, w.EndsBy c wallTime book s ending :=
    ⟨ending, h, fun _ h' => Option.some.inj (h'.of?_result.symm.trans h.of?_result)⟩
  cases hcheck : c.check with
  | error fault => exact hunique (endsBy_refused hcheck)
  | ok _ =>
    rcases hreplay : w.replay c.script s with ⟨e | ⟨⟩, s'⟩
    · exact hunique (endsBy_interrupted hcheck hreplay)
    · exact hunique (endsBy_of_replay hcheck hreplay)

/-- However a run ends, its parameters are found where they were entered before it. -/
theorem get?_property_conduct {w : World Float σ ε} {c : Config Float} {wallTime : Float}
    {book : Logbook Float} {s : σ} {e : String × Entry Float} (he : e ∈ c.properties) :
    (w.conduct c wallTime (c.enterIn book) s).book.get? e.1 = some e.2 := by
  have hnames : c.properties.map (·.1) =
      ["engine", "iters", "dt", "mass", "gravity", "force", "tolerance"] := rfl
  have hdisjoint : ∀ name ∈ c.properties.map (·.1), name ∉ Report.names := by
    rw [hnames]
    decide
  rw [get?_book_conduct (hdisjoint e.1 (List.mem_map_of_mem he))]
  apply Logbook.get?_insertAll_of_mem ?_ he
  rw [hnames]
  decide

end World

end SphereBench
