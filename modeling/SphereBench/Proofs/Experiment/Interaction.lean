import SphereBench.Experiment.Trial
import SphereBench.Proofs.Outcome
/-!
# Runs as sequences of interactions

A configuration fixes what a run asks of its world, and in which order: four observations, the
settings, and for every step a force, the step and four observations again. The world decides only
how far the run gets, for the first refusal ends it. A run is therefore as good as the list of its
interactions when the question is whether it fails, with which error, and in which state it leaves
the world. What it makes of the values that it observes is not considered here.

## Main definitions

* `Interaction` — one observation or action.
* `World.answer`, `World.replay` — the answer of a world to one of them, and to several in turn.
* `Config.script` — the interactions of a run.
* `World.recorded` — the same world, keeping a record of the actions that it is asked for.
* `World.actions` — the actions of a run.
-/

namespace SphereBench

/-- One thing that a run asks of its world. -/
inductive Interaction (K : Type) where
  /-- An observation that has to have some shape. -/
  | sample (quantity : Observable) (expected : Shape)
  | configure (settings : StepSettings K)
  | applyForce (force : Vec3 K)
  | step

namespace Interaction
variable {K : Type}

/-- Whether an interaction may change the world. -/
def isAction : Interaction K → Bool
  | sample _ _ => false
  | _ => true

/-- What is observed before the first step. -/
def firstLook : List (Interaction K) :=
  [.sample .position .vector, .sample .linearVelocity .vector, .sample .angularMomentum .vector,
    .sample .energy .scalar]

/-- What is observed after a step. -/
def look : List (Interaction K) :=
  [.sample .linearVelocity .vector, .sample .position .vector, .sample .angularMomentum .vector,
    .sample .energy .scalar]

/-- One step under a force. -/
def round (force : Vec3 K) : List (Interaction K) := .applyForce force :: .step :: look

end Interaction

/-- Everything that a run asks of its world, in order. -/
def Config.script {K : Type} [Scalar K] (c : Config K) : List (Interaction K) :=
  Interaction.firstLook ++
    .configure c.settings :: (List.replicate c.stepCount (Interaction.round c.push)).flatten

namespace World
variable {K σ ε : Type}

/-- The answer of a world to one interaction, and the state after it. An observation of the wrong
shape is refused. -/
def answer (w : World K σ ε) : Interaction K → σ → Except (RunError K ε) Unit × σ
  | .sample quantity expected, s =>
    let found := (w.sample s quantity).shape
    (if found = expected then .ok () else .error (.shape quantity found expected), s)
  | .configure settings, s =>
    ((w.configure settings s).1.mapError .world, (w.configure settings s).2)
  | .applyForce force, s => ((w.applyForce force s).1.mapError .world, (w.applyForce force s).2)
  | .step, s => ((w.step s).1.mapError .world, (w.step s).2)

/-- The answer of a world to several interactions, up to the first failure. -/
def replay (w : World K σ ε) : List (Interaction K) → σ → Except (RunError K ε) Unit × σ
  | [], s => (.ok (), s)
  | q :: qs, s =>
    match w.answer q s with
    | (.error e, s) => (.error e, s)
    | (.ok (), s) => w.replay qs s

variable {w : World K σ ε} {s s₁ s' : σ} {e : RunError K ε}

theorem replay_append (qs rs : List (Interaction K)) (s : σ) :
    w.replay (qs ++ rs) s =
      match w.replay qs s with
      | (.error e, s) => (.error e, s)
      | (.ok (), s) => w.replay rs s := by
  induction qs generalizing s with
  | nil => rfl
  | cons q qs ih =>
    rw [List.cons_append, replay, replay]
    rcases w.answer q s with ⟨_ | ⟨⟩, s'⟩
    · rfl
    · exact ih s'

/-- After interactions that all succeed the replay goes on where they end. -/
theorem replay_append_of_ok {qs : List (Interaction K)} (h : w.replay qs s = (.ok (), s₁))
    (rs : List (Interaction K)) : w.replay (qs ++ rs) s = w.replay rs s₁ := by
  rw [replay_append, h]

/-- A replay that fails does so at one interaction, with the error of that one, after all earlier
ones have succeeded. The later ones are not made. -/
theorem replay_eq_error_iff {qs : List (Interaction K)} :
    w.replay qs s = (.error e, s') ↔
      ∃ before q after s₁, qs = before ++ q :: after ∧ w.replay before s = (.ok (), s₁) ∧
        w.answer q s₁ = (.error e, s') := by
  constructor
  · intro h
    induction qs generalizing s with
    | nil => simp [replay] at h
    | cons q qs ih =>
      rw [replay] at h
      rcases hq : w.answer q s with ⟨e' | ⟨⟩, s₁⟩
      · rw [hq] at h
        exact ⟨[], q, qs, s, rfl, rfl, hq.trans h⟩
      · rw [hq] at h
        obtain ⟨before, q', after, s₂, rfl, hbefore, hq'⟩ := ih h
        refine ⟨q :: before, q', after, s₂, rfl, ?_, hq'⟩
        rw [replay, hq]
        exact hbefore
  · rintro ⟨before, q, after, s₁, rfl, hbefore, hq⟩
    rw [replay_append_of_ok hbefore, replay, hq]

section Outcome
variable {α : Type}

/-- Whether a computation failed, and the state that it left. -/
def outcome (x : Except (RunError K ε) α × σ) : Except (RunError K ε) Unit × σ :=
  (x.1.map fun _ => (), x.2)

theorem outcome_eq_error {x : Except (RunError K ε) α × σ} (h : outcome x = (.error e, s')) :
    x = (.error e, s') := by
  rcases x with ⟨_ | a, s''⟩
  · cases h
    rfl
  · cases h

theorem outcome_eq_ok {x : Except (RunError K ε) α × σ} (h : outcome x = (.ok (), s')) :
    ∃ a, x = (.ok a, s') := by
  rcases x with ⟨_ | a, s''⟩
  · cases h
  · cases h
    exact ⟨a, rfl⟩

/-- An observation of a vector, followed by something that a replay accounts for. -/
theorem outcome_vector {quantity : Observable} {f : Vec3 K → Except (RunError K ε) α}
    {qs : List (Interaction K)} (h : ∀ v, outcome (f v, s) = w.replay qs s) :
    outcome (w.vector s quantity >>= f, s) = w.replay (.sample quantity .vector :: qs) s := by
  rw [replay, answer, Instrument.vector]
  cases w.sample s quantity with
  | scalar x => rfl
  | vector v => exact h v

/-- An observation of a scalar, followed by something that a replay accounts for. -/
theorem outcome_scalar {quantity : Observable} {f : K → Except (RunError K ε) α}
    {qs : List (Interaction K)} (h : ∀ x, outcome (f x, s) = w.replay qs s) :
    outcome (w.scalar s quantity >>= f, s) = w.replay (.sample quantity .scalar :: qs) s := by
  rw [replay, answer, Instrument.scalar]
  cases w.sample s quantity with
  | scalar x => exact h x
  | vector v => rfl

theorem outcome_reference (w : World K σ ε) (s : σ) :
    outcome (w.reference s, s) = w.replay Interaction.firstLook s :=
  outcome_vector fun _ => outcome_vector fun _ => outcome_vector fun _ =>
    outcome_scalar fun _ => rfl

variable [Scalar K]

theorem outcome_addTo (w : World K σ ε) (r : Reference K) (t : Traces K) (s : σ) :
    outcome (w.addTo r t s, s) = w.replay Interaction.look s :=
  outcome_vector fun _ => outcome_vector fun _ => outcome_vector fun _ =>
    outcome_scalar fun _ => rfl

theorem outcome_stepOnce (w : World K σ ε) (force : Vec3 K) (r : Reference K) (t : Traces K)
    (s : σ) : outcome (w.stepOnce force r t s) = w.replay (Interaction.round force) s := by
  rw [Interaction.round, replay, answer, stepOnce]
  rcases w.applyForce force s with ⟨e | ⟨⟩, s₁⟩
  · rfl
  · dsimp only [Except.mapError]
    rw [replay, answer]
    rcases w.step s₁ with ⟨e | ⟨⟩, s₂⟩
    · rfl
    · exact outcome_addTo w r t s₂

/-- The steps of a run, by induction on their number. -/
theorem outcome_stepMany (w : World K σ ε) (force : Vec3 K) (r : Reference K) (n : Nat)
    (t : Traces K) (s : σ) :
    outcome (w.stepMany force r n t s) =
      w.replay (List.replicate n (Interaction.round force)).flatten s := by
  induction n generalizing t s with
  | zero => rfl
  | succ n ih =>
    rw [List.replicate_succ, List.flatten_cons, replay_append, ← outcome_stepOnce w force r t,
      stepMany]
    rcases w.stepOnce force r t s with ⟨e | t₁, s₁⟩
    · rfl
    · exact ih t₁ s₁

/-- A run of an accepted configuration fails, or not, as the replay of its interactions does, and
leaves the same state. -/
theorem outcome_observe (w : World K σ ε) {c : Config K} (hcheck : c.check = .ok ()) (s : σ) :
    outcome (w.observe c s) = w.replay c.script s := by
  rw [Config.script, replay_append, ← outcome_reference, observe, hcheck]
  dsimp only
  cases w.reference s with
  | error e => rfl
  | ok r =>
    dsimp only [outcome, Except.map]
    rw [replay, answer]
    rcases w.configure c.settings s with ⟨e | ⟨⟩, s₁⟩
    · rfl
    · dsimp only [Except.mapError]
      rw [← outcome_stepMany w c.push r c.stepCount .start s₁]
      rcases w.stepMany c.push r c.stepCount .start s₁ with ⟨e | t, s₂⟩ <;> rfl

end Outcome

section Recorded

/-- The same world with a record of the actions that it is asked for, the failing ones included.
Observations leave no mark. -/
def recorded (w : World K σ ε) : World K (σ × List (Interaction K)) ε where
  time s := w.time s.1
  sample s := w.sample s.1
  diagnostics s := w.diagnostics s.1
  configure settings s :=
    let (result, state) := w.configure settings s.1
    (result, state, s.2 ++ [.configure settings])
  applyForce force s :=
    let (result, state) := w.applyForce force s.1
    (result, state, s.2 ++ [.applyForce force])
  step s :=
    let (result, state) := w.step s.1
    (result, state, s.2 ++ [.step])

theorem recorded_answer (w : World K σ ε) (q : Interaction K) (s : σ)
    (record : List (Interaction K)) :
    w.recorded.answer q (s, record) =
      ((w.answer q s).1, (w.answer q s).2, record ++ [q].filter Interaction.isAction) := by
  cases q with
  | sample quantity expected =>
    show (_, s, record) = (_, s, record ++ [])
    rw [List.append_nil]
    rfl
  | configure settings => rfl
  | applyForce force => rfl
  | step => rfl

/-- The record of interactions that all succeed holds the actions among them. -/
theorem recorded_replay {qs : List (Interaction K)} (h : w.replay qs s = (.ok (), s'))
    (record : List (Interaction K)) :
    w.recorded.replay qs (s, record) = (.ok (), s', record ++ qs.filter Interaction.isAction) := by
  induction qs generalizing s record with
  | nil =>
    cases h
    simp [replay]
  | cons q qs ih =>
    rw [replay] at h
    rw [replay, recorded_answer]
    rcases hq : w.answer q s with ⟨e | ⟨⟩, s₁⟩
    · simp [hq] at h
    · rw [hq] at h
      dsimp only
      rw [ih h, List.append_assoc, ← List.filter_append, List.singleton_append]

/-- The record of a replay that fails ends with the interaction that fails, if that is an action. -/
theorem recorded_replay_error {before : List (Interaction K)} {q : Interaction K}
    (hbefore : w.replay before s = (.ok (), s₁)) (hq : w.answer q s₁ = (.error e, s'))
    (after record : List (Interaction K)) :
    w.recorded.replay (before ++ q :: after) (s, record) =
      (.error e, s', record ++ (before ++ [q]).filter Interaction.isAction) := by
  rw [replay_append_of_ok (recorded_replay hbefore record), replay, recorded_answer, hq]
  dsimp only
  rw [List.filter_append, List.append_assoc]

variable [Scalar K]

theorem recorded_stepOnce (w : World K σ ε) (force : Vec3 K) (r : Reference K) (t : Traces K)
    (s : σ) (record : List (Interaction K)) :
    (w.recorded.stepOnce force r t (s, record)).map id Prod.fst = w.stepOnce force r t s := by
  have happly : w.recorded.applyForce force (s, record) =
      ((w.applyForce force s).1, (w.applyForce force s).2, record ++ [.applyForce force]) := rfl
  rw [stepOnce, stepOnce, happly]
  rcases w.applyForce force s with ⟨e | ⟨⟩, s₁⟩
  · rfl
  · have hstep (record : List (Interaction K)) : w.recorded.step (s₁, record) =
        ((w.step s₁).1, (w.step s₁).2, record ++ [.step]) := rfl
    dsimp only
    rw [hstep]
    rcases w.step s₁ with ⟨e | ⟨⟩, s₂⟩ <;> rfl

theorem recorded_stepMany (w : World K σ ε) (force : Vec3 K) (r : Reference K) (n : Nat)
    (t : Traces K) (s : σ) (record : List (Interaction K)) :
    (w.recorded.stepMany force r n t (s, record)).map id Prod.fst = w.stepMany force r n t s := by
  induction n generalizing t s record with
  | zero => rfl
  | succ n ih =>
    rw [stepMany, stepMany, ← recorded_stepOnce w force r t s record]
    rcases w.recorded.stepOnce force r t (s, record) with ⟨e | t₁, s₁, record₁⟩
    · rfl
    · exact ih t₁ s₁ record₁

/-- A run ends in the same way whether or not its actions are recorded. -/
theorem recorded_observe (w : World K σ ε) (c : Config K) (s : σ)
    (record : List (Interaction K)) :
    (w.recorded.observe c (s, record)).map id Prod.fst = w.observe c s := by
  have hreference : (w.recorded.reference (s, record) : Except (RunError K ε) (Reference K)) =
      w.reference s := rfl
  have hconfigure : w.recorded.configure c.settings (s, record) =
      ((w.configure c.settings s).1, (w.configure c.settings s).2,
        record ++ [.configure c.settings]) := rfl
  rw [observe, observe, hreference, hconfigure]
  cases c.check with
  | error fault => rfl
  | ok _ =>
    dsimp only
    cases w.reference s with
    | error e => rfl
    | ok r =>
      dsimp only
      rcases w.configure c.settings s with ⟨e | ⟨⟩, s₁⟩
      · rfl
      · dsimp only
        rw [← recorded_stepMany w c.push r c.stepCount .start s₁
          (record ++ [.configure c.settings])]
        rcases w.recorded.stepMany c.push r c.stepCount .start (s₁, _) with ⟨e | t, s₂, record₂⟩ <;>
          rfl

theorem state_conduct (w : World K σ ε) (c : Config K) (wallTime : K) (book : Logbook K) (s : σ) :
    (w.conduct c wallTime book s).state = (w.observe c s).2 := by
  rw [conduct]
  rcases w.observe c s with ⟨e | o, s'⟩ <;> rfl

/-- To record the actions changes neither the result of a run nor its logbook nor its world. -/
theorem recorded_conduct (w : World K σ ε) (c : Config K) (wallTime : K) (book : Logbook K) (s : σ)
    (record : List (Interaction K)) :
    let recorded := w.recorded.conduct c wallTime book (s, record)
    w.conduct c wallTime book s = ⟨recorded.result, recorded.book, recorded.state.1⟩ := by
  rw [conduct, conduct, ← recorded_observe w c s record]
  rcases w.recorded.observe c (s, record) with ⟨e | o, s'⟩ <;> rfl

/-- The actions that a run asks of its world, in order. -/
def actions (w : World K σ ε) (c : Config K) (wallTime : K) (book : Logbook K) (s : σ) :
    List (Interaction K) :=
  (w.recorded.conduct c wallTime book (s, [])).state.2

/-- The actions of a run are those recorded in the replay of its interactions. -/
theorem actions_eq {c : Config K} (hcheck : c.check = .ok ()) {x : Except (RunError K ε) Unit}
    {record : List (Interaction K)} (h : w.recorded.replay c.script (s, []) = (x, s', record))
    (wallTime : K) (book : Logbook K) : w.actions c wallTime book s = record := by
  have hrun := (w.recorded.outcome_observe hcheck (s, [])).trans h
  rw [actions, state_conduct]
  exact congrArg (·.2.2) hrun

end Recorded

end World

end SphereBench
