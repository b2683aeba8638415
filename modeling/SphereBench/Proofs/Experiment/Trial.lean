import SphereBench.Experiment.Trial
import SphereBench.Proofs.Statistic.Signal
/-!
# Trials without failure

The traces of a run hold exactly the samples that were observed, step after step. If the states and
the traces after each step are known, the run through all of them is known. Nothing here depends on
the scalars or on the world.
-/

namespace SphereBench
variable {K : Type} [Scalar K]

/-- The names that a run reports are understood as its statistics. -/
theorem parseList_reportedNames : Statistic.parseList reportedNames = .ok reportedStatistics := rfl

namespace Traces

/-- The signals of a run are new ones for the names that it reports, so that none of them is ever
refused. -/
theorem exists_start_eq : ∃ (vector : VectorSignal K) (signal : Signal K),
    VectorSignal.withList reportedNames = .ok vector ∧
      Signal.withList reportedNames = .ok signal ∧
      start = ⟨vector, vector, vector, signal, signal, signal⟩ := by
  refine ⟨_, _, ?_, ?_, rfl⟩
  · rw [VectorSignal.withList, VectorSignal.enableList, parseList_reportedNames]
    rfl
  · rw [Signal.withList, Signal.enableList, parseList_reportedNames]
    rfl

/-- The traces that have taken given samples, those of the solver included. -/
def ofSamples (position velocity angularMomentum : List (Vec3 K))
    (energy change residual : List K) : Traces K where
  position := start.position.extend position
  velocity := start.velocity.extend velocity
  angularMomentum := start.angularMomentum.extend angularMomentum
  energy := start.energy.extend energy
  change := start.change.extend change
  residual := start.residual.extend residual

variable (position velocity angularMomentum : List (Vec3 K)) (energy change residual : List K)

/-- One more step appends its samples; the solver has one to append only if it reports. -/
theorem add_ofSamples (r : Reference K) (v p l : Vec3 K) (e : K) (d : Option (Convergence K)) :
    (ofSamples position velocity angularMomentum energy change residual).add r v p l e d =
      ofSamples (position ++ [p - r.position]) (velocity ++ [v - r.velocity])
        (angularMomentum ++ [relativeOffset l r.angularMomentum r.angularMomentum.length])
        (energy ++ [relativeChange e r.energy]) (change ++ d.toList.map (·.change))
        (residual ++ d.toList.map (·.residual)) := by
  cases d with
  | none =>
    simp only [add, addDiagnostics, ofSamples, VectorSignal.extend_concat, Signal.extend_concat,
      Option.toList_none, List.map_nil, List.append_nil]
  | some d =>
    simp only [add, addDiagnostics, ofSamples, VectorSignal.extend_concat, Signal.extend_concat,
      Option.toList_some, List.map_singleton]

end Traces

namespace World
variable {σ ε : Type} {w : World K σ ε} {force : Vec3 K} {r : Reference K}

/-- A step whose actions are accepted. -/
theorem stepOnce_eq {t : Traces K} {s s₁ s₂ : σ} (hforce : w.applyForce force s = (.ok (), s₁))
    (hstep : w.step s₁ = (.ok (), s₂)) : w.stepOnce force r t s = (w.addTo r t s₂, s₂) := by
  simp only [stepOnce, hforce, hstep]

/-- A run along given states and traces, each of which leads to the next in one step. -/
theorem stepMany_eq {T : Nat → Traces K} {S : Nat → σ} {n : Nat}
    (h : ∀ k < n, w.stepOnce force r (T k) (S k) = (.ok (T (k + 1)), S (k + 1))) :
    w.stepMany force r n (T 0) (S 0) = (.ok (T n), S n) := by
  induction n generalizing T S with
  | zero => rfl
  | succ n ih =>
    have htail := ih (T := fun k => T (k + 1)) (S := fun k => S (k + 1)) fun k hk =>
      h (k + 1) (Nat.succ_lt_succ hk)
    rw [stepMany, h 0 (Nat.succ_pos n)]
    exact htail

/-- A run in which nothing is refused. -/
theorem observe_eq {c : Config K} {t : Traces K} {s s₁ s₂ : σ} (hcheck : c.check = .ok ())
    (href : w.reference s = (.ok r : Except (RunError K ε) (Reference K)))
    (hconfigure : w.configure c.settings s = (.ok (), s₁))
    (hsteps : w.stepMany c.push r c.stepCount .start s₁ = (.ok t, s₂)) :
    w.observe c s = (.ok ⟨w.time s, r, t⟩, s₂) := by
  simp only [observe, hcheck, href, hconfigure, hsteps]

/-- What precedes the end of a run in which nothing is refused. -/
theorem observe_eq_ok {c : Config K} {o : Observation K} {s s' : σ}
    (h : w.observe c s = (.ok o, s')) :
    c.check = .ok () ∧ o.start = w.time s ∧
      w.reference s = (.ok o.reference : Except (RunError K ε) (Reference K)) ∧
      ∃ s₁, w.configure c.settings s = (.ok (), s₁) ∧
        w.stepMany c.push o.reference c.stepCount .start s₁ = (.ok o.traces, s') := by
  rw [observe] at h
  cases hcheck : c.check with
  | error fault => simp [hcheck] at h
  | ok _ =>
    cases href : (w.reference s : Except (RunError K ε) (Reference K)) with
    | error e => simp [hcheck, href] at h
    | ok r =>
      rcases hconfigure : w.configure c.settings s with ⟨e | ⟨⟩, s₁⟩
      · simp [hcheck, href, hconfigure] at h
      · rcases hsteps : w.stepMany c.push r c.stepCount .start s₁ with ⟨e | t, s₂⟩
        · simp [hcheck, href, hconfigure, hsteps] at h
        · simp only [hcheck, href, hconfigure, hsteps, Prod.mk.injEq, Except.ok.injEq] at h
          obtain ⟨rfl, rfl⟩ := h
          exact ⟨rfl, rfl, rfl, s₁, rfl, hsteps⟩

end World

end SphereBench
