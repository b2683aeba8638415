import SphereBench.Experiment.Stack
import SphereBench.Proofs.Experiment.Interaction
import SphereBench.Proofs.Simulation.Naming
import SphereBench.Proofs.Simulation.Operations
/-!
# States that can be reached

Whatever a user does with a simulation, through its operations and in any order, some of it refused:
masses stay valid, spheres stay in their places under their names, and clock and report are those of
the steps that were made. A name that has been found therefore stays found at the same index,
although names may be given twice, and a body that is tracked is never lost. Nothing here depends on
the scalars, except that a stack needs the unit mass to be a valid one.
-/

namespace SphereBench
variable {K : Type}

namespace Simulation

/-- Every sphere of `s` is in `t` at the same index, with its name and its radius. -/
def Persists (s t : Simulation K) : Prop :=
  ∀ (i : ℕ) (b : Sphere K), s.spheres[i]? = some b →
    ∃ b', t.spheres[i]? = some b' ∧ b'.name = b.name ∧ b'.radius = b.radius

variable {s t u : Simulation K} {i : ℕ} {name : String}

theorem Persists.refl (s : Simulation K) : s.Persists s := fun _ b hb => ⟨b, hb, rfl, rfl⟩

theorem Persists.trans (h : s.Persists t) (h' : t.Persists u) : s.Persists u := by
  intro i b hb
  obtain ⟨b', hb', hname, hradius⟩ := h i b hb
  obtain ⟨b'', hb'', hname', hradius'⟩ := h' i b' hb'
  exact ⟨b'', hb'', hname'.trans hname, hradius'.trans hradius⟩

/-- A name that was found is still found, and at the same index: spheres that were before the first
one with the name still have other names. -/
theorem Persists.indexOf (h : s.Persists t) (hi : s.indexOf name = .ok i) :
    t.indexOf name = .ok i := by
  rw [indexOf_eq_ok_iff] at hi ⊢
  obtain ⟨⟨b, hb, hname⟩, hbefore⟩ := hi
  obtain ⟨b', hb', hname', -⟩ := h i b hb
  refine ⟨⟨b', hb', hname'.trans hname⟩, ?_⟩
  intro j hj a' ha'
  have hjs : j < s.spheres.length := hj.trans (List.getElem?_eq_some_iff.mp hb).1
  have ha := List.getElem?_eq_getElem hjs
  obtain ⟨a'', ha'', hname'', -⟩ := h j _ ha
  rw [ha', Option.some.injEq] at ha''
  subst ha''
  rw [hname'']
  exact hbefore j hj _ ha

theorem exists_sphere_of_indexOf (h : s.indexOf name = .ok i) :
    ∃ b, s.sphere i = .ok b ∧ b.name = name := by
  obtain ⟨⟨b, hb, hname⟩, -⟩ := indexOf_eq_ok_iff.mp h
  exact ⟨b, by rw [sphere, hb], hname⟩

variable [Scalar K]

theorem persists_operate (s : Simulation K) (op : Operation K) : s.Persists (s.operate op).2 := by
  intro i b hb
  obtain ⟨b', hb', hkept⟩ := exists_kept hb op
  exact ⟨b', hb', hkept.name, hkept.radius⟩

theorem persists_operateAll (s : Simulation K) (ops : List (Operation K)) :
    s.Persists (s.operateAll ops) :=
  operateAll_induction (fun t op ht => ht.trans (t.persists_operate op)) (.refl s) ops

/-- Masses are checked where they are set and where spheres are added. -/
theorem stable_mass : Stable fun b : Sphere K => Scalar.isPositiveFinite b.mass where
  solid _ _ _ _ hmass := hmass
  setMass _ _ hmass _ := hmass
  setInertia _ _ _ h := h
  load _ _ _ h := h
  advance _ _ _ _ _ h := h

end Simulation

namespace TrackedBody
variable [Scalar K] {t : TrackedBody K} {name : String}

/-- A tracked body after any interactions with its world, some of which may have failed. -/
def answerAll (t : TrackedBody K) (qs : List (Interaction K)) : TrackedBody K :=
  qs.foldl (fun t q => (world.answer q t).2) t

/-- An interaction keeps the tracked index and is an operation on the simulation, or none. -/
theorem exists_operateAll_answer (t : TrackedBody K) (q : Interaction K) :
    (world.answer q t).2.body = t.body ∧
      ∃ ops, (world.answer q t).2.simulation = t.simulation.operateAll ops := by
  have hact (action : Simulation K → Except (SimulationError K) (Simulation K)) :
      (t.act action).2.body = t.body ∧
        (t.act action).2.simulation = (t.simulation.settle (action t.simulation)).2 := by
    rw [act]
    cases action t.simulation with
    | ok s => exact ⟨rfl, rfl⟩
    | error e => exact ⟨rfl, rfl⟩
  cases q with
  | sample quantity expected => exact ⟨rfl, [], rfl⟩
  | configure settings =>
    obtain ⟨hbody, hsimulation⟩ := hact (configure settings)
    refine ⟨hbody, ?_⟩
    by_cases hdt : Scalar.isPositiveFinite settings.dt
    · rw [configure, if_pos hdt] at hsimulation
      exact ⟨[.configure _], hsimulation⟩
    · rw [configure, if_neg hdt] at hsimulation
      exact ⟨[], hsimulation⟩
  | applyForce force =>
    obtain ⟨hbody, hsimulation⟩ := hact (·.push t.body force)
    exact ⟨hbody, [.call (.push t.body force)], hsimulation⟩
  | step =>
    obtain ⟨hbody, hsimulation⟩ := hact Simulation.step
    exact ⟨hbody, [.call .step], hsimulation⟩

/-- The index of a tracked body does not change, and stays that of its name. -/
theorem indexOf_answerAll (h : t.simulation.indexOf name = .ok t.body)
    (qs : List (Interaction K)) :
    (t.answerAll qs).body = t.body ∧
      (t.answerAll qs).simulation.indexOf name = .ok t.body := by
  rw [answerAll]
  induction qs generalizing t with
  | nil => exact ⟨rfl, h⟩
  | cons q qs ih =>
    obtain ⟨hbody, ops, hsimulation⟩ := t.exists_operateAll_answer q
    have hindex : (world.answer q t).2.simulation.indexOf name =
        .ok (world.answer q t).2.body := by
      rw [hbody, hsimulation]
      exact (t.simulation.persists_operateAll ops).indexOf h
    rw [← hbody]
    exact ih hindex

omit [Scalar K] in
theorem ofName_eq_ok_iff {s : Simulation K} :
    ofName s name = .ok t ↔ t.simulation = s ∧ s.indexOf name = .ok t.body := by
  rw [ofName]
  cases hindex : s.indexOf name with
  | error e => simp [Except.map]
  | ok i =>
    cases t
    simp [Except.map, eq_comm]

/-- The experiment operates on the mass and the inertia of the body that it tracks. -/
theorem indexOf_of_ofConfig {c : Config K} (h : ofConfig c = .ok t) :
    t.simulation.indexOf topName = .ok t.body := by
  rw [ofConfig] at h
  obtain ⟨t₀, ht₀, h⟩ := bind_eq_ok_iff.mp h
  obtain ⟨s₁, hs₁, h⟩ := bind_eq_ok_iff.mp h
  obtain ⟨s₂, hs₂, h⟩ := bind_eq_ok_iff.mp h
  cases h
  obtain ⟨hsimulation, hindex⟩ := ofName_eq_ok_iff.mp ht₀
  rw [← hsimulation] at hindex
  have hstate : t₀.simulation.operateAll
      [.setMass t₀.body c.mass, .setInertia t₀.body (Sphere.solidInertia c.mass stackRadius)] =
      s₂ := by
    simp only [Simulation.operateAll_cons, Simulation.operate, hs₁, Simulation.settle, hs₂,
      Simulation.operateAll_nil]
  rw [← hstate]
  exact (t₀.simulation.persists_operateAll _).indexOf hindex

/-- The force of a run is accepted where the index is that of a name. -/
theorem applyForce_eq_ok (h : t.simulation.indexOf name = .ok t.body) (force : Vec3 K) :
    (world.applyForce force t).1 = .ok () := by
  obtain ⟨⟨b, hb, -⟩, -⟩ := Simulation.indexOf_eq_ok_iff.mp h
  have hpush : t.simulation.push t.body force = _ :=
    (Simulation.modify_eq t.simulation t.body _).trans
      (if_pos (List.getElem?_eq_some_iff.mp hb).1)
  show (t.act (·.push t.body force)).1 = .ok ()
  rw [act, hpush]

/-- Whatever is done with the world of a tracked body, the index stays that of a sphere with the
name, and no force on it is refused. -/
def NeverLost (t : TrackedBody K) (name : String) : Prop :=
  ∀ qs : List (Interaction K), (t.answerAll qs).body = t.body ∧
    (∃ b, (t.answerAll qs).simulation.sphere t.body = .ok b ∧ b.name = name) ∧
    ∀ force, (world.applyForce force (t.answerAll qs)).1 = .ok ()

theorem neverLost (h : t.simulation.indexOf name = .ok t.body) : t.NeverLost name := by
  intro qs
  obtain ⟨hbody, hindex⟩ := indexOf_answerAll h qs
  refine ⟨hbody, Simulation.exists_sphere_of_indexOf hindex, ?_⟩
  rw [← hbody] at hindex
  exact applyForce_eq_ok hindex

end TrackedBody

variable [Scalar K]

/-- What holds of a state after steps with the given parameters. -/
structure Simulation.Sound (s : Simulation K) (steps : List (SimulationParameters K)) : Prop
    extends s.IsLogged steps where
  mass : ∀ b ∈ s.spheres, Scalar.isPositiveFinite b.mass
  /-- An operation that fails leaves the state exactly as it was. -/
  refused : ∀ op e, (s.operate op).1 = .error e → (s.operate op).2 = s
  /-- An operation keeps every sphere in its place, with its name and its radius; mass and inertia
  are changed by no other operations than those that set them. -/
  kept : ∀ (op : Operation K) (i : ℕ) (b : Sphere K), s.spheres[i]? = some b →
    ∃ b', (s.operate op).2.spheres[i]? = some b' ∧ s.Kept op i b b'
  persists : ∀ ops, s.Persists (s.operateAll ops)
  /-- A name that is found stays found at the same index, which stays in range. -/
  indexOf : ∀ name i, s.indexOf name = .ok i → ∀ ops, (s.operateAll ops).indexOf name = .ok i ∧
    ∃ b, (s.operateAll ops).sphere i = .ok b ∧ b.name = name
  tracked : ∀ name t, TrackedBody.ofName s name = .ok t → t.NeverLost name
  /-- Right after an operation that has made a step no force and no torque is pending. -/
  pending : ∀ op, s.stepsIn op ≠ [] → (s.operate op).2.NothingPending

/-- **The contract of a simulation.** Every state that operations can reach, refused or not, from an
empty simulation or from a stack is sound, and the experiment does not lose the body that it
tracks. -/
theorem Origin.operateAll_sound (hone : Scalar.isPositiveFinite (1 : K)) (origin : Origin K)
    (ops : List (Operation K)) :
    (origin.simulation.operateAll ops).Sound (origin.simulation.log ops) ∧
      ∀ (c : Config K) (t : TrackedBody K), TrackedBody.ofConfig c = .ok t →
        t.NeverLost TrackedBody.topName := by
  refine ⟨?_, fun c t ht => TrackedBody.neverLost (TrackedBody.indexOf_of_ofConfig ht)⟩
  refine ⟨origin.isLogged_operateAll ops, origin.forall_mem_operateAll hone ops
    Simulation.stable_mass, ?_, ?_, ?_, ?_, ?_, ?_⟩
  · intro op e h
    exact Simulation.operate_of_error h
  · intro op i b hb
    exact Simulation.exists_kept hb op
  · exact Simulation.persists_operateAll _
  · intro name i hi ops'
    have hindex := (Simulation.persists_operateAll _ ops').indexOf hi
    exact ⟨hindex, Simulation.exists_sphere_of_indexOf hindex⟩
  · intro name t ht
    obtain ⟨hsimulation, hindex⟩ := TrackedBody.ofName_eq_ok_iff.mp ht
    rw [← hsimulation] at hindex
    exact TrackedBody.neverLost hindex
  · intro op h
    exact Simulation.nothingPending_operate _ h

/-- What is done with two spheres in double precision, before they are stepped. The first two
operations are refused. -/
def unevenStack : List (Operation Float) :=
  [.setMass 1 0, .call (.push 2 0), .setMass 1 4.0,
    .configure { SimulationParameters.default with
      solver := { SolverParameters.default with kind := .direct } }]

/-- After two steps the clock shows the sum of two time steps, the solver has made no report, and
whatever follows, the upper sphere is found by its name. -/
theorem Origin.operateAll_sound_unevenStack :
    let s := (Origin.stack 2 0.5).simulation.operateAll (unevenStack ++ [.run 2])
    s.time = 0 + 0.001 + 0.001 ∧ s.diagnostics.isSome = false ∧
      ∀ ops, (s.operateAll ops).indexOf "sphere_2" = .ok 1 := by
  have hone : Scalar.isPositiveFinite (1 : Float) := by decide
  obtain ⟨hsound, -⟩ := operateAll_sound hone (.stack 2 0.5) (unevenStack ++ [.run 2])
  have hcheck : ((Origin.stack 2 0.5).simulation.operateAll unevenStack).checkStep = .ok () := by
    rw [Simulation.checkStep, if_neg (by decide +kernel), if_pos (by decide +kernel)]
  have hlog : (Origin.stack 2 0.5).simulation.log (unevenStack ++ [.run 2]) =
      List.replicate 2 { SimulationParameters.default with
        solver := { SolverParameters.default with kind := .direct } } := by
    rw [Simulation.log_append]
    simp only [unevenStack, Simulation.log, Simulation.stepsIn, List.nil_append, List.append_nil]
    exact Simulation.runLog_of_ok hcheck 2
  rw [hlog] at hsound
  refine ⟨hsound.time, ?_, ?_⟩
  · rw [← Bool.not_eq_true, hsound.diagnostics]
    simp
  · intro ops
    have hname : (Origin.stack 2 (0.5 : Float)).simulation.indexOf "sphere_2" = .ok 1 := by rfl
    have hfound := (Simulation.persists_operateAll _ (unevenStack ++ [.run 2])).indexOf hname
    exact (hsound.indexOf "sphere_2" 1 hfound ops).1

end SphereBench
