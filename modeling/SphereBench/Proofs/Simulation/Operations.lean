import SphereBench.Proofs.Simulation.Run
/-!
# Operations on a simulation

The whole interface of a simulation as far as it changes one: spheres are added and get other mass
properties, parameters are assigned, loads are applied and steps are taken. An operation is refused
and changes nothing, or it has the effect that `Simulation.Effect` lists for it. Whatever is said
here about operations is read off that list. Nothing depends on the scalars.

## Main definitions

* `Operation`, `Simulation.operate`, `Simulation.operateAll` — an operation and its outcome, and the
  state after several.
* `Simulation.Effect` — all that an accepted operation can do.
* `Simulation.Kept` — what a sphere keeps under an operation.
* `Simulation.Stable` — properties that every way to make or change a sphere gives or keeps.
* `Simulation.stepsIn`, `Simulation.log` — the parameters of the steps that have been made.
* `Simulation.IsLogged` — what the state tells about these steps.
-/

namespace SphereBench

/-- A change of a simulation by its user. -/
inductive Operation (K : Type) where
  | add (name : String) (position : Vec3 K) (radius mass : K)
  | setMass (i : Nat) (mass : K)
  | setInertia (i : Nat) (inertia : Vec3 K)
  /-- Other parameters, which nobody checks. -/
  | configure (params : SimulationParameters K)
  /-- A force, a torque or a step. -/
  | call (c : Call K)
  | run (steps : Nat)

variable {K : Type} [Scalar K]

namespace Simulation

/-- The outcome of a change, and the state after it: the former one, if the change is refused. -/
def settle (s : Simulation K) :
    Except (SimulationError K) (Simulation K) → Except (SimulationError K) Unit × Simulation K
  | .ok t => (.ok (), t)
  | .error e => (.error e, s)

/-- The outcome of an operation, and the state after it. -/
def operate (s : Simulation K) : Operation K → Except (SimulationError K) Unit × Simulation K
  | .add name position radius mass => s.settle ((s.add name position radius mass).map Prod.snd)
  | .setMass i mass => s.settle (s.setMass i mass)
  | .setInertia i inertia => s.settle (s.setInertia i inertia)
  | .configure params => (.ok (), { s with params := params })
  | .call c => s.settle (s.call c)
  | .run n => s.run n

/-- The state after several operations, some of which may have been refused. -/
def operateAll (s : Simulation K) (ops : List (Operation K)) : Simulation K :=
  ops.foldl (fun t op => (t.operate op).2) s

@[simp] theorem operateAll_nil (s : Simulation K) : s.operateAll [] = s := rfl

@[simp] theorem operateAll_cons (s : Simulation K) (op : Operation K) (ops : List (Operation K)) :
    s.operateAll (op :: ops) = (s.operate op).2.operateAll ops := rfl

theorem operateAll_append (s : Simulation K) (ops ops' : List (Operation K)) :
    s.operateAll (ops ++ ops') = (s.operateAll ops).operateAll ops' := List.foldl_append

/-- What each of several operations keeps, all of them keep. -/
theorem operateAll_induction {P : Simulation K → Prop}
    (keep : ∀ s op, P s → P (s.operate op).2) {s : Simulation K} (h : P s)
    (ops : List (Operation K)) : P (s.operateAll ops) := by
  induction ops generalizing s with
  | nil => exact h
  | cons op ops ih => exact ih (keep s op h)

/-! ### What an operation can do -/

/-- All that an operation can do if it is accepted. -/
inductive Effect (s : Simulation K) : Operation K → Simulation K → Prop
  | add {name : String} {position : Vec3 K} {radius mass : K}
      (hmass : Scalar.isPositiveFinite mass) :
      Effect s (.add name position radius mass)
        { s with spheres := s.spheres ++ [.solid name position radius mass] }
  | setMass {i : ℕ} {mass : K} (hmass : Scalar.isPositiveFinite mass) :
      Effect s (.setMass i mass)
        { s with spheres := s.spheres.modify i ({ · with mass := mass }) }
  | setInertia {i : ℕ} {inertia : Vec3 K} (hinertia : checkInertia inertia = .ok ())
      (hi : i < s.spheres.length) :
      Effect s (.setInertia i inertia)
        { s with spheres := s.spheres.modify i ({ · with inertia := inertia }) }
  | configure {params : SimulationParameters K} :
      Effect s (.configure params) { s with params := params }
  | call {c : Call K} : Effect s (.call c) (s.after c)
  | run {n : ℕ} : Effect s (.run n) (s.perform (List.replicate n .step))

variable {s t : Simulation K} {op : Operation K} {i : ℕ} {b b' : Sphere K}

omit [Scalar K] in
theorem settle_cases (s : Simulation K) (r : Except (SimulationError K) (Simulation K)) :
    (∃ e, s.settle r = (.error e, s)) ∨ ∃ t, s.settle r = (.ok (), t) ∧ r = .ok t := by
  cases r with
  | error e => exact .inl ⟨e, rfl⟩
  | ok t => exact .inr ⟨t, rfl, rfl⟩

omit [Scalar K] in
theorem eq_of_modify {change : Sphere K → Sphere K} (h : s.modify i change = .ok t) :
    i < s.spheres.length ∧ t = { s with spheres := s.spheres.modify i change } := by
  rw [modify_eq] at h
  split at h
  · rename_i hi
    cases h
    exact ⟨hi, rfl⟩
  · cases h

theorem checkMass_eq_ok_iff {mass : K} {u : Unit} :
    checkMass mass = .ok u ↔ Scalar.isPositiveFinite mass := by
  rw [checkMass]
  cases Scalar.isPositiveFinite mass <;> simp

/-- An operation is refused and leaves the state as it was, or is accepted and has its effect. -/
theorem operate_cases (s : Simulation K) (op : Operation K) :
    (∃ e, s.operate op = (.error e, s)) ∨ ∃ t, s.operate op = (.ok (), t) ∧ s.Effect op t := by
  cases op with
  | add name position radius mass =>
    rcases s.settle_cases ((s.add name position radius mass).map Prod.snd) with h | ⟨t, h, hadd⟩
    · exact .inl h
    · cases hmass : checkMass mass with
      | error e => simp [add, hmass, Except.map] at hadd
      | ok u =>
        simp only [add, hmass, Except.map, Except.ok.injEq] at hadd
        subst hadd
        exact .inr ⟨_, h, .add (checkMass_eq_ok_iff.mp hmass)⟩
  | setMass i mass =>
    rcases s.settle_cases (s.setMass i mass) with h | ⟨t, h, hset⟩
    · exact .inl h
    · cases hmass : checkMass mass with
      | error e => simp [setMass, hmass, Except.bind] at hset
      | ok u =>
        simp only [setMass, hmass, Except.bind] at hset
        obtain ⟨-, rfl⟩ := eq_of_modify hset
        exact .inr ⟨_, h, .setMass (checkMass_eq_ok_iff.mp hmass)⟩
  | setInertia i inertia =>
    rcases s.settle_cases (s.setInertia i inertia) with h | ⟨t, h, hset⟩
    · exact .inl h
    · cases hinertia : checkInertia inertia with
      | error e => simp [setInertia, hinertia, Except.bind] at hset
      | ok u =>
        simp only [setInertia, hinertia, Except.bind] at hset
        obtain ⟨hi, rfl⟩ := eq_of_modify hset
        exact .inr ⟨_, h, .setInertia hinertia hi⟩
  | configure params => exact .inr ⟨_, rfl, .configure⟩
  | call c =>
    rcases s.settle_cases (s.call c) with h | ⟨t, h, hcall⟩
    · exact .inl h
    · have hafter : s.after c = t := by simp only [after, hcall]
      exact .inr ⟨t, h, hafter ▸ .call⟩
  | run n =>
    -- A run is refused at its first step or not at all.
    have hrun := run_eq_stepped s n
    cases hstepped : s.stepped n with
    | error e => exact .inl ⟨e, by rw [operate, hrun, hstepped]⟩
    | ok t =>
      have hstate : s.perform (List.replicate n .step) = t := by rw [← run_snd, hrun, hstepped]
      exact .inr ⟨t, by rw [operate, hrun, hstepped], hstate ▸ .run⟩

/-- An operation that is refused leaves the state as it was. -/
theorem operate_of_error {e : SimulationError K} (h : (s.operate op).1 = .error e) :
    (s.operate op).2 = s := by
  rcases s.operate_cases op with ⟨e', h'⟩ | ⟨t, h', -⟩
  · rw [h']
  · rw [h'] at h
    cases h

/-- An operation that is accepted has its effect. -/
theorem effect_of_ok (h : (s.operate op).1 = .ok ()) : s.Effect op (s.operate op).2 := by
  rcases s.operate_cases op with ⟨e, h'⟩ | ⟨t, h', heffect⟩
  · rw [h'] at h
    cases h
  · rw [h']
    exact heffect

/-! ### What becomes of a sphere -/

/-- The same body at two times, as far as calls are concerned. -/
structure SameBody (b b' : Sphere K) : Prop where
  name : b'.name = b.name
  radius : b'.radius = b.radius
  mass : b'.mass = b.mass
  inertia : b'.inertia = b.inertia

omit [Scalar K] in
theorem SameBody.refl (b : Sphere K) : SameBody b b := ⟨rfl, rfl, rfl, rfl⟩

omit [Scalar K] in
theorem SameBody.trans {a : Sphere K} (h : SameBody a b) (h' : SameBody b b') : SameBody a b' :=
  ⟨h'.name.trans h.name, h'.radius.trans h.radius, h'.mass.trans h.mass,
    h'.inertia.trans h.inertia⟩

omit [Scalar K] in
/-- A change of one sphere, seen at any index. -/
theorem exists_getElem?_modify {P : Sphere K → Prop} {spheres : List (Sphere K)}
    (hb : spheres[i]? = some b) (j : ℕ) (change : Sphere K → Sphere K) (same : i ≠ j → P b)
    (changed : i = j → P (change b)) : ∃ b', (spheres.modify j change)[i]? = some b' ∧ P b' := by
  rw [List.getElem?_modify, hb]
  by_cases hij : i = j
  · subst hij
    exact ⟨change b, by simp, changed rfl⟩
  · exact ⟨b, by simp [Ne.symm hij], same hij⟩

/-- A load or a step leaves all bodies what they were. -/
theorem exists_sameBody_after (hb : s.spheres[i]? = some b) (c : Call K) :
    ∃ b', (s.after c).spheres[i]? = some b' ∧ SameBody b b' := by
  cases c with
  | push j force =>
    rw [after_push]
    exact exists_getElem?_modify hb j _ (fun _ => .refl b) fun _ => ⟨rfl, rfl, rfl, rfl⟩
  | twist j torque =>
    rw [after_twist]
    exact exists_getElem?_modify hb j _ (fun _ => .refl b) fun _ => ⟨rfl, rfl, rfl, rfl⟩
  | step =>
    rw [after_step]
    split
    · obtain ⟨p, v, hadvance⟩ := getElem?_advance hb
      exact ⟨_, hadvance, rfl, rfl, rfl, rfl⟩
    · exact ⟨b, hb, .refl b⟩

theorem exists_sameBody_perform (hb : s.spheres[i]? = some b) (calls : List (Call K)) :
    ∃ b', (s.perform calls).spheres[i]? = some b' ∧ SameBody b b' := by
  refine perform_induction (P := fun t => ∃ b', t.spheres[i]? = some b' ∧ SameBody b b') ?_
    ⟨b, hb, .refl b⟩
  intro t c _ ht
  obtain ⟨a, ha, hsame⟩ := ht
  obtain ⟨b', hb', hsame'⟩ := exists_sameBody_after ha c
  exact ⟨b', hb', hsame.trans hsame'⟩

/-- What the sphere with index `i`, first `b` and then `b'`, keeps under an operation. -/
structure Kept (s : Simulation K) (op : Operation K) (i : ℕ) (b b' : Sphere K) : Prop where
  name : b'.name = b.name
  radius : b'.radius = b.radius
  /-- Only a change of its mass can change the mass. -/
  mass : b'.mass = b.mass ∨
    ∃ mass, op = .setMass i mass ∧ (s.operate op).1 = .ok () ∧ b'.mass = mass
  /-- Only a change of its inertia can change the inertia. -/
  inertia : b'.inertia = b.inertia ∨
    ∃ inertia, op = .setInertia i inertia ∧ (s.operate op).1 = .ok () ∧ b'.inertia = inertia

theorem SameBody.kept (h : SameBody b b') : s.Kept op i b b' :=
  ⟨h.name, h.radius, .inl h.mass, .inl h.inertia⟩

/-- An operation keeps every sphere in its place. -/
theorem exists_kept (hb : s.spheres[i]? = some b) (op : Operation K) :
    ∃ b', (s.operate op).2.spheres[i]? = some b' ∧ s.Kept op i b b' := by
  have hsame : s.Kept op i b b := (SameBody.refl b).kept
  rcases s.operate_cases op with ⟨e, h⟩ | ⟨t, h, heffect⟩
  · rw [h]
    exact ⟨b, hb, hsame⟩
  · have hok : (s.operate op).1 = .ok () := congrArg Prod.fst h
    rw [h]
    cases heffect with
    | add hmass =>
      refine ⟨b, ?_, hsame⟩
      rw [List.getElem?_append_left (List.getElem?_eq_some_iff.mp hb).1, hb]
    | setMass hmass =>
      apply exists_getElem?_modify hb
      · exact fun _ => hsame
      · rintro rfl
        exact ⟨rfl, rfl, .inr ⟨_, rfl, hok, rfl⟩, .inl rfl⟩
    | setInertia hinertia hj =>
      apply exists_getElem?_modify hb
      · exact fun _ => hsame
      · rintro rfl
        exact ⟨rfl, rfl, .inl rfl, .inr ⟨_, rfl, hok, rfl⟩⟩
    | configure => exact ⟨b, hb, hsame⟩
    | call =>
      obtain ⟨b', hb', hbody⟩ := exists_sameBody_after hb _
      exact ⟨b', hb', hbody.kept⟩
    | run =>
      obtain ⟨b', hb', hbody⟩ := exists_sameBody_perform hb _
      exact ⟨b', hb', hbody.kept⟩

/-- A sphere that was not there before an operation has been added by it, as a solid one of an
accepted mass. -/
theorem added_of_length_le (hi : s.spheres.length ≤ i)
    (hb' : (s.operate op).2.spheres[i]? = some b') :
    ∃ name position radius mass, op = .add name position radius mass ∧
      Scalar.isPositiveFinite mass ∧ b' = .solid name position radius mass := by
  have hnone (hlength : (s.operate op).2.spheres.length = s.spheres.length) : False :=
    Nat.not_lt.mpr hi (hlength ▸ (List.getElem?_eq_some_iff.mp hb').1)
  rcases s.operate_cases op with ⟨e, h⟩ | ⟨t, h, heffect⟩
  · rw [h] at hnone
    exact (hnone rfl).elim
  · rw [h] at hb' hnone
    cases heffect with
    | add hmass =>
      rw [List.getElem?_append_right hi] at hb'
      exact ⟨_, _, _, _, rfl, hmass, List.mem_singleton.mp (List.mem_of_getElem? hb')⟩
    | setMass hmass => exact (hnone (List.length_modify _ _ _)).elim
    | setInertia hinertia hj => exact (hnone (List.length_modify _ _ _)).elim
    | configure => exact (hnone rfl).elim
    | call => exact (hnone (length_spheres_after s _)).elim
    | run => exact (hnone (length_spheres_perform s _)).elim

/-- A sphere after an operation is one from before it, or has just been added. -/
theorem kept_or_added (hb' : (s.operate op).2.spheres[i]? = some b') :
    (∃ b, s.spheres[i]? = some b ∧ s.Kept op i b b') ∨
      s.spheres.length ≤ i ∧ ∃ name position radius mass, op = .add name position radius mass ∧
        Scalar.isPositiveFinite mass ∧ b' = .solid name position radius mass := by
  by_cases hi : i < s.spheres.length
  · obtain ⟨b'', hb'', hkept⟩ := exists_kept (List.getElem?_eq_getElem hi) op
    rw [hb', Option.some.injEq] at hb''
    subst hb''
    exact .inl ⟨_, List.getElem?_eq_getElem hi, hkept⟩
  · exact .inr ⟨Nat.le_of_not_lt hi, added_of_length_le (Nat.le_of_not_lt hi) hb'⟩

/-! ### Properties of all spheres -/

/-- What free motion gives to each sphere, wherever its contacts put it and however fast, all
spheres have after a step. -/
theorem forall_mem_advance {P : Sphere K → Prop} (h : ∀ b ∈ s.spheres, ∀ p v,
      P { b.advance s.params.gravity s.params.dt with position := p, velocity := v }) :
    ∀ b ∈ s.advance.spheres, P b := by
  have hlength : s.advance.spheres.length = s.spheres.length := by
    have hmap := congrArg List.length
      (map_solveContacts (fun _ => ()) (fun _ _ _ => rfl) s.params.solver s.params.dt s.moved)
    rwa [List.length_map, List.length_map, ← advance_spheres, moved, List.length_map] at hmap
  intro b' hmem
  obtain ⟨i, hb'⟩ := List.mem_iff_getElem?.mp hmem
  have hi : i < s.spheres.length := hlength ▸ (List.getElem?_eq_some_iff.mp hb').1
  obtain ⟨p, v, hadvance⟩ := getElem?_advance (List.getElem?_eq_getElem hi)
  rw [hb', Option.some.injEq] at hadvance
  rw [hadvance]
  exact h _ (List.getElem_mem hi) p v

/-- A property of a sphere that every way to make one gives, and every way to change one keeps. -/
structure Stable (P : Sphere K → Prop) : Prop where
  solid : ∀ name position radius mass, Scalar.isPositiveFinite mass →
    P (.solid name position radius mass)
  setMass : ∀ b mass, Scalar.isPositiveFinite mass → P b → P { b with mass := mass }
  setInertia : ∀ b inertia, checkInertia inertia = .ok () → P b → P { b with inertia := inertia }
  load : ∀ b force torque, P b → P { b with force := force, torque := torque }
  advance : ∀ b gravity dt position velocity, P b →
    P { Sphere.advance gravity dt b with position := position, velocity := velocity }

namespace Stable
variable {P : Sphere K → Prop}

theorem after (hP : Stable P) (h : ∀ b ∈ s.spheres, P b) (c : Call K) :
    ∀ b ∈ (s.after c).spheres, P b := by
  cases c with
  | push j force =>
    rw [after_push]
    exact Contact.forall_mem_modify h (fun b hb => hP.load b _ b.torque hb) j
  | twist j torque =>
    rw [after_twist]
    exact Contact.forall_mem_modify h (fun b hb => hP.load b b.force _ hb) j
  | step =>
    rw [after_step]
    split
    · exact forall_mem_advance fun b hb p v => hP.advance b _ _ p v (h b hb)
    · exact h

theorem operate (hP : Stable P) (h : ∀ b ∈ s.spheres, P b) (op : Operation K) :
    ∀ b ∈ (s.operate op).2.spheres, P b := by
  rcases s.operate_cases op with ⟨e, h'⟩ | ⟨t, h', heffect⟩
  · rw [h']
    exact h
  · rw [h']
    cases heffect with
    | add hmass =>
      intro b hb
      rcases List.mem_append.mp hb with hb | hb
      · exact h b hb
      · rw [List.mem_singleton.mp hb]
        exact hP.solid _ _ _ _ hmass
    | setMass hmass =>
      exact Contact.forall_mem_modify h (fun b hb => hP.setMass b _ hmass hb) _
    | setInertia hinertia hi =>
      exact Contact.forall_mem_modify h (fun b hb => hP.setInertia b _ hinertia hb) _
    | configure => exact h
    | call => exact hP.after h _
    | run =>
      exact perform_induction (P := fun t => ∀ b ∈ t.spheres, P b)
        (fun _ c _ ht => hP.after ht c) h

/-- A stable property of all spheres survives any operations. -/
theorem operateAll (hP : Stable P) (h : ∀ b ∈ s.spheres, P b) (ops : List (Operation K)) :
    ∀ b ∈ (s.operateAll ops).spheres, P b :=
  operateAll_induction (P := fun t => ∀ b ∈ t.spheres, P b) (fun _ op ht => hP.operate ht op) h ops

end Stable

/-! ### The steps that have been made -/

/-- The parameters of the steps that are made in a run, up to the first step that is refused. -/
def runLog (s : Simulation K) : ℕ → List (SimulationParameters K)
  | 0 => []
  | n + 1 =>
    match s.step with
    | .error _ => []
    | .ok t => s.params :: t.runLog n

/-- A run whose first step is possible makes all its steps, with the same parameters. -/
theorem runLog_of_ok {u : Unit} (h : s.checkStep = .ok u) (n : ℕ) :
    s.runLog n = List.replicate n s.params := by
  induction n generalizing s with
  | zero => rfl
  | succ n ih =>
    simp only [runLog, step_of_ok h, ih (checkStep_advance h), advance_params, List.replicate_succ]

/-- The parameters of the steps that an operation makes. -/
def stepsIn (s : Simulation K) : Operation K → List (SimulationParameters K)
  | .add _ _ _ _ | .setMass _ _ | .setInertia _ _ | .configure _ => []
  | .call (.push _ _) | .call (.twist _ _) => []
  | .call .step => s.runLog 1
  | .run n => s.runLog n

/-- The parameters of all steps that several operations make, in order. -/
def log (s : Simulation K) : List (Operation K) → List (SimulationParameters K)
  | [] => []
  | op :: ops => s.stepsIn op ++ (s.operate op).2.log ops

theorem log_append (s : Simulation K) (ops ops' : List (Operation K)) :
    s.log (ops ++ ops') = s.log ops ++ (s.operateAll ops).log ops' := by
  induction ops generalizing s with
  | nil => rfl
  | cons op ops ih => rw [List.cons_append, log, log, ih, List.append_assoc, operateAll_cons]

/-- A single step is a run. -/
theorem operate_step_snd (s : Simulation K) : (s.operate (.call .step)).2 = (s.run 1).2 := by
  rw [operate, run, call]
  cases s.step with
  | ok t => rfl
  | error e => rfl

variable {params : List (SimulationParameters K)}

/-- What a state tells about the steps that have led to it: the sum of their lengths, from the left,
and whether the last one was resolved by the solver that reports. -/
structure IsLogged (s : Simulation K) (params : List (SimulationParameters K)) : Prop where
  time : s.time = (params.map (·.dt)).foldl (· + ·) 0
  diagnostics : s.diagnostics.isSome ↔
    ∃ p, params.getLast? = some p ∧ p.solver.kind = .sequential

namespace IsLogged

/-- The state and its log after a step. -/
theorem advance (h : s.IsLogged params) : s.advance.IsLogged (params ++ [s.params]) where
  time := by
    rw [advance_time, h.time, List.map_append, List.foldl_append]
    rfl
  diagnostics := by
    rw [advance_diagnostics, List.getLast?_concat]
    simp only [solveContacts, Option.some.injEq, exists_eq_left']
    cases s.params.solver.kind with
    | sequential => simp
    | direct => simp

theorem run (h : s.IsLogged params) (n : ℕ) : (s.run n).2.IsLogged (params ++ s.runLog n) := by
  induction n generalizing s params with
  | zero => rwa [runLog, List.append_nil]
  | succ n ih =>
    rw [Simulation.run, runLog]
    cases hstep : s.step with
    | error e => rwa [List.append_nil]
    | ok t =>
      obtain ⟨-, -, rfl⟩ := step_eq_ok_iff.mp hstep
      have htail := ih h.advance
      rwa [List.append_assoc] at htail

/-- An operation whose effect leaves clock and report alone makes no entry in the log. -/
theorem of_quiet (h : s.IsLogged params)
    (hquiet : ∀ t, s.Effect op t → t.time = s.time ∧ t.diagnostics = s.diagnostics) :
    (s.operate op).2.IsLogged (params ++ []) := by
  rw [List.append_nil]
  rcases s.operate_cases op with ⟨e, h'⟩ | ⟨t, h', heffect⟩
  · rwa [h']
  · obtain ⟨htime, hdiagnostics⟩ := hquiet t heffect
    rw [h']
    exact ⟨htime.trans h.time, hdiagnostics ▸ h.diagnostics⟩

/-- The state and its log after an operation. -/
theorem operate (h : s.IsLogged params) (op : Operation K) :
    (s.operate op).2.IsLogged (params ++ s.stepsIn op) := by
  cases op with
  | add name position radius mass =>
    apply h.of_quiet
    rintro t ⟨⟩
    exact ⟨rfl, rfl⟩
  | setMass j mass =>
    apply h.of_quiet
    rintro t ⟨⟩
    exact ⟨rfl, rfl⟩
  | setInertia j inertia =>
    apply h.of_quiet
    rintro t ⟨⟩
    exact ⟨rfl, rfl⟩
  | configure params' =>
    apply h.of_quiet
    rintro t ⟨⟩
    exact ⟨rfl, rfl⟩
  | call c =>
    cases c with
    | push j force =>
      apply h.of_quiet
      rintro t ⟨⟩
      rw [after_push]
      exact ⟨rfl, rfl⟩
    | twist j torque =>
      apply h.of_quiet
      rintro t ⟨⟩
      rw [after_twist]
      exact ⟨rfl, rfl⟩
    | step =>
      rw [operate_step_snd]
      exact h.run 1
  | run n => exact h.run n

theorem operateAll (h : s.IsLogged params) (ops : List (Operation K)) :
    (s.operateAll ops).IsLogged (params ++ s.log ops) := by
  induction ops generalizing s params with
  | nil => rwa [log, List.append_nil]
  | cons op ops ih =>
    have htail := ih (h.operate op)
    rwa [List.append_assoc] at htail

end IsLogged

/-- Nothing waits for the next step. -/
def NothingPending (s : Simulation K) : Prop := ∀ b ∈ s.spheres, b.force = 0 ∧ b.torque = 0

/-- A step uses up what was pending. -/
theorem nothingPending_advance (s : Simulation K) : s.advance.NothingPending :=
  forall_mem_advance fun _ _ _ _ => ⟨rfl, rfl⟩

theorem NothingPending.run (h : s.NothingPending) (n : ℕ) : (s.run n).2.NothingPending := by
  induction n generalizing s with
  | zero => exact h
  | succ n ih =>
    rw [Simulation.run]
    cases hstep : s.step with
    | error e => exact h
    | ok t =>
      obtain ⟨-, -, rfl⟩ := step_eq_ok_iff.mp hstep
      exact ih (nothingPending_advance s)

theorem nothingPending_run (s : Simulation K) (n : ℕ) (h : s.runLog n ≠ []) :
    (s.run n).2.NothingPending := by
  cases n with
  | zero => exact absurd rfl h
  | succ n =>
    rw [run]
    cases hstep : s.step with
    | error e => simp [runLog, hstep] at h
    | ok t =>
      obtain ⟨-, -, rfl⟩ := step_eq_ok_iff.mp hstep
      exact (nothingPending_advance s).run n

/-- Right after an operation that has made a step nothing is pending. -/
theorem nothingPending_operate (s : Simulation K) (h : s.stepsIn op ≠ []) :
    (s.operate op).2.NothingPending := by
  cases op with
  | call c =>
    cases c with
    | step =>
      rw [operate_step_snd]
      exact nothingPending_run s 1 h
    | push j force => exact absurd rfl h
    | twist j torque => exact absurd rfl h
  | run n => exact nothingPending_run s n h
  | add name position radius mass => exact absurd rfl h
  | setMass j mass => exact absurd rfl h
  | setInertia j inertia => exact absurd rfl h
  | configure params => exact absurd rfl h

end Simulation

/-- A simulation to start from. -/
inductive Origin (K : Type) where
  | empty
  | stack (count : Nat) (radius : K)

/-- The state of a simulation to start from. -/
def Origin.simulation : Origin K → Simulation K
  | empty => .empty
  | stack count radius => .stack count radius

namespace Origin

/-- The spheres to start with are solid ones of unit mass. -/
theorem exists_solid (origin : Origin K) {b : Sphere K} (hb : b ∈ origin.simulation.spheres) :
    ∃ name position radius, b = .solid name position radius 1 := by
  cases origin with
  | empty => cases hb
  | stack count radius =>
    obtain ⟨i, -, rfl⟩ := List.mem_map.mp hb
    exact ⟨_, _, _, rfl⟩

/-- Every sphere that can come about has all stable properties. -/
theorem forall_mem_operateAll (hone : Scalar.isPositiveFinite (1 : K)) (origin : Origin K)
    (ops : List (Operation K)) {P : Sphere K → Prop} (hP : Simulation.Stable P) :
    ∀ b ∈ (origin.simulation.operateAll ops).spheres, P b := by
  refine hP.operateAll ?_ ops
  intro b hb
  obtain ⟨name, position, radius, rfl⟩ := origin.exists_solid hb
  exact hP.solid name position radius 1 hone

theorem isLogged (origin : Origin K) : origin.simulation.IsLogged [] := by
  cases origin with
  | empty => exact ⟨rfl, by simp [simulation, Simulation.empty]⟩
  | stack count radius => exact ⟨rfl, by simp [simulation, Simulation.stack, Simulation.empty]⟩

/-- Every state that can come about has the log of the steps that were made. -/
theorem isLogged_operateAll (origin : Origin K) (ops : List (Operation K)) :
    (origin.simulation.operateAll ops).IsLogged (origin.simulation.log ops) :=
  origin.isLogged.operateAll ops

end Origin

end SphereBench
