import SphereBench.Proofs.Statistic.Calls
/-!
# Vector signals in lockstep

A vector signal reads names and forwards changes on its own, apart from the code of its four
signals. Each of the four is nevertheless what the same calls make of a signal alone, when it is
given the component that it stands for. Nothing here depends on the scalars.
-/

namespace SphereBench.VectorSignal
open SignalCall
variable {K : Type} [Scalar K]

/-- A call on a vector signal, which may be refused. -/
def call (v : VectorSignal K) : SignalCall (Vec3 K) → Except StatisticError (VectorSignal K)
  | .enableNamed name => v.enableNamed name
  | .enableList names => v.enableList names
  | .enable k => .ok (v.enable k)
  | .insert a => .ok (v.insert a)
  | .extend as => .ok (v.extend as)
  | .reset => .ok v.reset

/-- A part of a vector signal that sees `f a` of each vector `a`. -/
structure IsComponent (part : VectorSignal K → Signal K) (f : Vec3 K → K) : Prop where
  empty : part .empty = .empty
  update : ∀ (v : VectorSignal K) (g : Signal K → Signal K), part (v.update g) = g (part v)
  insert : ∀ (v : VectorSignal K) (a : Vec3 K), part (v.insert a) = (part v).insert (f a)

theorem isComponent_x : IsComponent VectorSignal.x (Vec3.x : Vec3 K → K) :=
  ⟨rfl, fun _ _ => rfl, fun _ _ => rfl⟩

theorem isComponent_y : IsComponent VectorSignal.y (Vec3.y : Vec3 K → K) :=
  ⟨rfl, fun _ _ => rfl, fun _ _ => rfl⟩

theorem isComponent_z : IsComponent VectorSignal.z (Vec3.z : Vec3 K → K) :=
  ⟨rfl, fun _ _ => rfl, fun _ _ => rfl⟩

theorem isComponent_magnitude : IsComponent VectorSignal.magnitude (Vec3.length : Vec3 K → K) :=
  ⟨rfl, fun _ _ => rfl, fun _ _ => rfl⟩

namespace IsComponent
variable {part : VectorSignal K → Signal K} {f : Vec3 K → K}

theorem enableKinds (h : IsComponent part f) (v : VectorSignal K) (ks : List Statistic) :
    part (v.enableKinds ks) = (part v).enableKinds ks := by
  rw [enableKinds_eq, h.update]

theorem extend (h : IsComponent part f) (v : VectorSignal K) (as : List (Vec3 K)) :
    part (v.extend as) = (part v).extend (as.map f) := by
  induction as generalizing v with
  | nil => rfl
  | cons a as ih =>
    rw [List.map_cons, Signal.extend_cons, ← h.insert]
    exact ih (v.insert a)

/-- A call on the whole is one on the component, which is refused for the same reason. -/
theorem call_map (h : IsComponent part f) (v : VectorSignal K) (c : SignalCall (Vec3 K)) :
    (part v).call (c.map f) = (v.call c).map part := by
  cases c with
  | enableNamed name =>
    simp only [Signal.call, SignalCall.map, call, Signal.enableNamed, enableNamed]
    cases Statistic.parse name with
    | error e => rfl
    | ok k => exact congrArg Except.ok (h.update v (·.enable k)).symm
  | enableList names =>
    simp only [Signal.call, SignalCall.map, call, Signal.enableList, enableList]
    cases Statistic.parseList names with
    | error e => rfl
    | ok ks => exact congrArg Except.ok (h.enableKinds v ks).symm
  | enable k => exact congrArg Except.ok (h.update v (·.enable k)).symm
  | insert a => exact congrArg Except.ok (h.insert v a).symm
  | extend as => exact congrArg Except.ok (h.extend v as).symm
  | reset => exact congrArg Except.ok (h.update v (·.reset)).symm

theorem after_map (h : IsComponent part f) (v : VectorSignal K) (c : SignalCall (Vec3 K)) :
    after Signal.call (part v) (c.map f) = part (after call v c) := by
  rw [after, h.call_map, after]
  cases v.call c <;> rfl

theorem perform_map (h : IsComponent part f) (v : VectorSignal K)
    (calls : List (SignalCall (Vec3 K))) :
    perform Signal.call (part v) (calls.map (·.map f)) = part (perform call v calls) := by
  induction calls generalizing v with
  | nil => rfl
  | cons c cs ih =>
    have htail := ih (after call v c)
    rw [← h.after_map] at htail
    exact htail

theorem outcomes_map (h : IsComponent part f) (v : VectorSignal K)
    (calls : List (SignalCall (Vec3 K))) :
    outcomes Signal.call (part v) (calls.map (·.map f)) = outcomes call v calls := by
  induction calls generalizing v with
  | nil => rfl
  | cons c cs ih =>
    rw [List.map_cons, outcomes, outcomes, h.after_map, ih, h.call_map]
    cases v.call c <;> rfl

end IsComponent

/-- What four signals do that are given the components and the norms of the same vectors, a vector
signal does in one: it ends with the same four signals, and each call returns the same. The four
therefore always have the same statistics enabled and the same number of samples, and a call that is
refused changes none of them. -/
theorem perform_lockstep (calls : List (SignalCall (Vec3 K))) :
    let v := perform call .empty calls
    let alone (f : Vec3 K → K) := perform Signal.call .empty (calls.map (·.map f))
    (v.x = alone (·.x) ∧ v.y = alone (·.y) ∧ v.z = alone (·.z) ∧ v.magnitude = alone (·.length)) ∧
    (∀ f : Vec3 K → K,
      outcomes call .empty calls = outcomes Signal.call .empty (calls.map (·.map f))) ∧
    (v.x.enabled = v.magnitude.enabled ∧ v.y.enabled = v.magnitude.enabled ∧
      v.z.enabled = v.magnitude.enabled) ∧
    (v.x.count = v.count ∧ v.y.count = v.count ∧ v.z.count = v.count ∧
      v.magnitude.count = v.count ∧ v.count = (held calls).length) ∧
    ∀ c e, v.call c = .error e → after call v c = v := by
  intro v alone
  have hx : v.x = alone (·.x) := (isComponent_x.perform_map .empty calls).symm
  have hy : v.y = alone (·.y) := (isComponent_y.perform_map .empty calls).symm
  have hz : v.z = alone (·.z) := (isComponent_z.perform_map .empty calls).symm
  have hmagnitude : v.magnitude = alone (·.length) :=
    (isComponent_magnitude.perform_map .empty calls).symm
  have henabled (f g : Vec3 K → K) : (alone f).enabled = (alone g).enabled := by
    ext k
    simp only [alone, Signal.mem_enabled_perform_map]
  have hcount (f : Vec3 K → K) : (alone f).count = (held calls).length := by
    rw [(Signal.remembers_perform_empty _).count, held_map, List.length_map]
  have hcount' : v.count = (held calls).length := by rw [count, hmagnitude, hcount]
  refine ⟨⟨hx, hy, hz, hmagnitude⟩, ?_, ?_, ?_, ?_⟩
  · intro f
    have hcalls : outcomes call .empty calls =
        outcomes Signal.call .empty (calls.map (·.map (·.x))) :=
      (isComponent_x.outcomes_map .empty calls).symm
    rw [hcalls, Signal.outcomes_map, Signal.outcomes_map]
  · rw [hx, hy, hz, hmagnitude]
    exact ⟨henabled _ _, henabled _ _, henabled _ _⟩
  · rw [hcount', hx, hy, hz, hmagnitude]
    exact ⟨hcount _, hcount _, hcount _, hcount _, rfl⟩
  · intro c e h
    rw [after, h]

end SphereBench.VectorSignal
