import SphereBench.Proofs.Simulation.Stack
import SphereBench.Experiment.Stack
/-!
# The unpushed stack

The stack of the experiment with nothing pushing on it. Its states are known in advance: after any
number of steps the stack still rests, in a frame that has fallen for that many steps.
-/

namespace SphereBench

/-- The change to a frame that has fallen for `k` steps of length `dt` from rest, by the rule of the
program: the new velocity moves the frame. -/
noncomputable def Boost.fall (gravity dt : ℝ) (k : ℕ) : Boost :=
  (⟨0, 0⟩ : Boost).later (.alongZ gravity) dt k

namespace Boost

theorem fall_shift (gravity dt : ℝ) (k : ℕ) :
    (fall gravity dt k).shift = .alongZ (gravity * dt ^ 2 * triangle k) := by
  ext <;> simp [fall, later]
  ring

theorem fall_velocity (gravity dt : ℝ) (k : ℕ) :
    (fall gravity dt k).velocity = .alongZ (gravity * dt * k) := by
  ext <;> simp [fall, later]
  ring

theorem fall_succ (gravity dt : ℝ) (k : ℕ) :
    (fall gravity dt k).later (.alongZ gravity) dt 1 = fall gravity dt (k + 1) :=
  later_later _ _ _ _ _

/-- A frame that has not fallen yet is the first one. -/
theorem fall_zero_sphere (gravity dt : ℝ) (s : Sphere ℝ) : (fall gravity dt 0).sphere s = s := by
  rw [fall, later_zero]
  exact Sphere.ext rfl (add_zero _) rfl (add_zero _) rfl rfl rfl rfl rfl rfl

end Boost

namespace TrackedBody
noncomputable section

/-- The spheres of the experiment before the first step, with a given mass of the top one. -/
def restingStack (mass : ℝ) : List (Sphere ℝ) :=
  (Simulation.stack stackSize (stackRadius : ℝ)).spheres.modify 4 fun b =>
    { b with mass := mass, inertia := Sphere.solidInertia mass stackRadius }

/-- The top sphere before the first step. -/
def topSphere (mass : ℝ) : Sphere ℝ :=
  { Simulation.stackSphere (stackRadius : ℝ) 4 with
    mass := mass
    inertia := Sphere.solidInertia mass stackRadius }

/-- The world of the experiment before it gets its settings. -/
def initial (c : Config ℝ) : TrackedBody ℝ where
  simulation := { stackSimulation c with spheres := restingStack c.mass }
  body := 4

/-- The world of the experiment after `k` steps in which nothing pushed. -/
def fallen (c : Config ℝ) (k : ℕ) : TrackedBody ℝ where
  simulation :=
    { spheres := (restingStack c.mass).map (Boost.fall c.gravity c.dt k).sphere
      params :=
        { gravity := .alongZ c.gravity
          dt := c.dt
          solver :=
            { SolverParameters.default with
              kind := c.solver
              iterations := c.iterations
              tolerance := c.tolerance } }
      time := k * c.dt
      diagnostics := if k = 0 then none else c.solver.idleReport }
  body := 4

end

variable {c : Config ℝ}

theorem getElem?_restingStack (mass : ℝ) : (restingStack mass)[4]? = some (topSphere mass) := rfl

theorem isStack_restingStack (mass : ℝ) : IsStack stackRadius (restingStack mass) := by
  refine (IsStack.stack stackSize stackRadius).modify ?_ ?_ 4
  · intro b
    rfl
  · intro b
    rfl

theorem atRest_restingStack (mass : ℝ) : ∀ b ∈ restingStack mass, b.AtRest := by
  refine Contact.forall_mem_modify ?_ ?_ 4
  · intro b hb
    exact (Simulation.body_stack hb).1
  · intro b hb
    exact ⟨hb.orientation, hb.velocity, hb.spin, hb.force, hb.torque⟩

theorem ofName_stackSimulation (c : Config ℝ) :
    ofName (stackSimulation c) topName = .ok ⟨stackSimulation c, 4⟩ := rfl

/-- The stack of a configuration with a positive mass can be built. -/
theorem ofConfig_eq (hmass : 0 < c.mass) : ofConfig c = .ok (initial c) := by
  have hinertia : 0 < (Sphere.solidInertia c.mass stackRadius : Vec3 ℝ).minComponent := by
    simp only [Sphere.solidInertia, Vec3.minComponent, Vec3.const, stackRadius,
      Scalar.minNum_real, min_self]
    positivity
  have hlength : 4 < (stackSimulation c).spheres.length := by
    simp [stackSimulation, Simulation.stack, stackSize]
  simp only [ofConfig, ofName_stackSimulation, bind, Except.bind, pure, Except.pure,
    Simulation.setMass_eq _ _ hmass, Simulation.setInertia_eq _ _ hinertia, Simulation.modify_eq,
    if_pos hlength, List.length_modify, List.modify_modify_eq]
  rfl

/-- The settings of a configuration with a positive time step are accepted. -/
theorem configure_initial (hdt : 0 < c.dt) :
    world.configure c.settings (initial c) = (.ok (), fallen c 0) := by
  have hspheres : (restingStack c.mass).map (Boost.fall c.gravity c.dt 0).sphere =
      restingStack c.mass := by
    have hid : (Boost.fall c.gravity c.dt 0).sphere = id := funext (Boost.fall_zero_sphere _ _)
    rw [hid, List.map_id]
  have hdt' : Scalar.isPositiveFinite c.settings.dt := by simpa [Config.settings] using hdt
  simp only [world, act, configure, if_pos hdt', fallen, hspheres, if_true, Nat.cast_zero,
    zero_mul]
  rfl

/-- A push without force is accepted and changes nothing. -/
theorem applyForce_fallen (hforce : c.force = 0) (k : ℕ) :
    world.applyForce c.push (fallen c k) = (.ok (), fallen c k) := by
  have hpush : c.push = 0 := by rw [Config.push, hforce]; rfl
  have hlength : (fallen c k).body < (fallen c k).simulation.spheres.length := by
    simp [fallen, restingStack, Simulation.stack, stackSize]
  have hid : (fun b : Sphere ℝ => { b with force := b.force + 0 }) = id := by
    funext b
    simp
  simp only [world, act, Simulation.push, Simulation.modify_eq, hpush, hid, List.modify_id,
    if_pos hlength]

/-- A step moves the frame of the stack on. -/
theorem step_fallen (hdt : 0 < c.dt) (k : ℕ) :
    world.step (fallen c k) = (.ok (), fallen c (k + 1)) := by
  have hne : (fallen c k).simulation.spheres ≠ [] := by
    simp [fallen, restingStack, Simulation.stack, stackSize, List.range_succ]
  have hdt' : Scalar.isPositiveFinite (fallen c k).simulation.params.dt := by
    simpa [fallen] using hdt
  obtain ⟨hspheres, hdiagnostics⟩ := Simulation.advance_of_atRest
    (s := (fallen c k).simulation) rfl (atRest_restingStack c.mass) (isStack_restingStack c.mass)
  have hadvance : (fallen c k).simulation.advance = (fallen c (k + 1)).simulation := by
    refine Simulation.ext ?_ rfl ?_ ?_
    · rw [hspheres]
      exact congrArg (fun f : Boost => (restingStack c.mass).map f.sphere)
        (Boost.fall_succ c.gravity c.dt k)
    · rw [Simulation.advance_time]
      simp only [fallen]
      push_cast
      ring
    · rw [hdiagnostics]
      rfl
  have hstep := Simulation.step_eq_ok_iff.mpr ⟨hne, hdt', rfl⟩
  simp only [world, act, hstep, hadvance]
  rfl

/-- No step of the unpushed stack finds a contact. -/
theorem contacts_fallen (c : Config ℝ) (k : ℕ) : (fallen c k).simulation.contacts = [] :=
  Simulation.contacts_of_atRest rfl (atRest_restingStack c.mass) (isStack_restingStack c.mass)

/-- The tracked sphere is the top one, seen from the falling frame. -/
theorem sphere_fallen (c : Config ℝ) (k : ℕ) :
    (fallen c k).sphere = (Boost.fall c.gravity c.dt k).sphere (topSphere c.mass) := by
  simp only [sphere, fallen, List.getElem?_map, getElem?_restingStack, Option.map_some,
    Option.getD_some]

end TrackedBody

end SphereBench
