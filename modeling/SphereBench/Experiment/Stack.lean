import SphereBench.Experiment.Trial
import SphereBench.Simulation.Step
/-!
# The stack experiment

A simulation becomes a world by the choice of one body to track. The experiment tracks the top
sphere of a stack of five, whose mass is that of the configuration.
-/

namespace SphereBench

/-- A simulation observed through one of its bodies. -/
structure TrackedBody (K : Type) where
  simulation : Simulation K
  /-- Index of the tracked body. -/
  body : Nat

variable {K : Type} [Scalar K]

namespace TrackedBody

/-- Track the first body with a name. -/
def ofName (s : Simulation K) (name : String) : Except (SimulationError K) (TrackedBody K) :=
  (s.indexOf name).map fun i => ⟨s, i⟩

/-- Number of spheres in the stack of the experiment. -/
def stackSize : Nat := 5

/-- Radius of each sphere in the stack of the experiment. -/
def stackRadius : K := 0.5

/-- The name of the top sphere. -/
def topName : String := "sphere_5"

/-- The simulation of a stack in the gravity and with the solver of a configuration. -/
def stackSimulation (c : Config K) : Simulation K :=
  let s := Simulation.stack stackSize stackRadius
  { s with params :=
    { s.params with
      gravity := .alongZ c.gravity
      solver := { s.params.solver with kind := c.solver } } }

/-- The stack of a configuration: the top sphere has the mass of the configuration and the moments
of a solid sphere. The other settings are left for `World.configure`. -/
def ofConfig (c : Config K) : Except (SimulationError K) (TrackedBody K) := do
  let t ← ofName (stackSimulation c) topName
  let s ← t.simulation.setMass t.body c.mass
  let s ← s.setInertia t.body (Sphere.solidInertia c.mass stackRadius)
  return ⟨s, t.body⟩

/-- The tracked sphere. Its index stays valid, as no sphere is ever taken away. -/
def sphere (t : TrackedBody K) : Sphere K :=
  t.simulation.spheres[t.body]?.getD (.solid "" 0 0 0)

/-- An observation of the tracked sphere. -/
def sample (t : TrackedBody K) : Observable → Reading K
  | .position => .vector t.sphere.position
  | .linearVelocity => .vector t.sphere.velocity
  | .angularVelocity => .vector t.sphere.spin
  | .angularMomentum => .vector t.sphere.angularMomentum
  | .energy => .scalar (t.sphere.energy t.simulation.params.gravity)

/-- The report of the last step, reduced to its totals. -/
def diagnostics (t : TrackedBody K) : Option (Convergence K) :=
  t.simulation.diagnostics.map fun d => ⟨d.change.total, d.residual.total⟩

/-- The simulation with new settings; the time step is checked first. -/
def configure (settings : StepSettings K) (s : Simulation K) :
    Except (SimulationError K) (Simulation K) :=
  if Scalar.isPositiveFinite settings.dt then
    .ok { s with params :=
      { s.params with
        dt := settings.dt
        solver :=
          { s.params.solver with
            iterations := settings.iterations
            tolerance := settings.tolerance } } }
  else .error (.invalidTimeStep settings.dt)

/-- An action on the simulation; one that fails changes nothing. -/
def act (t : TrackedBody K) (action : Simulation K → Except (SimulationError K) (Simulation K)) :
    Except (SimulationError K) Unit × TrackedBody K :=
  match action t.simulation with
  | .ok s => (.ok (), { t with simulation := s })
  | .error e => (.error e, t)

/-- A tracked body as a world. -/
def world : World K (TrackedBody K) (SimulationError K) where
  time t := t.simulation.time
  sample := sample
  diagnostics := diagnostics
  configure settings t := t.act (configure settings)
  applyForce force t := t.act (·.push t.body force)
  step t := t.act Simulation.step

end TrackedBody

/-- The stack of a configuration after its run, up to the first failure. -/
def observeStack (c : Config K) :
    Except (RunError K (SimulationError K)) (Observation K × TrackedBody K) :=
  match c.check with
  | .error fault => .error (.invalidConfig fault)
  | .ok () =>
    match TrackedBody.ofConfig c with
    | .error e => .error (.build e)
    | .ok t =>
      match TrackedBody.world.observe c t with
      | (.error e, _) => .error e
      | (.ok o, t) => .ok (o, t)

/-- The stack experiment of a configuration, taking `wallTime`, entered into a logbook. -/
def runStack (c : Config K) (wallTime : K) (book : Logbook K) :
    Except (RunError K (SimulationError K)) (Report K) × Logbook K :=
  match observeStack c with
  | .error e => (.error e, book)
  | .ok (o, t) => World.conclude c wallTime t.simulation.time o book

end SphereBench
