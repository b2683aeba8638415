import SphereBench.Body.Motion
import SphereBench.Contact.Detection
import SphereBench.Simulation.Basic
import SphereBench.Solver.Direct
import SphereBench.Solver.Sequential
/-!
# Steps of a simulation

A step moves all spheres, finds the contacts in the new positions, and gives them to the solver.
-/

namespace SphereBench.Simulation
variable {K : Type} [Scalar K]

/-- The contacts of some spheres resolved by the solver of the parameters. -/
@[specialize] def solveContacts (params : SolverParameters K) (dt : K) (spheres : List (Sphere K)) :
    List (Sphere K) × Option (Diagnostics K) :=
  let contacts := Contact.detect spheres
  match params.kind with
  | .sequential =>
    let (spheres, report) := Relaxation.solve spheres contacts params dt
    (spheres, some report)
  | .direct => (Contact.respondEach spheres contacts params, none)

/-- The state after a step of length `params.dt`. -/
@[specialize] def advance (s : Simulation K) : Simulation K :=
  let dt := s.params.dt
  let moved := s.spheres.map (Sphere.advance s.params.gravity dt)
  let (spheres, report) := solveContacts s.params.solver dt moved
  { s with spheres := spheres, time := s.time + dt, diagnostics := report }

/-- A step needs a sphere, and a time step that is positive and finite. -/
def checkStep (s : Simulation K) : Except (SimulationError K) Unit :=
  if s.spheres.isEmpty then .error .noSpheres
  else if Scalar.isPositiveFinite s.params.dt then .ok ()
  else .error (.invalidTimeStep s.params.dt)

/-- The state after a step. -/
@[specialize] def step (s : Simulation K) : Except (SimulationError K) (Simulation K) :=
  s.checkStep.map fun _ => s.advance

/-- The state in which a number of steps end, and the error if one of them is refused. -/
@[specialize] def run (s : Simulation K) : Nat → Except (SimulationError K) Unit × Simulation K
  | 0 => (.ok (), s)
  | n + 1 =>
    match s.step with
    | .error e => (.error e, s)
    | .ok s' => s'.run n

end SphereBench.Simulation
