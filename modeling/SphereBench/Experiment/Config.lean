import SphereBench.Decimal.Style
import SphereBench.Solver.Basic
/-!
# Configurations of the stack experiment

The experiment drops a stack of five spheres and observes the top one. A configuration gives the
mass of the top sphere, the loads on it, and how the motion is computed.
-/

namespace SphereBench

/-- Parameters of one run. -/
@[ext] structure Config (K : Type) where
  solver : Solver
  /-- Most sweeps of the solver in one step. -/
  iterations : Nat
  /-- Time step. -/
  dt : K
  /-- Mass of the top sphere; the others have unit mass. -/
  mass : K
  /-- Acceleration of free fall along the z axis. -/
  gravity : K
  /-- Force on the top sphere along the z axis, in every step. -/
  force : K
  /-- Change of impulse at which the solver stops. -/
  tolerance : K
  /-- Time to be simulated. -/
  duration : K

/-- The first parameter, or group of parameters, that is out of range. -/
inductive ConfigFault where
  | timeStep
  | duration
  | mass
  | iterations
  /-- Gravity, force and tolerance are checked together. -/
  | loads
  deriving DecidableEq, Repr

namespace ConfigFault

/-- What the parameter has to satisfy. -/
def requirement : ConfigFault → String
  | timeStep => "dt must be positive and finite"
  | duration => "duration must be positive and finite"
  | mass => "mass must be positive and finite"
  | iterations => "iterations must be at least 1"
  | loads => "gravity and force must be finite, tolerance non-negative"

end ConfigFault

namespace Config
variable {K : Type} [Scalar K]

/-- The standard run: ten seconds in unit gravity with nothing pushing. -/
def default : Config K where
  solver := .sequential
  iterations := 50
  dt := 0.001
  mass := 1
  gravity := -1
  force := 0
  tolerance := 0
  duration := 10.0

/-- A run with small steps in strong gravity. -/
def strongGravity (solver : Solver) : Config K :=
  { default with solver := solver, dt := 3e-4, gravity := -100.0 }

/-- The masses of the standard sweep. -/
def sweepMasses : List K := [0.1, 1, 10.0, 100.0, 1000.0, 10000.0]

/-- The same run once for each mass of the sweep. -/
def acrossMasses (c : Config K) : List (Config K) := sweepMasses.map fun m => { c with mass := m }

/-- The least number of steps that cover the duration. -/
def stepCount (c : Config K) : Nat := Scalar.ceilCount (c.duration / c.dt)

/-- Refuses the first parameter that is out of range. -/
def check (c : Config K) : Except ConfigFault Unit :=
  if !Scalar.isPositiveFinite c.dt then .error .timeStep
  else if !Scalar.isPositiveFinite c.duration then .error .duration
  else if !Scalar.isPositiveFinite c.mass then .error .mass
  else if c.iterations = 0 then .error .iterations
  else if Scalar.isFinite c.gravity && Scalar.isFinite c.force && decide (0 ≤ c.tolerance) then
    .ok ()
  else .error .loads

end Config

end SphereBench
