import SphereBench.Experiment.Config
import SphereBench.Simulation.Error
import SphereBench.Space.Vector
/-!
# Observed worlds

An experiment knows the simulation that it observes only as a world: something that can be sampled
and stepped. A world may be any state with any functions on it, and each of its actions may fail.

## Main definitions

* `Observable`, `Reading` — what can be observed of the tracked body, and an observation.
* `Instrument` — the observations of a state; `Instrument.vector` and `Instrument.scalar` ask for
  a shape.
* `World` — an instrument with actions.
* `RunError` — how a run can fail.
-/

namespace SphereBench

/-- What can be observed of the tracked body. -/
inductive Observable where
  /-- Position of the centre. -/
  | position
  | linearVelocity
  | angularVelocity
  | angularMomentum
  /-- Kinetic and potential energy. -/
  | energy
  deriving DecidableEq, Repr

namespace Observable

/-- The name in messages. -/
def name : Observable → String
  | position => "Position"
  | linearVelocity => "LinearVelocity"
  | angularVelocity => "AngularVelocity"
  | angularMomentum => "AngularMomentum"
  | energy => "Energy"

/-- Every quantity. -/
def all : List Observable := [position, linearVelocity, angularVelocity, angularMomentum, energy]

end Observable

/-- The shape of an observation. -/
inductive Shape where
  | scalar
  | vector
  deriving DecidableEq, Repr

/-- The name in messages. -/
def Shape.name : Shape → String
  | scalar => "scalar"
  | vector => "vector"

/-- An observation. -/
inductive Reading (K : Type) where
  | scalar (x : K)
  | vector (v : Vec3 K)

/-- The shape of an observation. -/
def Reading.shape {K : Type} : Reading K → Shape
  | scalar _ => .scalar
  | vector _ => .vector

/-- What a world tells about its solver after a step. -/
@[ext] structure Convergence (K : Type) where
  /-- Mean change of impulse in the last sweep. -/
  change : K
  /-- Mean error left in the contacts. -/
  residual : K

/-- What a world is told before its first step. -/
@[ext] structure StepSettings (K : Type) where
  dt : K
  iterations : Nat
  tolerance : K

/-- How a run fails. The type `ε` is that of the errors of the world. -/
inductive RunError (K ε : Type) where
  /-- The stack cannot be built. -/
  | build (cause : SimulationError K)
  /-- An action of the world failed. -/
  | world (cause : ε)
  /-- An observation has the wrong shape. -/
  | shape (quantity : Observable) (found expected : Shape)
  /-- The clock of the world is too far from the duration asked for. -/
  | drift (expected actual tolerance : K)
  | invalidConfig (fault : ConfigFault)

namespace RunError

/-- The sentence shown to the user, given that for the errors of the world. -/
def message {ε : Type} (causeText : ε → String) : RunError Float ε → String
  | build cause => cause.message
  | world cause => "simulated world failed: " ++ causeText cause
  | shape quantity found expected =>
    quantity.name ++ " was sampled as a " ++ found.name ++ ", expected a " ++ expected.name
  | drift expected actual tolerance =>
    let text := Decimal.Style.plain.text
    "simulated " ++ text actual ++ "s instead of " ++ text expected ++ "s (allowed drift " ++
      text tolerance ++ "s)"
  | invalidConfig fault => "invalid configuration: " ++ fault.requirement

end RunError

/-- The observations that can be made of a state. -/
structure Instrument (K σ : Type) where
  /-- Simulated time. -/
  time : σ → K
  sample : σ → Observable → Reading K
  /-- What the solver of the last step reported, if it reports anything. -/
  diagnostics : σ → Option (Convergence K) := fun _ => none

namespace Instrument
variable {K σ ε : Type}

/-- An observation that has to be a vector. -/
def vector (i : Instrument K σ) (s : σ) (q : Observable) : Except (RunError K ε) (Vec3 K) :=
  match i.sample s q with
  | .vector v => .ok v
  | other => .error (.shape q other.shape .vector)

/-- An observation that has to be a scalar. -/
def scalar (i : Instrument K σ) (s : σ) (q : Observable) : Except (RunError K ε) K :=
  match i.sample s q with
  | .scalar x => .ok x
  | other => .error (.shape q other.shape .scalar)

end Instrument

/-- A state that can be observed and acted upon. An action says whether it failed, and in either
case how it left the state. -/
structure World (K σ ε : Type) extends Instrument K σ where
  /-- Takes new settings for the solver and the time step. -/
  configure : StepSettings K → σ → Except ε Unit × σ
  /-- Adds a force on the tracked body for the next step. -/
  applyForce : Vec3 K → σ → Except ε Unit × σ
  /-- Takes one step. -/
  step : σ → Except ε Unit × σ

end SphereBench
