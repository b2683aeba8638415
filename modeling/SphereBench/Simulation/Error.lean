import SphereBench.Decimal.Style
import SphereBench.Solver.Basic
import SphereBench.Space.Vector
/-!
# Refused requests

Why a simulation refuses a request, and the sentence that tells the user.
-/

namespace SphereBench

/-- Why a request is refused. -/
inductive SimulationError (K : Type) where
  /-- There is nothing to step. -/
  | noSpheres
  | unknownBody (name : String)
  | indexOutOfRange (index : Nat)
  | invalidTimeStep (dt : K)
  | invalidMass (mass : K)
  | invalidInertia (inertia : Vec3 K)
  /-- No solver has this name, which is kept as it was given. -/
  | unknownSolver (name : String)

namespace SimulationError

/-- A vector as a list of its components. -/
def vectorText (v : Vec3 Float) : String :=
  let text := Decimal.Style.listed.text
  "[" ++ text v.x ++ ", " ++ text v.y ++ ", " ++ text v.z ++ "]"

/-- The sentence shown to the user. -/
def message : SimulationError Float → String
  | noSpheres => "simulation has no spheres"
  | unknownBody name => "no body named `" ++ name ++ "`"
  | indexOutOfRange index => "body index " ++ toString index ++ " out of range"
  | invalidTimeStep dt =>
    "time step must be positive and finite, got " ++ Decimal.Style.plain.text dt
  | invalidMass mass => "mass must be positive and finite, got " ++ Decimal.Style.plain.text mass
  | invalidInertia inertia =>
    "principal inertia must be positive and finite, got " ++ vectorText inertia
  | unknownSolver name =>
    "unknown solver `" ++ name ++ "` (expected `sequential` or `direct`)"

end SimulationError

/-- The solver with a name, up to case and to blanks around it. -/
def Solver.parse {K : Type} (s : String) : Except (SimulationError K) Solver :=
  match ofName? s with
  | some k => .ok k
  | none => .error (.unknownSolver s)

end SphereBench
