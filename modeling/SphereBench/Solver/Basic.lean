import SphereBench.Scalar
import SphereBench.Text.Blank
import SphereBench.Text.Caseless
/-!
# Contact solvers

The two ways of resolving the contacts of a step, the parameters that they take, and the
diagnostics that the sequential one reports.
-/

namespace SphereBench

/-- A way of resolving contacts. -/
inductive Solver where
  /-- Repeated sweeps over all contacts with accumulated impulses; reports diagnostics. -/
  | sequential
  /-- One response per contact, in order; reports nothing. -/
  | direct
  deriving DecidableEq, Repr

namespace Solver

/-- Every solver. -/
def all : List Solver := [sequential, direct]

@[simp] theorem mem_all (k : Solver) : k ∈ all := by cases k <;> decide

/-- The name of a solver. -/
def name : Solver → String
  | sequential => "sequential"
  | direct => "direct"

/-- The solver with a name, up to case and to blanks around it. -/
def ofName? (s : String) : Option Solver := Text.findNamed? name all (Text.trim s)

end Solver

/-- Parameters of a contact solver. -/
@[ext] structure SolverParameters (K : Type) where
  kind : Solver
  /-- Most sweeps over the contacts. -/
  iterations : Nat
  /-- Sweeps end once their mean change of impulse is at most this. -/
  tolerance : K
  /-- Fraction of the approach that is reversed. -/
  restitution : K
  /-- Fraction of the penetration to be taken out in one step. -/
  correction : K

/-- A measure of error for the contacts, split by direction. -/
@[ext] structure ContactError (K : Type) where
  /-- Along the normals. -/
  normal : K
  /-- Across the normals. -/
  friction : K
  /-- Both together. -/
  total : K

/-- Report on one sequential solution. -/
@[ext] structure Diagnostics (K : Type) where
  /-- Root mean square of the changes of impulse in the last sweep. -/
  change : ContactError K
  /-- Root mean square by which the contacts miss their conditions. -/
  residual : ContactError K
  /-- Number of sweeps. -/
  iterations : Nat
  /-- Number of contacts. -/
  contacts : Nat

variable {K : Type} [Scalar K]

/-- The parameters of a new simulation. -/
def SolverParameters.default : SolverParameters K := ⟨.sequential, 50, 0, 0, 0.2⟩

/-- The error with given parts. -/
def ContactError.ofParts (normal friction : K) : ContactError K :=
  ⟨normal, friction, Scalar.hypot normal friction⟩

/-- No error. -/
def ContactError.zero : ContactError K := ⟨0, 0, 0⟩

/-- The report when there is no contact. -/
def Diagnostics.idle : Diagnostics K := ⟨.zero, .zero, 0, 0⟩

end SphereBench
