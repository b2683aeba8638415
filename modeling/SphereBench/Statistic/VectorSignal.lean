import SphereBench.Space.Vector
import SphereBench.Statistic.Signal
/-!
# Signals of vectors

A stream of vectors, summarized along each axis and by magnitude. The four signals are fed and
configured together, so that they always have the same statistics enabled and the same number of
samples.
-/

namespace SphereBench

/-- A stream of vectors with the statistics that it reports. -/
@[ext] structure VectorSignal (K : Type) where
  /-- First components. -/
  x : Signal K
  /-- Second components. -/
  y : Signal K
  /-- Third components. -/
  z : Signal K
  /-- Euclidean norms. -/
  magnitude : Signal K

namespace VectorSignal
variable {K : Type} [Scalar K]

/-- No samples, and no statistic enabled. -/
def empty : VectorSignal K := ⟨.empty, .empty, .empty, .empty⟩

/-- The same change of all four signals. -/
def update (s : VectorSignal K) (f : Signal K → Signal K) : VectorSignal K :=
  ⟨f s.x, f s.y, f s.z, f s.magnitude⟩

/-- Report one more statistic. -/
def enable (s : VectorSignal K) (k : Statistic) : VectorSignal K := s.update (·.enable k)

/-- Report all statistics of a list. -/
def enableKinds (s : VectorSignal K) (ks : List Statistic) : VectorSignal K := ks.foldl enable s

/-- Report the statistic with a name. -/
def enableNamed (s : VectorSignal K) (name : String) : Except StatisticError (VectorSignal K) :=
  (Statistic.parse name).map s.enable

/-- Report the statistics named in a list. If one name is refused, none is enabled. -/
def enableList (s : VectorSignal K) (names : String) : Except StatisticError (VectorSignal K) :=
  (Statistic.parseList names).map s.enableKinds

/-- A new signal that reports the statistics named in a list. -/
def withList (names : String) : Except StatisticError (VectorSignal K) := empty.enableList names

/-- Take one sample. -/
def insert (s : VectorSignal K) (v : Vec3 K) : VectorSignal K :=
  ⟨s.x.insert v.x, s.y.insert v.y, s.z.insert v.z, s.magnitude.insert v.length⟩

/-- Take the samples of a list, in order. -/
def extend (s : VectorSignal K) (vs : List (Vec3 K)) : VectorSignal K := vs.foldl insert s

/-- Drop all samples; the same statistics stay enabled. -/
def reset (s : VectorSignal K) : VectorSignal K := s.update (·.reset)

/-- Number of samples since the last reset. -/
def count (s : VectorSignal K) : Nat := s.magnitude.count

/-- Equality part by part, as for signals. -/
instance : BEq (VectorSignal K) :=
  ⟨fun s t => s.x == t.x && s.y == t.y && s.z == t.z && s.magnitude == t.magnitude⟩

end VectorSignal

end SphereBench
