import SphereBench.Statistic.Tally
/-!
# Signals

A signal takes a stream of samples and reports the statistics that were enabled on it. Enabling
is independent of the samples: a statistic enabled late reports over all samples so far.
-/

namespace SphereBench

/-- A stream of samples with the statistics that it reports. -/
structure Signal (K : Type) where
  /-- The statistics that are reported. -/
  enabled : StatisticSet
  /-- The samples since the last reset, in aggregate. -/
  tally : Tally K

namespace Signal
variable {K : Type} [Scalar K]

/-- No samples, and no statistic enabled. -/
def empty : Signal K := ⟨.empty, .empty⟩

/-- Report one more statistic; to enable it twice changes nothing. -/
def enable (s : Signal K) (k : Statistic) : Signal K := { s with enabled := s.enabled.insert k }

/-- Report all statistics of a list. -/
def enableKinds (s : Signal K) (ks : List Statistic) : Signal K := ks.foldl enable s

/-- Report the statistic with a name. -/
def enableNamed (s : Signal K) (name : String) : Except StatisticError (Signal K) :=
  (Statistic.parse name).map s.enable

/-- Report the statistics named in a list. If one name is refused, none is enabled. -/
def enableList (s : Signal K) (names : String) : Except StatisticError (Signal K) :=
  (Statistic.parseList names).map s.enableKinds

/-- A new signal that reports the statistics named in a list. -/
def withList (names : String) : Except StatisticError (Signal K) := empty.enableList names

/-- Take one sample. -/
def insert (s : Signal K) (x : K) : Signal K := { s with tally := s.tally.push x }

/-- Take the samples of a list, in order. -/
def extend (s : Signal K) (xs : List K) : Signal K := xs.foldl insert s

/-- Take the same sample a number of times. -/
def insertRepeated (s : Signal K) (x : K) : Nat → Signal K
  | 0 => s
  | n + 1 => insertRepeated (s.insert x) x n

/-- Drop all samples; the same statistics stay enabled. -/
def reset (s : Signal K) : Signal K := { s with tally := .empty }

/-- Number of samples since the last reset. -/
def count (s : Signal K) : Nat := s.tally.count

/-- The value of a statistic, if it is enabled. -/
def value? (s : Signal K) (k : Statistic) : Option K :=
  if k ∈ s.enabled then some (s.tally.value k) else none

/-- The enabled statistics with their values, in the order of every report. -/
def values (s : Signal K) : List (Statistic × K) :=
  s.enabled.kinds.map fun k => (k, s.tally.value k)

/-- Same statistics enabled, and equal aggregates as numbers: a zero equals the zero of the other
sign, and a value that is not a number does not equal itself. -/
instance : BEq (Signal K) := ⟨fun s t => decide (s.enabled = t.enabled) && s.tally == t.tally⟩

end Signal

end SphereBench
