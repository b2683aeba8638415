import SphereBench.Scalar
import SphereBench.Statistic.Kind
/-!
# Running tallies

What has to be kept of a stream of samples in order to answer every kind of statistic at any time,
without the samples themselves: their number, the mean with the sum of squared deviations from it
in running form, the sum of squares, and the extrema.
-/

namespace SphereBench

/-- Running aggregates of a stream of samples. -/
structure Tally (K : Type) where
  /-- Number of samples. -/
  count : Nat
  /-- Mean of the samples. -/
  mean : K
  /-- Sum of the squared deviations from the mean. -/
  deviation : K
  /-- Sum of the squares. -/
  squares : K
  /-- Greatest absolute value. -/
  maxAbs : K
  /-- Greatest value. -/
  max : K
  /-- Least value. -/
  min : K
  deriving BEq

namespace Tally
variable {K : Type} [Scalar K]

/-- The tally of no samples. -/
def empty : Tally K := ⟨0, 0, 0, 0, 0, 0, 0⟩

/-- The tally after one more sample. The first sample is both extrema as it is, so that the zeros
of the empty tally take no part. -/
def push (t : Tally K) (x : K) : Tally K :=
  let count := t.count + 1
  let delta := x - t.mean
  let mean := t.mean + delta / (count : K)
  { count := count
    mean := mean
    deviation := t.deviation + delta * (x - mean)
    squares := t.squares + x * x
    maxAbs := Scalar.maxNum t.maxAbs (Scalar.abs x)
    max := if count = 1 then x else Scalar.maxNum t.max x
    min := if count = 1 then x else Scalar.minNum t.min x }

@[simp] theorem count_push (t : Tally K) (x : K) : (t.push x).count = t.count + 1 := rfl

/-- The value of a statistic. Every statistic of no samples is zero, and so is the variance of
one. -/
def value (t : Tally K) (k : Statistic) : K :=
  if t.count = 0 then 0
  else
    match k with
    | .maxAbs => t.maxAbs
    | .mean => t.mean
    | .variance => if t.count > 1 then t.deviation / ((t.count - 1 : Nat) : K) else 0
    | .rms => Scalar.sqrt (t.squares / (t.count : K))
    | .maxPositive => t.max
    | .maxNegative => t.min

/-- The tally of a list of samples. -/
def ofList (xs : List K) : Tally K := xs.foldl push empty

@[simp] theorem ofList_nil : ofList ([] : List K) = empty := rfl

@[simp] theorem ofList_append_singleton (xs : List K) (x : K) :
    ofList (xs ++ [x]) = (ofList xs).push x := by simp [ofList]

@[simp] theorem count_ofList (xs : List K) : (ofList xs).count = xs.length := by
  have hfold (t : Tally K) : (xs.foldl push t).count = t.count + xs.length := by
    induction xs generalizing t with
    | nil => rfl
    | cons x xs ih =>
      rw [List.foldl_cons, ih, count_push, List.length_cons, Nat.add_right_comm, Nat.add_assoc]
  exact (hfold empty).trans (Nat.zero_add _)

end Tally

end SphereBench
