import SphereBench.Text.Blank
import SphereBench.Text.Caseless
import SphereBench.Text.Pieces
/-!
# Kinds of statistic

The summaries that a signal can be asked for, and the names by which a user chooses them, alone or
in a list with commas.

## Main definitions

* `Statistic` — the kinds of summary, in the order of every report.
* `Statistic.parse`, `Statistic.parseList` — kinds from their names.
* `StatisticSet` — a set of kinds, listed in the order of `Statistic.all`.
-/

namespace SphereBench

/-- A summary of a stream of samples. -/
inductive Statistic where
  /-- Greatest absolute value. -/
  | maxAbs
  /-- Arithmetic mean. -/
  | mean
  /-- Sample variance, with one degree of freedom less than there are samples. -/
  | variance
  /-- Root of the mean square. -/
  | rms
  /-- Greatest value. -/
  | maxPositive
  /-- Least value. -/
  | maxNegative
  deriving DecidableEq, Repr

/-- Why a choice of statistics is refused. -/
inductive StatisticError where
  /-- No kind has this name; blanks around it are already removed. -/
  | unknown (name : String)
  /-- The list is blank. -/
  | emptyList
  deriving DecidableEq, Repr

namespace StatisticError

/-- The sentence shown to the user. -/
def message : StatisticError → String
  | unknown name => "unknown statistic name `" ++ name ++ "`"
  | emptyList => "no statistic names given"

end StatisticError

namespace Statistic

/-- Every kind, in the order of every report. -/
def all : List Statistic := [maxAbs, mean, variance, rms, maxPositive, maxNegative]

@[simp] theorem mem_all (k : Statistic) : k ∈ all := by cases k <;> decide

/-- The name of a kind. -/
def name : Statistic → String
  | maxAbs => "MaxAbs"
  | mean => "Mean"
  | variance => "Variance"
  | rms => "Rms"
  | maxPositive => "MaxPositive"
  | maxNegative => "MaxNegative"

/-- The kind with a name, up to case and to blanks around it. -/
def parse (s : String) : Except StatisticError Statistic :=
  match Text.findNamed? name all (Text.trim s) with
  | some k => .ok k
  | none => .error (.unknown (Text.trim s))

/-- The kinds named in a list with commas, in the order of the list. The first piece without a
kind is the one reported. -/
def parseList (s : String) : Except StatisticError (List Statistic) :=
  if Text.trim s = "" then .error .emptyList
  else (Text.pieces ',' s).mapM parse

end Statistic

/-- A set of kinds. -/
structure StatisticSet where
  /-- The members in the order of every report, each once. -/
  kinds : List Statistic
  /-- The list is fixed by its members. -/
  ordered : kinds = Statistic.all.filter (· ∈ kinds)
  deriving DecidableEq

namespace StatisticSet

instance : Membership Statistic StatisticSet := ⟨fun s k => k ∈ s.kinds⟩

instance (k : Statistic) (s : StatisticSet) : Decidable (k ∈ s) :=
  inferInstanceAs (Decidable (k ∈ s.kinds))

theorem mem_def {k : Statistic} {s : StatisticSet} : k ∈ s ↔ k ∈ s.kinds := Iff.rfl

/-- The set of the kinds with a property. -/
def ofPred (p : Statistic → Bool) : StatisticSet where
  kinds := Statistic.all.filter p
  ordered := by
    refine List.filter_congr fun k _ => ?_
    simp [List.mem_filter]

@[simp] theorem mem_ofPred {p : Statistic → Bool} {k : Statistic} : k ∈ ofPred p ↔ p k := by
  simp [mem_def, ofPred, List.mem_filter]

/-- Sets with the same members are equal. -/
@[ext] theorem ext {s t : StatisticSet} (h : ∀ k, k ∈ s ↔ k ∈ t) : s = t := by
  have hk : s.kinds = t.kinds := by
    rw [s.ordered, t.ordered]
    exact List.filter_congr fun k _ => by simpa [mem_def] using h k
  cases s
  cases t
  cases hk
  rfl

/-- The empty set. -/
def empty : StatisticSet := ofPred fun _ => false

@[simp] theorem not_mem_empty {k : Statistic} : ¬ k ∈ empty := by simp [empty]

/-- The set with one more member. -/
def insert (s : StatisticSet) (k : Statistic) : StatisticSet :=
  ofPred fun j => decide (j = k) || decide (j ∈ s)

@[simp] theorem mem_insert {s : StatisticSet} {j k : Statistic} :
    j ∈ s.insert k ↔ j = k ∨ j ∈ s := by simp [insert]

end StatisticSet

end SphereBench
