import Mathlib.Data.List.DropRight
import SphereBench.Proofs.Statistic.Names
import SphereBench.Proofs.Statistic.Signal
/-!
# Calls on a signal

A user of a signal chooses statistics, adds samples and drops them again, in any order, and may go
on after a choice that was refused. All that the signal remembers of it is which statistics were
chosen and which samples have come since the last reset: the two have nothing to do with each other.
Nothing here depends on the scalars.
-/

namespace SphereBench

/-- A call on a stream of samples from `α`. -/
inductive SignalCall (α : Type) where
  | enableNamed (name : String)
  | enableList (names : String)
  | enable (k : Statistic)
  | insert (x : α)
  | extend (xs : List α)
  | reset

namespace SignalCall
variable {α β : Type}

/-- The same call with other samples. -/
def map (f : α → β) : SignalCall α → SignalCall β
  | enableNamed name => enableNamed name
  | enableList names => enableList names
  | enable k => enable k
  | insert x => insert (f x)
  | extend xs => extend (xs.map f)
  | reset => reset

/-- The statistics that a call asks for, or why it is refused. -/
def request : SignalCall α → Except StatisticError (List Statistic)
  | enableNamed name => (Statistic.parse name).map fun k => [k]
  | enableList names => Statistic.parseList names
  | enable k => .ok [k]
  | insert _ | extend _ | reset => .ok []

/-- The statistics that a call enables, which are none if it is refused. -/
def kinds (c : SignalCall α) : List Statistic :=
  match c.request with
  | .ok ks => ks
  | .error _ => []

/-- The samples that a call adds. -/
def samples : SignalCall α → List α
  | insert x => [x]
  | extend xs => xs
  | enableNamed _ | enableList _ | enable _ | reset => []

def isReset : SignalCall α → Bool
  | reset => true
  | enableNamed _ | enableList _ | enable _ | insert _ | extend _ => false

/-- Whether a call is about statistics, and not about samples. -/
def isChoice : SignalCall α → Bool
  | enableNamed _ | enableList _ | enable _ => true
  | insert _ | extend _ | reset => false

/-- The samples added since the last reset, in order. -/
def held (calls : List (SignalCall α)) : List α :=
  (calls.rtakeWhile fun c => !c.isReset).flatMap samples

theorem held_concat (calls : List (SignalCall α)) (c : SignalCall α) :
    held (calls ++ [c]) = if c.isReset then [] else held calls ++ c.samples := by
  rw [held, List.rtakeWhile_concat]
  by_cases hc : c.isReset
  · simp [hc]
  · simp [hc, held]

example : held [.insert 1, .reset, .insert 2, .enable .mean, .extend [3, 4]] = [2, 3, 4] := rfl

@[simp] theorem request_map (f : α → β) (c : SignalCall α) : (c.map f).request = c.request := by
  cases c <;> rfl

@[simp] theorem kinds_map (f : α → β) (c : SignalCall α) : (c.map f).kinds = c.kinds := by
  rw [kinds, request_map, kinds]

/-- The samples that are held are those of the calls, whatever is made of them before. -/
theorem held_map (f : α → β) (calls : List (SignalCall α)) :
    held (calls.map (·.map f)) = (held calls).map f := by
  induction calls using List.reverseRecOn with
  | nil => rfl
  | append_singleton calls c ih =>
    rw [List.map_append, List.map_singleton, held_concat, held_concat, ih]
    cases c <;> simp [SignalCall.map, isReset, samples]

theorem mem_kinds {c : SignalCall α} {k : Statistic} :
    k ∈ c.kinds ↔ ∃ ks, c.request = .ok ks ∧ k ∈ ks := by
  rw [kinds]
  cases c.request <;> simp

theorem samples_of_isChoice {c : SignalCall α} (h : c.isChoice) : c.samples = [] := by
  cases c <;> first | rfl | cases h

theorem isReset_of_isChoice {c : SignalCall α} (h : c.isChoice) : c.isReset = false := by
  cases c <;> first | rfl | cases h

section Perform
variable {σ : Type} (call : σ → SignalCall α → Except StatisticError σ)

/-- The state after a call. A refused call leaves the state as it was. -/
def after (s : σ) (c : SignalCall α) : σ :=
  match call s c with
  | .ok t => t
  | .error _ => s

/-- The state after several calls. -/
def perform (s : σ) (calls : List (SignalCall α)) : σ := calls.foldl (after call) s

/-- What each of several calls returns. -/
def outcomes (s : σ) : List (SignalCall α) → List (Except StatisticError Unit)
  | [] => []
  | c :: cs => (call s c).map (fun _ => ()) :: outcomes (after call s c) cs

theorem perform_concat (s : σ) (calls : List (SignalCall α)) (c : SignalCall α) :
    perform call s (calls ++ [c]) = after call (perform call s calls) c := by
  simp [perform]

end Perform

end SignalCall

namespace Signal
open SignalCall
variable {K : Type} [Scalar K]

/-- A call on a signal, which may be refused. -/
def call (s : Signal K) : SignalCall K → Except StatisticError (Signal K)
  | .enableNamed name => s.enableNamed name
  | .enableList names => s.enableList names
  | .enable k => .ok (s.enable k)
  | .insert x => .ok (s.insert x)
  | .extend xs => .ok (s.extend xs)
  | .reset => .ok s.reset

omit [Scalar K] in
theorem eq_of_enabled_of_tally {s t : Signal K} (henabled : ∀ k, k ∈ s.enabled ↔ k ∈ t.enabled)
    (htally : s.tally = t.tally) : s = t := by
  cases s
  cases t
  cases StatisticSet.ext henabled
  cases htally
  rfl

/-- A call is refused for its names only. Otherwise it enables the statistics that it asks for, and
adds its samples or drops all samples. -/
theorem call_eq (s : Signal K) (c : SignalCall K) :
    s.call c = c.request.map fun ks =>
      { enabled := (s.enableKinds ks).enabled
        tally := if c.isReset then .empty else c.samples.foldl Tally.push s.tally } := by
  cases c with
  | enableNamed name =>
    simp only [call, enableNamed, request]
    cases Statistic.parse name <;> rfl
  | enableList names =>
    simp only [call, enableList, request]
    cases Statistic.parseList names with
    | error e => rfl
    | ok ks =>
      have hlist : s.enableKinds ks = ⟨(s.enableKinds ks).enabled, s.tally⟩ :=
        eq_of_enabled_of_tally (fun _ => Iff.rfl) (tally_enableKinds s ks)
      exact congrArg Except.ok hlist
  | enable k => rfl
  | insert x => rfl
  | extend xs =>
    have hextend : s.extend xs = ⟨s.enabled, xs.foldl Tally.push s.tally⟩ :=
      eq_of_enabled_of_tally (fun k => by rw [enabled_extend]) (tally_extend s xs)
    exact congrArg Except.ok hextend
  | reset => rfl

/-- All that a call can do, refused or not. -/
theorem after_eq (s : Signal K) (c : SignalCall K) :
    after call s c =
      { enabled := (s.enableKinds c.kinds).enabled
        tally := if c.isReset then .empty else c.samples.foldl Tally.push s.tally } := by
  rw [after, call_eq, kinds]
  cases hrequest : c.request with
  | ok ks => rfl
  | error e =>
    have hc : c.isChoice := by
      cases c <;> first | rfl | cases hrequest
    simp only [Except.map, isReset_of_isChoice hc, samples_of_isChoice hc]
    rfl

theorem mem_enabled_after {s : Signal K} {c : SignalCall K} {k : Statistic} :
    k ∈ (after call s c).enabled ↔ k ∈ s.enabled ∨ k ∈ c.kinds := by
  rw [after_eq, ← mem_enableKinds]

theorem tally_after (s : Signal K) (c : SignalCall K) :
    (after call s c).tally = if c.isReset then .empty else c.samples.foldl Tally.push s.tally := by
  rw [after_eq]

theorem mem_enabled_perform {calls : List (SignalCall K)} {k : Statistic} :
    k ∈ (perform call .empty calls).enabled ↔ ∃ c ∈ calls, k ∈ c.kinds := by
  induction calls using List.reverseRecOn with
  | nil => simp [perform, empty]
  | append_singleton calls c ih =>
    rw [perform_concat, mem_enabled_after, ih]
    simp [or_and_right, exists_or]

theorem mem_enabled_perform_map {α : Type} {f : α → K} {calls : List (SignalCall α)}
    {k : Statistic} :
    k ∈ (perform call .empty (calls.map (·.map f))).enabled ↔ ∃ c ∈ calls, k ∈ c.kinds := by
  simp [mem_enabled_perform]

theorem tally_perform (calls : List (SignalCall K)) :
    (perform call .empty calls).tally = Tally.ofList (held calls) := by
  induction calls using List.reverseRecOn with
  | nil => rfl
  | append_singleton calls c ih =>
    rw [perform_concat, tally_after, ih, held_concat]
    by_cases hc : c.isReset
    · simp [hc]
    · simp [hc, Tally.ofList]

/-- Whether a call is refused does not depend on the signal. -/
theorem outcomes_eq (s : Signal K) (calls : List (SignalCall K)) :
    outcomes call s calls = calls.map fun c => c.request.map fun _ => () := by
  induction calls generalizing s with
  | nil => rfl
  | cons c cs ih =>
    rw [outcomes, ih, call_eq, List.map_cons]
    cases c.request <;> rfl

theorem outcomes_map {α : Type} (s : Signal K) (f : α → K) (calls : List (SignalCall α)) :
    outcomes call s (calls.map (·.map f)) = calls.map fun c => c.request.map fun _ => () := by
  simp [outcomes_eq]

/-- What a signal remembers of the calls made on it since it was new. -/
structure Remembers (s : Signal K) (calls : List (SignalCall K)) : Prop where
  /-- Enabled is what the accepted choices asked for. -/
  enabled : ∀ k, k ∈ s.enabled ↔ ∃ c ∈ calls, ∃ ks, c.request = .ok ks ∧ k ∈ ks
  /-- The aggregates are those of a new signal that has taken the samples since the last reset. -/
  tally : s.tally = (Signal.empty.extend (held calls)).tally
  count : s.count = (held calls).length
  /-- The report lists the enabled statistics in the order of all of them. -/
  values : s.values = (Statistic.all.filter (· ∈ s.enabled)).map fun k =>
    (k, (Tally.ofList (held calls)).value k)
  value? : ∀ k, s.value? k =
    if k ∈ s.enabled then some ((Tally.ofList (held calls)).value k) else none

theorem remembers_perform_empty (calls : List (SignalCall K)) :
    (perform call .empty calls).Remembers calls where
  enabled k := by simp only [mem_enabled_perform, mem_kinds]
  tally := by
    rw [tally_perform, tally_extend]
    rfl
  count := by
    rw [count, tally_perform]
    have hcount := count_extend Signal.empty (held calls)
    rw [count, tally_extend] at hcount
    exact hcount.trans (Nat.zero_add _)
  values := by
    rw [values, tally_perform]
    exact congrArg _ (perform call empty calls).enabled.ordered
  value? k := by rw [value?, tally_perform]

end Signal

end SphereBench
