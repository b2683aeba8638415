/-!
# Computations that may fail

When a computation of several parts succeeds, and with what, and which part makes it fail.
-/

namespace SphereBench

variable {ε α β : Type}

theorem bind_eq_ok_iff {x : Except ε α} {f : α → Except ε β} {b : β} :
    (x >>= f) = .ok b ↔ ∃ a, x = .ok a ∧ f a = .ok b := by
  cases x with
  | error e => simp [bind, Except.bind]
  | ok a => simp [bind, Except.bind]

theorem mapM_eq_ok_iff {f : α → Except ε β} {xs : List α} {ys : List β} :
    xs.mapM f = .ok ys ↔ xs.map f = ys.map .ok := by
  induction xs generalizing ys with
  | nil => cases ys <;> simp [pure, Except.pure]
  | cons x xs ih =>
    rw [List.mapM_cons]
    cases hx : f x with
    | error e => cases ys <;> simp [bind, Except.bind, hx]
    | ok y =>
      cases hxs : xs.mapM f with
      | error e => cases ys <;> simp [bind, Except.bind, hx, ← ih, hxs]
      | ok ys' => cases ys <;> simp [bind, Except.bind, pure, Except.pure, hx, ← ih, hxs]

/-- The error of a list is that of the first member that has one. -/
theorem mapM_eq_error_iff {f : α → Except ε β} {xs : List α} {e : ε} :
    xs.mapM f = .error e ↔ ∃ j x, xs[j]? = some x ∧ f x = .error e ∧
      ∀ y ∈ xs.take j, ∃ b, f y = .ok b := by
  induction xs with
  | nil => simp [pure, Except.pure]
  | cons x xs ih =>
    rw [List.mapM_cons]
    constructor
    · intro h
      cases hx : f x with
      | error e' =>
        rw [hx] at h
        cases h
        exact ⟨0, x, rfl, hx, by simp⟩
      | ok b =>
        cases hxs : xs.mapM f with
        | ok bs =>
          rw [hx, hxs] at h
          cases h
        | error e' =>
          rw [hx, hxs] at h
          cases h
          obtain ⟨j, y, hj, hy, hbefore⟩ := ih.mp hxs
          exact ⟨j + 1, y, hj, hy, List.forall_mem_cons.mpr ⟨⟨b, hx⟩, hbefore⟩⟩
    · rintro ⟨j, y, hj, hy, hbefore⟩
      cases j with
      | zero =>
        cases hj
        rw [hy]
        rfl
      | succ j =>
        obtain ⟨⟨b, hb⟩, hrest⟩ := List.forall_mem_cons.mp hbefore
        rw [hb, ih.mpr ⟨j, y, hj, hy, hrest⟩]
        rfl

end SphereBench
