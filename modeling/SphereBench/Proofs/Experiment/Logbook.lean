import SphereBench.Experiment.Logbook
/-!
# Logbooks as maps

A logbook is a map from names to entries. To set an entry changes what is found under its name and
nothing else; of several entries with different names, each is found under its own.
-/

namespace SphereBench.Logbook
variable {K : Type} {name : String}

theorem find?_insertEntry (key name : String) (r : Entry K) (es : List (String × Entry K)) :
    ((insertEntry key r es).find? (·.1 = name)).map (·.2) =
      if name = key then some r else (es.find? (·.1 = name)).map (·.2) := by
  induction es with
  | nil =>
    by_cases h : name = key
    · simp [insertEntry, h]
    · simp [insertEntry, h, Ne.symm h]
  | cons e es ih =>
    unfold insertEntry
    by_cases hlt : key < e.1
    · rw [if_pos hlt]
      by_cases h : name = key
      · simp [h]
      · simp [h, Ne.symm h, List.find?_cons]
    · rw [if_neg hlt]
      by_cases heq : key = e.1
      · rw [if_pos heq]
        by_cases h : name = key
        · simp [h]
        · have hne : ¬ e.1 = name := fun he => h (he.symm.trans heq.symm)
          simp [h, Ne.symm h, hne]
      · rw [if_neg heq]
        by_cases he : e.1 = name
        · have h : ¬ name = key := fun h => heq (h.symm.trans he.symm)
          simp [he, h]
        · simpa [List.find?_cons, he] using ih

/-- What is found after an entry is set: that entry under its name, and what was there before under
every other. -/
theorem get?_insert (book : Logbook K) (key name : String) (r : Entry K) :
    (book.insert key r).get? name = if name = key then some r else book.get? name :=
  find?_insertEntry key name r book.entries

/-- Entries leave all other names alone. -/
theorem get?_insertAll_of_not_mem {entries : List (String × Entry K)}
    (h : name ∉ entries.map (·.1)) (book : Logbook K) :
    (book.insertAll entries).get? name = book.get? name := by
  induction entries generalizing book with
  | nil => rfl
  | cons e es ih =>
    rw [List.map_cons, List.mem_cons, not_or] at h
    show ((book.insert e.1 e.2).insertAll es).get? name = book.get? name
    rw [ih h.2, get?_insert, if_neg h.1]

/-- Entries with different names are all found. -/
theorem get?_insertAll_of_mem {entries : List (String × Entry K)}
    (hnodup : (entries.map (·.1)).Nodup) {e : String × Entry K} (he : e ∈ entries)
    (book : Logbook K) : (book.insertAll entries).get? e.1 = some e.2 := by
  induction entries generalizing book with
  | nil => cases he
  | cons d ds ih =>
    obtain ⟨hd, hds⟩ := List.nodup_cons.mp hnodup
    show ((book.insert d.1 d.2).insertAll ds).get? e.1 = some e.2
    rcases List.mem_cons.mp he with rfl | he
    · rw [get?_insertAll_of_not_mem hd, get?_insert, if_pos rfl]
    · exact ih hds he _

end SphereBench.Logbook
