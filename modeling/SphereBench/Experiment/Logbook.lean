import SphereBench.Experiment.Config
import SphereBench.Statistic.Json
/-!
# Logbooks

What a run leaves behind: texts, values and statistics under names, listed in the order of the
names.
-/

namespace SphereBench

/-- An entry of a logbook. -/
inductive Entry (K : Type) where
  /-- A text that describes the run. -/
  | property (text : String)
  | value (x : K)
  /-- The enabled statistics of a signal, in the order of every report. -/
  | statistics (values : List (Statistic × K))

namespace Entry
variable {K : Type}

/-- The value of an entry that is a value. -/
def value? : Entry K → Option K
  | value x => some x
  | _ => none

/-- A statistic of an entry that has it. -/
def statistic? (r : Entry K) (k : Statistic) : Option K :=
  match r with
  | statistics values => (values.find? (·.1 = k)).map (·.2)
  | _ => none

/-- The statistics that a signal reports. -/
def ofSignal [Scalar K] (s : Signal K) : Entry K := statistics s.values

/-- The JSON value of an entry: a string, a number or an object. -/
def toJson : Entry Float → Json
  | property text => .text text
  | value x => .number x
  | statistics values => Statistic.valuesToJson values

end Entry

/-- The entries of a run. -/
@[ext] structure Logbook (K : Type) where
  /-- Names with their entries. -/
  entries : List (String × Entry K)
  /-- The names are in increasing order, and so no name occurs twice. -/
  increasing : entries.Pairwise (·.1 < ·.1)

namespace Logbook
variable {K : Type}

/-- Entries with one more, or with another one in place of that of the same name. -/
def insertEntry (key : String) (r : Entry K) :
    List (String × Entry K) → List (String × Entry K)
  | [] => [(key, r)]
  | e :: es =>
    if key < e.1 then (key, r) :: e :: es
    else if key = e.1 then (key, r) :: es
    else e :: insertEntry key r es

theorem mem_insertEntry {key : String} {r : Entry K} {es : List (String × Entry K)}
    {e : String × Entry K} (h : e ∈ insertEntry key r es) : e = (key, r) ∨ e ∈ es := by
  induction es with
  | nil => exact .inl (by simpa [insertEntry] using h)
  | cons d ds ih =>
    unfold insertEntry at h
    split at h
    · simpa using h
    · split at h
      · rcases List.mem_cons.1 h with h | h
        · exact .inl h
        · exact .inr (List.mem_cons_of_mem _ h)
      · rcases List.mem_cons.1 h with rfl | h
        · exact .inr List.mem_cons_self
        · exact (ih h).imp_right (List.mem_cons_of_mem _)

theorem increasing_insertEntry {key : String} {r : Entry K} {es : List (String × Entry K)}
    (h : es.Pairwise (·.1 < ·.1)) : (insertEntry key r es).Pairwise (·.1 < ·.1) := by
  induction es with
  | nil => simp [insertEntry]
  | cons d ds ih =>
    obtain ⟨hd, hds⟩ := List.pairwise_cons.1 h
    unfold insertEntry
    split
    · rename_i hlt
      refine List.pairwise_cons.2 ⟨fun e he => ?_, h⟩
      rcases List.mem_cons.1 he with rfl | he
      · exact hlt
      · exact String.lt_trans hlt (hd e he)
    · rename_i hge
      split
      · rename_i heq
        exact List.pairwise_cons.2 ⟨fun e he => heq ▸ hd e he, hds⟩
      · rename_i hne
        refine List.pairwise_cons.2 ⟨fun e he => ?_, ih hds⟩
        rcases mem_insertEntry he with rfl | he
        · exact Std.lt_of_le_of_ne hge (Ne.symm hne)
        · exact hd e he

/-- A logbook without entries. -/
def empty : Logbook K := ⟨[], .nil⟩

/-- The logbook with an entry under a name, in place of an earlier one. -/
def insert (book : Logbook K) (key : String) (entry : Entry K) : Logbook K :=
  ⟨insertEntry key entry book.entries, increasing_insertEntry book.increasing⟩

/-- The entry under a name. -/
def get? (book : Logbook K) (key : String) : Option (Entry K) :=
  (book.entries.find? (·.1 = key)).map (·.2)

/-- The names that have an entry, in order. -/
def keys (book : Logbook K) : List String := book.entries.map (·.1)

/-- Number of entries. -/
def size (book : Logbook K) : Nat := book.entries.length

/-- The logbook with several more entries, in turn. -/
def insertAll (book : Logbook K) (entries : List (String × Entry K)) : Logbook K :=
  entries.foldl (fun book e => book.insert e.1 e.2) book

/-- The logbook as an object. -/
def toJson (book : Logbook Float) : Json :=
  .object (book.entries.map fun e => (e.1, e.2.toJson))

end Logbook

namespace Config

/-- The parameters of a run under their names. -/
def properties (c : Config Float) : List (String × Entry Float) :=
  let text := Decimal.Style.plain.text
  [("engine", .property c.solver.name), ("iters", .property (toString c.iterations)),
    ("dt", .property (text c.dt)), ("mass", .value c.mass),
    ("gravity", .property (text c.gravity)), ("force", .property (text c.force)),
    ("tolerance", .property (text c.tolerance))]

/-- A logbook with the parameters of a run. -/
def enterIn (c : Config Float) (book : Logbook Float) : Logbook Float :=
  book.insertAll c.properties

end Config

end SphereBench
