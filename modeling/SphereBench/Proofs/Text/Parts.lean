import Mathlib.Data.List.DropRight
import SphereBench.Text.Blank
import SphereBench.Text.Caseless
import SphereBench.Text.Pieces
/-!
# Parts of a text

What is left of a text without the blanks at its ends, and what its pieces are. Each is determined
by how the text is put together again.
-/

namespace SphereBench.Text

/-! ## Pieces -/

/-- A text in parts that are joined by a separator and do not contain it. -/
structure IsSplit (sep : Char) (s : String) (parts : List String) : Prop where
  ne_nil : parts ≠ []
  separated : ∀ part ∈ parts, sep ∉ part.toList
  joined : (String.singleton sep).intercalate parts = s

theorem piecesOf_eq_splitOn (sep : Char) (cs : List Char) : piecesOf sep cs = cs.splitOn sep := by
  induction cs with
  | nil => rw [piecesOf, List.splitOn_nil]
  | cons c cs ih =>
    rw [piecesOf, ih, List.splitOn_eq_splitOnP, List.splitOn_eq_splitOnP,
      List.splitOnP_cons_eq_if_modifyHead]
    simp only [beq_iff_eq]

/-- The characters of the pieces are those of the text, without the separators. -/
theorem mem_of_mem_piecesOf {sep : Char} {cs piece : List Char} (h : piece ∈ piecesOf sep cs) :
    ∀ c ∈ piece, c ∈ cs ∧ c ≠ sep := by
  induction cs generalizing piece with
  | nil =>
    rw [piecesOf, List.mem_singleton] at h
    simp [h]
  | cons c cs ih =>
    rw [piecesOf] at h
    split at h
    · rcases List.mem_cons.mp h with rfl | h
      · simp
      · intro d hd
        exact (ih h d hd).imp_left (List.mem_cons_of_mem c)
    · rename_i hc
      obtain ⟨first, rest, hpieces⟩ := List.exists_cons_of_ne_nil (piecesOf_ne_nil sep cs)
      rw [hpieces, List.modifyHead_cons, List.mem_cons] at h
      intro d hd
      rcases h with rfl | h
      · rcases List.mem_cons.mp hd with rfl | hd
        · exact ⟨List.mem_cons_self, hc⟩
        · exact (ih (hpieces ▸ List.mem_cons_self) d hd).imp_left (List.mem_cons_of_mem c)
      · exact (ih (hpieces ▸ List.mem_cons_of_mem _ h) d hd).imp_left (List.mem_cons_of_mem c)

theorem mem_of_mem_pieces {sep : Char} {s piece : String} (h : piece ∈ pieces sep s) :
    ∀ c ∈ piece.toList, c ∈ s.toList ∧ c ≠ sep := by
  obtain ⟨cs, hcs, rfl⟩ := List.mem_map.mp h
  rw [String.toList_ofList]
  exact mem_of_mem_piecesOf hcs

theorem isSplit_pieces (sep : Char) (s : String) : IsSplit sep s (pieces sep s) where
  ne_nil := by
    rw [pieces, Ne, List.map_eq_nil_iff]
    exact piecesOf_ne_nil sep s.toList
  separated piece h hsep := (mem_of_mem_pieces h sep hsep).2 rfl
  joined := by
    rw [← String.toList_inj, String.toList_intercalate, String.toList_singleton, pieces,
      List.map_map]
    simp only [Function.comp_def, String.toList_ofList, List.map_id', piecesOf_eq_splitOn]
    exact List.intercalate_splitOn sep

/-- A text can be split in one way. -/
theorem pieces_eq_iff {sep : Char} {s : String} {parts : List String} :
    pieces sep s = parts ↔ IsSplit sep s parts := by
  constructor
  · rintro rfl
    exact isSplit_pieces sep s
  · rintro ⟨hne, hsep, rfl⟩
    rw [pieces, piecesOf_eq_splitOn, String.toList_intercalate, String.toList_singleton,
      List.splitOn_intercalate]
    · simp [Function.comp_def]
    · simpa using hsep
    · simpa using hne

/-! ## Blanks -/

/-- Blanks only. -/
def AllBlank (s : String) : Prop := ∀ c ∈ s.toList, isBlank c

instance (s : String) : Decidable (AllBlank s) :=
  decidable_of_iff (s.toList.all isBlank) List.all_eq_true

/-- A text between blanks, with no blank at its ends. -/
structure IsTrimmed (s core : String) : Prop where
  between : ∃ before after, AllBlank before ∧ AllBlank after ∧ s = before ++ core ++ after
  first : ∀ c ∈ core.toList.head?, ¬ isBlank c
  last : ∀ c ∈ core.toList.getLast?, ¬ isBlank c

/-- A blank is no letter. -/
theorem toLower_of_isBlank {c : Char} (h : isBlank c) : c.toLower = c := by
  refine dif_neg ?_
  rintro ⟨hge, hle⟩
  have hlower : 65 ≤ c.toNat := hge
  have hupper : c.toNat ≤ 90 := hle
  simp only [isBlank, Bool.or_eq_true, Bool.and_eq_true, decide_eq_true_eq, beq_iff_eq] at h
  omega

theorem rdropWhile_append_of_pos {cs after : List Char} (hafter : ∀ c ∈ after, isBlank c) :
    (cs ++ after).rdropWhile isBlank = cs.rdropWhile isBlank := by
  have hreverse : ∀ c ∈ after.reverse, isBlank c := by simpa using hafter
  rw [List.rdropWhile, List.reverse_append, List.dropWhile_append_of_pos hreverse]
  rfl

theorem trimChars_eq (cs : List Char) :
    trimChars cs = (cs.dropWhile isBlank).rdropWhile isBlank := rfl

theorem trimChars_eq_nil_iff {cs : List Char} : trimChars cs = [] ↔ ∀ c ∈ cs, isBlank c := by
  constructor
  · intro h
    rw [trimChars_eq, List.rdropWhile_eq_nil_iff] at h
    rw [← List.takeWhile_append_dropWhile (p := isBlank) (l := cs)]
    intro c hc
    rcases List.mem_append.mp hc with hc | hc
    · exact List.mem_takeWhile_imp hc
    · exact h c hc
  · intro h
    rw [trimChars_eq, List.dropWhile_eq_nil_iff.mpr h, List.rdropWhile_nil]

theorem trimChars_append_rtakeWhile (cs : List Char) :
    trimChars cs ++ (cs.dropWhile isBlank).rtakeWhile isBlank = cs.dropWhile isBlank :=
  List.rdropWhile_append_rtakeWhile

theorem not_isBlank_head_trimChars {cs : List Char} {c : Char} (h : c ∈ (trimChars cs).head?) :
    ¬ isBlank c := by
  have hhead : (cs.dropWhile isBlank).head? = some c := by
    rw [← trimChars_append_rtakeWhile, List.head?_append, Option.mem_def.mp h, Option.some_or]
  have hdropped := List.head?_dropWhile_not isBlank cs
  rw [hhead] at hdropped
  exact Bool.eq_false_iff.mp hdropped

theorem not_isBlank_last_trimChars {cs : List Char} {c : Char}
    (h : c ∈ (trimChars cs).getLast?) : ¬ isBlank c := by
  obtain ⟨hne, rfl⟩ := List.mem_getLast?_eq_getLast h
  exact List.rdropWhile_last_not isBlank _ hne

/-- Blanks that are put around a text with no blank at its ends are taken away again. -/
theorem trimChars_between {before core after : List Char} (hbefore : ∀ c ∈ before, isBlank c)
    (hafter : ∀ c ∈ after, isBlank c) (hfirst : ∀ c ∈ core.head?, ¬ isBlank c)
    (hlast : ∀ c ∈ core.getLast?, ¬ isBlank c) : trimChars (before ++ core ++ after) = core := by
  cases core with
  | nil =>
    rw [trimChars_eq_nil_iff, List.append_nil, List.forall_mem_append]
    exact ⟨hbefore, hafter⟩
  | cons c cs =>
    have hc : ¬ isBlank c := hfirst c rfl
    have hend : (c :: cs).rdropWhile isBlank = c :: cs :=
      List.rdropWhile_eq_self_iff.mpr fun hne => hlast _ (List.getLast_mem_getLast? hne)
    rw [trimChars_eq, List.append_assoc, List.dropWhile_append_of_pos hbefore, List.cons_append,
      List.dropWhile_cons_of_neg hc, ← List.cons_append, rdropWhile_append_of_pos hafter, hend]

theorem isTrimmed_trim (s : String) : IsTrimmed s (trim s) where
  between := by
    refine ⟨.ofList (s.toList.takeWhile isBlank),
      .ofList ((s.toList.dropWhile isBlank).rtakeWhile isBlank), ?_, ?_, ?_⟩
    · intro c hc
      rw [String.toList_ofList] at hc
      exact List.mem_takeWhile_imp hc
    · intro c hc
      rw [String.toList_ofList] at hc
      exact List.mem_rtakeWhile_imp hc
    · rw [← String.toList_inj, String.toList_append, String.toList_append, toList_trim,
        String.toList_ofList, String.toList_ofList, List.append_assoc, trimChars_append_rtakeWhile,
        List.takeWhile_append_dropWhile]
  first c hc := by
    rw [toList_trim] at hc
    exact not_isBlank_head_trimChars hc
  last c hc := by
    rw [toList_trim] at hc
    exact not_isBlank_last_trimChars hc

/-- The blanks of a text can be taken away in one way. -/
theorem trim_eq_iff {s core : String} : trim s = core ↔ IsTrimmed s core := by
  constructor
  · rintro rfl
    exact isTrimmed_trim s
  · rintro ⟨⟨before, after, hbefore, hafter, rfl⟩, hfirst, hlast⟩
    rw [← String.toList_inj, toList_trim, String.toList_append, String.toList_append]
    exact trimChars_between hbefore hafter hfirst hlast

theorem trim_eq_empty_iff {s : String} : trim s = "" ↔ AllBlank s := by
  rw [← String.toList_inj, toList_trim]
  exact trimChars_eq_nil_iff

end SphereBench.Text
