import Mathlib.Data.List.Forall2
import SphereBench.Proofs.Outcome
import SphereBench.Proofs.Text.Parts
import SphereBench.Statistic.Kind
/-!
# Lists of names

A list of names is read as a whole: it stands for kinds of statistic if each of its pieces does, and
otherwise for nothing. No two kinds share a name, so that a piece stands for at most one kind,
wherever the table has it.
-/

namespace SphereBench.Statistic

variable {s piece : String} {k : Statistic}

/-! ## One piece -/

/-- Without the blanks around it and up to the case of its letters, the piece is the name of the
kind. -/
def IsNamedBy (k : Statistic) (piece : String) : Prop := Text.SameName (Text.trim piece) k.name

/-- No two kinds share a name. -/
theorem eq_of_sameName {j k : Statistic} (h : Text.SameName j.name k.name) : j = k := by
  cases j <;> cases k <;> first | rfl | exact absurd h (by decide)

theorem findNamed?_eq_none_iff :
    Text.findNamed? name all s = none ↔ ∀ k : Statistic, ¬ Text.SameName s k.name := by
  rw [Text.findNamed?, List.find?_eq_none]
  constructor
  · intro h k hk
    exact h k (mem_all k) (decide_eq_true hk.symm)
  · intro h k _ hk
    exact h k (of_decide_eq_true hk).symm

/-- The first kind with a name is the only one. -/
theorem findNamed?_eq_some_iff :
    Text.findNamed? name all s = some k ↔ Text.SameName s k.name := by
  constructor
  · intro h
    have hname := List.find?_some h
    exact (of_decide_eq_true hname).symm
  · intro h
    cases hfind : Text.findNamed? name all s with
    | none => exact absurd h (findNamed?_eq_none_iff.mp hfind k)
    | some j =>
      have hname := List.find?_some hfind
      rw [eq_of_sameName ((of_decide_eq_true hname).trans h)]

theorem parse_eq_ok_iff : parse piece = .ok k ↔ k.IsNamedBy piece := by
  rw [IsNamedBy, ← findNamed?_eq_some_iff, parse]
  cases Text.findNamed? name all (Text.trim piece) <;> simp

theorem parse_eq_error_iff {e : StatisticError} :
    parse piece = .error e ↔
      (∀ k : Statistic, ¬ k.IsNamedBy piece) ∧ e = .unknown (Text.trim piece) := by
  simp only [IsNamedBy]
  rw [← findNamed?_eq_none_iff, parse]
  cases Text.findNamed? name all (Text.trim piece) <;> simp [eq_comm]

/-- A name has no blanks and no commas, in whatever case it is written. -/
theorem not_isBlank_of_sameName (h : Text.SameName s k.name) {c : Char} (hc : c ∈ s.toList) :
    ¬ Text.isBlank c ∧ c ≠ ',' := by
  have hfold : c.toLower ∈ Text.foldCase k.name := h ▸ List.mem_map_of_mem hc
  have hletters : (Text.foldCase k.name).all fun d => !Text.isBlank d && d != ',' := by
    cases k <;> decide
  have hletter := List.all_eq_true.mp hletters _ hfold
  constructor
  · intro hblank
    rw [Text.toLower_of_isBlank hblank, hblank] at hletter
    cases hletter
  · rintro rfl
    exact absurd hletter (by decide)

/-- A piece names a kind if it is the name between blanks, in whatever case it is written. -/
theorem isNamedBy_iff : k.IsNamedBy piece ↔ ∃ before written after, Text.AllBlank before ∧
    Text.AllBlank after ∧ Text.SameName written k.name ∧ piece = before ++ written ++ after := by
  constructor
  · intro h
    obtain ⟨before, after, hbefore, hafter, hpiece⟩ := (Text.isTrimmed_trim piece).between
    exact ⟨before, Text.trim piece, after, hbefore, hafter, h, hpiece⟩
  · rintro ⟨before, written, after, hbefore, hafter, h, rfl⟩
    have htrim : Text.trim (before ++ written ++ after) = written :=
      Text.trim_eq_iff.mpr
        { between := ⟨before, after, hbefore, hafter, rfl⟩
          first := fun c hc => (not_isBlank_of_sameName h (List.mem_of_mem_head? hc)).1
          last := fun c hc => (not_isBlank_of_sameName h (List.mem_of_getLast? hc)).1 }
    rwa [IsNamedBy, htrim]

theorem IsNamedBy.comma_notMem (h : k.IsNamedBy piece) : ',' ∉ piece.toList := by
  obtain ⟨before, written, after, hbefore, hafter, hname, rfl⟩ := isNamedBy_iff.mp h
  have hcomma : ¬ Text.isBlank ',' := by decide
  simp only [String.toList_append, List.mem_append, not_or]
  exact ⟨⟨fun hc => hcomma (hbefore _ hc), fun hc => (not_isBlank_of_sameName hname hc).2 rfl⟩,
    fun hc => hcomma (hafter _ hc)⟩

/-! ## Lists -/

/-- A list is accepted if it is not blank and each of its pieces names a kind. -/
theorem parseList_eq_ok_iff {names : String} {ks : List Statistic} :
    parseList names = .ok ks ↔
      Text.trim names ≠ "" ∧ (Text.pieces ',' names).map parse = ks.map .ok := by
  rw [parseList]
  split
  · rename_i h
    simp [h]
  · rename_i h
    simp [h, mapM_eq_ok_iff]

/-- No piece of a blank text names a kind. -/
theorem not_isNamedBy_of_trim_eq_empty {names : String} (hnames : Text.trim names = "")
    (hpiece : piece ∈ Text.pieces ',' names) : ¬ k.IsNamedBy piece := by
  have hblank : Text.trim piece = "" := Text.trim_eq_empty_iff.mpr fun c hc =>
    Text.trim_eq_empty_iff.mp hnames c (Text.mem_of_mem_pieces hpiece c hc).1
  rw [IsNamedBy, hblank]
  cases k <;> decide

/-- The pieces of an accepted list name its kinds, one by one. -/
theorem parseList_eq_ok_iff_forall₂ {names : String} {ks : List Statistic} :
    parseList names = .ok ks ↔
      List.Forall₂ (fun piece k => IsNamedBy k piece) (Text.pieces ',' names) ks := by
  have hpieces : (Text.pieces ',' names).map parse = ks.map .ok ↔
      List.Forall₂ (fun piece k => IsNamedBy k piece) (Text.pieces ',' names) ks := by
    rw [← List.forall₂_eq_eq_eq, List.forall₂_map_left_iff, List.forall₂_map_right_iff]
    simp only [parse_eq_ok_iff]
  rw [parseList_eq_ok_iff, hpieces, and_iff_right_iff_imp]
  -- A blank text has a piece, too, and that is no name.
  intro hnamed hempty
  obtain ⟨piece, rest, hcons⟩ :=
    List.exists_cons_of_ne_nil (Text.isSplit_pieces ',' names).ne_nil
  rw [hcons] at hnamed
  cases hnamed with
  | cons hfirst _ =>
    exact not_isNamedBy_of_trim_eq_empty hempty (hcons ▸ List.mem_cons_self) hfirst

theorem parseList_eq_emptyList_iff {names : String} :
    parseList names = .error .emptyList ↔ Text.trim names = "" := by
  rw [parseList]
  split
  · rename_i h
    simp [h]
  · rename_i h
    simp [h, mapM_eq_error_iff, parse_eq_error_iff]

/-- A list that is not blank is refused for the first of its pieces that names no kind. -/
theorem parseList_eq_unknown_iff {names x : String} :
    parseList names = .error (.unknown x) ↔ Text.trim names ≠ "" ∧
      ∃ j piece, (Text.pieces ',' names)[j]? = some piece ∧
        (∀ k : Statistic, ¬ k.IsNamedBy piece) ∧ x = Text.trim piece ∧
        ∀ earlier ∈ (Text.pieces ',' names).take j, ∃ k : Statistic, k.IsNamedBy earlier := by
  rw [parseList]
  split
  · rename_i h
    simp [h]
  · rename_i h
    simp only [h, mapM_eq_error_iff, parse_eq_error_iff, parse_eq_ok_iff,
      StatisticError.unknown.injEq, and_assoc, ne_eq, not_false_eq_true, true_and]

/-- Pieces that name kinds are, joined by commas, a list of these kinds. -/
theorem parseList_intercalate {ks : List Statistic} {parts : List String} (hne : ks ≠ [])
    (hparts : List.Forall₂ (fun piece k => IsNamedBy k piece) parts ks) :
    parseList (",".intercalate parts) = .ok ks := by
  have hcommas : List.Forall₂ (fun piece k => ',' ∉ piece.toList ∧ IsNamedBy k piece) parts ks :=
    hparts.imp fun _ _ h => ⟨h.comma_notMem, h⟩
  have hsplit : Text.IsSplit ',' (",".intercalate parts) parts :=
    { ne_nil := fun hnil => hne (List.forall₂_nil_left_iff.mp (hnil ▸ hparts))
      separated := ((List.forall₂_and_left _ _).mp hcommas).1
      joined := rfl }
  rwa [parseList_eq_ok_iff_forall₂, Text.pieces_eq_iff.mpr hsplit]

/-- **What a list of names stands for.** The pieces between the commas are the only way to split the
text, and there is only one way to take its blanks away. A blank text is an empty list. A text is
accepted for some kinds exactly if its pieces name them, one by one and in order; any other text is
refused for the first piece that names no kind, of which the blanks are taken away. So the names of
any kinds, but at least one, in any case and with any blanks around them, are a list of these kinds
when they are joined by commas. -/
theorem parseList_grammar (s : String) :
    (∀ parts, Text.pieces ',' s = parts ↔ Text.IsSplit ',' s parts) ∧
    (Text.pieces ',' s).length = s.toList.count ',' + 1 ∧
    (∀ core, Text.trim s = core ↔ Text.IsTrimmed s core) ∧
    (parseList s = .error .emptyList ↔ Text.trim s = "") ∧
    (∀ ks, parseList s = .ok ks ↔
      List.Forall₂ (fun piece k => Text.SameName (Text.trim piece) (name k)) (Text.pieces ',' s)
        ks) ∧
    (∀ x, parseList s = .error (.unknown x) ↔ Text.trim s ≠ "" ∧
      ∃ j piece, (Text.pieces ',' s)[j]? = some piece ∧
        (∀ k : Statistic, ¬ Text.SameName (Text.trim piece) k.name) ∧ x = Text.trim piece ∧
        ∀ earlier ∈ (Text.pieces ',' s).take j,
          ∃ k : Statistic, Text.SameName (Text.trim earlier) k.name) ∧
    (∀ ks parts, ks ≠ [] →
      List.Forall₂ (fun piece k => ∃ before written after, Text.AllBlank before ∧
        Text.AllBlank after ∧ Text.SameName written (name k) ∧ piece = before ++ written ++ after)
        parts ks →
      s = ",".intercalate parts → parseList s = .ok ks) := by
  refine ⟨fun _ => Text.pieces_eq_iff, Text.length_pieces ',' s, fun _ => Text.trim_eq_iff,
    parseList_eq_emptyList_iff, fun _ => parseList_eq_ok_iff_forall₂,
    fun _ => parseList_eq_unknown_iff, ?_⟩
  rintro ks parts hne hparts rfl
  exact parseList_intercalate hne (hparts.imp fun _ _ => isNamedBy_iff.mpr)

/-- Two kinds in an order and a spelling of their own, one of them twice; a list with an empty piece
before one with an unknown name. -/
theorem parseList_grammar_scribbled :
    parseList " rms,\tMAXABS\n,Rms" = .ok [rms, maxAbs, rms] ∧
      parseList "mean,\u00a0,median" = .error (.unknown "") ∧
      parseList " \n" = .error .emptyList := by
  obtain ⟨-, -, -, -, -, -, haccept⟩ := parseList_grammar " rms,\tMAXABS\n,Rms"
  obtain ⟨-, -, -, -, -, hrefuse, -⟩ := parseList_grammar "mean,\u00a0,median"
  obtain ⟨-, -, -, hempty, -⟩ := parseList_grammar " \n"
  refine ⟨haccept _ [" rms", "\tMAXABS\n", "Rms"] (by simp) ?_ rfl, (hrefuse "").mpr ?_,
    hempty.mpr (by decide)⟩
  · exact .cons ⟨" ", "rms", "", by decide, by decide, by decide, rfl⟩
      (.cons ⟨"\t", "MAXABS", "\n", by decide, by decide, by decide, rfl⟩
        (.cons ⟨"", "Rms", "", by decide, by decide, by decide, rfl⟩ .nil))
  · refine ⟨by decide, 1, "\u00a0", by decide, fun k => ?_, by decide, ?_⟩
    · cases k <;> decide
    · rintro earlier hearlier
      have hfirst : (Text.pieces ',' "mean,\u00a0,median").take 1 = ["mean"] := by decide
      rw [hfirst, List.mem_singleton] at hearlier
      subst hearlier
      exact ⟨mean, by decide⟩

end SphereBench.Statistic
