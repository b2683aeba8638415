/-!
# Pieces of a text

A text cut at each occurrence of a separator. A text with `n` separators has `n + 1` pieces, some
of which may be empty.
-/

namespace SphereBench.Text

/-- The characters between the separators, in order. -/
def piecesOf (sep : Char) : List Char → List (List Char)
  | [] => [[]]
  | c :: cs => if c = sep then [] :: piecesOf sep cs else (piecesOf sep cs).modifyHead (c :: ·)

theorem length_piecesOf (sep : Char) (cs : List Char) :
    (piecesOf sep cs).length = cs.count sep + 1 := by
  induction cs with
  | nil => rfl
  | cons c cs ih => by_cases h : c = sep <;> simp [piecesOf, h, ih]

theorem piecesOf_ne_nil (sep : Char) (cs : List Char) : piecesOf sep cs ≠ [] := by
  intro h
  have := length_piecesOf sep cs
  simp [h] at this

/-- The pieces of a text between the separators, in order. -/
def pieces (sep : Char) (s : String) : List String :=
  (piecesOf sep s.toList).map String.ofList

theorem length_pieces (sep : Char) (s : String) :
    (pieces sep s).length = s.toList.count sep + 1 := by
  simp [pieces, length_piecesOf]

end SphereBench.Text
