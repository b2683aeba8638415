/-!
# Names without case

Names are compared without regard to the case of the letters `A` to `Z`. No other letter has a
case here: a dotless `ı` is not an `I`, and a Kelvin sign is not a `K`.
-/

namespace SphereBench.Text

/-- The text with its ASCII letters in lower case. -/
def foldCase (s : String) : List Char := s.toList.map Char.toLower

/-- Two texts that differ at most in the case of ASCII letters. -/
def SameName (s t : String) : Prop := foldCase s = foldCase t

instance (s t : String) : Decidable (SameName s t) :=
  inferInstanceAs (Decidable (foldCase s = foldCase t))

theorem SameName.symm {s t : String} (h : SameName s t) : SameName t s := Eq.symm h

theorem SameName.trans {s t u : String} (h : SameName s t) (g : SameName t u) : SameName s u :=
  Eq.trans h g

/-- The first of the candidates whose name is `s` up to the case of ASCII letters. -/
def findNamed? {α : Type} (name : α → String) (candidates : List α) (s : String) : Option α :=
  candidates.find? fun a => decide (SameName (name a) s)

end SphereBench.Text
