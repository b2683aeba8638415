import SphereBench.Proofs.Double.Order
/-!
# Doubles that are not numbers

A sum, a difference or a product of doubles is not a number as soon as one of its operands is not.
That such a value takes no part in a comparison is `Double.not_isNaN_of_le`, in the order of the
doubles.
-/

namespace SphereBench.Double
open Float.Model

theorem isNaN_iff_unpack {x : Float} : x.isNaN ↔ x.toModel.unpack = .notANumber :=
  UnpackedFloat.isNaN_iff

/-- The result is not a number if one of the operands is not. -/
def Spreads (op : Float → Float → Float) : Prop := ∀ {x y}, x.isNaN ∨ y.isNaN → (op x y).isNaN

/-- An operation does so if it does on the parts of the doubles, before they are packed. -/
theorem spreads_of_pack {op : Float → Float → Float}
    (f : UnpackedFloat → UnpackedFloat → UnpackedFloat)
    (hop : ∀ x y, (op x y).toModel = .pack (f x.toModel.unpack y.toModel.unpack))
    (hleft : ∀ v, f .notANumber v = .notANumber) (hright : ∀ u, f u .notANumber = .notANumber) :
    Spreads op := by
  intro x y h
  have hparts : f x.toModel.unpack y.toModel.unpack = .notANumber := by
    rcases h with hx | hy
    · rw [isNaN_iff_unpack.mp hx, hleft]
    · rw [isNaN_iff_unpack.mp hy, hright]
  rw [isNaN_iff_unpack, hop, hparts]
  exact UnpackedFloat.unpack_packedNaN

theorem spreads_add : Spreads (· + ·) :=
  spreads_of_pack (UnpackedFloat.add .binary64) (fun _ _ => rfl) (fun _ => rfl)
    fun u => by cases u <;> rfl

theorem spreads_sub : Spreads (· - ·) :=
  spreads_of_pack (UnpackedFloat.sub .binary64) (fun _ _ => rfl) (fun _ => rfl)
    fun u => by cases u <;> rfl

theorem spreads_mul : Spreads (· * ·) :=
  spreads_of_pack (UnpackedFloat.mul .binary64) (fun _ _ => rfl) (fun _ => rfl)
    fun u => by cases u <;> rfl

end SphereBench.Double
