import SphereBench.Scalar
import SphereBench.Scalar.Hypot
/-!
# Double-precision scalars

Double-precision numbers with their own rounded operations. Nothing is fused or reassociated, so
a result is fixed by the order of operations in the definition that computes it.
-/

namespace SphereBench

instance : Scalar Float where
  zero := 0
  one := 1
  natCast := Float.ofNat
  sqrt := Float.sqrt
  abs := Float.abs
  sin := Float.sin
  cos := Float.cos
  hypot := Hypot.length
  isFinite := Float.isFinite
  ceilCount x := x.ceil.toUInt64.toNat
  decLt := Float.decLt
  decLe := Float.decLe

end SphereBench
