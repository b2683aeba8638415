import SphereBench.Space.Matrix
/-!
# Rotations as quaternions

A rotation of space is kept as a unit quaternion. The operations do not check the norm; `Motion`
normalizes after each product.
-/

namespace SphereBench

/-- A quaternion with vector part `(x, y, z)` and scalar part `w`. -/
@[ext] structure Quaternion (K : Type) where
  x : K
  y : K
  z : K
  w : K

namespace Quaternion
variable {K : Type} [Scalar K]

/-- The rotation that leaves everything in place. -/
@[inline] def identity : Quaternion K := ⟨0, 0, 0, 1⟩

/-- The rotation about `v` by the length of `v` in radians; about the zero vector, none. -/
@[inline] def ofRotationVector (v : Vec3 K) : Quaternion K :=
  let angle := v.length
  if angle == 0 then identity
  else
    let axis := v / angle
    let s := Scalar.sin (angle * 0.5)
    let c := Scalar.cos (angle * 0.5)
    ⟨axis.x * s, axis.y * s, axis.z * s, c⟩

/-- The rotation `b` followed by the rotation `a`. -/
@[inline] def mul (a b : Quaternion K) : Quaternion K :=
  ⟨a.w * b.x + a.x * b.w + a.y * b.z - a.z * b.y,
    a.w * b.y - a.x * b.z + a.y * b.w + a.z * b.x,
    a.w * b.z + a.x * b.y - a.y * b.x + a.z * b.w,
    a.w * b.w - a.x * b.x - a.y * b.y - a.z * b.z⟩

instance : Mul (Quaternion K) := ⟨mul⟩

/-- Square of the norm. -/
@[inline] def normSq (q : Quaternion K) : K := q.x * q.x + q.y * q.y + q.z * q.z + q.w * q.w

/-- The quaternion scaled to unit norm. -/
@[inline] def normalize (q : Quaternion K) : Quaternion K :=
  let r := 1 / Scalar.sqrt q.normSq
  ⟨q.x * r, q.y * r, q.z * r, q.w * r⟩

/-- The matrix of the rotation, for a quaternion of unit norm. -/
@[inline] def toMatrix (q : Quaternion K) : Mat3 K :=
  let x2 := q.x + q.x
  let y2 := q.y + q.y
  let z2 := q.z + q.z
  let xx := q.x * x2
  let xy := q.x * y2
  let xz := q.x * z2
  let yy := q.y * y2
  let yz := q.y * z2
  let zz := q.z * z2
  let wx := q.w * x2
  let wy := q.w * y2
  let wz := q.w * z2
  ⟨⟨1 - (yy + zz), xy + wz, xz - wy⟩,
    ⟨xy - wz, 1 - (xx + zz), yz + wx⟩,
    ⟨xz + wy, yz - wx, 1 - (xx + yy)⟩⟩

end Quaternion

end SphereBench
