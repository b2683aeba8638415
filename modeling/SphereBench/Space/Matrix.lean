import SphereBench.Space.Vector
/-!
# Matrices of space

Square matrices with three columns, as needed for inertia tensors and rotations.
-/

namespace SphereBench

/-- A matrix, given by its columns. -/
@[ext] structure Mat3 (K : Type) where
  /-- Image of the x axis. -/
  colX : Vec3 K
  /-- Image of the y axis. -/
  colY : Vec3 K
  /-- Image of the z axis. -/
  colZ : Vec3 K

namespace Mat3
variable {K : Type} [Scalar K]

/-- Image of a vector. -/
@[inline] def mulVec (m : Mat3 K) (v : Vec3 K) : Vec3 K :=
  m.colX * v.x + m.colY * v.y + m.colZ * v.z

/-- Product of matrices: the image of each column of the second. -/
@[inline] def mul (m n : Mat3 K) : Mat3 K :=
  ⟨m.mulVec n.colX, m.mulVec n.colY, m.mulVec n.colZ⟩

instance : HMul (Mat3 K) (Vec3 K) (Vec3 K) := ⟨mulVec⟩
instance : Mul (Mat3 K) := ⟨mul⟩

/-- The matrix with the components of `d` on its diagonal and zeros elsewhere. -/
@[inline] def diagonal (d : Vec3 K) : Mat3 K :=
  ⟨⟨d.x, 0, 0⟩, ⟨0, d.y, 0⟩, ⟨0, 0, d.z⟩⟩

/-- The matrix with rows and columns exchanged. -/
@[inline] def transpose (m : Mat3 K) : Mat3 K :=
  ⟨⟨m.colX.x, m.colY.x, m.colZ.x⟩, ⟨m.colX.y, m.colY.y, m.colZ.y⟩,
    ⟨m.colX.z, m.colY.z, m.colZ.z⟩⟩

/-- Volume spanned by the columns. -/
@[inline] def det (m : Mat3 K) : K := m.colZ.dot (m.colX.cross m.colY)

/-- The inverse of a matrix whose determinant is not zero. -/
@[inline] def inverse (m : Mat3 K) : Mat3 K :=
  let r := 1 / m.det
  transpose ⟨m.colY.cross m.colZ * r, m.colZ.cross m.colX * r, m.colX.cross m.colY * r⟩

end Mat3

end SphereBench
