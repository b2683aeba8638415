import SphereBench.Scalar
/-!
# Vectors of space

Vectors with three components. Each operation is stated with its order of evaluation, and a lemma
beside it says what it does to the components.
-/

namespace SphereBench

/-- A vector of space. -/
@[ext] structure Vec3 (K : Type) where
  x : K
  y : K
  z : K

namespace Vec3
variable {K : Type} [Scalar K]

instance : Zero (Vec3 K) := ⟨⟨0, 0, 0⟩⟩
instance : Add (Vec3 K) := ⟨fun v w => ⟨v.x + w.x, v.y + w.y, v.z + w.z⟩⟩
instance : Sub (Vec3 K) := ⟨fun v w => ⟨v.x - w.x, v.y - w.y, v.z - w.z⟩⟩
instance : HMul (Vec3 K) K (Vec3 K) := ⟨fun v s => ⟨v.x * s, v.y * s, v.z * s⟩⟩
instance : HDiv (Vec3 K) K (Vec3 K) := ⟨fun v s => ⟨v.x / s, v.y / s, v.z / s⟩⟩

@[simp] theorem zero_x : (0 : Vec3 K).x = 0 := rfl
@[simp] theorem zero_y : (0 : Vec3 K).y = 0 := rfl
@[simp] theorem zero_z : (0 : Vec3 K).z = 0 := rfl
@[simp] theorem add_x (v w : Vec3 K) : (v + w).x = v.x + w.x := rfl
@[simp] theorem add_y (v w : Vec3 K) : (v + w).y = v.y + w.y := rfl
@[simp] theorem add_z (v w : Vec3 K) : (v + w).z = v.z + w.z := rfl
@[simp] theorem sub_x (v w : Vec3 K) : (v - w).x = v.x - w.x := rfl
@[simp] theorem sub_y (v w : Vec3 K) : (v - w).y = v.y - w.y := rfl
@[simp] theorem sub_z (v w : Vec3 K) : (v - w).z = v.z - w.z := rfl
@[simp] theorem mul_x (v : Vec3 K) (s : K) : (v * s).x = v.x * s := rfl
@[simp] theorem mul_y (v : Vec3 K) (s : K) : (v * s).y = v.y * s := rfl
@[simp] theorem mul_z (v : Vec3 K) (s : K) : (v * s).z = v.z * s := rfl
@[simp] theorem div_x (v : Vec3 K) (s : K) : (v / s).x = v.x / s := rfl
@[simp] theorem div_y (v : Vec3 K) (s : K) : (v / s).y = v.y / s := rfl
@[simp] theorem div_z (v : Vec3 K) (s : K) : (v / s).z = v.z / s := rfl

/-- The vector whose components are all `s`. -/
@[inline] def const (s : K) : Vec3 K := ⟨s, s, s⟩

/-- The vector of length `s` along the z axis. -/
@[inline] def alongZ (s : K) : Vec3 K := ⟨0, 0, s⟩

/-- Scalar product. -/
@[inline] def dot (v w : Vec3 K) : K := v.x * w.x + v.y * w.y + v.z * w.z

/-- Vector product. -/
@[inline] def cross (v w : Vec3 K) : Vec3 K :=
  ⟨v.y * w.z - w.y * v.z, v.z * w.x - w.z * v.x, v.x * w.y - w.x * v.y⟩

/-- Square of the Euclidean norm. -/
@[inline] def lengthSq (v : Vec3 K) : K := v.dot v

/-- Euclidean norm. -/
@[inline] def length (v : Vec3 K) : K := Scalar.sqrt v.lengthSq

/-- Whether every component is finite. -/
@[inline] def isFinite (v : Vec3 K) : Bool :=
  Scalar.isFinite v.x && Scalar.isFinite v.y && Scalar.isFinite v.z

/-- The smallest component. -/
@[inline] def minComponent (v : Vec3 K) : K :=
  Scalar.minNum v.x (Scalar.minNum v.y v.z)

end Vec3

end SphereBench
