/-!
# Scalars

Every simulation, statistic and measurement of this library is written once, over any type of
numbers with the operations of `Scalar`. Double-precision numbers are one instance and give the
program its answers bit for bit, so the order of operations in each definition matters. Exact
real numbers are another, in which the laws of motion can be stated.

## Main definitions

* `Scalar` — the operations that a type of numbers offers to the library.
* `Scalar.maxNum`, `Scalar.minNum` — extrema that skip an operand which is not a number.
* `Scalar.isPositiveFinite` — the test for masses, time steps and durations.
-/

namespace SphereBench

/-- A type of numbers to compute with. A comparison is false when an operand is not a number, so
no instance is required to be totally ordered. -/
class Scalar (K : Type) extends Zero K, One K, Add K, Sub K, Mul K, Div K, Neg K, NatCast K,
    OfScientific K, LT K, LE K, BEq K where
  /-- Non-negative square root. -/
  sqrt : K → K
  /-- Absolute value. -/
  abs : K → K
  /-- Sine of an angle in radians. -/
  sin : K → K
  /-- Cosine of an angle in radians. -/
  cos : K → K
  /-- Length of the hypotenuse over two legs, without overflow on the way. -/
  hypot : K → K → K
  /-- Whether the value is a number other than the infinities. -/
  isFinite : K → Bool
  /-- The least count that is not below the value, clamped to `0` and `2 ^ 64 - 1`. -/
  ceilCount : K → Nat
  /-- Strict comparison is decided. -/
  decLt : ∀ a b : K, Decidable (a < b)
  /-- Comparison is decided. -/
  decLe : ∀ a b : K, Decidable (a ≤ b)

namespace Scalar
variable {K : Type} [Scalar K]

instance (a b : K) : Decidable (a < b) := decLt a b
instance (a b : K) : Decidable (a ≤ b) := decLe a b

/-- The greater operand; of two equal ones the first, and of a value that is not a number and
another value the other. -/
@[inline] def maxNum (a b : K) : K :=
  if a < b then b else if a == a then a else b

/-- The smaller operand; of two equal ones the first, and of a value that is not a number and
another value the other. -/
@[inline] def minNum (a b : K) : K :=
  if b < a then b else if a == a then a else b

/-- The empty sum. Its sign is negative where zeros have one: it is the neutral element of
addition even before a negative zero. -/
@[inline] def emptySum : K := -0

/-- Adds from the left, starting with the empty sum. -/
@[specialize] def sum (xs : List K) : K := xs.foldl (· + ·) emptySum

/-- Positive and finite: what a mass, a time step or a duration has to be. -/
@[inline] def isPositiveFinite (x : K) : Bool := isFinite x && decide (0 < x)

end Scalar

end SphereBench
