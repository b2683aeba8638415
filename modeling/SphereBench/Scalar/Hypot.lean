/-!
# Length of a hypotenuse

The hypotenuse over two legs in double precision. Legs whose squares would overflow or vanish are
scaled by a power of two first, and the rounded square root is improved by one correction step,
so that the result is within one unit in the last place.
-/

namespace SphereBench.Hypot

/-- The power of two that brings very long or very short legs into range. -/
def scale : Float := Float.scaleB 1 (-600)

/-- A longer leg above this length is scaled down. -/
def longLimit : Float := Float.scaleB 1 511

/-- A shorter leg below this length is scaled up. -/
def shortLimit : Float := Float.scaleB 1 (-459)

/-- A shorter leg at most this fraction of the longer one only rounds the sum of the two. -/
def negligible : Float := Float.scaleB 1 (-54)

/-- The root of the sum of squares, less its error as estimated from the difference to one of the
legs; the nearer leg gives the smaller difference and is taken. -/
def corrected (long short : Float) : Float :=
  let h := (long * long + short * short).sqrt
  let excess :=
    if h ≤ 2.0 * short then
      let d := h - short
      long * (2.0 * d - long) + (d - 2.0 * (long - short)) * d
    else
      let d := h - long
      2.0 * d * (long - 2.0 * short) + ((4.0 * d - short) * short + d * d)
  h - excess / (2.0 * h)

/-- The hypotenuse of finite non-negative legs, the longer one first. -/
def ordered (long short : Float) : Float :=
  if long > longLimit then
    if short ≤ long * negligible then long + short
    else corrected (long * scale) (short * scale) / scale
  else if short < shortLimit then
    if long ≥ short / negligible then long + short
    else corrected (long / scale) (short / scale) * scale
  else if short ≤ long * negligible then long + short
  else corrected long short

/-- The hypotenuse of two legs of any sign. An infinite leg gives infinity whatever the other one
is. -/
def length (x y : Float) : Float :=
  if x.isInf || y.isInf then 1.0 / 0.0
  else if x.isNaN || y.isNaN then x + y
  else if x.abs < y.abs then ordered y.abs x.abs
  else ordered x.abs y.abs

end SphereBench.Hypot
