import SphereBench.Text.Caseless
import SphereBench.Decimal.Shortest
/-!
# Reading decimal text

The decimal text of a double: an optional sign, then digits with an optional point and an optional
power of ten, or one of the words `inf`, `infinity` and `nan` in any case. Nothing else is
accepted, no blanks, no grouping and no other base. The value is the nearest double.
-/

namespace SphereBench.Decimal

/-- The leading digits and what follows them. -/
def spanDigits (cs : List Char) : List Char × List Char :=
  (cs.takeWhile Char.isDigit, cs.dropWhile Char.isDigit)

/-- The natural number that a list of digits denotes. -/
def natOfDigits (cs : List Char) : Nat :=
  cs.foldl (fun n c => 10 * n + (c.toNat - '0'.toNat)) 0

/-- A sign, and what follows it; without one the text is positive. -/
def takeSign : List Char → Bool × List Char
  | '-' :: cs => (true, cs)
  | '+' :: cs => (false, cs)
  | cs => (false, cs)

/-- A whole number that is all digits. -/
def natOfText? (cs : List Char) : Option Nat :=
  if cs ≠ [] ∧ cs.all Char.isDigit then some (natOfDigits cs) else none

/-- A whole number with an optional sign. -/
def intOfText? (cs : List Char) : Option Int :=
  let (negative, body) := takeSign cs
  (natOfText? body).map fun n => if negative then -(n : Int) else n

/-- The power of ten at the end of a number; an absent one is zero. -/
def exponentOfText? : List Char → Option Int
  | [] => some 0
  | c :: cs => if c = 'e' ∨ c = 'E' then intOfText? cs else none

/-- The digits after a point, and what follows them; without a point there are none. -/
def takeFraction : List Char → List Char × List Char
  | '.' :: cs => spanDigits cs
  | cs => ([], cs)

/-- The decimal that an unsigned text denotes. At least one digit is needed, before or after the
point. -/
def ofText? (cs : List Char) : Option Decimal :=
  let (whole, rest) := spanDigits cs
  let (fraction, power) := takeFraction rest
  if whole ++ fraction = [] then none
  else
    (exponentOfText? power).map fun e =>
      ⟨natOfDigits (whole ++ fraction), e - fraction.length⟩

/-- The double nearest to a decimal. A decimal beyond the range of doubles is infinite or zero. -/
def toFloat (d : Decimal) : Float :=
  let magnitude := (Nat.toDigits 10 d.digits).length + d.exponent
  if d.digits = 0 ∨ magnitude < -330 then 0.0
  else if magnitude > 310 then 1.0 / 0.0
  else Float.ofScientific d.digits (d.exponent < 0) d.exponent.natAbs

/-- The magnitude that an unsigned text denotes. -/
def readMagnitude? (cs : List Char) : Option Float :=
  let word := String.ofList cs
  if Text.SameName word "inf" ∨ Text.SameName word "infinity" then some (1.0 / 0.0)
  else if Text.SameName word "nan" then some (0.0 / 0.0)
  else (ofText? cs).map toFloat

/-- The double that a text denotes. -/
def readFloat? (s : String) : Option Float :=
  let (negative, body) := takeSign s.toList
  (readMagnitude? body).map fun x => if negative then -x else x

/-- The whole number that a text denotes. -/
def readInt? (s : String) : Option Int := intOfText? s.toList

end SphereBench.Decimal
