import SphereBench.Decimal.Shortest
/-!
# Styles of decimal text

A double is written with the digits of its shortest decimal. Where the point stands, and when an
exponent is written instead of zeros, is the matter of a style.
-/

namespace SphereBench.Decimal

/-- How the shortest decimal of a double is laid out. -/
structure Style where
  /-- Which of two equally near decimals is written. -/
  tie : TieRule
  /-- The least and the greatest power of ten of a leading digit that is written positionally;
  all of them if absent. -/
  positional : Option (Int × Int)
  /-- What follows the last digit of a whole number. -/
  wholeMark : String
  /-- What precedes an exponent that is not negative. -/
  exponentSign : String
  deriving DecidableEq, Repr

namespace Style

/-- Every number is written positionally and whole numbers have no point. -/
def plain : Style := ⟨.up, none, "", ""⟩

/-- Whole numbers are marked by `.0`, and an exponent stands for more than three zeros after the
point and for whole numbers of more than sixteen digits. -/
def listed : Style := ⟨.up, some (-4, 15), ".0", ""⟩

/-- Whole numbers are marked by `.0`, an exponent stands for more than four zeros after the point
and for whole numbers of more than sixteen digits, and it always has a sign. -/
def json : Style := ⟨.toEven, some (-5, 15), ".0", "+"⟩

end Style

/-- The digits of a natural number. -/
def digitsOf (n : Nat) : String := String.ofList (Nat.toDigits 10 n)

/-- A run of zeros. -/
def zeros (n : Nat) : String := String.ofList (List.replicate n '0')

/-- The power of ten of the leading digit. -/
def leading (d : Decimal) : Int := (Nat.toDigits 10 d.digits).length + d.exponent - 1

/-- The digits with the point, and zeros where needed. -/
def positionalText (wholeMark : String) (d : Decimal) : String :=
  let cs := Nat.toDigits 10 d.digits
  let point := cs.length + d.exponent
  if point ≤ 0 then "0." ++ zeros (-point).toNat ++ String.ofList cs
  else if d.exponent ≥ 0 then String.ofList cs ++ zeros d.exponent.toNat ++ wholeMark
  else
    String.ofList (cs.take point.toNat) ++ "." ++ String.ofList (cs.drop point.toNat)

/-- One digit before the point, and the power of ten. -/
def exponentText (exponentSign : String) (d : Decimal) : String :=
  let cs := Nat.toDigits 10 d.digits
  let e := d.leading
  let mantissa :=
    String.ofList (cs.take 1) ++
      if cs.length ≤ 1 then "" else "." ++ String.ofList (cs.drop 1)
  mantissa ++ "e" ++ (if e < 0 then "-" else exponentSign) ++ digitsOf e.natAbs

namespace Style

/-- The text of a decimal other than zero. -/
def decimalText (s : Style) (d : Decimal) : String :=
  match s.positional with
  | none => positionalText s.wholeMark d
  | some (least, greatest) =>
    if least ≤ d.leading ∧ d.leading ≤ greatest then positionalText s.wholeMark d
    else exponentText s.exponentSign d

/-- The text of a double. Zeros keep their sign. -/
def text (s : Style) (x : Float) : String :=
  if x.isNaN then "NaN"
  else
    let sign := if x.toBits.toNat ≥ Nat.pow 2 63 then "-" else ""
    let magnitude :=
      if x.isInf then "inf"
      else if x == 0 then "0" ++ s.wholeMark
      else s.decimalText ((Binary.ofFloat x).shortest s.tie)
    sign ++ magnitude

end Style

end SphereBench.Decimal
