/-!
# Shortest decimals

The decimal with the fewest digits that reads back as a given double. A double is taken apart
into `mantissa · 2 ^ exponent`; the decimals that read back as it form an interval around it,
which contains its ends exactly when the mantissa is even. Grids of decimals are tried from
coarse to fine, and the first one with a point in the interval gives the answer. All comparisons
are exact, on natural numbers.
-/

namespace SphereBench

/-- The decimal number `digits · 10 ^ exponent`. -/
structure Decimal where
  digits : Nat
  exponent : Int
  deriving DecidableEq, Repr

/-- Which of two decimals is taken when they are equally near. -/
inductive TieRule where
  /-- The greater one. -/
  | up
  /-- The one with an even last digit. -/
  | toEven
  deriving DecidableEq, Repr

/-- The magnitude `mantissa · 2 ^ exponent`. -/
structure Binary where
  mantissa : Nat
  exponent : Int
  /-- The next magnitude below is only half as far away as the next one above: the mantissa is the
  least one of its exponent. -/
  atBinade : Bool
  deriving DecidableEq, Repr

namespace Binary

/-- The magnitude of a finite double, from the two lower fields of its bits. -/
def ofFields (biased fraction : Nat) : Binary :=
  if biased = 0 then ⟨fraction, -1074, false⟩
  else ⟨Nat.pow 2 52 + fraction, biased - 1075, fraction = 0 ∧ biased > 1⟩

/-- The magnitude of a finite double. -/
def ofFloat (x : Float) : Binary :=
  let bits := x.toBits.toNat
  ofFields (bits / Nat.pow 2 52 % Nat.pow 2 11) (bits % Nat.pow 2 52)

/-- The lower end of the interval, in quarters of the last place. -/
def lowQuarters (b : Binary) : Nat := 4 * b.mantissa - if b.atBinade then 1 else 2

/-- The upper end of the interval, in quarters of the last place. -/
def highQuarters (b : Binary) : Nat := 4 * b.mantissa + 2

/-- What a quarter of the last place counts when the grid of decimals with exponent `k` and the
magnitude are brought to one denominator. -/
def quarterWeight (b : Binary) (k : Int) : Nat :=
  Nat.pow 2 (b.exponent - 2).toNat * Nat.pow 10 (-k).toNat

/-- What one step of the grid counts over the same denominator. -/
def stepWeight (b : Binary) (k : Int) : Nat :=
  Nat.pow 10 k.toNat * Nat.pow 2 (2 - b.exponent).toNat

/-- Whether `d · 10 ^ k` reads back as the magnitude. -/
def readsBack (b : Binary) (k : Int) (d : Nat) : Bool :=
  let low := b.lowQuarters * b.quarterWeight k
  let high := b.highQuarters * b.quarterWeight k
  let point := d * b.stepWeight k
  if b.mantissa % 2 = 0 then decide (low ≤ point) && decide (point ≤ high)
  else decide (low < point) && decide (point < high)

/-- The nearest of the decimals with exponent `k` that read back as the magnitude. Only the two
neighbours of the magnitude on the grid can be nearest. -/
def grid? (b : Binary) (tie : TieRule) (k : Int) : Option Decimal :=
  let value := 4 * b.mantissa * b.quarterWeight k
  let step := b.stepWeight k
  let below := value / step
  match b.readsBack k below, b.readsBack k (below + 1) with
  | false, false => none
  | true, false => some ⟨below, k⟩
  | false, true => some ⟨below + 1, k⟩
  | true, true =>
    match compare (2 * value) ((2 * below + 1) * step) with
    | .lt => some ⟨below, k⟩
    | .gt => some ⟨below + 1, k⟩
    | .eq =>
      match tie with
      | .up => some ⟨below + 1, k⟩
      | .toEven => some ⟨if below % 2 = 0 then below else below + 1, k⟩

/-- The first decimal found on `grids` grids, from exponent `k` downwards. -/
def search (b : Binary) (tie : TieRule) : (grids : Nat) → (k : Int) → Option Decimal
  | 0, _ => none
  | grids + 1, k => (b.grid? tie k).or (b.search tie grids (k - 1))

/-- An exponent whose grid is too coarse for the magnitude, by at most two grids: ten to it is
more than the magnitude, since `0.30103` is more than the logarithm of two. -/
def coarseExponent (b : Binary) : Int :=
  (b.mantissa.log2 + 1 + b.exponent) * 30103 / 100000 + 2

/-- The shortest decimal that reads back as a magnitude other than zero. Seventeen digits always
suffice, so the search ends long before the grids run out. -/
def shortest (b : Binary) (tie : TieRule) : Decimal :=
  (b.search tie 24 b.coarseExponent).getD ⟨b.mantissa, 0⟩

end Binary

end SphereBench
