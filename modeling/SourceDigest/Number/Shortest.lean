import SourceDigest.Number.Binary

/-!
The shortest decimal that reads back as a given double. The doubles around a value leave it an
interval of reals that round to it; of the decimals with the fewest digits in that interval the
one nearest to the value is taken.
-/

namespace SourceDigest.Shortest

/-- A positive decimal `digits · 10 ^ exponent`. -/
structure Decimal where
  digits : Nat
  exponent : Int
  deriving DecidableEq, Repr, Inhabited

/-- Four times a positive double and the two ends of the interval that rounds to it, as whole
numbers over one denominator; the ends belong to it exactly when the mantissa is even. -/
structure Interval where
  low : Nat
  value : Nat
  high : Nat
  denominator : Nat
  closed : Bool

/-- Below a power of two the next double is half as far away as above it. -/
def interval (mantissa : Nat) (exponent : Int) : Interval :=
  let (scale, denominator) := Binary.ratio 1 exponent
  let below := if mantissa = Binary.hiddenBit ∧ -1074 < exponent then 1 else 2
  { low := (4 * mantissa - below) * scale
    value := 4 * mantissa * scale
    high := (4 * mantissa + 2) * scale
    denominator := 4 * denominator
    closed := mantissa % 2 = 0 }

/-- Whether `n` times the unit `above / below` lies in the interval. -/
def Interval.holds (i : Interval) (n above below : Nat) : Bool :=
  let point := n * above * i.denominator
  let low := i.low * below
  let high := i.high * below
  if i.closed then low ≤ point && point ≤ high else low < point && point < high

/-- The unit `10 ^ exponent` as a fraction. -/
def unit (exponent : Int) : Nat × Nat :=
  if 0 ≤ exponent then (Nat.pow 10 exponent.toNat, 1) else (1, Nat.pow 10 (-exponent).toNat)

/-- The one of the value's two neighbours on the grid of multiples of `10 ^ exponent` that lies
in the interval; of two the nearer, and the even one at the same distance. -/
def Interval.onGrid? (i : Interval) (exponent : Int) : Option Nat :=
  let (above, below) := unit exponent
  let numerator := i.value * below
  let denominator := i.denominator * above
  let lower := numerator / denominator
  let rest := numerator % denominator
  let takeLower := i.holds lower above below && 0 < lower
  let takeUpper := i.holds (lower + 1) above below
  match takeLower, takeUpper with
  | true, true =>
    if 2 * rest < denominator then some lower
    else if denominator < 2 * rest then some (lower + 1)
    else if lower % 2 = 0 then some lower else some (lower + 1)
  | true, false => some lower
  | false, true => some (lower + 1)
  | false, false => none

def leading (numerator denominator : Nat) : Int :=
  if denominator ≤ numerator then (Nat.toDigits 10 (numerator / denominator)).length - 1
  else
    let quotient := denominator / numerator
    let candidate := -((Nat.toDigits 10 quotient).length : Int)
    let (above, below) := unit (candidate + 1)
    if above * denominator ≤ numerator * below then candidate + 1 else candidate

/-- Grids with one digit, two digits and so on, the first one that has a point in the interval. -/
def search (i : Interval) (top : Int) : (rounds : Nat) → (digits : Nat) → Option Decimal
  | 0, _ => none
  | rounds + 1, digits =>
    match i.onGrid? (top - digits) with
    | some n => some ⟨n, top - digits⟩
    | none => search i top rounds (digits + 1)

/-- Zeros at the end of the digits go into the exponent. -/
def trim : (rounds : Nat) → Decimal → Decimal
  | 0, d => d
  | rounds + 1, d =>
    if d.digits ≠ 0 ∧ d.digits % 10 = 0 then trim rounds ⟨d.digits / 10, d.exponent + 1⟩ else d

/-- The decimal of a positive double. Seventeen digits always suffice. -/
def ofBinary (mantissa : Nat) (exponent : Int) : Decimal :=
  let i := interval mantissa exponent
  let top := leading i.value i.denominator
  trim 20 ((search i top 18 0).getD ⟨0, 0⟩)

end SourceDigest.Shortest
