/-!
The exact value of a double: a sign, a whole number and a power of two, or one of the three
values that are not numbers of the line. Rounding, comparison and number text all start here.
-/

namespace SourceDigest

/-- A double taken apart: the finite ones are `± mantissa · 2 ^ exponent`. -/
inductive Binary where
  | finite (negative : Bool) (mantissa : Nat) (exponent : Int)
  | infinite (negative : Bool)
  | undefined
  deriving DecidableEq, Repr, Inhabited

namespace Binary

/-- The leading bit of a mantissa, which most doubles do not store. -/
def hiddenBit : Nat :=
  0x10000000000000

/-- Reads the sign, the eleven exponent bits and the fifty-two mantissa bits. -/
def ofFloat (x : Float) : Binary :=
  let bits := x.toBits.toNat
  let negative := bits / 0x8000000000000000 == 1
  let exponent : Nat := bits / hiddenBit % 2048
  let fraction : Nat := bits % hiddenBit
  if exponent = 2047 then
    if fraction = 0 then .infinite negative else .undefined
  else if exponent = 0 then .finite negative fraction (-1074)
  else .finite negative (fraction + hiddenBit) ((exponent : Int) - 1075)

/-- The size of a finite double as a fraction of whole numbers, the lower one positive. -/
def ratio (mantissa : Nat) (exponent : Int) : Nat × Nat :=
  if 0 ≤ exponent then (mantissa * Nat.pow 2 exponent.toNat, 1)
  else (mantissa, Nat.pow 2 (-exponent).toNat)

/-- The exact value; the three values off the line have none. -/
def toRat? : Binary → Option Rat
  | .finite negative mantissa exponent =>
    let (numerator, denominator) := ratio mantissa exponent
    some (mkRat (if negative then -numerator else numerator) denominator)
  | .infinite _ => none
  | .undefined => none

end Binary

end SourceDigest
