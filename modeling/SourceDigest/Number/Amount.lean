import SourceDigest.Number.Scalar
import SourceDigest.Value

/-!
Numbers among the values of settings. A truth value counts as zero or one; comparison is exact,
and nothing can be compared with what is not a number.
-/

namespace SourceDigest

/-- A number as comparison sees it. -/
inductive Amount where
  | exact (q : Rat)
  | infinite (negative : Bool)
  | undefined
  deriving DecidableEq, Repr

namespace Amount

def ofValue? : Value → Option Amount
  | .bool b => some (.exact (if b then 1 else 0))
  | .int n => some (.exact n)
  | .float x =>
    match Binary.ofFloat x with
    | .finite negative mantissa exponent =>
      some (.exact (((Binary.finite negative mantissa exponent).toRat?).getD 0))
    | .infinite negative => some (.infinite negative)
    | .undefined => some .undefined
  | _ => none

def atMost (a : Amount) (n : Int) : Bool :=
  match a with
  | exact q => decide (q ≤ n)
  | infinite negative => negative
  | undefined => false

def below (a : Amount) (n : Int) : Bool :=
  match a with
  | exact q => decide (q < n)
  | infinite negative => negative
  | undefined => false

def atLeast (a : Amount) (n : Int) : Bool :=
  match a with
  | exact q => decide ((n : Rat) ≤ q)
  | infinite negative => !negative
  | undefined => false

end Amount

namespace Value

/-- A numeric value as a scalar; what is no number becomes zero. -/
def toScalar {α : Type} [Scalar α] : Value → α
  | bool b => Scalar.ofInt (if b then 1 else 0)
  | int n => Scalar.ofInt n
  | float x => Scalar.ofFloat x
  | _ => Scalar.ofInt 0

end Value

end SourceDigest
