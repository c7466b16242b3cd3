import SourceDigest.Number.Binary

/-!
The arithmetic that scores, centralities and estimates are computed with. Every formula of the
library is written once over a `Scalar`: at `Float` it is what runs, at `Rat` it is the same
formula without rounding.
-/

namespace SourceDigest

/-- Numbers with the four operations, an order, decimal literals and a ceiling. -/
class Scalar (α : Type) extends Add α, Sub α, Mul α, Div α, LT α, LE α, BEq α, OfScientific α where
  ofInt : Int → α
  ofFloat : Float → α
  ceil : α → Int
  decLt : DecidableLT α
  decLe : DecidableLE α

namespace Scalar

attribute [reducible, instance] decLt decLe

/-- The nearest double; a whole number beyond fifty-three bits is rounded once. -/
def floatOfInt (n : Int) : Float :=
  let size := Float.ofScientific n.natAbs false 0
  if n < 0 then -size else size

/-- The least whole number that is not below a double, taken from its exact value. -/
def ceilFloat (x : Float) : Int :=
  match (Binary.ofFloat x).toRat? with
  | some value => value.ceil
  | none => 0

instance : Scalar Float where
  ofInt := floatOfInt
  ofFloat := id
  ceil := ceilFloat
  decLt := inferInstance
  decLe := inferInstance

instance : Scalar Rat where
  ofInt := Int.cast
  ofFloat x := (Binary.ofFloat x).toRat?.getD 0
  ceil := Rat.ceil
  decLt := inferInstance
  decLe := inferInstance

variable {α : Type} [Scalar α]

/-- The smaller of two, the first one when neither is smaller. -/
def least (a b : α) : α :=
  if b < a then b else a

/-- The larger of two, the first one when neither is larger. -/
def most (a b : α) : α :=
  if a < b then b else a

def ofNat (n : Nat) : α :=
  ofInt n

end Scalar

end SourceDigest
