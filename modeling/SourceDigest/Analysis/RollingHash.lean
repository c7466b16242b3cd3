/-!
The rolling hash of a text: the polynomial in 31 over its code points, as a signed residue of
thirty-two bits. It tells two versions of one file apart and is no more than that.
-/

namespace SourceDigest.RollingHash

def modulus : Nat :=
  0x100000000

/-- Takes one more character into an unsigned hash. -/
def step (h : Nat) (c : Char) : Nat :=
  (h * 31 + c.toNat) % modulus

/-- The residue between minus half the modulus and half the modulus. -/
def signed (h : Nat) : Int :=
  if modulus / 2 ≤ h then (h : Int) - modulus else h

def ofChars (text : List Char) : Int :=
  signed (text.foldl step 0)

end SourceDigest.RollingHash

namespace SourceDigest

/-- The hash of a text. -/
def rollingHash (content : String) : Int :=
  RollingHash.ofChars content.toList

end SourceDigest
