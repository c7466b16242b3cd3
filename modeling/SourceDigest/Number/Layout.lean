import SourceDigest.Number.Shortest

/-!
Number text. `Layout` says how a decimal is laid out: which exponents are written positionally
and whether a whole number keeps a point. `plain` is the layout of a number in JSON and in
messages, `general` the short one of a metadata line.
-/

namespace SourceDigest

/-- How digits become text. A number whose leading digit stands for `10 ^ e` is positional when
`lowest ≤ e < limit`. -/
structure Layout where
  lowest : Int
  limit : Int
  keepsPoint : Bool

namespace Layout

/-- Positional from `0.0001` up to sixteen digits, always with a point or an exponent. -/
def plain : Layout := ⟨-4, 16, true⟩

/-- Positional from `0.0001` up to six digits, whole numbers without a point. -/
def general : Layout := ⟨-4, 6, false⟩

def digits (n : Nat) : List Char :=
  Nat.toDigits 10 n

/-- An exponent has a sign and at least two digits. -/
def exponentText (e : Int) : List Char :=
  let size := digits e.natAbs
  let padded := if size.length < 2 then '0' :: size else size
  'e' :: (if e < 0 then '-' else '+') :: padded

/-- Text of a positive decimal without zeros at the end of its digits. -/
def decimal (layout : Layout) (d : Shortest.Decimal) : List Char :=
  let shown := digits d.digits
  let top := d.exponent + shown.length - 1
  if layout.lowest ≤ top ∧ top < layout.limit then
    if 0 ≤ d.exponent then
      shown ++ List.replicate d.exponent.toNat '0' ++ (if layout.keepsPoint then ['.', '0'] else [])
    else if 0 ≤ top then
      let whole := (top + 1).toNat
      shown.take whole ++ '.' :: shown.drop whole
    else '0' :: '.' :: List.replicate (-top - 1).toNat '0' ++ shown
  else
    match shown with
    | first :: second :: rest => first :: '.' :: second :: rest ++ exponentText top
    | short => short ++ exponentText top

def zero (layout : Layout) : List Char :=
  if layout.keepsPoint then ['0', '.', '0'] else ['0']

/-- A minus sign in front where the sign bit is set. -/
def signed (negative : Bool) (text : List Char) : List Char :=
  if negative then '-' :: text else text

end Layout

namespace Number

/-- The fewest digits that read back as the same double. -/
def text (x : Float) : String :=
  match Binary.ofFloat x with
  | .undefined => "nan"
  | .infinite negative => String.ofList (Layout.signed negative "inf".toList)
  | .finite negative mantissa exponent =>
    let size :=
      if mantissa = 0 then Layout.plain.zero
      else Layout.plain.decimal (Shortest.ofBinary mantissa exponent)
    String.ofList (Layout.signed negative size)

/-- A quotient to the nearest whole number, a half to the even neighbour. -/
def roundRatio (numerator denominator : Nat) : Nat :=
  let quotient := numerator / denominator
  let rest := numerator % denominator
  if 2 * rest < denominator then quotient
  else if denominator < 2 * rest then quotient + 1
  else if quotient % 2 = 0 then quotient else quotient + 1

/-- Digits with a point before the last `places` of them. -/
def pointed (n places : Nat) : List Char :=
  let shown := Layout.digits n
  let padded := List.replicate (places + 1 - shown.length) '0' ++ shown
  let whole := padded.length - places
  if places = 0 then padded else padded.take whole ++ '.' :: padded.drop whole

/-- Text with a fixed number of places after the point, rounded from the exact value. -/
def fixed (places : Nat) (x : Float) : String :=
  match Binary.ofFloat x with
  | .undefined => "nan"
  | .infinite negative => String.ofList (Layout.signed negative "inf".toList)
  | .finite negative mantissa exponent =>
    let (numerator, denominator) := Binary.ratio mantissa exponent
    let scaled := roundRatio (numerator * Nat.pow 10 places) denominator
    String.ofList (Layout.signed negative (pointed scaled places))

/-- At most six significant digits, zeros at the end left out. -/
def general (x : Float) : String :=
  match Binary.ofFloat x with
  | .undefined => "nan"
  | .infinite negative => String.ofList (Layout.signed negative "inf".toList)
  | .finite negative mantissa exponent =>
    if mantissa = 0 then String.ofList (Layout.signed negative Layout.general.zero)
    else
      let (numerator, denominator) := Binary.ratio mantissa exponent
      let bottom := Shortest.leading numerator denominator - 5
      let (above, below) := Shortest.unit bottom
      let rounded := roundRatio (numerator * below) (denominator * above)
      let short := Shortest.trim 20 ⟨rounded, bottom⟩
      String.ofList (Layout.signed negative (Layout.general.decimal short))

/-- The double nearest to a value rounded to `places` places after the point. -/
def round (places : Nat) (x : Float) : Float :=
  match Binary.ofFloat x with
  | .finite negative mantissa exponent =>
    let (numerator, denominator) := Binary.ratio mantissa exponent
    let scaled := roundRatio (numerator * Nat.pow 10 places) denominator
    let size := Float.ofScientific scaled true places
    if negative then -size else size
  | _ => x

/-- The nearest whole number, a half to the even neighbour. -/
def nearest (x : Float) : Int :=
  match Binary.ofFloat x with
  | .finite negative mantissa exponent =>
    let (numerator, denominator) := Binary.ratio mantissa exponent
    let size := roundRatio numerator denominator
    if negative then -size else size
  | _ => 0

/-- Digits in groups of three, from the right. -/
def grouped (n : Nat) : String :=
  let rec go : List Char → Nat → List Char → List Char
    | [], _, done => done
    | c :: rest, 3, done => go rest 1 (c :: ',' :: done)
    | c :: rest, k, done => go rest (k + 1) (c :: done)
  String.ofList (go (Layout.digits n).reverse 0 [])

def groupedInt (n : Int) : String :=
  if n < 0 then "-" ++ grouped n.natAbs else grouped n.natAbs

end Number

end SourceDigest
