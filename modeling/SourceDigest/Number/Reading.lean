import SourceDigest.Text.Blank
import SourceDigest.Text.Cut
import SourceDigest.Text.Digit

/-!
Numbers read from text. `number?` reads the plain decimal grammar; `loosen?` first brings a text
into that form: decimal digits of every script, white space around the number and single
underscores between digits are allowed.
-/

namespace SourceDigest.Reading

def ofDigits (digits : List Char) : Nat :=
  digits.foldl (fun n c => n * 10 + (c.toNat - '0'.toNat)) 0

def takeSign : List Char → Bool × List Char
  | '-' :: rest => (true, rest)
  | '+' :: rest => (false, rest)
  | rest => (false, rest)

/-- The double nearest to `mantissa · 10 ^ exponent`. Beyond the range of doubles the exponent is
not looked at. -/
def scientific (mantissa : Nat) (exponent : Int) : Float :=
  if mantissa = 0 then 0.0
  else
    let top := (Nat.toDigits 10 mantissa).length + exponent
    if 400 < top then 1.0 / 0.0
    else if top < -400 then 0.0
    else Float.ofScientific mantissa (decide (exponent < 0)) exponent.natAbs

/-- The exponent at the end of a number, zero where there is none. -/
def exponent? : List Char → Option Int
  | [] => some 0
  | c :: rest =>
    if c = 'e' ∨ c = 'E' then
      let (negative, digits) := takeSign rest
      if digits.isEmpty || !digits.all Char.isDigit then none
      else some (if negative then -(ofDigits digits : Int) else ofDigits digits)
    else none

def unsigned? (text : List Char) : Option Float :=
  let whole := text.takeWhile Char.isDigit
  let rest := text.dropWhile Char.isDigit
  let (places, rest) := match rest with
    | '.' :: rest => (rest.takeWhile Char.isDigit, rest.dropWhile Char.isDigit)
    | rest => ([], rest)
  if whole.isEmpty && places.isEmpty then none
  else (exponent? rest).map fun e => scientific (ofDigits (whole ++ places)) (e - places.length)

/-- A decimal number, an infinity or the value that is no number. -/
def number? (text : List Char) : Option Float :=
  let (negative, rest) := takeSign text
  let name := String.ofList (rest.map Char.toLower)
  let size :=
    if name = "inf" ∨ name = "infinity" then some (1.0 / 0.0)
    else if name = "nan" then some (0.0 / 0.0)
    else unsigned? rest
  size.map fun x => if negative then -x else x

def whole? (text : List Char) : Option Int :=
  let (negative, digits) := takeSign text
  if digits.isEmpty || !digits.all Char.isDigit then none
  else some (if negative then -(ofDigits digits : Int) else ofDigits digits)

/-- White space that may stand around a number: that of every script, but no information
separators. -/
def isMargin (c : Char) : Bool :=
  Text.isBlank c && !(28 ≤ c.toNat && c.toNat ≤ 31)

/-- Takes away underscores that stand between digits; any other underscore is refused. -/
def dropUnderscores : (last : Char) → List Char → Option (List Char)
  | _, [] => some []
  | last, '_' :: next :: rest =>
    if last.isDigit && next.isDigit then dropUnderscores '_' (next :: rest) else none
  | _, c :: rest => if c = '_' then none else (dropUnderscores c rest).map (c :: ·)

/-- A decimal digit of any script as a plain one; any other character stays. -/
def plainDigit (c : Char) : Char :=
  match Text.digitValue? c with
  | some n => Char.ofNat ('0'.toNat + n)
  | none => c

/-- The plain form of a loosely written number. -/
def loosen? (text : List Char) : Option (List Char) :=
  dropUnderscores ' ' ((Text.stripBy isMargin text).map plainDigit)

/-- The number of digits at the start of a text, behind white space and a sign. Underscores
between digits are passed over; where one stands elsewhere there are no digits. -/
def leadingDigits (text : List Char) : Nat :=
  let (_, rest) := takeSign ((text.dropWhile isMargin).map plainDigit)
  let run := rest.takeWhile fun c => c.isDigit || c == '_'
  ((dropUnderscores ' ' run).getD []).length

/-- The most digits that a whole number in a text may have. -/
def digitLimit : Nat :=
  4300

end SourceDigest.Reading
