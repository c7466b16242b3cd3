import SourceDigest.Number.Reading
import SourceDigest.Value

/-!
The pieces of a TOML document below the level of values: blanks, comments, strings, keys, numbers
and moments. Every reader returns what it read and the text after it, or nothing if the document
is malformed there. Line ends are single line feeds.
-/

namespace SourceDigest.Toml

/-- Space or tab. -/
def isSpace (c : Char) : Bool :=
  c == ' ' || c == '\t'

def skipSpace (text : List Char) : List Char :=
  text.dropWhile isSpace

/-- Control characters other than the tab, which stand nowhere unescaped. -/
def isControl (c : Char) : Bool :=
  (c.toNat < 32 && c != '\t') || c.toNat == 127

/-- Drops a comment up to the end of its line. -/
def skipComment? (text : List Char) : Option (List Char) :=
  match text with
  | '#' :: rest =>
    let comment := rest.takeWhile (· != '\n')
    if comment.any isControl then none else some (rest.drop comment.length)
  | _ => some text

/-- Drops blanks, line feeds and comments, as between the items of an array. -/
def skipBetween? : (fuel : Nat) → List Char → Option (List Char)
  | 0, text => some text
  | fuel + 1, text =>
    match text.dropWhile fun c => isSpace c || c == '\n' with
    | '#' :: rest => (skipComment? ('#' :: rest)).bind (skipBetween? fuel)
    | rest => some rest

def hexValue? (c : Char) : Option Nat :=
  if '0' ≤ c ∧ c ≤ '9' then some (c.toNat - 48)
  else if 'a' ≤ c ∧ c ≤ 'f' then some (c.toNat - 87)
  else if 'A' ≤ c ∧ c ≤ 'F' then some (c.toNat - 55)
  else none

/-- A character given by `width` digits of base sixteen; surrogates are no characters. -/
def hexChar? (width : Nat) (text : List Char) : Option (Char × List Char) := do
  let digits := text.take width
  if digits.length ≠ width then none
  else
    let n ← digits.foldlM (fun n c => (hexValue? c).map (n * 16 + ·)) 0
    if n.isValidChar then some (Char.ofNat n, text.drop width) else none

/-- What a backslash and one character stand for. -/
def escape? (c : Char) : Option Char :=
  match c with
  | 'b' => some '\x08'
  | 't' => some '\t'
  | 'n' => some '\n'
  | 'f' => some '\x0c'
  | 'r' => some '\r'
  | '"' => some '"'
  | '\\' => some '\\'
  | _ => none

/-- Text in double quotes, after the opening ones. A string over several lines ends with three
quotes, and a backslash before the end of a line joins it with the next. -/
def basicString? (multiline : Bool) : (fuel : Nat) → (done : List Char) → List Char →
    Option (List Char × List Char)
  | 0, _, _ => none
  | _ + 1, _, [] => none
  | fuel + 1, done, '"' :: rest =>
    if !multiline then some (done.reverse, rest)
    else
      match rest with
      | '"' :: '"' :: rest => some (done.reverse, rest)
      | rest => basicString? multiline fuel ('"' :: done) rest
  | _ + 1, _, ['\\'] => none
  | fuel + 1, done, '\\' :: c :: rest =>
    if multiline && (isSpace c || c == '\n') then
      match skipSpace (c :: rest) with
      | [] => none
      | '\n' :: rest =>
        basicString? multiline fuel done (rest.dropWhile fun c => isSpace c || c == '\n')
      | _ => none
    else if c = 'u' then
      (hexChar? 4 rest).bind fun r => basicString? multiline fuel (r.1 :: done) r.2
    else if c = 'U' then
      (hexChar? 8 rest).bind fun r => basicString? multiline fuel (r.1 :: done) r.2
    else (escape? c).bind fun e => basicString? multiline fuel (e :: done) rest
  | fuel + 1, done, c :: rest =>
    if isControl c && !(multiline && c == '\n') then none
    else basicString? multiline fuel (c :: done) rest

/-- Text in apostrophes, after the opening one. -/
def literalString? (text : List Char) : Option (List Char × List Char) :=
  let body := text.takeWhile (· != '\'')
  match text.drop body.length with
  | _ :: rest => if body.any isControl then none else some (body, rest)
  | [] => none

/-- Text between three apostrophes, after the opening ones. -/
def literalLines? : (done : List Char) → List Char → Option (List Char × List Char)
  | _, [] => none
  | done, '\'' :: '\'' :: '\'' :: rest => some (done.reverse, rest)
  | done, c :: rest =>
    if isControl c && c != '\n' then none else literalLines? (c :: done) rest

/-- One or two more quotes right after the closing three belong to the text. -/
def closingQuotes (quote : Char) (r : List Char × List Char) : List Char × List Char :=
  match r.2 with
  | a :: b :: rest =>
    if a = quote ∧ b = quote then (r.1 ++ [quote, quote], rest)
    else if a = quote then (r.1 ++ [quote], b :: rest)
    else r
  | [a] => if a = quote then (r.1 ++ [quote], []) else r
  | [] => r

def dropFirstBreak : List Char → List Char
  | '\n' :: rest => rest
  | text => text

/-- Any of the four kinds of strings. -/
def string? (text : List Char) : Option (String × List Char) :=
  let read := match text with
    | '"' :: '"' :: '"' :: rest =>
      (basicString? true (rest.length + 1) [] (dropFirstBreak rest)).map (closingQuotes '"')
    | '"' :: rest => basicString? false (rest.length + 1) [] rest
    | '\'' :: '\'' :: '\'' :: rest =>
      (literalLines? [] (dropFirstBreak rest)).map (closingQuotes '\'')
    | '\'' :: rest => literalString? rest
    | _ => none
  read.map fun r => (String.ofList r.1, r.2)

/-- Characters of a key without quotes. -/
def isBare (c : Char) : Bool :=
  c.isAlphanum || c == '-' || c == '_'

/-- One part of a key: bare, or a string on one line. -/
def keyPart? (text : List Char) : Option (String × List Char) :=
  match text with
  | '"' :: rest =>
    (basicString? false (rest.length + 1) [] rest).map fun r => (String.ofList r.1, r.2)
  | '\'' :: rest => (literalString? rest).map fun r => (String.ofList r.1, r.2)
  | _ =>
    let bare := text.takeWhile isBare
    if bare.isEmpty then none else some (String.ofList bare, text.drop bare.length)

/-- The parts of a key after the first one, and the blanks after it. -/
def keyRest? : (fuel : Nat) → (done : List String) → List Char → Option (List String × List Char)
  | 0, _, _ => none
  | fuel + 1, done, text =>
    match skipSpace text with
    | '.' :: rest => (keyPart? (skipSpace rest)).bind fun r => keyRest? fuel (r.1 :: done) r.2
    | rest => some (done.reverse, rest)

/-- A key, its parts joined by points. -/
def key? (text : List Char) : Option (List String × List Char) :=
  (keyPart? text).bind fun r => keyRest? (text.length + 1) [r.1] r.2

def digitRun (p : Char → Bool) (text : List Char) : List Char × List Char :=
  let rec go (done : List Char) : List Char → List Char × List Char
    | '_' :: c :: rest =>
      if p c && !done.isEmpty then go (c :: done) rest else (done.reverse, '_' :: c :: rest)
    | c :: rest => if p c then go (c :: done) rest else (done.reverse, c :: rest)
    | [] => (done.reverse, [])
  go [] text

/-- A number in base two, eight or sixteen, after its zero. -/
def based? (text : List Char) : Option (Int × List Char) :=
  let read (base : Nat) (p : Char → Bool) (rest : List Char) : Option (Int × List Char) :=
    let (digits, rest) := digitRun p rest
    if digits.isEmpty then none
    else some (digits.foldl (fun n c => n * base + (hexValue? c).getD 0) 0, rest)
  match text with
  | 'x' :: rest => read 16 (fun c => (hexValue? c).isSome) rest
  | 'b' :: rest => read 2 (fun c => c == '0' || c == '1') rest
  | 'o' :: rest => read 8 (fun c => '0' ≤ c && c ≤ '7') rest
  | _ => none

/-- The whole part of a decimal number: zero, or digits that do not start with zero. -/
def wholePart? (text : List Char) : Option (List Char × List Char) :=
  match text with
  | '0' :: rest => some (['0'], rest)
  | c :: _ => if c.isDigit then some (digitRun Char.isDigit text) else none
  | [] => none

/-- The places after a point; none where no digit follows the point. -/
def places (text : List Char) : List Char × List Char :=
  match text with
  | '.' :: rest =>
    let (digits, after) := digitRun Char.isDigit rest
    if digits.isEmpty then ([], text) else (digits, after)
  | _ => ([], text)

/-- The exponent; none where no digit follows its mark. -/
def exponent (text : List Char) : List Char × List Char :=
  match text with
  | c :: rest =>
    if c = 'e' ∨ c = 'E' then
      let (negative, digits) := Reading.takeSign rest
      let (digits, after) := digitRun Char.isDigit digits
      if digits.isEmpty then ([], text)
      else ((if negative then ['-'] else []) ++ digits, after)
    else ([], text)
  | [] => ([], text)

/-- A number: whole, or with places or an exponent. A whole number has a limited length. -/
def number? (text : List Char) : Option (Value × List Char) :=
  let based := match text with
    | '0' :: rest => based? rest
    | _ => none
  match based with
  | some (n, rest) => some (.int n, rest)
  | none => do
    let (negative, unsigned) := Reading.takeSign text
    let (whole, rest) ← wholePart? unsigned
    let (places, rest) := places rest
    let (exponent, rest) := exponent rest
    let sign : List Char := if negative then ['-'] else []
    if places.isEmpty && exponent.isEmpty then
      if Reading.digitLimit < whole.length then none
      else return (.int (← Reading.whole? (sign ++ whole)), rest)
    else
      let mark := if exponent.isEmpty then [] else 'e' :: exponent
      return (.float (← Reading.number? (sign ++ whole ++ '.' :: places ++ mark)), rest)

/-- The two values of doubles that are no numbers, with or without a sign. -/
def special? (text : List Char) : Option (Value × List Char) :=
  let (negative, rest) := Reading.takeSign text
  let size : Option (Float × List Char) :=
    match rest with
    | 'i' :: 'n' :: 'f' :: rest => some (1.0 / 0.0, rest)
    | 'n' :: 'a' :: 'n' :: rest => some (0.0 / 0.0, rest)
    | _ => none
  size.map fun r => (.float (if negative then -r.1 else r.1), r.2)

/-- Exactly `width` decimal digits, as a number within bounds. -/
def field? (width low high : Nat) (text : List Char) : Option (Nat × List Char) :=
  let digits := text.take width
  let n := Reading.ofDigits digits
  if digits.length = width ∧ digits.all Char.isDigit ∧ low ≤ n ∧ n ≤ high then
    some (n, text.drop width)
  else none

def expect? (c : Char) (text : List Char) : Option (List Char) :=
  match text with
  | d :: rest => if d = c then some rest else none
  | [] => none

/-- A fraction of a second in millionths; digits after the sixth are dropped. -/
def micros (text : List Char) : Nat × List Char :=
  match text with
  | '.' :: rest =>
    let digits := rest.takeWhile Char.isDigit
    if digits.isEmpty then (0, text)
    else
      let six := digits.take 6
      (Reading.ofDigits (six ++ List.replicate (6 - six.length) '0'), rest.drop digits.length)
  | _ => (0, text)

def time? (text : List Char) : Option ((Nat × Nat × Nat × Nat) × List Char) := do
  let (hour, text) ← field? 2 0 23 text
  let text ← expect? ':' text
  let (minute, text) ← field? 2 0 59 text
  let text ← expect? ':' text
  let (second, text) ← field? 2 0 59 text
  let (micro, text) := micros text
  return ((hour, minute, second, micro), text)

/-- An offset from universal time in seconds, if one follows. -/
def offset (text : List Char) : Option Int × List Char :=
  let signed (sign : Int) (rest : List Char) : Option Int × List Char :=
    match (do
      let (hour, rest) ← field? 2 0 23 rest
      let rest ← expect? ':' rest
      let (minute, rest) ← field? 2 0 59 rest
      return (sign * (hour * 3600 + minute * 60 : Nat), rest) : Option (Int × List Char)) with
    | some (seconds, rest) => (some seconds, rest)
    | none => (none, text)
  match text with
  | 'Z' :: rest => (some 0, rest)
  | 'z' :: rest => (some 0, rest)
  | '+' :: rest => signed 1 rest
  | '-' :: rest => signed (-1) rest
  | _ => (none, text)

def daysOf (year month : Nat) : Nat :=
  if month = 2 then
    if year % 4 = 0 ∧ (year % 100 ≠ 0 ∨ year % 400 = 0) then 29 else 28
  else if month = 4 ∨ month = 6 ∨ month = 9 ∨ month = 11 then 30
  else 31

/-- What the text starts with if it starts like a date. -/
inductive DateStart where
  | noDate
  | impossible
  | date (value : Moment) (rest : List Char)

/-- A date, with a time and an offset if they follow. The shape decides that it is a date, and
then the calendar has to have it. -/
def date (text : List Char) : DateStart :=
  let shape : Option ((Nat × Nat × Nat) × List Char) := do
    let (year, text) ← field? 4 0 9999 text
    let text ← expect? '-' text
    let (month, text) ← field? 2 1 12 text
    let text ← expect? '-' text
    let (day, text) ← field? 2 1 31 text
    return ((year, month, day), text)
  match shape with
  | none => .noDate
  | some ((year, month, day), rest) =>
    if year = 0 ∨ daysOf year month < day then .impossible
    else
      let day := some (year, month, day)
      match rest with
      | c :: after =>
        if c = 'T' ∨ c = 't' ∨ c = ' ' then
          match time? after with
          | some (time, after) =>
            let (offset, after) := offset after
            .date ⟨day, some time, offset⟩ after
          | none => .date ⟨day, none, none⟩ rest
        else .date ⟨day, none, none⟩ rest
      | [] => .date ⟨day, none, none⟩ rest

end SourceDigest.Toml
