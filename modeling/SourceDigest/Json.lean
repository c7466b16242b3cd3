import SourceDigest.Number.Amount

/-!
JSON text of values. Everything beyond ASCII is escaped, in pairs where a code point needs two
units; numbers are written with the fewest digits that read back. An object or array goes over
several lines, one line for each item, or stays on one line.
-/

namespace SourceDigest.Json

/-- One unit of sixteen bits as an escape. -/
def unit (n : Nat) : List Char :=
  '\\' :: 'u' :: Text.hex 4 n

/-- One character inside quotes. -/
def charText (c : Char) : List Char :=
  if c = '"' then ['\\', '"']
  else if c = '\\' then ['\\', '\\']
  else if c = '\n' then ['\\', 'n']
  else if c = '\r' then ['\\', 'r']
  else if c = '\t' then ['\\', 't']
  else if c = '\x08' then ['\\', 'b']
  else if c = '\x0c' then ['\\', 'f']
  else if 32 ≤ c.toNat ∧ c.toNat < 127 then [c]
  else if c.toNat < 0x10000 then unit c.toNat
  else unit (0xd800 + (c.toNat - 0x10000) / 0x400) ++ unit (0xdc00 + (c.toNat - 0x10000) % 0x400)

def textText (s : String) : String :=
  (s.foldl (fun out c => (charText c).foldl String.push out) "\"").push '"'

/-- A number; the three values off the line have names. -/
def floatText (x : Float) : String :=
  match Binary.ofFloat x with
  | .undefined => "NaN"
  | .infinite negative => if negative then "-Infinity" else "Infinity"
  | .finite _ _ _ => Number.text x

/-- A line break and the blanks before an item; on one line there is nothing. -/
def lineBreak (indent : Option Nat) (depth : Nat) : String :=
  match indent with
  | some width => "\n" ++ String.ofList (List.replicate (width * depth) ' ')
  | none => ""

def colon (indent : Option Nat) : String :=
  if indent.isSome then ": " else ":"

/-- Items between brackets, with commas between them; without items the brackets alone. -/
def enclose (indent : Option Nat) (depth : Nat) (opening closing : String) (items : List String) :
    String :=
  if items.isEmpty then opening ++ closing
  else
    let start := lineBreak indent (depth + 1)
    opening ++ start ++ ("," ++ start).intercalate items ++ lineBreak indent depth ++ closing

mutual

/-- The text of a value at a depth. -/
def render (indent : Option Nat) (depth : Nat) : Value → String
  | .null => "null"
  | .bool b => if b then "true" else "false"
  | .int n => Value.intText n
  | .float x => floatText x
  | .text s => textText s
  | .moment m => textText m.shown
  | .list items => enclose indent depth "[" "]" (renderItems indent (depth + 1) items)
  | .tuple items => enclose indent depth "[" "]" (renderItems indent (depth + 1) items)
  | .table entries => enclose indent depth "\x7b" "\x7d" (renderEntries indent (depth + 1) entries)

def renderItems (indent : Option Nat) (depth : Nat) : List Value → List String
  | [] => []
  | v :: rest => render indent depth v :: renderItems indent depth rest

def renderEntries (indent : Option Nat) (depth : Nat) : List (String × Value) → List String
  | [] => []
  | (key, v) :: rest =>
    (textText key ++ colon indent ++ render indent depth v) :: renderEntries indent depth rest

end

mutual

def firstMoment? : Value → Option Moment
  | .moment m => some m
  | .list items => firstMomentIn? items
  | .tuple items => firstMomentIn? items
  | .table entries => firstMomentUnder? entries
  | _ => none

def firstMomentIn? : List Value → Option Moment
  | [] => none
  | v :: rest => (firstMoment? v).or (firstMomentIn? rest)

def firstMomentUnder? : List (String × Value) → Option Moment
  | [] => none
  | (_, v) :: rest => (firstMoment? v).or (firstMomentUnder? rest)

end

/-- Why a value has no text of its own: it holds a moment. -/
inductive Fault where
  | moment (m : Moment)
  deriving DecidableEq, Repr, Inhabited

def Fault.message : Fault → String
  | moment m => "Object of type " ++ m.kindName ++ " is not JSON serializable"

/-- A value over several lines, two blanks for each level. Moments have no form of their own. -/
def pretty (v : Value) : Except Fault String :=
  match firstMoment? v with
  | some m => .error (.moment m)
  | none => .ok (render (some 2) 0 v)

/-- A value on one line, where moments are texts. -/
def compact (v : Value) : String :=
  render none 0 v

end SourceDigest.Json
