import SourceDigest.Number.Layout
import SourceDigest.Number.Reading
import SourceDigest.Text.Quoted

/-!
Data as settings and documents hold it. A setting may come from a file in any type, so its value
is kept as given and shown back as given; what it means is decided where it is used.
-/

namespace SourceDigest

/-- A calendar date, a time of day or both, with an offset from universal time in seconds. -/
structure Moment where
  date : Option (Nat × Nat × Nat)
  time : Option (Nat × Nat × Nat × Nat)
  offset : Option Int
  deriving DecidableEq, Repr, Inhabited

/-- A piece of data. A tuple is a list that stays as it is; tables keep the order of their keys. -/
inductive Value where
  | null
  | bool (b : Bool)
  | int (n : Int)
  | float (x : Float)
  | text (s : String)
  | list (items : List Value)
  | tuple (items : List Value)
  | table (entries : List (String × Value))
  | moment (m : Moment)
  deriving Inhabited

namespace Moment

/-- At least `width` digits. -/
def padded (width n : Nat) : String :=
  let shown := Layout.digits n
  String.ofList (List.replicate (width - shown.length) '0' ++ shown)

/-- A fraction of a second in millionths, left out when it is zero. -/
def fraction (micro : Nat) : String :=
  if micro = 0 then "" else "." ++ padded 6 micro

def offsetText (seconds : Int) : String :=
  let size := seconds.natAbs
  (if seconds < 0 then "-" else "+") ++ padded 2 (size / 3600) ++ ":" ++ padded 2 (size / 60 % 60)

/-- Date, time and offset as in a document. -/
def shown (m : Moment) : String :=
  let date := match m.date with
    | some (year, month, day) => padded 4 year ++ "-" ++ padded 2 month ++ "-" ++ padded 2 day
    | none => ""
  let time := match m.time with
    | some (hour, minute, second, micro) =>
      padded 2 hour ++ ":" ++ padded 2 minute ++ ":" ++ padded 2 second ++ fraction micro
    | none => ""
  let between := if m.date.isSome && m.time.isSome then " " else ""
  date ++ between ++ time ++ (m.offset.map offsetText).getD ""

def kindName (m : Moment) : String :=
  match m.date, m.time with
  | some _, some _ => "datetime"
  | some _, none => "date"
  | none, _ => "time"

/-- The full name of the kind of a moment. -/
def typeName (m : Moment) : String :=
  "datetime." ++ m.kindName

/-- An offset inside a list. -/
def quotedOffset (seconds : Int) : String :=
  if seconds = 0 then "tzinfo=datetime.timezone.utc"
  else
    let days := if seconds < 0 then "days=-1, " else ""
    let within := if seconds < 0 then (86400 + seconds).natAbs else seconds.natAbs
    "tzinfo=datetime.timezone(datetime.timedelta(" ++ days ++ "seconds=" ++ toString within ++ "))"

/-- A moment inside a list. Seconds are left out when they and the fraction are zero. -/
def quoted (m : Moment) : String :=
  let date := match m.date with
    | some (year, month, day) => [toString year, toString month, toString day]
    | none => []
  let time := match m.time with
    | some (hour, minute, second, micro) =>
      [toString hour, toString minute] ++
        (if second = 0 ∧ micro = 0 then [] else [toString second]) ++
        (if micro = 0 then [] else [toString micro])
    | none => []
  let fields := date ++ time ++ (m.offset.map quotedOffset).toList
  m.typeName ++ "(" ++ ", ".intercalate fields ++ ")"

end Moment

namespace Value

def intText (n : Int) : String :=
  let size := Layout.digits n.natAbs
  String.ofList (Layout.signed (decide (n < 0)) size)

def boolText (b : Bool) : String :=
  if b then "True" else "False"

/-- How a tuple ends: a comma tells a tuple of one from an expression in brackets. -/
def tupleEnd (length : Nat) : String :=
  if length = 1 then ",)" else ")"

mutual

/-- A value inside a list or table: texts stand in quotes. -/
def quoted : Value → String
  | null => "None"
  | bool b => boolText b
  | int n => intText n
  | float x => Number.text x
  | text s => String.ofList (Text.quoted s.toList)
  | list items => "[" ++ ", ".intercalate (quotedItems items) ++ "]"
  | tuple items => "(" ++ ", ".intercalate (quotedItems items) ++ tupleEnd items.length
  | table entries => "\x7b" ++ ", ".intercalate (quotedEntries entries) ++ "\x7d"
  | moment m => m.quoted

def quotedItems : List Value → List String
  | [] => []
  | v :: rest => quoted v :: quotedItems rest

def quotedEntries : List (String × Value) → List String
  | [] => []
  | (key, v) :: rest =>
    (String.ofList (Text.quoted key.toList) ++ ": " ++ quoted v) :: quotedEntries rest

end

/-- A value as a message shows it. -/
def shown : Value → String
  | text s => s
  | moment m => m.shown
  | v => quoted v

mutual

/-- Whether no whole number in a value has more digits than one may be shown with. -/
def isShowable : Value → Bool
  | int n => decide (n.natAbs < Nat.pow 10 Reading.digitLimit)
  | list items => areShowable items
  | tuple items => areShowable items
  | table entries => entriesShowable entries
  | _ => true

def areShowable : List Value → Bool
  | [] => true
  | v :: rest => isShowable v && areShowable rest

def entriesShowable : List (String × Value) → Bool
  | [] => true
  | (_, v) :: rest => isShowable v && entriesShowable rest

end

/-- Whether a value counts as set: nothing, zero and what is empty do not. -/
def isSet : Value → Bool
  | null => false
  | bool b => b
  | int n => n != 0
  | float x => x != 0.0
  | text s => !s.isEmpty
  | list items => !items.isEmpty
  | tuple items => !items.isEmpty
  | table entries => !entries.isEmpty
  | moment _ => true

/-- What a message calls the type of a value. -/
def typeName : Value → String
  | null => "NoneType"
  | bool _ => "bool"
  | int _ => "int"
  | float _ => "float"
  | text _ => "str"
  | list _ => "list"
  | tuple _ => "tuple"
  | table _ => "dict"
  | moment m => m.typeName

def ofTexts (texts : List String) : Value :=
  tuple (texts.map text)

end Value

end SourceDigest
