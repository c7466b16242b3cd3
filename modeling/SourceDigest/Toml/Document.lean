import SourceDigest.Keyed
import SourceDigest.Text.Utf8
import SourceDigest.Toml.Lexeme

/-!
TOML documents as tables. A document is a list of statements; each opens a table, appends one to
an array or sets a key. Which names may still be opened or extended is remembered beside the data:
a table that a header or a dotted key made cannot be made again, and a value written in one piece
cannot be added to.
-/

namespace SourceDigest.Toml

abbrev Entries := List (String × Value)

/-- Changes the table that a path of keys leads to, making the tables on the way. With
`throughLists` an array on the way stands for its last table. -/
def changeAt? (throughLists : Bool) (f : Entries → Option Entries) :
    (path : List String) → Entries → Option Entries
  | [], entries => f entries
  | key :: path, entries =>
    match entries.lookup key with
    | none => (changeAt? throughLists f path []).map fun inner => entries ++ [(key, .table inner)]
    | some (.table inner) =>
      (changeAt? throughLists f path inner).map fun inner => Keyed.insert entries key (.table inner)
    | some (.list items) =>
      if throughLists then
        match items.getLast? with
        | some (.table inner) =>
          (changeAt? throughLists f path inner).map fun inner =>
            Keyed.insert entries key (.list (items.dropLast ++ [.table inner]))
        | _ => none
      else none
    | some _ => none

/-- Sets a key that is not there yet. -/
def addKey? (key : String) (v : Value) (entries : Entries) : Option Entries :=
  if (entries.lookup key).isSome then none else some (entries ++ [(key, v)])

/-- Appends an empty table to the array under a key, making the array. -/
def appendTable? (key : String) (entries : Entries) : Option Entries :=
  match entries.lookup key with
  | none => some (entries ++ [(key, .list [.table []])])
  | some (.list items) => some (Keyed.insert entries key (.list (items ++ [.table []])))
  | some _ => none

/-- Whether a value was written in one piece that has an inside. -/
def isNest : Value → Bool
  | .table _ => true
  | .list _ => true
  | _ => false

/-- Paths that are closed: those whose table was made on purpose, and those whose value was written
in one piece, with everything below. Tables made by dotted keys are closed when the next header
comes. -/
structure Closed where
  opened : List (List String)
  sealed : List (List String)
  pending : List (List String)

namespace Closed

def none : Closed :=
  ⟨[], [], []⟩

/-- Whether the table at a path was made on purpose. -/
def isOpened (c : Closed) (path : List String) : Bool :=
  c.opened.contains path

/-- Whether a path lies at or below a value written in one piece. -/
def isSealed (c : Closed) (path : List String) : Bool :=
  c.sealed.any fun s => s.isPrefixOf path

/-- Closes what is pending. -/
def settle (c : Closed) : Closed :=
  { c with opened := c.opened ++ c.pending, pending := [] }

/-- Reopens a path and everything below it. -/
def reopen (c : Closed) (path : List String) : Closed :=
  { c with
    opened := c.opened.filter fun p => !path.isPrefixOf p
    sealed := c.sealed.filter fun p => !path.isPrefixOf p }

end Closed

mutual

/-- A value: a string, a truth value, an array, a table on one line, a moment or a number. -/
def value? : (fuel : Nat) → List Char → Option (Value × List Char)
  | 0, _ => none
  | fuel + 1, text =>
    match text with
    | '"' :: _ => (string? text).map fun r => (.text r.1, r.2)
    | '\'' :: _ => (string? text).map fun r => (.text r.1, r.2)
    | 't' :: 'r' :: 'u' :: 'e' :: rest => some (.bool true, rest)
    | 'f' :: 'a' :: 'l' :: 's' :: 'e' :: rest => some (.bool false, rest)
    | '[' :: rest => (items? fuel [] rest).map fun r => (.list r.1, r.2)
    | '\x7b' :: rest =>
      match skipSpace rest with
      | '\x7d' :: rest => some (.table [], rest)
      | rest => (pairs? fuel [] Closed.none rest).map fun r => (.table r.1, r.2)
    | _ =>
      match date text with
      | .impossible => none
      | .date m rest => some (.moment m, rest)
      | .noDate =>
        match time? text with
        | some (time, rest) => some (.moment ⟨none, some time, none⟩, rest)
        | none =>
          match number? text with
          | some r => some r
          | none => special? text

def items? : (fuel : Nat) → (done : List Value) → List Char → Option (List Value × List Char)
  | 0, _, _ => none
  | fuel + 1, done, text =>
    match skipBetween? (text.length + 1) text with
    | none => none
    | some (']' :: rest) => some (done.reverse, rest)
    | some text =>
      match value? fuel text with
      | none => none
      | some (v, rest) =>
        match skipBetween? (rest.length + 1) rest with
        | some (']' :: rest) => some ((v :: done).reverse, rest)
        | some (',' :: rest) => items? fuel (v :: done) rest
        | _ => none

/-- The keys of a table on one line and its closing brace; no comma stands before the brace. -/
def pairs? : (fuel : Nat) → (done : Entries) → Closed → List Char → Option (Entries × List Char)
  | 0, _, _, _ => none
  | fuel + 1, done, closed, text =>
    match key? text with
    | some (key, '=' :: rest) =>
      match value? fuel (skipSpace rest) with
      | none => none
      | some (v, rest) =>
        if closed.isSealed key then none
        else
          match changeAt? false (addKey? (key.getLast?.getD "") v) key.dropLast done with
          | none => none
          | some done =>
            match skipSpace rest with
            | '\x7d' :: rest => some (done, rest)
            | ',' :: rest =>
              let closed :=
                if isNest v then { closed with sealed := closed.sealed ++ [key] } else closed
              pairs? fuel done closed (skipSpace rest)
            | _ => none
    | _ => none

end

/-- What has been read of a document, and the table that the next keys go into. -/
structure State where
  data : Entries
  closed : Closed
  header : List String

def openTable? (s : State) (text : List Char) : Option (State × List Char) :=
  match key? (skipSpace text) with
  | some (key, ']' :: rest) =>
    if s.closed.isOpened key || s.closed.isSealed key then none
    else
      (changeAt? true some key s.data).map fun data =>
        ({ data, closed := { s.closed with opened := s.closed.opened ++ [key] }, header := key },
          rest)
  | _ => none

/-- The header of one more table of an array. -/
def appendTo? (s : State) (text : List Char) : Option (State × List Char) :=
  match key? (skipSpace text) with
  | some (key, ']' :: ']' :: rest) =>
    if s.closed.isSealed key then none
    else
      let closed := s.closed.reopen key
      (changeAt? true (appendTable? (key.getLast?.getD "")) key.dropLast s.data).map fun data =>
        ({ data, closed := { closed with opened := closed.opened ++ [key] }, header := key }, rest)
  | _ => none

/-- The tables that a dotted key passes through, from the outermost. -/
def passed (header key : List String) : List (List String) :=
  (List.range (key.length - 1)).map fun i => header ++ key.take (i + 1)

def setKey? (s : State) (text : List Char) : Option (State × List Char) :=
  match key? text with
  | some (key, '=' :: rest) =>
    match value? (2 * rest.length + 2) (skipSpace rest) with
    | none => none
    | some (v, rest) =>
      let through := passed s.header key
      let parent := s.header ++ key.dropLast
      if through.any s.closed.isOpened || s.closed.isSealed parent then none
      else
        (changeAt? true (addKey? (key.getLast?.getD "") v) parent s.data).map fun data =>
          let closed := { s.closed with pending := s.closed.pending ++ through }
          let closed :=
            if isNest v then { closed with sealed := closed.sealed ++ [s.header ++ key] }
            else closed
          ({ s with data, closed }, rest)
  | _ => none

/-- One statement at the start of a text that is not blank. -/
def statement? (s : State) (text : List Char) : Option (State × List Char) :=
  match text with
  | '[' :: '[' :: rest => appendTo? { s with closed := s.closed.settle } rest
  | '[' :: rest => openTable? { s with closed := s.closed.settle } rest
  | '#' :: _ => some (s, text)
  | _ => setKey? s text

def statements? : (fuel : Nat) → State → List Char → Option Entries
  | 0, _, _ => none
  | fuel + 1, s, text =>
    match skipSpace text with
    | [] => some s.data
    | '\n' :: rest => statements? fuel s rest
    | text =>
      match statement? s text with
      | none => none
      | some (s, rest) =>
        match skipComment? (skipSpace rest) with
        | some [] => some s.data
        | some ('\n' :: rest) => statements? fuel s rest
        | _ => none

/-- Line ends of two characters become one. -/
def unifyLineEnds (text : List Char) : List Char :=
  let rec go (done : List Char) : List Char → List Char
    | [] => done.reverse
    | '\r' :: '\n' :: rest => go ('\n' :: done) rest
    | c :: rest => go (c :: done) rest
  go [] text

def document? (text : List Char) : Option Entries :=
  let text := unifyLineEnds text
  statements? (text.length + 1) ⟨[], Closed.none, []⟩ text

def ofBytes? (bytes : ByteArray) : Option Entries :=
  match Utf8.decode bytes with
  | .ok text => document? text
  | .error _ => none

end SourceDigest.Toml
