import SourceDigest.Markup.Emoji
import SourceDigest.Markup.Style

/-!
Text with style marks in square brackets. A mark opens a style, or closes one that is open; what
is shown is the text between the marks, with emoji in place of their names. A backslash before a
mark makes it plain text. Brackets that a text happens to contain are marks too, so that not every
text can be shown.
-/

namespace SourceDigest.Markup

/-- A mark with the backslashes before it. -/
structure Mark where
  slashes : Nat
  inside : List Char
  deriving DecidableEq, Repr

namespace Mark

/-- Whether a character can start a mark. -/
def starts (c : Char) : Bool :=
  ('a' ≤ c && c ≤ 'z') || c == '#' || c == '/' || c == '@'

/-- The mark at the start of a text. -/
def atStart? (text : List Char) : Option Mark :=
  let slashes := (text.takeWhile (· == '\\')).length
  match text.drop slashes with
  | '[' :: rest =>
    let inside := rest.takeWhile fun c => c != '[' && c != ']'
    if (inside.head?.any starts) && (rest.drop inside.length).head? == some ']' then
      some ⟨slashes, inside⟩
    else none
  | _ => none

def length (m : Mark) : Nat :=
  m.slashes + m.inside.length + 2

end Mark

/-- A stretch of plain text, or a mark without its brackets. -/
inductive Piece where
  | plain (text : List Char)
  | mark (inside : List Char)
  deriving DecidableEq, Repr

/-- The pieces of a mark: two backslashes stand for one, and one that is left over makes the mark
plain. -/
def Mark.pieces (m : Mark) : List Piece :=
  let slashes := List.replicate (m.slashes / 2) '\\'
  (if slashes.isEmpty then [] else [.plain slashes]) ++
    [if m.slashes % 2 = 1 then .plain ('[' :: m.inside ++ [']']) else .mark m.inside]

/-- The pieces of a text; `plain` holds the characters of the stretch under way, the last one
first. -/
def piecesFrom (plain text : List Char) : List Piece :=
  let stretch := if plain.isEmpty then [] else [.plain plain.reverse]
  match text with
  | [] => stretch
  | c :: rest =>
    match Mark.atStart? (c :: rest) with
    | some m => stretch ++ m.pieces ++ piecesFrom [] (rest.drop (m.length - 1))
    | none => piecesFrom (c :: plain) rest
  termination_by text.length
  decreasing_by all_goals simp [List.length_drop]; try omega

def pieces (text : List Char) : List Piece :=
  piecesFrom [] text

/-- Why a text cannot be shown: a closing mark has nothing to close, or a style is a colour
without all its numbers. -/
inductive Fault where
  | unmatched (inside : List Char)
  | noNumber
  deriving DecidableEq, Repr, Inhabited

def Fault.message : Fault → String
  | unmatched inside =>
    "closing tag '[" ++ String.ofList inside ++ "]' doesn't match any open tag"
  | noNumber => "invalid literal for int() with base 10: ''"

/-- What is open and what is shown so far, the last stretch first; `painted` are the styles of all
marks up to here. -/
structure Shown where
  opened : List (List Char)
  painted : List (List Char)
  stretches : List (List Char)
  deriving DecidableEq, Repr

namespace Shown

/-- A backslash before an opening bracket is not shown. -/
def dropSlashes : List Char → List Char
  | '\\' :: '[' :: rest => '[' :: dropSlashes rest
  | c :: rest => c :: dropSlashes rest
  | [] => []

/-- Controls that are never shown. -/
def isUnshown (c : Char) : Bool :=
  c.toNat == 7 || c.toNat == 8 || (11 ≤ c.toNat && c.toNat ≤ 13)

/-- Closes a style by its written form, or the last one that was opened if there is no form. -/
def close? (opened : List (List Char)) (form : Option (List Char)) : Option (List (List Char)) :=
  match form with
  | some form => if opened.contains form then some (opened.erase form) else none
  | none =>
    match opened with
    | _ :: rest => some rest
    | [] => none

/-- Takes a mark. What stands after an equals sign belongs to the style but not to its name. -/
def takeMark (s : Shown) (inside : List Char) : Except Fault Shown :=
  let name := inside.takeWhile (· != '=')
  match name with
  | '/' :: closing =>
    let closing := Text.strip closing
    let form := if closing.isEmpty then some none else (styleName? closing).map some
    match form with
    | none => .error .noNumber
    | some form =>
      match close? s.opened form with
      | some opened => .ok { s with opened }
      | none => .error (.unmatched inside)
  | _ =>
    match styleName? name with
    | none => .error .noNumber
    | some form =>
      let style := match inside.drop name.length with
        | _ :: argument => form ++ ' ' :: argument
        | [] => form
      .ok { s with opened := form :: s.opened, painted := style :: s.painted }

def take (s : Shown) : Piece → Except Fault Shown
  | .plain text =>
    let shown := (replaceEmoji (dropSlashes text)).filter fun c => !isUnshown c
    .ok { s with stretches := shown :: s.stretches }
  | .mark inside => s.takeMark inside

end Shown

def shownText (text : List Char) : Except Fault (List Char) := do
  let s ← (pieces text).foldlM Shown.take ⟨[], [], []⟩
  if s.painted.any fun style => Style.ofText style matches .error .noNumber then throw .noNumber
  return s.stretches.reverse.flatten

end SourceDigest.Markup
