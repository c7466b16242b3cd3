import SourceDigest.Options.Basic
import SourceDigest.Text.Cut

/-!
Lists of patterns, given as a list of anything or as one text with commas.
-/

namespace SourceDigest.Options

/-- The pieces of a text between commas, without white space around them; empty ones are left
out. -/
def splitPatterns (text : String) : List String :=
  ((Text.split ',' text.toList).map Text.strip).filterMap fun piece =>
    if piece.isEmpty then none else some (String.ofList piece)

def shownItems (items : List Value) : Except Fault (List String) :=
  if Value.areShowable items then .ok (items.map Value.shown) else .error .unshowable

/-- The patterns that a value stands for. What is in a list is taken as it would be shown, a table
stands for its keys, and most other values are no list at all. -/
def patternList (v : Value) : Except Fault (List String) :=
  match v with
  | .text s => .ok (splitPatterns s)
  | .list items => shownItems items
  | .tuple items => shownItems items
  | .table entries => .ok (entries.map (·.1))
  | v => .error (.mismatched ("'" ++ v.typeName ++ "' object is not iterable"))

/-- The texts of a value that is gone through item by item, up to the first item that is none,
and the fault that shows once somebody asks for that item. A text stands for its characters. -/
def textItems (v : Value) : List String × Option Fault :=
  let rec texts : List Value → List String × Option Fault
    | [] => ([], none)
    | .text s :: rest =>
      let (found, fault) := texts rest
      (s :: found, fault)
    | v :: _ => ([], some (.noText v.typeName))
  match v with
  | .text s => (s.toList.map String.singleton, none)
  | .list items => texts items
  | .tuple items => texts items
  | .table entries => (entries.map (·.1), none)
  | v => ([], some (.mismatched ("'" ++ v.typeName ++ "' object is not iterable")))

end SourceDigest.Options
