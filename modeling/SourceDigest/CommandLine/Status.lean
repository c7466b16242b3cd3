import SourceDigest.Markup.Mark
import SourceDigest.Text.Width
import SourceDigest.Tokens

/-!
Lines about a run: messages as they are shown, and the table of what a number of tokens means.
-/

namespace SourceDigest.CommandLine

/-- The lines of a shown text, with tabs filled up and without blanks at their ends. -/
def shownLines (text : List Char) : List String :=
  (Text.split '\n' text).map fun line =>
    let aligned := Text.alignPieces (Text.split '\t' line)
    String.ofList (Text.stripEnd Text.isBlank aligned)

def messageLines (message : String) : Except Markup.Fault (List String) :=
  (Markup.shownText message.toList).map shownLines

inductive Side where
  | left
  | right
  deriving DecidableEq, Repr

/-- A cell of a given width with two blanks on both sides. -/
def cell (side : Side) (width : Nat) (text : String) : List Char :=
  let fill := List.replicate (width - text.length) ' '
  let margin := [' ', ' ']
  match side with
  | .left => margin ++ text.toList ++ fill ++ margin
  | .right => margin ++ fill ++ text.toList ++ margin

/-- Rows in columns, each as wide as its widest cell. -/
def tableLines (sides : List Side) (rows : List (List String)) : List String :=
  let widths := (List.range sides.length).map fun i =>
    (rows.map fun row => (row[i]?.map String.length).getD 0).foldl max 0
  rows.map fun row =>
    let cells := (sides.zip (widths.zip row)).map fun (side, width, text) => cell side width text
    String.ofList (Text.stripEnd Text.isBlank cells.flatten)

/-- How much of a model's window is used, in whole percent. -/
def percentOf (tokens window : Int) : Int :=
  Number.nearest (Scalar.floatOfInt tokens / Scalar.floatOfInt window * 100.0)

/-- Lines about what a number of tokens means: five models it fits, three it does not, advice. -/
def usageLines (u : Tokens.Usage) : List String :=
  let fits := (u.compatible.take 5).map fun m =>
    [m.name, m.provider, Number.groupedInt m.window,
      Value.intText (percentOf u.tokens m.window) ++ "%"]
  let exceeds := (u.incompatible.take 3).map fun m =>
    [m.name, m.provider, Number.groupedInt m.window, "+" ++ Number.groupedInt (u.tokens - m.window)]
  ["", "Estimated tokens: " ++ Number.groupedInt u.tokens] ++
    tableLines [.left, .left, .right, .right]
      (["Model", "Provider", "Context", "Fit"] :: fits ++ exceeds) ++
    u.advice.map fun line => "  " ++ line

end SourceDigest.CommandLine
