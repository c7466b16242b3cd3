import SourceDigest.Text.Blank

/-!
Cutting text: stripping, searching, splitting into lines and squeezing white space. Texts are
lists of characters; the functions that pass over a whole file keep what they have seen in an
accumulator.
-/

namespace SourceDigest.Text

/-- The text without the characters of a kind at its start and end. -/
def stripBy (p : Char → Bool) (text : List Char) : List Char :=
  ((text.dropWhile p).reverse.dropWhile p).reverse

def strip (text : List Char) : List Char :=
  stripBy isBlank text

/-- The text without the characters of a kind at its end. -/
def stripEnd (p : Char → Bool) (text : List Char) : List Char :=
  (text.reverse.dropWhile p).reverse

def contains (part : List Char) : List Char → Bool
  | [] => part.isEmpty
  | c :: rest => part.isPrefixOf (c :: rest) || contains part rest

/-- Every run of white space becomes one space; `inBlank` tells that the last character was
white space. -/
def squeezeFrom (inBlank : Bool) (done : List Char) : List Char → List Char
  | [] => done.reverse
  | c :: rest =>
    if isBlank c then squeezeFrom true (if inBlank then done else ' ' :: done) rest
    else squeezeFrom false (c :: done) rest

def squeeze (text : List Char) : List Char :=
  squeezeFrom false [] text

/-- Lines so far, the last one first, and the characters of the line under way. -/
def linesFrom (done : List (List Char)) (line : List Char) : List Char → List (List Char)
  | [] => (if line.isEmpty then done else line.reverse :: done).reverse
  | '\r' :: '\n' :: rest => linesFrom (line.reverse :: done) [] rest
  | c :: rest =>
    if isLineBreak c then linesFrom (line.reverse :: done) [] rest
    else linesFrom done (c :: line) rest

/-- The lines of a text without what ends them. A break at the end of the text starts no line. -/
def lines (text : List Char) : List (List Char) :=
  linesFrom [] [] text

/-- A carriage return, alone or before a line feed, becomes a line feed. -/
def unifyBreaks (text : List Char) : List Char :=
  let rec go (done : List Char) : List Char → List Char
    | [] => done.reverse
    | '\r' :: '\n' :: rest => go ('\n' :: done) rest
    | '\r' :: rest => go ('\n' :: done) rest
    | c :: rest => go (c :: done) rest
  go [] text

/-- The pieces between separators, empty ones included. -/
def split (separator : Char) (text : List Char) : List (List Char) :=
  text.splitOn separator

/-- The pieces between white space, none of them empty. -/
def words (text : List Char) : List (List Char) :=
  (text.splitOnP isBlank).filter fun word => !word.isEmpty

def join (separator : List Char) (pieces : List (List Char)) : List Char :=
  separator.intercalate pieces

end SourceDigest.Text
