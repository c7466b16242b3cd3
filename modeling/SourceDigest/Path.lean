import SourceDigest.Text.Cut

/-!
Slash-separated paths as lists of characters. `normalise` evaluates `.` and `..` and doubled
slashes on the text alone; `parts` only drops what names nothing, as for a path given to the
file system, where `..` may pass through a link.
-/

namespace SourceDigest.Path

/-- The path with backslashes turned into slashes. -/
def withSlashes (path : List Char) : List Char :=
  path.map fun c => if c = '\\' then '/' else c

/-- What follows the last slash. -/
def baseName (path : List Char) : List Char :=
  (path.reverse.takeWhile (· != '/')).reverse

/-- What stands before the last slash; slashes at its end go, unless there is nothing else. -/
def directory (path : List Char) : List Char :=
  let head := (path.reverse.dropWhile (· != '/')).reverse
  if head.all (· == '/') then head else Text.stripEnd (· == '/') head

/-- The second path seen from the first. A path from the root stands for itself. -/
def join (base path : List Char) : List Char :=
  if path.head? = some '/' then path
  else if base.isEmpty || base.getLast? = some '/' then base ++ path
  else base ++ '/' :: path

/-- How many slashes a normal form starts with: two at most, and two only if there are exactly
two. -/
def rootSlashes : List Char → Nat
  | '/' :: '/' :: '/' :: _ => 1
  | '/' :: '/' :: _ => 2
  | '/' :: _ => 1
  | _ => 0

/-- Adds one segment to those of a normal form, the last one first. `..` takes a name away; where
there is none to take it stays, except at the root. -/
def push (rooted : Bool) (done : List (List Char)) (segment : List Char) : List (List Char) :=
  if segment = [] ∨ segment = ['.'] then done
  else if segment ≠ ['.', '.'] then segment :: done
  else
    match done with
    | [] => if rooted then [] else [segment]
    | last :: rest => if last = ['.', '.'] then segment :: done else rest

/-- The normal form of a path; that of nothing is a dot. -/
def normalise (path : List Char) : List Char :=
  let slashes := rootSlashes path
  let segments := ((Text.split '/' path).foldl (push (slashes != 0)) []).reverse
  let text := List.replicate slashes '/' ++ Text.join ['/'] segments
  if text.isEmpty then ['.'] else text

/-- The names of a path: no empty ones and no dots. -/
def parts (path : List Char) : List (List Char) :=
  (Text.split '/' path).filter fun segment => segment != [] && segment != ['.']

/-- A path written with its names alone; that of nothing is a dot. -/
def tidy (path : List Char) : List Char :=
  let text := List.replicate (rootSlashes path) '/' ++ Text.join ['/'] (parts path)
  if text.isEmpty then ['.'] else text

def name (path : List Char) : List Char :=
  (parts path).getLast?.getD []

/-- The last name from its last dot on. A dot at its start or at its end makes no suffix. -/
def suffix (path : List Char) : List Char :=
  let name := name path
  let tail := (name.reverse.takeWhile (· != '.')).reverse
  if tail.isEmpty || name.length ≤ tail.length + 1 then [] else '.' :: tail

end SourceDigest.Path
