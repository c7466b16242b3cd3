import SourceDigest.Files.Glob

/-!
Ignore files. Every line is a rule unless it is blank or a comment; a rule that takes something
back is not supported and is passed over.
-/

namespace SourceDigest

/-- One line of an ignore file. An anchored rule is matched against whole paths from the root, any
other against single names; a rule may be for directories only. -/
structure Ignore.Rule where
  pattern : List Char
  anchored : Bool
  directoryOnly : Bool
  deriving DecidableEq, Repr

namespace Ignore

def Rule.ofLine? (line : List Char) : Option Rule :=
  match Text.strip line with
  | [] => none
  | '#' :: _ => none
  | '!' :: _ => none
  | text =>
    let body := Text.stripEnd (· == '/') text
    some
      { pattern := body.dropWhile (· == '/')
        anchored := body.contains '/'
        directoryOnly := text.getLast? = some '/' }

def rules (lines : List (List Char)) : List Rule :=
  lines.filterMap Rule.ofLine?

/-- The first names of a path, the first two and so on, each with whether it is all of it. -/
def leading (parts : List (List Char)) : List (List Char × Bool) :=
  (List.range parts.length).map fun i =>
    (Text.join ['/'] (parts.take (i + 1)), i + 1 == parts.length)

/-- The names of a path, each with whether it is the last. -/
def names (parts : List (List Char)) : List (List Char × Bool) :=
  (List.range parts.length).filterMap fun i =>
    parts[i]?.map fun part => (part, i + 1 == parts.length)

/-- Whether a rule applies to a path. Everything but the last name is a directory. -/
def Rule.appliesTo (rule : Rule) (path : List Char) (isDirectory : Bool) : Bool :=
  let parts := Text.split '/' path
  let places := if rule.anchored then leading parts else names parts
  let tokens := Glob.tokens rule.pattern
  places.any fun place =>
    Glob.accepts tokens place.1 && (!rule.directoryOnly || !place.2 || isDirectory)

def ignores (rules : List Rule) (path : List Char) (isDirectory : Bool) : Bool :=
  rules.any fun rule => rule.appliesTo path isDirectory

end Ignore

end SourceDigest
