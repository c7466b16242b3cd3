import SourceDigest.Path

/-!
Resolution of import strings. Only imports that start at the importer's own place can name a file
of the batch; they are evaluated from the importer's directory and tried with the usual
extensions.
-/

namespace SourceDigest.Graph

/-- Extensions in the order in which they are tried; the empty one stands for an import that
already names the file. -/
def sourceExtensions : List String :=
  [".ts", ".tsx", ".js", ".jsx", ".py", ""]

def isRelative (target : List Char) : Bool :=
  "./".toList.isPrefixOf target || "../".toList.isPrefixOf target

/-- Where an import leads from a file, before any extension is tried. -/
def place (target importer : List Char) : List Char :=
  Path.normalise (Path.join (Path.directory (Path.withSlashes importer)) target)

/-- Whether a normal form lies outside the project. -/
def escapes (place : List Char) : Bool :=
  place == "..".toList || "../".toList.isPrefixOf place

/-- The paths that a place can stand for, the preferred one first: itself, with an extension, or
the index file of the directory. -/
def candidates (place : List Char) : List (List Char) :=
  place :: sourceExtensions.map (fun e => place ++ e.toList) ++
    (sourceExtensions.filter (· != "")).map fun e => Path.join place ("index".toList ++ e.toList)

/-- The path of the batch that an import names, if it names one. -/
def resolve (target importer : String) (known : String → Bool) : Option String :=
  if isRelative target.toList then
    let place := place target.toList importer.toList
    if escapes place then none
    else ((candidates place).map String.ofList).find? known
  else none

end SourceDigest.Graph
