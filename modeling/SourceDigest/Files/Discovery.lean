import SourceDigest.Files.Ignore
import SourceDigest.Files.Language
import SourceDigest.Files.Project

/-!
Which files of a project a digest is made from. `Filter` says what is left out; `scan` collects
the texts that pass, and `outline` the entries that are shown in the structure section. An
excluded directory is left out with everything below it.
-/

namespace SourceDigest

/-- A decoded text file. Its path, from the project on, is its identity; its size is in bytes. -/
structure SourceFile where
  path : String
  content : String
  language : String
  size : Int
  deriving DecidableEq, Repr, Inhabited

/-- A file of a given content that is not on disk. -/
def SourceFile.ofText (path content language : String) : SourceFile :=
  ⟨path, content, language, content.utf8ByteSize⟩

inductive Outline where
  | mk (name path : String) (isDirectory : Bool) (children : List Outline)
  deriving Inhabited

namespace Outline

def name : Outline → String
  | mk name _ _ _ => name

def path : Outline → String
  | mk _ path _ _ => path

def isDirectory : Outline → Bool
  | mk _ _ isDirectory _ => isDirectory

def children : Outline → List Outline
  | mk _ _ _ children => children

/-- Directories stand before files, and names are in order. -/
def before (a b : Outline) : Bool :=
  if a.isDirectory != b.isDirectory then a.isDirectory else !decide (b.name < a.name)

end Outline

/-- What is left out of a project. -/
structure Filter where
  showHidden : Bool
  excludes : List (List Char)
  includes : List (List Char)
  ignored : List Ignore.Rule
  tooLarge : Nat → Bool

namespace Filter

/-- Whether an entry is left out by its path. A directory is looked up with a slash at its end. -/
def isExcluded (f : Filter) (path : List Char) (isDirectory : Bool) : Bool :=
  ((Path.baseName path).head? == some '.' && !f.showHidden) ||
    Ignore.ignores f.ignored path isDirectory ||
    let path := if isDirectory then path ++ ['/'] else path
    f.excludes.any (Glob.matchesPath path)

def isIncluded (f : Filter) (path : List Char) : Bool :=
  f.includes.any fun pattern => pattern == "**/*".toList || Glob.matchesPath path pattern

/-- The source file of a path that is not excluded and its bytes, if it is one. -/
def sourceFile? (f : Filter) (path : List Char) (bytes : Option ByteArray) : Option SourceFile :=
  match bytes with
  | none => none
  | some bytes =>
    if !f.isIncluded path || Language.isBinaryName path || f.tooLarge bytes.size then none
    else
      match textOfBytes bytes with
      | .error _ => none
      | .ok content =>
        if Language.looksBinary content then none
        else
          some ⟨String.ofList path, String.ofList content, Language.ofPath path, bytes.size⟩

end Filter

namespace Discovery

/-- A path below a directory; the project itself has an empty path. -/
def below (directory : List Char) (name : String) : List Char :=
  if directory.isEmpty then name.toList else directory ++ '/' :: name.toList

mutual

/-- Files at and below an entry that are not excluded. Linked folders are not entered. -/
def filesOf (f : Filter) (path : List Char) : Item → List (List Char × Option ByteArray)
  | .file bytes => if f.isExcluded path false then [] else [(path, bytes)]
  | .folder linked items =>
    if linked || f.isExcluded path true then [] else filesIn f path items

def filesIn (f : Filter) (directory : List Char) :
    List (String × Item) → List (List Char × Option ByteArray)
  | [] => []
  | (name, item) :: rest => filesOf f (below directory name) item ++ filesIn f directory rest

end

def files (f : Filter) (project : Project) : List (List Char × Option ByteArray) :=
  filesIn f [] project.items

/-- The source files of a project in the order of their paths. -/
def scan (f : Filter) (project : Project) : List SourceFile :=
  ((files f project).filterMap fun file => f.sourceFile? file.1 file.2).mergeSort fun a b =>
    !decide (b.path < a.path)

mutual

/-- The entry for an item, unless it is left out. -/
def outlineOf (f : Filter) (name : String) (path : List Char) : Item → Option Outline
  | .file _ =>
    if f.isExcluded path false then none else some (.mk name (String.ofList path) false [])
  | .folder _ items =>
    if f.isExcluded path true then none
    else
      some (.mk name (String.ofList path) true ((outlinesIn f path items).mergeSort Outline.before))

def outlinesIn (f : Filter) (directory : List Char) : List (String × Item) → List Outline
  | [] => []
  | (name, item) :: rest =>
    (outlineOf f name (below directory name) item).toList ++ outlinesIn f directory rest

end

/-- The structure of a project: directories first, names in order. -/
def outline (f : Filter) (project : Project) : Outline :=
  .mk project.name "" true ((outlinesIn f [] project.items).mergeSort Outline.before)

/-- The rules of a project's ignore file; one that cannot be read has none. -/
def ignoreRules (project : Project) : List Ignore.Rule :=
  match project.items.lookup ".gitignore" with
  | some (.file (some bytes)) =>
    match textOfBytes bytes with
    | .ok text => Ignore.rules (Text.lines text)
    | .error _ => []
  | _ => []

end Discovery

end SourceDigest
