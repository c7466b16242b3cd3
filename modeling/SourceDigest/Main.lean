import SourceDigest.CommandLine.Run

/-!
The program. It takes a picture of what its arguments can reach on disk, runs on that picture, and
puts on disk what the run has written.
-/

namespace SourceDigest.CommandLine

/-- An entry as it is on disk, if it can be read. A link is kept as a link to the place where it
ends; one that ends nowhere leads to itself. -/
partial def entryOf (place : IO.FS.DirEntry) : IO (Option Entry) := do
  match ← place.path.symlinkMetadata.toBaseIO with
  | .error _ => return none
  | .ok data =>
    match data.type with
    | .file => return (← (IO.FS.readBinFile place.path).toBaseIO).toOption.map .file
    | .symlink =>
      let target ← (IO.FS.realPath place.path).toBaseIO
      return some (.link ((target.toOption.getD place.path).toString))
    | .dir =>
      let mut entries := []
      for child in ← place.path.readDir do
        if let some e ← entryOf child then
          entries := (child.fileName, e) :: entries
      return some (.directory entries.reverse)
    | .other => return none

/-- Where the links in and below an entry lead. -/
partial def targets : Entry → List String
  | .file _ => []
  | .link target => [target]
  | .directory entries => entries.flatMap fun e => targets e.2

/-- A place on disk, written from the root on. -/
def written (location : List String) : String :=
  "/" ++ "/".intercalate location

/-- Adds what a path leads to, the directories on the way, and what links lead to from there. -/
partial def reach (w : World) (path : String) : IO World := do
  let here ← IO.currentDir
  let mut w := w
  let mut stack : List (List Char) := []
  for name in Text.split '/' (Path.join w.hereText.toList path.toList) do
    stack := Path.push true stack name
    let location := stack.reverse.map String.ofList
    if !w.isThere (written location) && (← (here / written location).isDir) then
      w := { w with root := w.root.graft location (.directory []) }
  let location := stack.reverse.map String.ofList
  match ← entryOf ⟨here, written location⟩ with
  | none => return w
  | some e =>
    w := { w with root := w.root.graft location e }
    for target in targets e do
      if target != written location && !w.isThere target then
        w ← reach w target
    return w

/-- The paths that an argument may name: itself, and what may stand behind an option's name. -/
def mentioned (argument : String) : List String :=
  let text := argument.toList
  [argument, String.ofList ((text.dropWhile (· != '=')).drop 1), String.ofList (text.drop 2)]

/-- The paths that a run may read or write, as far as its arguments tell. -/
def reachable (arguments : List String) : List String :=
  let named := (arguments.flatMap mentioned).filter fun path => !path.isEmpty
  Options.projectFile :: named ++ named.map fun path => path ++ "/" ++ Options.projectFile

/-- What the arguments can reach. -/
def picture (arguments : List String) : IO World := do
  let here := (← IO.currentDir).toString
  let home := (← IO.getEnv "HOME").getD "/"
  let mut environment := []
  for name in Options.names.map Options.variableOf do
    if let some text ← IO.getEnv name then
      environment := environment ++ [(name, text)]
  let mut w : World :=
    { root := .directory []
      here := World.names here
      home := World.names home
      hereText := here
      homeText := home
      environment }
  for path in (home ++ "/" ++ Options.homeFile) :: reachable arguments do
    w ← reach w path
  return w

/-- Puts a file on disk if a run has changed it. -/
def putBack (before after : World) (path : String) : IO Unit := do
  match before.read path, after.read path with
  | .ok old, .ok new => if old != new then IO.FS.writeBinFile path new
  | .error _, .ok new => IO.FS.writeBinFile path new
  | _, .error _ => pure ()

end SourceDigest.CommandLine

open SourceDigest.CommandLine in
/-- Runs with the arguments given. The text goes to the standard output, what is said about the run
to the standard error. -/
def main (arguments : List String) : IO UInt32 := do
  let w ← picture arguments
  let outcome := run w none arguments
  for path in reachable arguments do
    putBack w outcome.world path
  for line in outcome.status do
    IO.eprintln line
  IO.print outcome.output
  return outcome.exit.toUInt32
