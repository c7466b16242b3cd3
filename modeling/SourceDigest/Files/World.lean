import SourceDigest.Keyed
import SourceDigest.Path
import SourceDigest.Text.Quoted
import SourceDigest.Text.Utf8
import SourceDigest.Text.Cut

/-!
Everything around a run: files, the working and the home directory, and environment variables.
Paths are followed name by name; a link is followed where it stands, and no path leads through
more than forty of them.
-/

namespace SourceDigest

inductive Entry where
  | file (bytes : ByteArray)
  | directory (entries : List (String × Entry))
  | link (target : String)
  deriving Inhabited

/-- Why a path leads nowhere. -/
inductive PathFault where
  | missing
  | notDirectory
  | isDirectory
  | nameTooLong
  | tooManyLinks
  deriving DecidableEq, Repr, Inhabited

/-- Directories from the innermost out, each with its name; the root itself is left out. -/
abbrev Trail := List (String × Entry)

/-- Files, directories and variables. `hereText` and `homeText` are how the working directory and
the home directory are written in messages. -/
structure World where
  root : Entry
  here : List String
  home : List String
  hereText : String
  homeText : String
  environment : List (String × String)
  deriving Inhabited

/-- Puts an entry at a location below another; directories on the way are made. Where an empty
directory is to be put, a directory that is there already stays. -/
def Entry.graft : (old : Entry) → (location : List String) → (new : Entry) → Entry
  | .directory (first :: rest), [], .directory [] => .directory (first :: rest)
  | _, [], new => new
  | .directory entries, name :: location, new =>
    let below := (entries.lookup name).getD (.directory [])
    .directory (Keyed.insert entries name (graft below location new))
  | old, _ :: _, _ => old
  termination_by _ location => location.length

namespace PathFault

def description : PathFault → Nat × String
  | missing => (2, "No such file or directory")
  | notDirectory => (20, "Not a directory")
  | isDirectory => (21, "Is a directory")
  | nameTooLong => (36, "File name too long")
  | tooManyLinks => (40, "Too many levels of symbolic links")

def message (fault : PathFault) (path : String) : String :=
  let (number, words) := fault.description
  "[Errno " ++ toString number ++ "] " ++ words ++ ": " ++
    String.ofList (Text.quoted path.toList)

end PathFault

namespace World

def linkLimit : Nat :=
  40

def nameLimit : Nat :=
  255

/-- How many bytes a path has to stay below. -/
def pathLimit : Nat :=
  4096

def entryAt (w : World) : Trail → Entry
  | [] => w.root
  | (_, e) :: _ => e

/-- The names of a path as text, in order, empty ones included. -/
def names (path : String) : List String :=
  (Text.split '/' path.toList).map String.ofList

def isRooted (path : String) : Bool :=
  path.toList.head? == some '/'

/-- Follows names from a trail on. The last name is followed like the others. The number of links
that may still be followed comes back with the trail. -/
def follow (w : World) (links : Nat) (trail : Trail) : List String → Except PathFault (Trail × Nat)
  | [] => .ok (trail, links)
  | name :: rest =>
    match w.entryAt trail with
    | .directory entries =>
      if name = "" ∨ name = "." then follow w links trail rest
      else if name = ".." then follow w links trail.tail rest
      else if nameLimit < name.utf8ByteSize then .error .nameTooLong
      else
        match entries.lookup name with
        | none => .error .missing
        | some (.link target) =>
          match links with
          | 0 => .error .tooManyLinks
          | links + 1 =>
            follow w links (if isRooted target then [] else trail) (names target ++ rest)
        | some e => follow w links ((name, e) :: trail) rest
    | _ => .error .notDirectory
  termination_by names => (links, names.length)

def followPath (w : World) (links : Nat) (trail : Trail) (path : String) :
    Except PathFault (Trail × Nat) :=
  w.follow links (if isRooted path then [] else trail) (names path)

def hereTrail (w : World) : Trail :=
  match w.follow linkLimit [] w.here with
  | .ok (trail, _) => trail
  | .error _ => []

/-- Where a path leads, seen from the working directory. An empty path names nothing. -/
def find (w : World) (path : String) : Except PathFault Trail :=
  if path.isEmpty then .error .missing
  else if pathLimit ≤ path.utf8ByteSize then .error .nameTooLong
  else (w.followPath linkLimit w.hereTrail path).map (·.1)

def isThere (w : World) (path : String) : Bool :=
  (w.find path).isOk

def isDirectory (w : World) (path : String) : Bool :=
  match w.find path with
  | .ok trail =>
    match w.entryAt trail with
    | .directory _ => true
    | _ => false
  | .error _ => false

def bytesAt (w : World) (trail : Trail) : Except PathFault ByteArray :=
  match w.entryAt trail with
  | .file bytes => .ok bytes
  | .directory _ => .error .isDirectory
  | .link _ => .error .missing

def read (w : World) (path : String) : Except PathFault ByteArray := do
  w.bytesAt (← w.find path)

/-- Puts a file into the directory at a location below an entry. -/
def putAt (name : String) (bytes : ByteArray) : (location : List String) → Entry → Entry
  | [], .directory entries =>
    if (entries.lookup name).isSome then
      .directory (entries.map fun e => if e.1 = name then (name, .file bytes) else e)
    else .directory (entries ++ [(name, .file bytes)])
  | part :: rest, .directory entries =>
    .directory (entries.map fun e =>
      if e.1 = part then (part, putAt name bytes rest e.2) else e)
  | _, e => e

/-- Writes a file whose directory and name are given; a link in its place is followed. -/
def writeIn (w : World) (bytes : ByteArray) : (links : Nat) → Trail → List String →
    Except PathFault World
  | links, trail, path => do
    let (trail, _) ← w.follow links trail path.dropLast
    match w.entryAt trail, path.getLast? with
    | .directory entries, some name =>
      if name = "" ∨ name = "." ∨ name = ".." then throw .isDirectory
      else if nameLimit < name.utf8ByteSize then throw .nameTooLong
      else
        match entries.lookup name with
        | some (.directory _) => throw .isDirectory
        | some (.link target) =>
          match links with
          | 0 => throw .tooManyLinks
          | links + 1 =>
            w.writeIn bytes links (if isRooted target then [] else trail) (names target)
        | _ => return { w with root := putAt name bytes (trail.reverse.map (·.1)) w.root }
    | .directory _, none => throw .isDirectory
    | _, _ => throw .notDirectory
  termination_by links => links

/-- Writes a file. Its directory has to be there. -/
def write (w : World) (path : String) (bytes : ByteArray) : Except PathFault World :=
  if pathLimit ≤ path.utf8ByteSize then .error .nameTooLong
  else w.writeIn bytes linkLimit (if isRooted path then [] else w.hereTrail) (names path)

def readHome (w : World) (name : String) : Except PathFault ByteArray := do
  let (trail, _) ← w.follow linkLimit [] (w.home ++ [name])
  w.bytesAt trail

end World

inductive TextFault where
  | path (fault : PathFault)
  | encoding (fault : Utf8.Fault)
  deriving DecidableEq, Repr, Inhabited

namespace TextFault

def message (fault : TextFault) (path : String) : String :=
  match fault with
  | .path fault => "Cannot read file: " ++ fault.message path
  | .encoding fault => "not valid UTF-8: " ++ fault.message

end TextFault

/-- The text of bytes; line ends become line feeds. -/
def textOfBytes (bytes : ByteArray) : Except Utf8.Fault (List Char) :=
  (Utf8.decode bytes).map Text.unifyBreaks

def World.readText (w : World) (path : String) : Except TextFault (List Char) :=
  match w.read path with
  | .error fault => .error (.path fault)
  | .ok bytes =>
    match textOfBytes bytes with
    | .error fault => .error (.encoding fault)
    | .ok text => .ok text

end SourceDigest
