import SourceDigest.Files.World

/-!
The directory that a run is about, with all links resolved: a link to a file is a file, a link to
a directory is a folder that is marked as linked, and a link that leads nowhere is a file that
cannot be opened.
-/

namespace SourceDigest

inductive Item where
  | file (bytes : Option ByteArray)
  | folder (linked : Bool) (items : List (String × Item))
  deriving Inhabited

/-- Whether an item is a folder, linked or not. -/
def Item.isFolder : Item → Bool
  | .file _ => false
  | .folder _ _ => true

structure Project where
  name : String
  items : List (String × Item)
  deriving Inhabited

inductive Project.Fault where
  | missing
  | notDirectory
  | unreachable (fault : PathFault)
  deriving DecidableEq, Repr, Inhabited

/-- A fault in words; `path` is how the project was named. -/
def Project.Fault.message (fault : Project.Fault) (path : String) : String :=
  match fault with
  | missing => "does not exist"
  | notDirectory => "is not a directory"
  | unreachable fault => fault.message path

namespace World

mutual

/-- An entry of the directory at a trail, reached with a number of links left to follow. -/
def item (w : World) (links : Nat) (trail : Trail) (name : String) : Entry → Item
  | .file bytes => .file (some bytes)
  | .directory entries =>
    .folder false (w.itemsIn links ((name, .directory entries) :: trail) entries)
  | .link target =>
    match links with
    | 0 => .file none
    | links + 1 =>
      match w.followPath links trail target with
      | .error _ => .file none
      | .ok (trail, left) =>
        match w.entryAt trail with
        | .file bytes => .file (some bytes)
        | .directory entries =>
          if left ≤ links then .folder true (w.itemsIn left trail entries) else .file none
        | .link _ => .file none
  termination_by e => (links, sizeOf e)

def itemsIn (w : World) (links : Nat) (trail : Trail) : List (String × Entry) → List (String × Item)
  | [] => []
  | (name, e) :: rest => (name, w.item links trail name e) :: w.itemsIn links trail rest
  termination_by entries => (links, sizeOf entries)

end

/-- The project that a path leads to. It has the name of the directory, not of a link to it. -/
def project (w : World) (path : String) : Except Project.Fault Project :=
  match w.find path with
  | .error .nameTooLong => .error (.unreachable .nameTooLong)
  | .error _ => .error .missing
  | .ok trail =>
    match w.entryAt trail with
    | .directory entries =>
      .ok ⟨(trail.head?.map (·.1)).getD "", w.itemsIn linkLimit trail entries⟩
    | _ => .error .notDirectory

end World

end SourceDigest
