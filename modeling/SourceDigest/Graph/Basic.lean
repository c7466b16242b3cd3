/-!
The import graph of a batch. Nodes are paths in the order in which they were added. Each node
keeps the targets of its imports and the sources that import it; one call of `addEdge` writes one
of each, in two different nodes.
-/

namespace SourceDigest

/-- The edges of one file, by path, and its centrality. -/
structure Links (α : Type) where
  dependencies : List String
  dependents : List String
  centrality : α
  deriving DecidableEq, Repr, Inhabited

/-- Import graph keyed by path, and the number of imports that led nowhere. -/
structure Graph (α : Type) where
  nodes : List (String × Links α)
  unresolved : Nat
  deriving DecidableEq, Repr, Inhabited

namespace Links

variable {α : Type}

/-- How many imports leave a file, repeated ones counted. -/
def outDegree (links : Links α) : Nat :=
  links.dependencies.length

end Links

namespace Graph

variable {α : Type}

structure UnknownPath where
  path : String
  deriving DecidableEq, Repr, Inhabited

def empty : Graph α :=
  ⟨[], 0⟩

def find? (g : Graph α) (path : String) : Option (Links α) :=
  g.nodes.lookup path

def contains (g : Graph α) (path : String) : Bool :=
  (g.find? path).isSome

/-- All paths in the order in which they were added. -/
def paths (g : Graph α) : List String :=
  g.nodes.map (·.1)

def size (g : Graph α) : Nat :=
  g.nodes.length

/-- The number of edges, repeated ones counted. -/
def edgeCount (g : Graph α) : Nat :=
  g.nodes.foldr (fun node n => node.2.outDegree + n) 0

/-- Adds a path without edges at the end, unless it is there already. The score of a new node is
given. -/
def addNode (g : Graph α) (score : α) (path : String) : Graph α :=
  if g.contains path then g else { g with nodes := g.nodes ++ [(path, ⟨[], [], score⟩)] }

def modify (g : Graph α) (path : String) (f : Links α → Links α) : Graph α :=
  { g with nodes := g.nodes.map fun node => if node.1 = path then (node.1, f node.2) else node }

/-- Records that `source` imports `target`. Without a node for the source nothing happens;
without one for the target the source has gained the dependency all the same. The path that is
missing is told beside the graph. -/
def addEdge (g : Graph α) (source target : String) : Graph α × Option UnknownPath :=
  if g.contains source then
    let g := g.modify source fun links =>
      { links with dependencies := links.dependencies ++ [target] }
    if g.contains target then
      (g.modify target fun links => { links with dependents := links.dependents ++ [source] }, none)
    else (g, some ⟨target⟩)
  else (g, some ⟨source⟩)

/-- The links of a path that has to be a node. -/
def get (g : Graph α) (path : String) : Except UnknownPath (Links α) :=
  match g.find? path with
  | some links => .ok links
  | none => .error ⟨path⟩

end Graph

end SourceDigest
