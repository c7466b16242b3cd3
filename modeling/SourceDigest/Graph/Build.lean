import SourceDigest.Graph.Basic
import SourceDigest.Graph.Resolve

/-!
The import graph of a batch: first every path becomes a node, then every import string becomes an
edge or is counted as unresolved.
-/

namespace SourceDigest.Graph

variable {α : Type}

/-- Follows one import string of a file. The importer and what the import resolves to are nodes,
so that the edge can always be added. -/
def follow (known : String → Bool) (path : String) (g : Graph α) (target : String) : Graph α :=
  match resolve target path known with
  | none => { g with unresolved := g.unresolved + 1 }
  | some found => (g.addEdge path found).1

/-- The graph of files given as paths with their import strings. Repeated imports give repeated
edges. New nodes start with the given score. -/
def ofImports (score : α) (files : List (String × List String)) : Graph α :=
  let bare := files.foldl (fun g file => g.addNode score file.1) (empty : Graph α)
  files.foldl (fun g file => file.2.foldl (follow bare.contains file.1) g) bare

end SourceDigest.Graph
