import SourceDigest.Proofs.Graph.Rounds

/-! Graphs under calls in any order. A call that adds an edge fails where one of its ends is
missing; if only the target is, the source has gained a dependency that no dependent answers to.
What a node holds is told by the calls alone: its dependencies by those made while it was a node,
its dependents by those made while both ends were. Scoring reads edges and writes none. -/

namespace SourceDigest.Graph

open List

variable {α : Type}

/-! ## Calls -/

/-- What can be asked of a graph. A number of rounds below zero stands for none. -/
inductive Call (α : Type) where
  | addNode (path : String)
  | addEdge (source target : String)
  | computeCentrality (damping : α) (rounds : Int)

/-- An edge that a call names, and the graph that the call meets. -/
structure EdgeCall (α : Type) where
  graph : Graph α
  source : String
  target : String

def Call.added? : Call α → Option String
  | .addNode path => some path
  | _ => none

def Call.edge? (g : Graph α) : Call α → Option (EdgeCall α)
  | .addEdge source target => some ⟨g, source, target⟩
  | _ => none

/-- The edges named while their source was a node. -/
def namedBy (edges : List (EdgeCall α)) : List (String × String) :=
  (edges.filter fun e => decide (e.source ∈ e.graph.paths)).map fun e => (e.source, e.target)

/-- The edges named while both their ends were nodes. -/
def linkedBy (edges : List (EdgeCall α)) : List (String × String) :=
  (edges.filter fun e => decide (e.source ∈ e.graph.paths ∧ e.target ∈ e.graph.paths)).map
    fun e => (e.source, e.target)

theorem namedBy_append (edges more : List (EdgeCall α)) :
    namedBy (edges ++ more) = namedBy edges ++ namedBy more := by
  simp [namedBy]

theorem linkedBy_append (edges more : List (EdgeCall α)) :
    linkedBy (edges ++ more) = linkedBy edges ++ linkedBy more := by
  simp [linkedBy]

theorem targetsOf_namedBy (edges : List (EdgeCall α)) (path : String) :
    targetsOf (namedBy edges) path =
      (edges.filter fun e => decide (e.source = path ∧ path ∈ e.graph.paths)).map (·.target) := by
  rw [targetsOf, namedBy, filter_map, filter_filter, map_map]
  congr 1
  apply filter_congr
  intro e _
  by_cases he : e.source = path <;> simp [he]

theorem sourcesOf_linkedBy (edges : List (EdgeCall α)) (path : String) :
    sourcesOf (linkedBy edges) path =
      (edges.filter fun e =>
        decide (e.target = path ∧ e.source ∈ e.graph.paths ∧ path ∈ e.graph.paths)).map
          (·.source) := by
  rw [sourcesOf, linkedBy, filter_map, filter_filter, map_map]
  congr 1
  apply filter_congr
  intro e _
  by_cases he : e.target = path <;> simp [he]

theorem wiring_withScores (g : Graph α) (scores : Scores α) :
    (g.withScores scores).wiring = g.wiring := by
  simp only [wiring, withScores, map_map]
  apply map_congr_left
  intro node _
  simp only [Function.comp_apply]
  split <;> rfl

variable [Scalar α]

/-- The graph after a call, and the path that the call missed. A call that scores changes nothing
if it fails. -/
def perform (g : Graph α) : Call α → Graph α × Option UnknownPath
  | .addNode path => (g.addNode 0.0 path, none)
  | .addEdge source target => g.addEdge source target
  | .computeCentrality damping rounds =>
    match g.computeCentrality damping rounds.toNat with
    | .ok scored => (scored, none)
    | .error missing => (g, some missing)

/-- The graph after calls. The next call is made whether or not the one before has failed. -/
def afterCalls (g : Graph α) (calls : List (Call α)) : Graph α :=
  calls.foldl (fun g call => (g.perform call).1) g

/-- The edges that calls name, in the order of the calls. -/
def edgeCalls (g : Graph α) : List (Call α) → List (EdgeCall α)
  | [] => []
  | call :: calls => (call.edge? g).toList ++ (g.perform call).1.edgeCalls calls

/-! ## One call -/

variable {g : Graph α} {named linked : List (String × String)}

theorem Records.perform_computeCentrality (h : g.Records named linked) (damping : α)
    (rounds : Int) :
    g.perform (.computeCentrality damping rounds) =
      (g.withScores (g.listed (g.scoreAfter damping rounds.toNat)), none) := by
  rw [Graph.perform, h.computeCentrality_eq]

/-- A call adds to what a graph records the halves of the edge that find their nodes. -/
theorem Records.perform (h : g.Records named linked) (call : Call α) :
    (g.perform call).1.Records (named ++ namedBy (call.edge? g).toList)
      (linked ++ linkedBy (call.edge? g).toList) := by
  cases call with
  | addNode path => simpa [Graph.perform, Call.edge?, namedBy, linkedBy] using h.addNode 0.0 path
  | addEdge source target =>
    by_cases hs : source ∈ g.paths
    · by_cases ht : target ∈ g.paths
      · simpa [Graph.perform, Call.edge?, namedBy, linkedBy, hs, ht] using h.addEdge hs ht
      · simpa [Graph.perform, Call.edge?, namedBy, linkedBy, hs, ht] using
          h.addEdge_of_notMem_target hs ht
    · rw [Graph.perform, addEdge_of_notMem hs]
      simpa [Call.edge?, namedBy, linkedBy, hs] using h
  | computeCentrality damping rounds =>
    rw [h.perform_computeCentrality]
    simpa [Call.edge?, namedBy, linkedBy] using h.of_wiring_eq (wiring_withScores g _)

theorem paths_perform {added : List String} (hrecords : g.Records named linked)
    (h : g.paths = added.eraseDups) (call : Call α) :
    (g.perform call).1.paths = (added ++ call.added?.toList).eraseDups := by
  cases call with
  | addNode path => exact paths_addNode_of_eq h 0.0 path
  | addEdge source target =>
    simpa [perform, Call.added?] using (paths_addEdge g source target).trans h
  | computeCentrality damping rounds =>
    rw [hrecords.perform_computeCentrality]
    simpa [Call.added?] using (paths_withScores g _).trans h

/-! ## All calls -/

theorem Records.afterCalls (h : g.Records named linked) (calls : List (Call α)) :
    (g.afterCalls calls).Records (named ++ namedBy (g.edgeCalls calls))
      (linked ++ linkedBy (g.edgeCalls calls)) := by
  induction calls generalizing g named linked with
  | nil => simpa [Graph.afterCalls, edgeCalls, namedBy, linkedBy] using h
  | cons call calls ih =>
    rw [edgeCalls, namedBy_append, linkedBy_append, ← append_assoc, ← append_assoc]
    exact ih (h.perform call)

theorem paths_afterCalls {added : List String} (hrecords : g.Records named linked)
    (h : g.paths = added.eraseDups) (calls : List (Call α)) :
    (g.afterCalls calls).paths = (added ++ calls.filterMap Call.added?).eraseDups := by
  induction calls generalizing g named linked added with
  | nil => simpa [afterCalls] using h
  | cons call calls ih =>
    have hsplit : added ++ (call :: calls).filterMap Call.added? =
        added ++ call.added?.toList ++ calls.filterMap Call.added? := by
      cases hc : call.added? <;> simp [hc]
    rw [hsplit]
    exact ih (hrecords.perform call) (paths_perform hrecords h call)

/-- What calls on the empty graph have made of it. The edges of a node are those that calls named
while it was there, in the order of the calls; scoring never misses a path, leaves all edges as
they are and divides by no out-degree of zero. -/
structure AccountsForCalls (calls : List (Call α)) (g : Graph α) : Prop where
  paths : g.paths = (calls.filterMap Call.added?).eraseDups
  dependencies : ∀ node ∈ g.nodes, node.2.dependencies =
    ((Graph.empty.edgeCalls calls).filter fun e =>
      decide (e.source = node.1 ∧ node.1 ∈ e.graph.paths)).map (·.target)
  dependents : ∀ node ∈ g.nodes, node.2.dependents =
    ((Graph.empty.edgeCalls calls).filter fun e =>
      decide (e.target = node.1 ∧ e.source ∈ e.graph.paths ∧ node.1 ∈ e.graph.paths)).map
        (·.source)
  scoring : ∀ damping rounds, ∃ scored,
    g.perform (.computeCentrality damping rounds) = (scored, none) ∧ scored.wiring = g.wiring
  sources : ∀ node ∈ g.nodes, ∀ source ∈ node.2.dependents,
    ∃ links, g.get source = .ok links ∧ 0 < links.outDegree
  unguarded : ∀ damping rounds, g.computeCentrality damping rounds =
    .ok (g.withScores (g.listed (g.scoreAfter damping rounds)))

theorem afterCalls_accounts (calls : List (Call α)) :
    AccountsForCalls calls ((Graph.empty : Graph α).afterCalls calls) := by
  have h := (Records.empty (α := α)).afterCalls calls
  rw [nil_append, nil_append] at h
  refine ⟨?_, ?_, ?_, ?_, ?_, h.computeCentrality_eq⟩
  · have hempty : (Graph.empty : Graph α).paths = ([] : List String).eraseDups := rfl
    simpa using paths_afterCalls Records.empty hempty calls
  · intro node hm
    rw [h.dependencies node hm, targetsOf_namedBy]
  · intro node hm
    rw [h.dependents node hm, sourcesOf_linkedBy]
  · intro damping rounds
    exact ⟨_, h.perform_computeCentrality damping rounds, wiring_withScores _ _⟩
  · intro node hm source hs
    have hlinked : source ∈ ((Graph.empty : Graph α).afterCalls calls).importers node.1 := by
      rw [importers, find?_of_mem h.nodup hm]
      exact hs
    have hfind := contains_iff.mpr (h.mem_paths_of_mem_importers hlinked)
    obtain ⟨links, hlinks⟩ := Option.isSome_iff_exists.mp hfind
    have hpos := h.outDegree_pos hlinked
    rw [outDegree, hlinks] at hpos
    exact ⟨links, by rw [get, hlinks], hpos⟩

/-- An edge to a path that is no node yet leaves its first half behind. -/
example : ((Graph.empty : Graph Rat).afterCalls [.addNode "a", .addEdge "a" "b", .addEdge "b" "a",
    .addNode "b", .addEdge "a" "b"]).wiring = [("a", ["b", "b"], []), ("b", [], ["a"])] := by
  decide +kernel

end SourceDigest.Graph
