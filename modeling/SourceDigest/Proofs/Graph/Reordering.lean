import Mathlib.Algebra.BigOperators.Group.List.Basic
import SourceDigest.Proofs.Graph.Batch
import SourceDigest.Proofs.Graph.Flow

/-! A batch in another order has another graph: its nodes stand elsewhere, and so do the entries
of their links. The edges are the same ones, each as often as before, and without rounding a
round sees no more of them than that. -/

namespace SourceDigest.Graph

open List

variable {files others : List (String × List String)}

theorem among_eq_of_perm (hperm : files.Perm others) : among files = among others := by
  funext path
  have hmem : path ∈ files.map (·.1) ↔ path ∈ others.map (·.1) := (hperm.map _).mem_iff
  simp only [among, hmem]

/-- What an import leads to depends on the paths of a batch and not on their order. -/
theorem batchEdges_perm (hperm : files.Perm others) :
    (batchEdges files).Perm (batchEdges others) := by
  rw [batchEdges, batchEdges, among_eq_of_perm hperm]
  exact hperm.flatMap_right _

/-! ## Graphs with the same edges -/

section Records

variable {g g' : Graph Rat} {edges edges' : List (String × String)}

theorem Records.importers_perm (h : g.Records edges edges) (h' : g'.Records edges' edges')
    (hedges : edges.Perm edges') (path : String) :
    (g.importers path).Perm (g'.importers path) := by
  rw [h.importers_eq, h'.importers_eq]
  exact (hedges.filter _).map _

theorem Records.outDegree_eq_of_perm (h : g.Records edges edges) (h' : g'.Records edges' edges')
    (hedges : edges.Perm edges') : g.outDegree = g'.outDegree := by
  funext path
  rw [h.outDegree_eq, h'.outDegree_eq]
  exact ((hedges.filter _).map _).length_eq

theorem Records.round_eq_of_perm (h : g.Records edges edges) (h' : g'.Records edges' edges')
    (hedges : edges.Perm edges') (damping : Rat) : g.round damping = g'.round damping := by
  funext scores path
  have hreceived : g.received scores path = g'.received scores path := by
    rw [received, received, h.outDegree_eq_of_perm h' hedges]
    exact ((h.importers_perm h' hedges path).map _).sum_eq
  rw [round_eq, round_eq, hreceived]

end Records

/-- A batch in another order gives every path the same score after every number of rounds. -/
theorem scoreAfter_ofImports_eq_of_perm (hperm : files.Perm others) (score damping : Rat) :
    (ofImports score files).scoreAfter damping = (ofImports score others).scoreAfter damping := by
  have hround := (ofImports_records score files).round_eq_of_perm
    (ofImports_records score others) (batchEdges_perm hperm) damping
  funext rounds
  rw [scoreAfter, scoreAfter, hround]

end SourceDigest.Graph
