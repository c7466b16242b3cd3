import SourceDigest.Proofs.Graph.Batch
import SourceDigest.Proofs.Graph.Rounds

/-! A batch with one more file. Where no import of the file leads anywhere and every other import
leads where it led before, the edges of the batch are the same ones in the same order, and so is
every sum of a round, however it is rounded. -/

namespace SourceDigest.Graph

open List

variable {front back : List (String × List String)} {file : String × List String}

/-! ## Edges -/

theorem importEdges_congr {known known' : String → Bool}
    (h : ∀ target ∈ file.2, resolve target file.1 known = resolve target file.1 known') :
    importEdges known file = importEdges known' file := by
  rw [importEdges, importEdges, filterMap_congr h]

theorem importEdges_eq_nil {known : String → Bool}
    (h : ∀ target ∈ file.2, resolve target file.1 known = none) : importEdges known file = [] := by
  rw [importEdges, filterMap_eq_nil_iff.mpr h, map_nil]

/-- The further file is no end of any import: its own lead nowhere, and those of the other files
lead where they led without it. -/
structure Unlinked (front back : List (String × List String)) (file : String × List String) :
    Prop where
  kept : ∀ other ∈ front ++ back, ∀ target ∈ other.2,
    resolve target other.1 (among (front ++ file :: back)) =
      resolve target other.1 (among (front ++ back))
  unresolved : ∀ target ∈ file.2, resolve target file.1 (among (front ++ file :: back)) = none

theorem Unlinked.batchEdges_eq (h : Unlinked front back file) :
    batchEdges (front ++ file :: back) = batchEdges (front ++ back) := by
  have hkept : (front ++ back).flatMap (importEdges (among (front ++ file :: back))) =
      batchEdges (front ++ back) :=
    flatMap_congr fun other hother => importEdges_congr (h.kept other hother)
  rw [← hkept, batchEdges, flatMap_append, flatMap_append, flatMap_cons,
    importEdges_eq_nil h.unresolved, nil_append]

/-! ## Scores -/

variable {α : Type} [Scalar α] {g g' : Graph α} {named linked : List (String × String)}

/-- Graphs that record the same edges have the same rounds. -/
theorem Records.round_unique (h : g.Records named linked) (h' : g'.Records named linked) :
    g.round = g'.round := by
  funext damping scores path
  simp only [round, h.importers_eq, h'.importers_eq, h.outDegree_eq, h'.outDegree_eq]

theorem Unlinked.scoreAfter_eq (h : Unlinked front back file) (score : α) :
    (ofImports score (front ++ file :: back)).scoreAfter =
      (ofImports score (front ++ back)).scoreAfter := by
  have hrecords := ofImports_records score (front ++ file :: back)
  rw [h.batchEdges_eq] at hrecords
  funext damping rounds
  rw [scoreAfter, scoreAfter, hrecords.round_unique (ofImports_records score (front ++ back))]

end SourceDigest.Graph
