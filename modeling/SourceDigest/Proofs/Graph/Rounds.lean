import Mathlib.Data.List.Basic
import Mathlib.Logic.Function.Iterate
import SourceDigest.Graph.Centrality
import SourceDigest.Proofs.Graph.Edges

/-! Rounds of centrality as steps on functions from paths to scores. On a graph whose
dependents are imports of nodes every round succeeds, whatever the arithmetic, and the
iterated step is what scoring a graph computes. -/

namespace SourceDigest.Graph

open List

variable {α : Type} {g : Graph α} {named linked : List (String × String)}

/-! ## Reading a graph by path -/

/-- The files that import a path, one entry for each import. -/
def importers (g : Graph α) (path : String) : List String :=
  (g.find? path).elim [] Links.dependents

def outDegree (g : Graph α) (path : String) : Nat :=
  (g.find? path).elim 0 Links.outDegree

def importing (g : Graph α) : List String :=
  g.paths.filter fun path => decide (0 < g.outDegree path)

theorem find?_eq_none {path : String} (h : path ∉ g.paths) : g.find? path = none := by
  rw [← Option.not_isSome_iff_eq_none]
  exact mt contains_iff.mp h

theorem exists_node {path : String} (h : path ∈ g.paths) :
    ∃ node ∈ g.nodes, node.1 = path :=
  mem_map.mp h

theorem Records.importers_eq (h : g.Records named linked) (path : String) :
    g.importers path = sourcesOf linked path := by
  by_cases hp : path ∈ g.paths
  · obtain ⟨node, hnode, rfl⟩ := exists_node hp
    rw [importers, find?_of_mem h.nodup hnode]
    exact h.dependents node hnode
  · rw [importers, find?_eq_none hp]
    symm
    apply eq_nil_iff_forall_not_mem.mpr
    intro source hs
    exact hp (h.targets _ (mem_sourcesOf.mp hs))

theorem Records.outDegree_eq (h : g.Records named linked) (path : String) :
    g.outDegree path = (targetsOf named path).length := by
  by_cases hp : path ∈ g.paths
  · obtain ⟨node, hnode, rfl⟩ := exists_node hp
    rw [outDegree, find?_of_mem h.nodup hnode, ← h.dependencies node hnode]
    rfl
  · rw [outDegree, find?_eq_none hp]
    symm
    apply length_eq_zero_iff.mpr
    apply eq_nil_iff_forall_not_mem.mpr
    intro target ht
    exact hp (h.sources _ (mem_targetsOf.mp ht))

theorem Records.mem_importers (h : g.Records named linked) {source path : String} :
    source ∈ g.importers path ↔ (source, path) ∈ linked := by
  rw [h.importers_eq, mem_sourcesOf]

/-- Whoever imports something has an out-degree to divide by. -/
theorem Records.outDegree_pos (h : g.Records named linked) {source path : String}
    (hs : source ∈ g.importers path) : 0 < g.outDegree source := by
  rw [h.outDegree_eq]
  apply length_pos_of_mem
  exact mem_targetsOf.mpr (h.subset _ (h.mem_importers.mp hs))

theorem Records.mem_paths_of_mem_importers (h : g.Records named linked) {source path : String}
    (hs : source ∈ g.importers path) : source ∈ g.paths :=
  h.sources _ (h.subset _ (h.mem_importers.mp hs))

/-- Scores given by path as a list in node order. -/
def listed (g : Graph α) (scores : String → α) : Scores α :=
  g.paths.map fun path => (path, scores path)

theorem lookup_listed {path : String} (h : path ∈ g.paths) (scores : String → α) :
    (g.listed scores).lookup path = some (scores path) :=
  lookup_graph scores h

theorem paths_withScores (g : Graph α) (scores : Scores α) :
    (g.withScores scores).paths = g.paths := by
  simp only [paths, withScores, map_map]
  apply map_congr_left
  intro node _
  simp only [Function.comp_apply]
  split <;> rfl

/-! ## One round -/

variable [Scalar α]

def round (g : Graph α) (damping : α) (scores : String → α) (path : String) : α :=
  (g.importers path).foldl
    (fun score source => score + damping * (scores source / Scalar.ofNat (g.outDegree source)))
    (1.0 - damping)

/-- The score of a path a number of rounds after all scores were one. -/
def scoreAfter (g : Graph α) (damping : α) (rounds : Nat) : String → α :=
  (g.round damping)^[rounds] fun _ => 1.0

theorem scoreAfter_succ (g : Graph α) (damping : α) (rounds : Nat) :
    g.scoreAfter damping (rounds + 1) = g.round damping (g.scoreAfter damping rounds) :=
  Function.iterate_succ_apply' _ _ _

/-- A round reads the scores of the importers alone. -/
theorem round_congr {scores others : String → α} {path : String}
    (h : ∀ source ∈ g.importers path, scores source = others source) (damping : α) :
    g.round damping scores path = g.round damping others path := by
  apply foldl_ext
  intro score source hs
  rw [h source hs]

theorem passOn_eq {source : String} (hs : source ∈ g.paths) (hpos : 0 < g.outDegree source)
    (damping score : α) (scores : String → α) :
    g.passOn damping (g.listed scores) score source =
      .ok (score + damping * (scores source / Scalar.ofNat (g.outDegree source))) := by
  obtain ⟨links, hlinks⟩ := Option.isSome_iff_exists.mp (contains_iff.mpr hs)
  have hget : g.get source = .ok links := by rw [get, hlinks]
  have hdeg : g.outDegree source = links.outDegree := by rw [outDegree, hlinks]; rfl
  have hne : links.outDegree ≠ 0 := by omega
  rw [passOn, hget, hdeg, lookup_listed hs scores]
  simp only [bind, Except.bind, if_neg hne, pure, Except.pure]

theorem foldlM_passOn (sources : List String)
    (hsources : ∀ source ∈ sources, source ∈ g.paths ∧ 0 < g.outDegree source)
    (damping score : α) (scores : String → α) :
    sources.foldlM (g.passOn damping (g.listed scores)) score =
      .ok (sources.foldl (fun score source =>
        score + damping * (scores source / Scalar.ofNat (g.outDegree source))) score) := by
  induction sources generalizing score with
  | nil => rfl
  | cons source sources ih =>
    obtain ⟨hs, hpos⟩ := hsources source mem_cons_self
    rw [foldlM_cons, passOn_eq hs hpos]
    exact ih (fun s hm => hsources s (mem_cons_of_mem _ hm)) _

private theorem mapM_ok {β γ ε : Type} {f : β → Except ε γ} {h : β → γ} (xs : List β)
    (hf : ∀ x ∈ xs, f x = .ok (h x)) : xs.mapM f = .ok (xs.map h) := by
  induction xs with
  | nil => rfl
  | cons x xs ih =>
    rw [mapM_cons, hf x mem_cons_self, ih fun y hy => hf y (mem_cons_of_mem _ hy)]
    rfl

theorem Records.nextScores_eq (h : g.Records named linked) (damping : α)
    (scores : String → α) :
    g.nextScores damping (g.listed scores) = .ok (g.listed (g.round damping scores)) := by
  have hnode : ∀ node ∈ g.nodes,
      (do
        let score ← node.2.dependents.foldlM (g.passOn damping (g.listed scores)) (1.0 - damping)
        return (node.1, score)) =
      (Except.ok (node.1, g.round damping scores node.1) : Except UnknownPath (String × α)) := by
    intro node hnode
    have hdeps : node.2.dependents = g.importers node.1 := by
      rw [importers, find?_of_mem h.nodup hnode]
      rfl
    rw [hdeps, foldlM_passOn _ fun source hs =>
      ⟨h.mem_paths_of_mem_importers hs, h.outDegree_pos hs⟩]
    rfl
  rw [nextScores, mapM_ok _ hnode, listed, paths, map_map]
  rfl

/-! ## All rounds -/

theorem Records.scoresAfter_eq (h : g.Records named linked) (damping : α) (rounds : Nat)
    (scores : String → α) :
    g.scoresAfter damping rounds (g.listed scores) =
      .ok (g.listed ((g.round damping)^[rounds] scores)) := by
  induction rounds generalizing scores with
  | zero => rfl
  | succ rounds ih =>
    rw [scoresAfter, h.nextScores_eq]
    exact ih _

theorem Records.computeCentrality_eq (h : g.Records named linked) (damping : α)
    (rounds : Nat) :
    g.computeCentrality damping rounds =
      .ok (g.withScores (g.listed (g.scoreAfter damping rounds))) := by
  have hinit : g.initialScores = g.listed fun _ => 1.0 := by
    rw [listed, paths, map_map]
    rfl
  rw [computeCentrality, hinit, h.scoresAfter_eq]
  rfl

theorem centrality_withScores {path : String} (h : path ∈ g.paths) (hnodup : g.paths.Nodup)
    (scores : String → α) : (g.withScores (g.listed scores)).centrality path = scores path := by
  obtain ⟨node, hnode, rfl⟩ := exists_node h
  have hmem : (node.1, { node.2 with centrality := scores node.1 }) ∈
      (g.withScores (g.listed scores)).nodes := by
    refine mem_map.mpr ⟨node, hnode, ?_⟩
    rw [lookup_listed h scores]
  rw [centrality, find?_of_mem (by rwa [paths_withScores]) hmem]

/-- `C` tells the centrality of every node after every number of rounds. -/
def Centralities (g : Graph α) (damping : α) (C : Nat → String → α) : Prop :=
  ∀ rounds, ∃ scored, g.computeCentrality damping rounds = .ok scored ∧
    ∀ path ∈ g.paths, scored.centrality path = C rounds path

theorem Records.centralities (h : g.Records named linked) (damping : α) :
    g.Centralities damping (g.scoreAfter damping) :=
  fun rounds => ⟨_, h.computeCentrality_eq damping rounds,
    fun _ hp => centrality_withScores hp h.nodup _⟩

end SourceDigest.Graph
