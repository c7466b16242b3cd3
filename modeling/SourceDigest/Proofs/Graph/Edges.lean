import Mathlib.Algebra.BigOperators.Group.List.Basic
import SourceDigest.Graph.Build
import SourceDigest.Proofs.Keyed

/-! Every edge of a graph is written twice, once at each of its ends. `Records` tells both
halves by lists of edges in the order in which they came, so that sums over dependents and
sums over dependencies become sums over one list. The graph of a batch records the same list
at both ends. -/

namespace SourceDigest.Graph

open List

variable {α : Type}

/-! ## Nodes -/

theorem contains_iff {g : Graph α} {path : String} : g.contains path = true ↔ path ∈ g.paths :=
  Keyed.isSome_lookup_iff

theorem find?_of_mem {g : Graph α} (h : g.paths.Nodup) {node : String × Links α}
    (hnode : node ∈ g.nodes) : g.find? node.1 = some node.2 :=
  (Keyed.lookup_eq_some_iff h).mpr hnode

theorem addNode_of_mem {g : Graph α} {path : String} (h : path ∈ g.paths) (score : α) :
    g.addNode score path = g := by
  rw [addNode, if_pos (contains_iff.mpr h)]

theorem nodes_addNode_of_notMem {g : Graph α} {path : String} (h : path ∉ g.paths) (score : α) :
    (g.addNode score path).nodes = g.nodes ++ [(path, ⟨[], [], score⟩)] := by
  rw [addNode, if_neg (mt contains_iff.mp h)]

theorem mem_paths_addNode {g : Graph α} {score : α} {path p : String} :
    p ∈ (g.addNode score path).paths ↔ p ∈ g.paths ∨ p = path := by
  by_cases h : path ∈ g.paths
  · rw [addNode_of_mem h]
    constructor
    · exact Or.inl
    · rintro (hp | rfl)
      · exact hp
      · exact h
  · rw [paths, nodes_addNode_of_notMem h, map_append, mem_append]
    simp [paths]

/-- The paths of a graph stay distinct and in the order in which they first came. -/
theorem paths_addNode_of_eq {g : Graph α} {added : List String} (h : g.paths = added.eraseDups)
    (score : α) (path : String) :
    (g.addNode score path).paths = (added ++ [path]).eraseDups := by
  by_cases hp : path ∈ added
  · have hm : path ∈ g.paths := h ▸ mem_eraseDups.mpr hp
    rw [addNode_of_mem hm, Keyed.eraseDups_concat_of_mem hp, h]
  · have hm : path ∉ g.paths := h ▸ mt mem_eraseDups.mp hp
    rw [paths, nodes_addNode_of_notMem hm, map_append, Keyed.eraseDups_concat_of_notMem hp, ← h]
    rfl

@[simp] theorem paths_modify (g : Graph α) (path : String) (f : Links α → Links α) :
    (g.modify path f).paths = g.paths := by
  simp only [paths, modify, map_map]
  apply map_congr_left
  intro node _
  simp only [Function.comp_apply]
  split <;> rfl

/-- What is a node after a change of one path's links was one before. -/
theorem exists_of_mem_modify {g : Graph α} {path : String} {f : Links α → Links α}
    {node : String × Links α} (h : node ∈ (g.modify path f).nodes) :
    ∃ links, (node.1, links) ∈ g.nodes ∧ node.2 = if node.1 = path then f links else links := by
  obtain ⟨old, hold, rfl⟩ := mem_map.mp h
  refine ⟨old.2, ?_, ?_⟩
  · split <;> exact hold
  · by_cases hp : old.1 = path <;> simp [hp]

/-! ## Lists of edges -/

/-- Where the edges that leave a path lead, in order. -/
def targetsOf (edges : List (String × String)) (path : String) : List String :=
  (edges.filter fun e => decide (e.1 = path)).map (·.2)

/-- Where the edges that lead to a path start, in order. -/
def sourcesOf (edges : List (String × String)) (path : String) : List String :=
  (edges.filter fun e => decide (e.2 = path)).map (·.1)

theorem targetsOf_append (edges more : List (String × String)) (path : String) :
    targetsOf (edges ++ more) path = targetsOf edges path ++ targetsOf more path := by
  simp [targetsOf]

theorem sourcesOf_append (edges more : List (String × String)) (path : String) :
    sourcesOf (edges ++ more) path = sourcesOf edges path ++ sourcesOf more path := by
  simp [sourcesOf]

theorem mem_targetsOf {edges : List (String × String)} {path target : String} :
    target ∈ targetsOf edges path ↔ (path, target) ∈ edges := by
  simp [targetsOf]

theorem mem_sourcesOf {edges : List (String × String)} {path source : String} :
    source ∈ sourcesOf edges path ↔ (source, path) ∈ edges := by
  simp [sourcesOf]

/-! ## Sums over both ends of the edges -/

private theorem sum_indicator {M : Type} [AddCommMonoid M] {paths : List String}
    (hnodup : paths.Nodup) {path : String} (h : path ∈ paths) (x : M) :
    (paths.map fun p => if path = p then x else 0).sum = x := by
  induction paths with
  | nil => simp at h
  | cons p paths ih =>
    obtain ⟨hp, hnodup⟩ := nodup_cons.mp hnodup
    rcases mem_cons.mp h with rfl | hrest
    · have hzero : (paths.map fun p => if path = p then x else 0) = paths.map fun _ => 0 := by
        apply map_congr_left
        intro q hq
        have hne : path ≠ q := by
          rintro rfl
          exact hp hq
        exact if_neg hne
      simp [hzero]
    · have hne : path ≠ p := by
        rintro rfl
        exact hp hrest
      simp [hne, ih hnodup hrest]

/-- Summing over the edges at every node is summing over all edges. -/
theorem sum_filter_ends {M : Type} [AddCommMonoid M] {paths : List String}
    (hnodup : paths.Nodup) (key : String × String → String) (edges : List (String × String))
    (hkey : ∀ e ∈ edges, key e ∈ paths) (f : String × String → M) :
    (paths.map fun p => ((edges.filter fun e => decide (key e = p)).map f).sum).sum =
      (edges.map f).sum := by
  induction edges with
  | nil => simp
  | cons e edges ih =>
    have hsplit : ∀ p, (((e :: edges).filter fun e => decide (key e = p)).map f).sum =
        (if key e = p then f e else 0) +
          ((edges.filter fun e => decide (key e = p)).map f).sum := by
      intro p
      by_cases hp : key e = p <;> simp [hp]
    simp only [hsplit, sum_map_add]
    rw [ih fun e he => hkey e (mem_cons_of_mem _ he),
      sum_indicator hnodup (hkey e mem_cons_self), map_cons, sum_cons]

/-! ## What a graph records -/

/-- The dependencies of a graph are the edges `named` and its dependents the edges `linked`.
An edge that is linked is also named, and both its ends are nodes. -/
structure Records (g : Graph α) (named linked : List (String × String)) : Prop where
  nodup : g.paths.Nodup
  dependencies : ∀ node ∈ g.nodes, node.2.dependencies = targetsOf named node.1
  dependents : ∀ node ∈ g.nodes, node.2.dependents = sourcesOf linked node.1
  sources : ∀ e ∈ named, e.1 ∈ g.paths
  targets : ∀ e ∈ linked, e.2 ∈ g.paths
  subset : ∀ e ∈ linked, e ∈ named

variable {g : Graph α} {named linked : List (String × String)}

def wiring (g : Graph α) : List (String × List String × List String) :=
  g.nodes.map fun node => (node.1, node.2.dependencies, node.2.dependents)

theorem paths_eq_of_wiring_eq {g g' : Graph α} (h : g'.wiring = g.wiring) :
    g'.paths = g.paths := by
  have hkeys := congrArg (map (·.1)) h
  rwa [wiring, wiring, map_map, map_map] at hkeys

/-- What a graph records does not depend on what it counts and how it scores. -/
theorem Records.of_wiring_eq {g' : Graph α} (h : g.Records named linked)
    (hw : g'.wiring = g.wiring) : g'.Records named linked := by
  have hpaths := paths_eq_of_wiring_eq hw
  have hnode : ∀ node ∈ g'.nodes, ∃ old ∈ g.nodes,
      (old.1, old.2.dependencies, old.2.dependents) =
        (node.1, node.2.dependencies, node.2.dependents) := by
    intro node hm
    have hwired : (node.1, node.2.dependencies, node.2.dependents) ∈ g'.wiring :=
      mem_map_of_mem hm
    rw [hw] at hwired
    exact mem_map.mp hwired
  refine ⟨hpaths ▸ h.nodup, ?_, ?_, hpaths ▸ h.sources, hpaths ▸ h.targets, h.subset⟩
  · intro node hm
    obtain ⟨old, hold, he⟩ := hnode node hm
    simp only [Prod.mk.injEq] at he
    rw [← he.1, ← he.2.1]
    exact h.dependencies old hold
  · intro node hm
    obtain ⟨old, hold, he⟩ := hnode node hm
    simp only [Prod.mk.injEq] at he
    rw [← he.1, ← he.2.2]
    exact h.dependents old hold

/-! ## One step -/

theorem Records.empty : (Graph.empty : Graph α).Records [] [] := by
  constructor <;> simp [Graph.empty, paths]

theorem Records.addNode (h : g.Records named linked) (score : α) (path : String) :
    (g.addNode score path).Records named linked := by
  by_cases hp : path ∈ g.paths
  · rwa [addNode_of_mem hp]
  have hnodes := nodes_addNode_of_notMem hp score
  have hpaths : (g.addNode score path).paths = g.paths ++ [path] := by simp [paths, hnodes]
  -- no edge touches a path that is new
  have hnamed : targetsOf named path = [] := by
    apply eq_nil_iff_forall_not_mem.mpr
    intro target ht
    exact hp (h.sources _ (mem_targetsOf.mp ht))
  have hlinked : sourcesOf linked path = [] := by
    apply eq_nil_iff_forall_not_mem.mpr
    intro source hs
    exact hp (h.targets _ (mem_sourcesOf.mp hs))
  refine ⟨?_, ?_, ?_, ?_, ?_, h.subset⟩
  · rw [hpaths]
    apply nodup_append.mpr
    refine ⟨h.nodup, by simp, ?_⟩
    intro p hm q hq he
    rw [mem_singleton.mp hq] at he
    exact hp (he ▸ hm)
  · intro node hm
    rw [hnodes] at hm
    rcases mem_append.mp hm with hm | hm
    · exact h.dependencies node hm
    · obtain rfl := mem_singleton.mp hm
      exact hnamed.symm
  · intro node hm
    rw [hnodes] at hm
    rcases mem_append.mp hm with hm | hm
    · exact h.dependents node hm
    · obtain rfl := mem_singleton.mp hm
      exact hlinked.symm
  · intro e he
    exact mem_paths_addNode.mpr (Or.inl (h.sources e he))
  · intro e he
    exact mem_paths_addNode.mpr (Or.inl (h.targets e he))

/-- The first half of an edge. -/
theorem Records.addDependency (h : g.Records named linked) {source : String}
    (hs : source ∈ g.paths) (target : String) :
    (g.modify source fun links =>
      { links with dependencies := links.dependencies ++ [target] }).Records
        (named ++ [(source, target)]) linked := by
  refine ⟨by simpa using h.nodup, ?_, ?_, ?_, by simpa using h.targets, ?_⟩
  · intro node hm
    obtain ⟨links, hl, he⟩ := exists_of_mem_modify hm
    rw [he, targetsOf_append, ← h.dependencies _ hl]
    by_cases hn : node.1 = source
    · simp [hn, targetsOf]
    · simp [hn, Ne.symm hn, targetsOf]
  · intro node hm
    obtain ⟨links, hl, he⟩ := exists_of_mem_modify hm
    rw [he, ← h.dependents _ hl]
    split <;> rfl
  · intro e he
    rw [paths_modify]
    rcases mem_append.mp he with he | he
    · exact h.sources e he
    · rw [mem_singleton.mp he]
      exact hs
  · intro e he
    exact mem_append_left _ (h.subset e he)

/-- The second half of an edge. -/
theorem Records.addDependent (h : g.Records named linked) {source target : String}
    (ht : target ∈ g.paths) (hnamed : (source, target) ∈ named) :
    (g.modify target fun links =>
      { links with dependents := links.dependents ++ [source] }).Records
        named (linked ++ [(source, target)]) := by
  refine ⟨by simpa using h.nodup, ?_, ?_, by simpa using h.sources, ?_, ?_⟩
  · intro node hm
    obtain ⟨links, hl, he⟩ := exists_of_mem_modify hm
    rw [he, ← h.dependencies _ hl]
    split <;> rfl
  · intro node hm
    obtain ⟨links, hl, he⟩ := exists_of_mem_modify hm
    rw [he, sourcesOf_append, ← h.dependents _ hl]
    by_cases hn : node.1 = target
    · simp [hn, sourcesOf]
    · simp [hn, Ne.symm hn, sourcesOf]
  · intro e he
    rw [paths_modify]
    rcases mem_append.mp he with he | he
    · exact h.targets e he
    · rw [mem_singleton.mp he]
      exact ht
  · intro e he
    rcases mem_append.mp he with he | he
    · exact h.subset e he
    · rw [mem_singleton.mp he]
      exact hnamed

theorem missing_addEdge {source target : String} (hs : source ∈ g.paths)
    (ht : target ∈ g.paths) : (g.addEdge source target).2 = none := by
  rw [← paths_modify g source fun links =>
    { links with dependencies := links.dependencies ++ [target] }] at ht
  rw [addEdge, if_pos (contains_iff.mpr hs)]
  dsimp only
  rw [if_pos (contains_iff.mpr ht)]

theorem unresolved_addEdge (g : Graph α) (source target : String) :
    (g.addEdge source target).1.unresolved = g.unresolved := by
  unfold addEdge
  split
  · dsimp only
    split <;> rfl
  · rfl

theorem paths_addEdge (g : Graph α) (source target : String) :
    (g.addEdge source target).1.paths = g.paths := by
  unfold addEdge
  split
  · dsimp only
    split <;> simp
  · rfl

/-- Without a node for its source an edge changes nothing. -/
theorem addEdge_of_notMem {source : String} (hs : source ∉ g.paths) (target : String) :
    (g.addEdge source target).1 = g := by
  rw [addEdge, if_neg (mt contains_iff.mp hs)]

/-- Without a node for its target an edge is written at its source alone. -/
theorem Records.addEdge_of_notMem_target (h : g.Records named linked) {source target : String}
    (hs : source ∈ g.paths) (ht : target ∉ g.paths) :
    (g.addEdge source target).1.Records (named ++ [(source, target)]) linked := by
  have hd := h.addDependency hs target
  have ht' := ht
  rw [← paths_modify g source fun links =>
    { links with dependencies := links.dependencies ++ [target] }] at ht'
  rw [Graph.addEdge, if_pos (contains_iff.mpr hs)]
  dsimp only
  rw [if_neg (mt contains_iff.mp ht')]
  exact hd

theorem Records.addEdge (h : g.Records named linked) {source target : String}
    (hs : source ∈ g.paths) (ht : target ∈ g.paths) :
    (g.addEdge source target).1.Records (named ++ [(source, target)])
      (linked ++ [(source, target)]) := by
  have hd := h.addDependency hs target
  have ht' := ht
  rw [← paths_modify g source fun links =>
    { links with dependencies := links.dependencies ++ [target] }] at ht'
  rw [Graph.addEdge, if_pos (contains_iff.mpr hs)]
  dsimp only
  rw [if_pos (contains_iff.mpr ht')]
  exact hd.addDependent ht' (mem_append_right _ (mem_singleton.mpr rfl))

end SourceDigest.Graph
