import SourceDigest.Proofs.Graph.Batch

/-! Building the graph of a batch loses nothing and doubles nothing. No edge misses one of its
ends; every import string is either an edge or counted as unresolved; and every edge is found
once at each of its ends. -/

namespace SourceDigest.Graph

open List

variable {α : Type} {g : Graph α} {named linked : List (String × String)}

/-! ## Building that may fail -/

/-- Follows one import string; an edge that misses a path is a failure. -/
def tryFollow (known : String → Bool) (path : String) (g : Graph α) (target : String) :
    Except UnknownPath (Graph α) :=
  match resolve target path known with
  | none => .ok { g with unresolved := g.unresolved + 1 }
  | some found =>
    match g.addEdge path found with
    | (g, none) => .ok g
    | (_, some missing) => .error missing

/-- The graph of a batch, or the first path that an edge misses. -/
def tryOfImports (score : α) (files : List (String × List String)) :
    Except UnknownPath (Graph α) :=
  files.foldlM (fun g file => file.2.foldlM (tryFollow (bare score files).contains file.1) g)
    (bare score files)

theorem tryFollow_eq {known : String → Bool} {path : String} (hp : path ∈ g.paths)
    (hknown : ∀ p, known p = true → p ∈ g.paths) (target : String) :
    tryFollow known path g target = .ok (follow known path g target) := by
  unfold tryFollow follow
  cases hr : resolve target path known with
  | none => rfl
  | some found =>
    have hmissing := missing_addEdge hp (hknown found (known_of_resolve hr))
    dsimp only
    split
    · rename_i he
      rw [he]
    · rename_i he
      rw [he] at hmissing
      cases hmissing

/-- Steps that succeed wherever an invariant holds, and keep it, succeed one after another. -/
private theorem foldlM_eq_ok {σ β ε : Type} {f : σ → β → Except ε σ} {h : σ → β → σ}
    (inv : σ → Prop) (hinv : ∀ s x, inv s → inv (h s x)) (xs : List β)
    (hf : ∀ s, inv s → ∀ x ∈ xs, f s x = .ok (h s x)) {s : σ} (hs : inv s) :
    xs.foldlM f s = .ok (xs.foldl h s) := by
  induction xs generalizing s with
  | nil => rfl
  | cons x xs ih =>
    rw [foldlM_cons, hf s hs x mem_cons_self]
    exact ih (fun s hs y hy => hf s hs y (mem_cons_of_mem _ hy)) (hinv s x hs)

theorem tryOfImports_eq (score : α) (files : List (String × List String)) :
    tryOfImports score files = .ok (ofImports score files) := by
  -- following imports adds no node, so that the importer and all that is known stay nodes
  apply foldlM_eq_ok fun g : Graph α => g.paths = (bare score files).paths
  · intro g file hg
    exact (paths_foldl_follow _ _ _ _).trans hg
  · intro g hg file hf
    apply foldlM_eq_ok fun g : Graph α => g.paths = (bare score files).paths
    · intro g target hg
      exact (paths_follow _ _ _ _).trans hg
    · intro g hg target _
      apply tryFollow_eq
      · rw [hg]
        exact mem_paths_bare.mpr (mem_map_of_mem hf)
      · intro p hp
        rw [hg]
        exact contains_iff.mp hp
    · exact hg
  · rfl

/-! ## Dependencies -/

theorem targetsOf_importEdges (known : String → Bool) (file : String × List String)
    (path : String) :
    targetsOf (importEdges known file) path =
      if file.1 = path then file.2.filterMap fun target => resolve target path known else [] := by
  by_cases h : file.1 = path
  · simp [targetsOf, importEdges, filter_map, Function.comp_def, h]
  · simp [targetsOf, importEdges, filter_map, Function.comp_def, h]

theorem targetsOf_batch (known : String → Bool) (files : List (String × List String))
    (path : String) :
    targetsOf (files.flatMap (importEdges known)) path =
      ((files.filter fun file => decide (file.1 = path)).flatMap (·.2)).filterMap
        fun target => resolve target path known := by
  induction files with
  | nil => rfl
  | cons file files ih =>
    rw [flatMap_cons, targetsOf_append, targetsOf_importEdges, ih]
    by_cases h : file.1 = path <;> simp [h]

/-! ## Both ends of the edges -/

theorem count_targetsOf (edges : List (String × String)) (source target : String) :
    (targetsOf edges source).count target = edges.count (source, target) := by
  rw [targetsOf, count, countP_map, countP_filter, count]
  apply countP_congr
  intro e _
  simp [Prod.ext_iff, and_comm]

theorem count_sourcesOf (edges : List (String × String)) (source target : String) :
    (sourcesOf edges target).count source = edges.count (source, target) := by
  rw [sourcesOf, count, countP_map, countP_filter, count]
  apply countP_congr
  intro e _
  simp [Prod.ext_iff]

theorem Records.edgeCount_eq (h : g.Records named linked) : g.edgeCount = named.length := by
  have hnode : ∀ node ∈ g.nodes,
      node.2.outDegree = ((named.filter fun e => decide (e.1 = node.1)).map fun _ => 1).sum := by
    intro node hm
    rw [Links.outDegree, h.dependencies node hm, targetsOf, length_map]
    simp
  have hends := sum_filter_ends h.nodup (·.1) named h.sources fun _ => 1
  calc
    g.edgeCount = (g.nodes.map fun node => node.2.outDegree).sum := by
      rw [edgeCount, sum_eq_foldr, foldr_map]
    _ = (named.map fun _ => 1).sum := by
      rw [map_congr_left hnode, ← hends, paths, map_map]
      rfl
    _ = named.length := by simp

/-! ## Every import string -/

theorem unresolved_follow (known : String → Bool) (path : String) (g : Graph α)
    (target : String) :
    (importEdges known (path, [target])).length + (follow known path g target).unresolved =
      g.unresolved + 1 := by
  unfold importEdges follow
  cases hr : resolve target path known with
  | none => simp [hr]
  | some found =>
    simp only [filterMap_cons, filterMap_nil, hr, map_cons, map_nil, length_cons, length_nil,
      unresolved_addEdge]
    omega

theorem unresolved_foldl_follow (known : String → Bool) (path : String) (g : Graph α)
    (targets : List String) :
    (importEdges known (path, targets)).length +
        (targets.foldl (follow known path) g).unresolved =
      g.unresolved + targets.length := by
  induction targets generalizing g with
  | nil => simp [importEdges]
  | cons target targets ih =>
    have hone := unresolved_follow known path g target
    have hrest := ih (follow known path g target)
    rw [importEdges_cons, length_append, foldl_cons, length_cons]
    omega

theorem unresolved_foldl_files (known : String → Bool) (g : Graph α)
    (files : List (String × List String)) :
    (files.flatMap (importEdges known)).length +
        (files.foldl (fun g file => file.2.foldl (follow known file.1) g) g).unresolved =
      g.unresolved + (files.flatMap (·.2)).length := by
  induction files generalizing g with
  | nil => simp
  | cons file files ih =>
    have hone : (importEdges known file).length +
        (file.2.foldl (follow known file.1) g).unresolved = g.unresolved + file.2.length :=
      unresolved_foldl_follow known file.1 g file.2
    have hrest := ih (file.2.foldl (follow known file.1) g)
    rw [flatMap_cons, flatMap_cons, length_append, length_append, foldl_cons]
    omega

theorem unresolved_foldl_addNode (score : α) (files : List (String × List String))
    (g : Graph α) :
    (files.foldl (fun g file => g.addNode score file.1) g).unresolved = g.unresolved := by
  induction files generalizing g with
  | nil => rfl
  | cons file files ih =>
    rw [foldl_cons, ih, addNode]
    split <;> rfl

theorem unresolved_ofImports (score : α) (files : List (String × List String)) :
    (batchEdges files).length + (ofImports score files).unresolved =
      (files.flatMap (·.2)).length := by
  have h := unresolved_foldl_files (among files) (bare score files) files
  rw [bare, unresolved_foldl_addNode] at h
  rw [ofImports_eq]
  exact h.trans (Nat.zero_add _)

/-! ## The whole batch -/

/-- A graph holds a batch. Its nodes are the paths of the batch as they first came; each holds
what the import strings of all files of its path resolve to; both ends of the edges agree; and
edges and unresolved imports together are all import strings. -/
structure IsBatchGraph (files : List (String × List String)) (g : Graph α) : Prop where
  paths : g.paths = (files.map (·.1)).eraseDups
  dependencies : ∀ node ∈ g.nodes, node.2.dependencies =
    ((files.filter fun file => decide (file.1 = node.1)).flatMap (·.2)).filterMap
      fun target => resolve target node.1 (among files)
  mirror : ∀ a ∈ g.nodes, ∀ b ∈ g.nodes,
    a.2.dependencies.count b.1 = b.2.dependents.count a.1
  total : g.edgeCount + g.unresolved = (files.flatMap (·.2)).length

theorem ofImports_holds (score : α) (files : List (String × List String)) :
    tryOfImports score files = .ok (ofImports score files) ∧
      IsBatchGraph files (ofImports score files) := by
  have h := ofImports_records score files
  refine ⟨tryOfImports_eq score files, paths_ofImports score files, ?_, ?_, ?_⟩
  · intro node hm
    rw [h.dependencies node hm]
    exact targetsOf_batch _ files node.1
  · intro a ha b hb
    rw [h.dependencies a ha, h.dependents b hb, count_targetsOf, count_sourcesOf]
  · rw [h.edgeCount_eq]
    exact unresolved_ofImports score files

/-- One path in two files, and a file that imports itself and one that comes later. -/
example : (ofImports (0 : Rat) [("a.ts", ["./b", "lodash"]), ("b.ts", ["./b", "./a"]),
    ("a.ts", ["./b"])]).wiring =
      [("a.ts", ["b.ts", "b.ts"], ["b.ts"]),
        ("b.ts", ["b.ts", "a.ts"], ["a.ts", "b.ts", "a.ts"])] := by
  decide +kernel

end SourceDigest.Graph
