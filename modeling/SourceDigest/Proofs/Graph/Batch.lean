import SourceDigest.Proofs.Graph.Edges

/-! The graph of a batch: its nodes are the paths of the batch, and it records at both ends
exactly the edges that the import strings resolve to, file by file and in order. -/

namespace SourceDigest.Graph

open List

variable {α : Type}

def among (files : List (String × List String)) (path : String) : Bool :=
  decide (path ∈ files.map (·.1))

/-- The edges that the imports of one file give. -/
def importEdges (known : String → Bool) (file : String × List String) : List (String × String) :=
  (file.2.filterMap fun target => resolve target file.1 known).map fun found => (file.1, found)

def batchEdges (files : List (String × List String)) : List (String × String) :=
  files.flatMap (importEdges (among files))

theorem importEdges_cons (known : String → Bool) (path target : String)
    (targets : List String) :
    importEdges known (path, target :: targets) =
      importEdges known (path, [target]) ++ importEdges known (path, targets) := by
  simp only [importEdges, ← map_append, ← filterMap_append, singleton_append]

theorem known_of_resolve {target importer found : String} {known : String → Bool}
    (h : resolve target importer known = some found) : known found = true := by
  unfold resolve at h
  split at h
  · dsimp only at h
    split at h
    · cases h
    · exact find?_some h
  · cases h

/-! ## Nodes -/

theorem paths_foldl_addNode {g : Graph α} {added : List String}
    (h : g.paths = added.eraseDups) (score : α) (files : List (String × List String)) :
    (files.foldl (fun g file => g.addNode score file.1) g).paths =
      (added ++ files.map (·.1)).eraseDups := by
  induction files generalizing g added with
  | nil => simpa using h
  | cons file files ih =>
    rw [foldl_cons, ih (paths_addNode_of_eq h score file.1), append_assoc]
    rfl

theorem Records.foldl_addNode {g : Graph α} {named linked : List (String × String)}
    (h : g.Records named linked) (score : α) (files : List (String × List String)) :
    (files.foldl (fun g file => g.addNode score file.1) g).Records named linked := by
  induction files generalizing g with
  | nil => exact h
  | cons file files ih => exact ih (h.addNode score file.1)

/-! ## Imports -/

theorem paths_follow (known : String → Bool) (path : String) (g : Graph α) (target : String) :
    (follow known path g target).paths = g.paths := by
  unfold follow
  split
  · rfl
  · exact paths_addEdge g path _

theorem paths_foldl_follow (known : String → Bool) (path : String) (g : Graph α)
    (targets : List String) : (targets.foldl (follow known path) g).paths = g.paths := by
  induction targets generalizing g with
  | nil => rfl
  | cons target targets ih => rw [foldl_cons, ih, paths_follow]

theorem Records.follow {g : Graph α} {edges : List (String × String)}
    (h : g.Records edges edges) {known : String → Bool} {path : String} (hp : path ∈ g.paths)
    (hknown : ∀ p, known p = true → p ∈ g.paths) (target : String) :
    (Graph.follow known path g target).Records (edges ++ importEdges known (path, [target]))
      (edges ++ importEdges known (path, [target])) := by
  unfold Graph.follow importEdges
  cases hr : resolve target path known with
  | none =>
    simp only [filterMap_cons, filterMap_nil, hr, map_nil, append_nil]
    exact h.of_wiring_eq rfl
  | some found => simpa [hr] using h.addEdge hp (hknown found (known_of_resolve hr))

theorem Records.foldl_follow {g : Graph α} {edges : List (String × String)}
    (h : g.Records edges edges) {known : String → Bool} {path : String} (hp : path ∈ g.paths)
    (hknown : ∀ p, known p = true → p ∈ g.paths) (targets : List String) :
    (targets.foldl (Graph.follow known path) g).Records
      (edges ++ importEdges known (path, targets))
      (edges ++ importEdges known (path, targets)) := by
  induction targets generalizing g edges with
  | nil => simpa [importEdges] using h
  | cons target targets ih =>
    rw [foldl_cons, importEdges_cons, ← append_assoc]
    apply ih (h.follow hp hknown target)
    · rwa [paths_follow]
    · rwa [paths_follow]

theorem Records.foldl_files {g : Graph α} {edges : List (String × String)}
    (h : g.Records edges edges) {known : String → Bool}
    (hknown : ∀ p, known p = true → p ∈ g.paths) (files : List (String × List String))
    (hfiles : ∀ file ∈ files, file.1 ∈ g.paths) :
    (files.foldl (fun g file => file.2.foldl (Graph.follow known file.1) g) g).Records
      (edges ++ files.flatMap (importEdges known))
      (edges ++ files.flatMap (importEdges known)) := by
  induction files generalizing g edges with
  | nil => simpa using h
  | cons file files ih =>
    have hfile := h.foldl_follow (hfiles file mem_cons_self) hknown file.2
    rw [foldl_cons, flatMap_cons, ← append_assoc]
    apply ih hfile
    · rwa [paths_foldl_follow]
    · rw [paths_foldl_follow]
      exact fun f hf => hfiles f (mem_cons_of_mem _ hf)

theorem paths_foldl_files (known : String → Bool) (g : Graph α)
    (files : List (String × List String)) :
    (files.foldl (fun g file => file.2.foldl (Graph.follow known file.1) g) g).paths =
      g.paths := by
  induction files generalizing g with
  | nil => rfl
  | cons file files ih => rw [foldl_cons, ih, paths_foldl_follow]

/-! ## The whole batch -/

/-- The paths of a batch without any edge. -/
def bare (score : α) (files : List (String × List String)) : Graph α :=
  files.foldl (fun g file => g.addNode score file.1) empty

theorem paths_bare (score : α) (files : List (String × List String)) :
    (bare score files).paths = (files.map (·.1)).eraseDups := by
  have hempty : (empty : Graph α).paths = ([] : List String).eraseDups := rfl
  rw [bare, paths_foldl_addNode hempty, nil_append]

theorem mem_paths_bare {score : α} {files : List (String × List String)} {p : String} :
    p ∈ (bare score files).paths ↔ p ∈ files.map (·.1) := by
  rw [paths_bare, mem_eraseDups]

theorem contains_bare (score : α) (files : List (String × List String)) :
    (bare score files).contains = among files := by
  funext p
  rw [Bool.eq_iff_iff, contains_iff, mem_paths_bare, among, decide_eq_true_iff]

theorem ofImports_eq (score : α) (files : List (String × List String)) :
    ofImports score files =
      files.foldl (fun g file => file.2.foldl (Graph.follow (among files) file.1) g)
        (bare score files) := by
  rw [← contains_bare score files]
  rfl

theorem paths_ofImports (score : α) (files : List (String × List String)) :
    (ofImports score files).paths = (files.map (·.1)).eraseDups := by
  rw [ofImports_eq, paths_foldl_files, paths_bare]

theorem mem_paths_ofImports {score : α} {files : List (String × List String)} {p : String} :
    p ∈ (ofImports score files).paths ↔ p ∈ files.map (·.1) := by
  rw [paths_ofImports, mem_eraseDups]

/-- The graph of a batch records the same edges at both ends. -/
theorem ofImports_records (score : α) (files : List (String × List String)) :
    (ofImports score files).Records (batchEdges files) (batchEdges files) := by
  have hbare : (bare score files).Records [] [] := Records.empty.foldl_addNode score files
  rw [ofImports_eq]
  apply hbare.foldl_files
  · intro p hp
    exact mem_paths_bare.mpr (of_decide_eq_true hp)
  · intro file hf
    exact mem_paths_bare.mpr (mem_map_of_mem hf)

end SourceDigest.Graph
