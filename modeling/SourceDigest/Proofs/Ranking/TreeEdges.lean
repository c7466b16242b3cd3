import SourceDigest.Proofs.Analysis.Captures
import SourceDigest.Proofs.Graph.Conservation
import SourceDigest.Proofs.Graph.History
import SourceDigest.Proofs.Graph.Resolution
import SourceDigest.Proofs.Ranking.Locality
import SourceDigest.Proofs.Ranking.Outcome

/-! Only syntax trees give edges. Whatever an analyzer with the usual chains has seen before, the
imports that resolve in a batch come from files whose tree was walked; what Python captures is
counted as unresolved, and where there is no parser every file keeps the share that no importer
adds to. -/

namespace SourceDigest

open List

variable {α : Type}

/-! ## Imports that lead nowhere -/

namespace Graph

variable {files : List (String × List String)}

/-- The import strings of a file that resolve to nothing. -/
def unresolvedOf (known : String → Bool) (file : String × List String) : List String :=
  file.2.filter fun target => (resolve target file.1 known).isNone

theorem unresolvedOf_eq_self {file : String × List String}
    (h : ∀ target ∈ file.2, isRelative target.toList = false) (known : String → Bool) :
    unresolvedOf known file = file.2 := by
  apply filter_eq_self.mpr
  intro target ht
  rw [resolve_of_not_relative (h target ht)]
  rfl

/-- An import string gives an edge or is unresolved. -/
theorem length_importEdges_add (known : String → Bool) (file : String × List String) :
    (importEdges known file).length + (unresolvedOf known file).length = file.2.length := by
  obtain ⟨path, targets⟩ := file
  induction targets with
  | nil => rfl
  | cons target targets ih =>
    simp only [importEdges, unresolvedOf, length_map] at ih ⊢
    cases hr : resolve target path known with
    | none =>
      simp only [filterMap_cons, filter_cons, hr, Option.isNone_none, if_true, length_cons]
      omega
    | some found =>
      simp only [filterMap_cons, filter_cons, hr, Option.isNone_some, Bool.false_eq_true,
        if_false, length_cons]
      omega

/-- The graph of a batch counts what each of its files imports in vain. -/
theorem unresolved_ofImports_eq (score : α) (files : List (String × List String)) :
    (ofImports score files).unresolved =
      (files.map fun file => (unresolvedOf (among files) file).length).sum := by
  have hsplit : (files.flatMap (·.2)).length = (batchEdges files).length +
      (files.map fun file => (unresolvedOf (among files) file).length).sum := by
    rw [length_flatMap, batchEdges, length_flatMap, ← sum_map_add]
    simp only [length_importEdges_add]
  have htotal := unresolved_ofImports score files
  omega

theorem exists_relative_of_mem_batchEdges {e : String × String} (h : e ∈ batchEdges files) :
    ∃ file ∈ files, file.1 = e.1 ∧ ∃ target ∈ file.2, isRelative target.toList = true := by
  obtain ⟨file, hfile, he⟩ := mem_flatMap.mp h
  obtain ⟨found, hfound, rfl⟩ := mem_map.mp he
  obtain ⟨target, htarget, hr⟩ := mem_filterMap.mp hfound
  exact ⟨file, hfile, rfl, target, htarget, isRelative_of_resolve hr⟩

/-- A file that an edge leaves has a relative import. -/
theorem exists_relative_of_outDegree_pos {g : Graph α}
    (h : g.Records (batchEdges files) (batchEdges files)) (hkeys : (files.map (·.1)).Nodup)
    {file : String × List String} (hfile : file ∈ files) (hpos : 0 < g.outDegree file.1) :
    ∃ target ∈ file.2, isRelative target.toList = true := by
  rw [h.outDegree_eq] at hpos
  obtain ⟨found, hfound⟩ := exists_mem_of_length_pos hpos
  obtain ⟨other, hother, hpath, hrelative⟩ :=
    exists_relative_of_mem_batchEdges (mem_targetsOf.mp hfound)
  obtain rfl := inj_on_of_nodup_map hkeys hother hfile hpath
  exact hrelative

theorem batchEdges_eq_nil
    (h : ∀ file ∈ files, ∀ target ∈ file.2, isRelative target.toList = false) :
    batchEdges files = [] := by
  apply eq_nil_iff_forall_not_mem.mpr
  intro e he
  obtain ⟨file, hfile, -, target, htarget, hrelative⟩ := exists_relative_of_mem_batchEdges he
  rw [h file hfile target htarget] at hrelative
  cases hrelative

/-! ## Graphs with scores -/

theorem contains_ofImports (score : α) (files : List (String × List String)) :
    (ofImports score files).contains = among files := by
  funext p
  rw [Bool.eq_iff_iff, contains_iff, mem_paths_ofImports, among, decide_eq_true_iff]

theorem contains_withScores (g : Graph α) (scores : Scores α) :
    (g.withScores scores).contains = g.contains := by
  funext p
  rw [Bool.eq_iff_iff, contains_iff, contains_iff, paths_withScores]

theorem withScores_records (score : α) (files : List (String × List String))
    (scores : Scores α) :
    ((ofImports score files).withScores scores).Records (batchEdges files) (batchEdges files) :=
  (ofImports_records score files).of_wiring_eq (wiring_withScores _ scores)

variable [Scalar α] {g : Graph α}

/-- Without importers a round gives a file its fixed share. -/
theorem scoreAfter_of_importers_nil {path : String} (h : g.importers path = []) (damping : α)
    {rounds : Nat} (hrounds : 0 < rounds) :
    g.scoreAfter damping rounds path = 1.0 - damping := by
  obtain ⟨before, rfl⟩ := Nat.exists_eq_add_of_lt hrounds
  rw [Nat.zero_add, scoreAfter_succ, round, h]
  rfl

section NoEdges

variable (hedges : batchEdges files = []) (score damping : α) {rounds : Nat}
  (hrounds : 0 < rounds)

include hedges hrounds

/-- Without edges every file of a batch is left with its fixed share. -/
theorem centrality_of_batchEdges_eq_nil {path : String} (hpath : path ∈ files.map (·.1)) :
    let graph := ofImports score files
    (graph.withScores (graph.listed (graph.scoreAfter damping rounds))).centrality path =
      1.0 - damping := by
  intro graph
  have hrecords : graph.Records [] [] := hedges ▸ ofImports_records score files
  rw [centrality_withScores (mem_paths_ofImports.mpr hpath) hrecords.nodup]
  exact scoreAfter_of_importers_nil (hrecords.importers_eq path) damping hrounds

theorem links_of_batchEdges_eq_nil :
    let graph := ofImports score files
    ∀ node ∈ (graph.withScores (graph.listed (graph.scoreAfter damping rounds))).nodes,
      node.2 = ⟨[], [], 1.0 - damping⟩ := by
  intro graph node hnode
  have hrecords := withScores_records score files (graph.listed (graph.scoreAfter damping rounds))
  rw [hedges] at hrecords
  have hpath : node.1 ∈ graph.paths := by
    rw [← paths_withScores graph (graph.listed (graph.scoreAfter damping rounds))]
    exact mem_map_of_mem hnode
  have hscore : centrality _ node.1 = 1.0 - damping :=
    centrality_of_batchEdges_eq_nil hedges score damping hrounds (mem_paths_ofImports.mp hpath)
  have hcentrality : node.2.centrality = 1.0 - damping := by
    rwa [centrality, find?_of_mem hrecords.nodup hnode] at hscore
  calc
    node.2 = ⟨node.2.dependencies, node.2.dependents, node.2.centrality⟩ := rfl
    _ = ⟨[], [], 1.0 - damping⟩ := by
      rw [hrecords.dependencies node hnode, hrecords.dependents node hnode, hcentrality]
      rfl

end NoEdges

end Graph

def RankedFile.imports (f : RankedFile α) : String × List String :=
  (f.path, f.metrics.elim [] Metrics.dependencies)

variable [Scalar α]

namespace Ranking

open Analyzer (Request Version start)

variable {files : List SourceFile} {o : Options} {rounds : Int}

/-! ## Analyzers in use -/

/-- The metrics of a file are those that a chain gives a version with its key. -/
def Told (chain : String → List (Strategy α)) (f : SourceFile) (m : Metrics α) : Prop :=
  ∃ v : Version, v.key = (versionOf f).key ∧ m = Analyzer.plain chain v

/-- An analyzer that has been in use goes through a batch as any other: what comes next is one more
request. -/
private theorem exists_foldl_analyze (chain : String → List (Strategy α)) (enabled : Bool)
    (requests : List Request) (found : List (String × Metrics α))
    (hpaths : (files.map (·.path)).Nodup) (hfound : ∀ f ∈ files, f.path ∉ found.map (·.1)) :
    ∃ told : List (String × Metrics α),
      (files.foldl (fun (found, a) f =>
        let (m, a) := Analyzer.analyze a f.path f.content f.language
        (Keyed.insert found f.path m, a)) (found, (start chain enabled).after requests)).1 =
          found ++ told ∧
      Forall₂ (fun f entry => entry.1 = f.path ∧ Told chain f entry.2) files told := by
  induction files generalizing requests found with
  | nil => exact ⟨[], by simp, .nil⟩
  | cons f files ih =>
    obtain ⟨hf, hpaths⟩ := nodup_cons.mp hpaths
    let m := ((start chain enabled).after requests).answer (versionOf f)
    have hinsert : Keyed.insert found f.path m = found ++ [(f.path, m)] :=
      Keyed.insert_of_notMem (hfound f mem_cons_self) m
    have hrest : ∀ g ∈ files, g.path ∉ (found ++ [(f.path, m)]).map (·.1) := by
      intro g hg hm
      rw [map_append, mem_append] at hm
      rcases hm with hm | hm
      · exact hfound g (mem_cons_of_mem f hg) hm
      · exact hf (mem_map.mpr ⟨g, hg, mem_singleton.mp hm⟩)
    obtain ⟨told, hrun, htold⟩ := ih (requests ++ [.analyze (versionOf f)]) _ hpaths hrest
    have hm : Told chain f m := Analyzer.exists_answer_eq_plain chain enabled requests (versionOf f)
    refine ⟨(f.path, m) :: told, ?_, .cons ⟨rfl, hm⟩ htold⟩
    rw [← hinsert, Analyzer.after_concat] at hrun
    refine hrun.trans ?_
    rw [hinsert, append_assoc, singleton_append]

/-- What is related one by one to a list without repetition is given by a function on it. -/
private theorem exists_map_eq {β γ : Type} {R : β → γ → Prop} {xs : List β} {ys : List γ}
    (h : Forall₂ R xs ys) (hnodup : xs.Nodup) (d : γ) :
    ∃ v : β → γ, ys = xs.map v ∧ ∀ x ∈ xs, R x (v x) := by
  classical
  induction h with
  | nil => exact ⟨fun _ => d, rfl, by simp⟩
  | @cons x y xs ys hxy hrest ih =>
    obtain ⟨hx, hnodup⟩ := nodup_cons.mp hnodup
    obtain ⟨v, rfl, hv⟩ := ih hnodup
    have hold : ∀ z ∈ xs, Function.update v x y z = v z := by
      intro z hz
      apply Function.update_of_ne
      rintro rfl
      exact hx hz
    refine ⟨Function.update v x y, ?_, ?_⟩
    · rw [map_cons, Function.update_self, map_congr_left hold]
    · intro z hz
      rcases mem_cons.mp hz with rfl | hz
      · rwa [Function.update_self]
      · rw [hold z hz]
        exact hv z hz

/-- Files with different paths get metrics each for itself, whatever was asked before. -/
theorem exists_analyzeAll_eq (chain : String → List (Strategy α)) (enabled : Bool)
    (requests : List Request) (hpaths : (files.map (·.path)).Nodup) :
    ∃ metrics : SourceFile → Metrics α,
      (analyzeAll ((start chain enabled).after requests) files).1 =
        files.map (fun f => (f.path, metrics f)) ∧
      ∀ f ∈ files, Told chain f (metrics f) := by
  obtain ⟨told, hrun, htold⟩ := exists_foldl_analyze chain enabled requests [] hpaths (by simp)
  obtain ⟨entry, rfl, hentry⟩ := exists_map_eq htold hpaths.of_map ("", Metrics.empty)
  refine ⟨fun f => (entry f).2, ?_, fun f hf => (hentry f hf).2⟩
  refine hrun.trans (map_congr_left fun f hf => ?_)
  exact Prod.ext (hentry f hf).1 rfl

theorem Told.imports {parser : Option Parser} {f : SourceFile} {m : Metrics α}
    (h : Told (Strategy.chainFor parser) f m) :
    ∃ content, Memo.keyFor f.path content = Memo.keyFor f.path f.content ∧
      Strategy.Imports parser content m := by
  obtain ⟨v, hkey, rfl⟩ := h
  have hpath : v.path = f.path := congrArg Prod.fst hkey
  have hcontent : rollingHash v.content = rollingHash f.content := congrArg Prod.snd hkey
  refine ⟨v.content, congrArg (Prod.mk f.path) hcontent, ?_⟩
  exact Strategy.analyzeFresh_imports parser v.path v.content v.language

/-! ## The graph of a run -/

section GraphOf

variable {s : Settings α} {metrics : SourceFile → Metrics α} {parser : Option Parser}

theorem graphOf_records (s : Settings α) (metrics : SourceFile → Metrics α)
    (files : List SourceFile) :
    (graphOf s metrics files).Records (Graph.batchEdges (importsOf metrics files))
      (Graph.batchEdges (importsOf metrics files)) := by
  rw [graphOf_eq]
  exact Graph.withScores_records _ _ _

theorem paths_graphOf (hpaths : (files.map (·.path)).Nodup) :
    (graphOf s metrics files).paths = files.map (·.path) := by
  rw [graphOf_eq, Graph.paths_withScores, Graph.paths_ofImports, keys_importsOf,
    Keyed.eraseDups_of_nodup hpaths]

theorem unresolved_graphOf :
    (graphOf s metrics files).unresolved =
      (files.map fun f => (Graph.unresolvedOf (graphOf s metrics files).contains
        (f.path, (metrics f).dependencies)).length).sum := by
  rw [graphOf_eq, Graph.contains_withScores, Graph.contains_ofImports]
  refine (Graph.unresolved_ofImports_eq _ _).trans ?_
  rw [importsOf, map_map]
  rfl

/-- An edge leaves a file only if its metrics are those of a tree. -/
theorem fromTree_of_outDegree_pos (hpaths : (files.map (·.path)).Nodup)
    (htold : ∀ f ∈ files, Told (Strategy.chainFor parser) f (metrics f)) {f : SourceFile}
    (hf : f ∈ files) (hpos : 0 < (graphOf s metrics files).outDegree f.path) :
    Strategy.FromTree (metrics f) := by
  have hkeys : ((importsOf metrics files).map (·.1)).Nodup := by rwa [keys_importsOf]
  have hfile : (f.path, (metrics f).dependencies) ∈ importsOf metrics files :=
    mem_map.mpr ⟨f, hf, rfl⟩
  obtain ⟨target, htarget, hrelative⟩ :=
    Graph.exists_relative_of_outDegree_pos (graphOf_records s metrics files) hkeys hfile hpos
  obtain ⟨content, -, himports⟩ := (htold f hf).imports
  rcases himports.tree with htree | hnone
  · exact htree
  · rw [hnone target htarget] at hrelative
    cases hrelative

theorem unresolvedOf_of_python {f : SourceFile} {m : Metrics α}
    (htold : Told (Strategy.chainFor parser) f m) (hname : m.strategy = "regex:python")
    (known : String → Bool) :
    (∃ content, Memo.keyFor f.path content = Memo.keyFor f.path f.content ∧
      m.dependencies = Surface.Python.modules content) ∧
    Graph.unresolvedOf known (f.path, m.dependencies) = m.dependencies := by
  obtain ⟨content, hkey, himports⟩ := htold.imports
  have hmodules := himports.python hname
  refine ⟨⟨content, hkey, hmodules⟩, ?_⟩
  apply Graph.unresolvedOf_eq_self
  intro target htarget
  rw [hmodules] at htarget
  exact Surface.Python.not_relative_of_mem_modules htarget

theorem batchEdges_withoutParser
    (htold : ∀ f ∈ files, Told (Strategy.chainFor none) f (metrics f)) :
    Graph.batchEdges (importsOf metrics files) = [] := by
  apply Graph.batchEdges_eq_nil
  intro file hfile
  obtain ⟨f, hf, rfl⟩ := mem_map.mp hfile
  obtain ⟨content, -, himports⟩ := (htold f hf).imports
  exact himports.withoutParser rfl

/-- Without a parser no file is linked, and none has more than its fixed share. -/
theorem graphOf_withoutParser (htold : ∀ f ∈ files, Told (Strategy.chainFor none) f (metrics f))
    (hpaths : (files.map (·.path)).Nodup) (hrounds : ∀ f ∈ files, 0 < s.rounds) :
    (∀ node ∈ (graphOf s metrics files).nodes, node.2 = ⟨[], [], 1.0 - s.damping⟩) ∧
      ∀ f ∈ files, centralityIn s metrics files f.path = 1.0 - s.damping := by
  have hedges := batchEdges_withoutParser htold
  constructor
  · intro node hnode
    have hpath : node.1 ∈ (graphOf s metrics files).paths := mem_map_of_mem hnode
    rw [paths_graphOf hpaths] at hpath
    obtain ⟨f, hf, -⟩ := mem_map.mp hpath
    rw [graphOf_eq] at hnode
    exact Graph.links_of_batchEdges_eq_nil hedges 0.0 s.damping (hrounds f hf) node hnode
  · intro f hf
    have hrecords : (Graph.ofImports (0.0 : α) (importsOf metrics files)).Records [] [] :=
      hedges ▸ Graph.ofImports_records _ _
    exact Graph.scoreAfter_of_importers_nil (hrecords.importers_eq f.path) s.damping (hrounds f hf)

end GraphOf

theorem rounds_settingsFor_pos (hrounds : 1 ≤ rounds) {f : SourceFile} (hf : f ∈ files) :
    0 < (settingsFor o rounds files : Settings α).rounds := by
  have hne : files.isEmpty = false := isEmpty_eq_false_iff.mpr (ne_nil_of_mem hf)
  simp only [settingsFor, hne, Bool.false_eq_true, if_false]
  omega

/-! ## Edges of a ranking -/

/-- The edges of a ranking. A file that an edge leaves has metrics of a syntax tree; what Python
captures is all unresolved; the graph counts what each file imports in vain; and without a parser
nothing is linked and every file has the same centrality. -/
structure TreeEdges (parser : Option Parser) (damping : α) (files : List SourceFile)
    (r : Ranking α) (graph : Graph α) : Prop where
  graph_eq : r.graph = some graph
  files_perm : (r.files.map RankedFile.source).Perm files
  paths : graph.paths = files.map (·.path)
  trees : ∀ f ∈ r.files, 0 < graph.outDegree f.path →
    ∃ m, f.metrics = some m ∧ Strategy.FromTree m
  python : ∀ f ∈ r.files, ∀ m, f.metrics = some m → m.strategy = "regex:python" →
    (∃ content, Memo.keyFor f.path content = Memo.keyFor f.path f.content ∧
      m.dependencies = Surface.Python.modules content) ∧
    Graph.unresolvedOf graph.contains f.imports = m.dependencies
  unresolved : graph.unresolved =
    (r.files.map fun f => (Graph.unresolvedOf graph.contains f.imports).length).sum
  withoutParser : parser = none →
    (∀ node ∈ graph.nodes, node.2 = ⟨[], [], 1.0 - damping⟩) ∧
      ∀ f ∈ r.files, f.centrality = some (1.0 - damping)

theorem outcome_treeEdges (parser : Option Parser) (enabled : Bool) (requests : List Request)
    (hset : o.useStructure.isSet = true) (hrounds : 1 ≤ rounds)
    (hpaths : (files.map (·.path)).Nodup) (prioritized : List String) :
    ∃ graph, TreeEdges parser (o.centralityDamping.toScalar : α) files
      (outcome o (settingsFor o rounds files)
        ((start (Strategy.chainFor parser) enabled).after requests) files prioritized).1 graph := by
  obtain ⟨metrics, hmetrics, htold⟩ := exists_analyzeAll_eq (α := α) (Strategy.chainFor parser)
    enabled requests hpaths
  rw [outcome_structural hset hpaths hmetrics]
  refine ⟨_, rfl, ?_, paths_graphOf hpaths, ?_, ?_, ?_, ?_⟩
  · exact source_sorted_perm _ fun f => rfl
  · refine forall_mem_sorted.mpr ?_
    intro f hf hpos
    exact ⟨metrics f, rfl, fromTree_of_outDegree_pos hpaths htold hf hpos⟩
  · refine forall_mem_sorted.mpr ?_
    intro f hf m hm hname
    obtain rfl := Option.some.inj hm
    exact unresolvedOf_of_python (htold f hf) hname _
  · rw [unresolved_graphOf]
    symm
    refine (((sorted_perm _).map _).sum_eq).trans ?_
    rw [map_map]
    rfl
  · rintro rfl
    obtain ⟨hlinks, hcentrality⟩ := graphOf_withoutParser htold hpaths
      fun f hf => rounds_settingsFor_pos (o := o) (α := α) hrounds hf
    exact ⟨hlinks, forall_mem_sorted.mpr fun f hf => congrArg some (hcentrality f hf)⟩

/-- Accepted options with structural analysis and a whole number of rounds give every batch of
files with different paths edges from syntax trees alone, whatever the parser does and whatever an
analyzer with the usual chains was asked before. There is such a ranking where all favoured parts
of names are texts. -/
theorem ofFilesWith_treeEdges (o : Options) (hcheck : o.check = .ok ())
    (hset : o.useStructure.isSet = true) {rounds : Int}
    (hrounds : o.centralityRounds = .int rounds) (parser : Option Parser) (enabled : Bool)
    (requests : List Request) (files : List SourceFile) (hpaths : (files.map (·.path)).Nodup) :
    (∀ r, ofFilesWith o ((start (α := α) (Strategy.chainFor parser) enabled).after requests) files =
        .ok r →
      ∃ graph, TreeEdges parser (o.centralityDamping.toScalar : α) files r.1 graph) ∧
    ((Options.textItems o.prioritizeFiles).2 = none →
      ∃ r, ofFilesWith o ((start (α := α) (Strategy.chainFor parser) enabled).after requests)
        files = .ok r) := by
  have hpositive : 1 ≤ rounds := by
    have haccepted := (Options.check_eq_ok_iff.mp hcheck).rounds
    rw [hrounds] at haccepted
    exact haccepted.le_of_int
  constructor
  · intro r hr
    obtain ⟨-, rfl⟩ := (ofFilesWith_eq_ok_iff hrounds).mp hr
    exact outcome_treeEdges parser enabled requests hset hpositive hpaths _
  · intro htexts
    exact ⟨_, (ofFilesWith_eq_ok_iff hrounds).mpr ⟨prioritizedOf_eq_ok htexts files, rfl⟩⟩

/-- Scripts that import each other beside a module of Python with relative imports. -/
def mixed : List SourceFile :=
  .ofText "lib/tools.py" "import os.path\nfrom .a import b\nfrom lib.a import b\n" "python" ::
    scripts

theorem ofFilesWith_treeEdges_mixed :
    ({ useStructure := .bool true } : Options).check = .ok () ∧
      (Value.bool true).isSet = true ∧ (mixed.map (·.path)).Nodup ∧
      ∀ parser ∈ [some bareImports, none], ∃ r graph,
        ofFiles (α := Rat) { useStructure := .bool true } parser mixed = .ok r ∧
          TreeEdges parser (Value.toScalar (.float 0.85)) mixed r graph := by
  have hcheck : ({ useStructure := .bool true } : Options).check = .ok () := rfl
  have hpaths : (mixed.map (·.path)).Nodup := by decide
  refine ⟨hcheck, rfl, hpaths, ?_⟩
  intro parser _
  obtain ⟨hedges, hexists⟩ := ofFilesWith_treeEdges (α := Rat) { useStructure := .bool true }
    hcheck rfl rfl parser true [] mixed hpaths
  obtain ⟨r, hr⟩ := hexists rfl
  obtain ⟨graph, hgraph⟩ := hedges r hr
  refine ⟨r.1, graph, ?_, hgraph⟩
  exact congrArg (Except.map (·.1)) hr

end Ranking

end SourceDigest
