import SourceDigest.Proofs.Analysis.Unseen
import SourceDigest.Proofs.Graph.Batch
import SourceDigest.Proofs.Graph.Rounds

/-! The ranking of a batch whose paths are pairwise different. Every file is ranked by its own
heuristic score, its own metrics and its centrality in the graph of the batch; neither the maps
under paths nor the memo of the run can be told from the outcome. -/

namespace SourceDigest.Ranking

open List

variable {α : Type} [Scalar α]

/-! ## Files on their own -/

def metricsOf (parser : Option Parser) (f : SourceFile) : Metrics α :=
  Analyzer.analyzeFresh (Strategy.chainFor parser) f.path f.content f.language

def importsOf (metrics : SourceFile → Metrics α) (files : List SourceFile) :
    List (String × List String) :=
  files.map fun f => (f.path, (metrics f).dependencies)

def centralityIn (s : Settings α) (metrics : SourceFile → Metrics α) (files : List SourceFile) :
    String → α :=
  (Graph.ofImports 0.0 (importsOf metrics files)).scoreAfter s.damping s.rounds

/-- The import graph of analyzed files after all rounds. -/
def scored (s : Settings α) (metrics : List (String × Metrics α)) : Graph α :=
  let graph := Graph.ofImports 0.0 (metrics.map fun entry => (entry.1, entry.2.dependencies))
  graph.withScores (graph.listed (graph.scoreAfter s.damping s.rounds))

def graphOf (s : Settings α) (metrics : SourceFile → Metrics α) (files : List SourceFile) :
    Graph α :=
  scored s (files.map fun f => (f.path, metrics f))

def plainOf (prioritized : List String) (f : SourceFile) : RankedFile α where
  path := f.path
  content := f.content
  language := f.language
  size := f.size
  importance := Score.heuristic f.path f.content prioritized
  heuristic := Score.heuristic f.path f.content prioritized
  metrics := none
  centrality := none

def structuralOf (s : Settings α) (prioritized : List String) (m : Metrics α) (centrality : α)
    (f : SourceFile) : RankedFile α where
  path := f.path
  content := f.content
  language := f.language
  size := f.size
  importance :=
    Score.blend (Score.heuristic f.path f.content prioritized)
      (Score.structural s.policy m centrality) s.weight
  heuristic := Score.heuristic f.path f.content prioritized
  metrics := some m
  centrality := some centrality

/-! ## Maps under paths -/

variable {files : List SourceFile}

private theorem nodup_keys {β : Type} (hpaths : (files.map (·.path)).Nodup)
    (v : SourceFile → β) : ((files.map fun f => (f.path, v f)).map (·.1)).Nodup := by
  rw [map_map]
  exact hpaths

private theorem lookup_path {β : Type} (hpaths : (files.map (·.path)).Nodup) (v : SourceFile → β)
    {f : SourceFile} (hf : f ∈ files) :
    (files.map fun f => (f.path, v f)).lookup f.path = some (v f) :=
  (Keyed.lookup_eq_some_iff (nodup_keys hpaths v)).mpr (mem_map.mpr ⟨f, hf, rfl⟩)

theorem heuristicOf_heuristics (hpaths : (files.map (·.path)).Nodup) (prioritized : List String)
    {f : SourceFile} (hf : f ∈ files) :
    heuristicOf (heuristics prioritized files : List (String × α)) f =
      Score.heuristic f.path f.content prioritized := by
  rw [heuristicOf, heuristics, Keyed.ofList_of_nodup (nodup_keys hpaths _),
    lookup_path hpaths _ hf]
  rfl

theorem plainFile_eq (hpaths : (files.map (·.path)).Nodup) (prioritized : List String)
    {f : SourceFile} (hf : f ∈ files) :
    plainFile (heuristics prioritized files : List (String × α)) f = plainOf prioritized f := by
  rw [plainFile, heuristicOf_heuristics hpaths prioritized hf, plainOf]

/-! ## The graph of a batch -/

theorem scoredGraph_eq_ok (s : Settings α) (metrics : List (String × Metrics α)) :
    scoredGraph s metrics = .ok (scored s metrics) :=
  (Graph.ofImports_records 0.0 _).computeCentrality_eq s.damping s.rounds

theorem graphOf_eq (s : Settings α) (metrics : SourceFile → Metrics α)
    (files : List SourceFile) :
    graphOf s metrics files =
      let graph := Graph.ofImports 0.0 (importsOf metrics files)
      graph.withScores (graph.listed (centralityIn s metrics files)) := by
  simp only [graphOf, scored, map_map]
  rfl

theorem keys_importsOf {β : Type} (metrics : SourceFile → Metrics β) (files : List SourceFile) :
    (importsOf metrics files).map (·.1) = files.map (·.path) :=
  map_map

theorem centrality_graphOf (s : Settings α) (metrics : SourceFile → Metrics α) {f : SourceFile}
    (hf : f ∈ files) :
    (graphOf s metrics files).centrality f.path = centralityIn s metrics files f.path := by
  have hnode : f.path ∈ (Graph.ofImports (0.0 : α) (importsOf metrics files)).paths := by
    rw [Graph.mem_paths_ofImports, keys_importsOf]
    exact mem_map_of_mem hf
  rw [graphOf_eq]
  exact Graph.centrality_withScores hnode (Graph.ofImports_records _ _).nodup _

/-- Files with different paths are ranked each by its own scores, metrics and centrality. -/
theorem map_structuralFile (hpaths : (files.map (·.path)).Nodup) (s : Settings α)
    (prioritized : List String) (metrics : SourceFile → Metrics α) :
    files.map (structuralFile s (heuristics prioritized files)
        (files.map fun f => (f.path, metrics f)) (graphOf s metrics files)) =
      files.map fun f =>
        structuralOf s prioritized (metrics f) (centralityIn s metrics files f.path) f := by
  apply map_congr_left
  intro f hf
  rw [structuralFile, heuristicOf_heuristics hpaths prioritized hf, lookup_path hpaths _ hf,
    centrality_graphOf s metrics hf, structuralOf]
  rfl

/-! ## The whole batch -/

/-- The ranking of a batch by the parts of names that are favoured and, with structural analysis,
by settings; and the analyzer after it. -/
def outcome (o : Options) (s : Settings α) (analyzer : Analyzer α) (files : List SourceFile)
    (prioritized : List String) : Ranking α × Analyzer α :=
  let scores : List (String × α) := heuristics prioritized files
  if o.useStructure.isSet then
    let (metrics, analyzer) := analyzeAll analyzer files
    let graph := scored s metrics
    (⟨o.useStructure, sorted (files.map (structuralFile s scores metrics graph)),
      some graph, some analyzer.memo⟩, analyzer)
  else (⟨o.useStructure, sorted (files.map (plainFile scores)), none, none⟩, analyzer)

section Run

variable {o : Options} {analyzer : Analyzer α} {prioritized : List String} {s : Settings α}

theorem ofFilesWith_of_fault {fault : Options.Fault}
    (hprioritized : prioritizedOf o files = .error fault) (analyzer : Analyzer α) :
    ofFilesWith o analyzer files = .error (.options fault) := by
  rw [ofFilesWith, hprioritized]
  rfl

theorem ofFilesWith_of_settings_fault {fault : Options.Fault}
    (hprioritized : prioritizedOf o files = .ok prioritized) (hset : o.useStructure.isSet = true)
    (hsettings : (settingsOf o files : Except _ (Settings α)) = .error fault)
    (analyzer : Analyzer α) : ofFilesWith o analyzer files = .error (.options fault) := by
  rw [ofFilesWith, hprioritized]
  simp only [Except.mapError, bind, Except.bind, if_pos hset, hsettings]

theorem ofFilesWith_plain (hprioritized : prioritizedOf o files = .ok prioritized)
    (hset : ¬ o.useStructure.isSet = true) (analyzer : Analyzer α) :
    ofFilesWith o analyzer files =
      .ok (⟨o.useStructure, sorted (files.map (plainFile (heuristics prioritized files))),
        none, none⟩, analyzer) := by
  rw [ofFilesWith, hprioritized]
  simp only [Except.mapError, bind, Except.bind, if_neg hset]
  rfl

theorem ofFilesWith_eq_ok (hprioritized : prioritizedOf o files = .ok prioritized)
    (hsettings : settingsOf o files = .ok s) (analyzer : Analyzer α) :
    ofFilesWith o analyzer files = .ok (outcome o s analyzer files prioritized) := by
  by_cases hset : o.useStructure.isSet = true
  · rw [ofFilesWith, hprioritized, outcome]
    simp only [Except.mapError, bind, Except.bind, if_pos hset, hsettings, scoredGraph_eq_ok]
    rfl
  · rw [ofFilesWith_plain hprioritized hset, outcome, if_neg hset]

/-- Files with different paths get a ranking of the metrics that the analyzer gives them. -/
theorem outcome_structural (hset : o.useStructure.isSet = true)
    (hpaths : (files.map (·.path)).Nodup) {metrics : SourceFile → Metrics α}
    (hmetrics : (analyzeAll analyzer files).1 = files.map fun f => (f.path, metrics f))
    (s : Settings α) (prioritized : List String) :
    (outcome o s analyzer files prioritized).1 =
      ⟨o.useStructure,
        sorted (files.map fun f =>
          structuralOf s prioritized (metrics f) (centralityIn s metrics files f.path) f),
        some (graphOf s metrics files), some (analyzeAll analyzer files).2.memo⟩ := by
  simp only [outcome, hset, if_true, hmetrics]
  rw [← map_structuralFile hpaths]
  rfl

end Run

/-! ## Options that can be read -/

/-- The settings of options with a whole number of rounds. -/
def settingsFor (o : Options) (rounds : Int) (files : List SourceFile) : Settings α where
  damping := o.centralityDamping.toScalar
  rounds := if files.isEmpty then 0 else rounds.toNat
  policy := policyOf o.scoringPolicy
  weight := o.structureWeight.toScalar

theorem settingsOf_eq_ok {o : Options} {rounds : Int} (hrounds : o.centralityRounds = .int rounds)
    (files : List SourceFile) :
    (settingsOf o files : Except _ (Settings α)) = .ok (settingsFor o rounds files) := by
  unfold settingsOf settingsFor
  rw [hrounds]
  cases files.isEmpty <;> rfl

theorem prioritizedOf_eq_ok {o : Options} (htexts : (Options.textItems o.prioritizeFiles).2 = none)
    (files : List SourceFile) :
    prioritizedOf o files = .ok (Options.textItems o.prioritizeFiles).1 := by
  simp only [prioritizedOf, htexts]

/-! ## New analyzers -/

theorem ofFiles_eq_ok {o : Options} {prioritized : List String} {s : Settings α}
    (hprioritized : prioritizedOf o files = .ok prioritized)
    (hsettings : settingsOf o files = .ok s) (parser : Option Parser) :
    ofFiles o parser files = .ok (outcome o s (Analyzer.new parser true) files prioritized).1 := by
  rw [ofFiles, ofFilesWith_eq_ok hprioritized hsettings]
  rfl

/-- There is a ranking for every whole number of rounds, where all favoured parts of names are
texts. -/
theorem exists_ranking {o : Options} {rounds : Int} (hrounds : o.centralityRounds = .int rounds)
    (htexts : (Options.textItems o.prioritizeFiles).2 = none) (parser : Option Parser)
    (files : List SourceFile) : ∃ ranking, ofFiles (α := α) o parser files = .ok ranking :=
  ⟨_, ofFiles_eq_ok (prioritizedOf_eq_ok htexts files) (settingsOf_eq_ok hrounds files) parser⟩

/-- What a ranking of files with different paths comes to. -/
theorem files_ofFiles (o : Options) (parser : Option Parser)
    (hpaths : (files.map (·.path)).Nodup) :
    (ofFiles (α := α) o parser files).map (·.files) =
      match prioritizedOf o files with
      | .error fault => .error (.options fault)
      | .ok prioritized =>
        if o.useStructure.isSet then
          match settingsOf o files with
          | .error fault => .error (.options fault)
          | .ok s =>
            .ok (sorted (files.map fun f => structuralOf s prioritized (metricsOf parser f)
              (centralityIn s (metricsOf parser) files f.path) f))
        else .ok (sorted (files.map (plainOf prioritized))) := by
  cases hprioritized : prioritizedOf o files with
  | error fault =>
    rw [ofFiles, ofFilesWith_of_fault hprioritized]
    rfl
  | ok prioritized =>
    by_cases hset : o.useStructure.isSet = true
    · dsimp only
      rw [if_pos hset]
      cases hsettings : (settingsOf o files : Except _ (Settings α)) with
      | error fault =>
        rw [ofFiles, ofFilesWith_of_settings_fault hprioritized hset hsettings]
        rfl
      | ok s =>
        have hmetrics : (analyzeAll (Analyzer.new parser true : Analyzer α) files).1 =
            files.map fun f => (f.path, metricsOf parser f) := analyzeAll_new parser true hpaths
        rw [ofFiles_eq_ok hprioritized hsettings, outcome_structural hset hpaths hmetrics]
        rfl
    · dsimp only
      rw [ofFiles, ofFilesWith_plain hprioritized hset, if_neg hset]
      have hfiles : files.map (plainFile (heuristics prioritized files : List (String × α))) =
          files.map (plainOf prioritized) :=
        map_congr_left fun f hf => plainFile_eq hpaths prioritized hf
      exact congrArg (fun ranked => Except.ok (sorted ranked)) hfiles

end SourceDigest.Ranking
