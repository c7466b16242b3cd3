import SourceDigest.Proofs.Options.Accepted
import SourceDigest.Proofs.Ranking.Batch
import SourceDigest.Proofs.Ranking.Reordering
import SourceDigest.Proofs.Score.Blend

/-! What a ranking presents. With a whole number of rounds a run is a function of the options, the
analyzer and the batch; without rounding every file of the batch stands in its place once, with an
importance between its two scores, and a structural score of no weight changes nothing. -/

namespace SourceDigest

variable {α : Type} [Scalar α]

def RankedFile.source (f : RankedFile α) : SourceFile :=
  ⟨f.path, f.content, f.language, f.size⟩

/-- A ranked file without what structural analysis alone tells. -/
def RankedFile.withoutStructure (f : RankedFile α) : RankedFile α :=
  { f with metrics := none, centrality := none }

namespace Ranking

open List

variable {files : List SourceFile} {o : Options} {rounds : Int}

/-! ## One run -/

/-- With a whole number of rounds nothing but the favoured parts of names can fail. -/
theorem ofFilesWith_eq (hrounds : o.centralityRounds = .int rounds) (analyzer : Analyzer α)
    (files : List SourceFile) :
    ofFilesWith o analyzer files =
      ((prioritizedOf o files).mapError Fault.options).map
        (outcome o (settingsFor o rounds files) analyzer files) := by
  cases hprioritized : prioritizedOf o files with
  | error fault => exact ofFilesWith_of_fault hprioritized analyzer
  | ok prioritized =>
    exact ofFilesWith_eq_ok hprioritized (settingsOf_eq_ok hrounds files) analyzer

theorem eq_of_prioritizedOf_eq_ok {prioritized : List String}
    (h : prioritizedOf o files = .ok prioritized) :
    prioritized = (Options.textItems o.prioritizeFiles).1 := by
  unfold prioritizedOf at h
  dsimp only at h
  split at h
  · exact (Except.ok.inj h).symm
  · split at h
    · exact (Except.ok.inj h).symm
    · cases h

theorem ofFilesWith_eq_ok_iff (hrounds : o.centralityRounds = .int rounds)
    {analyzer : Analyzer α} {r : Ranking α × Analyzer α} :
    ofFilesWith o analyzer files = .ok r ↔
      prioritizedOf o files = .ok (Options.textItems o.prioritizeFiles).1 ∧
        outcome o (settingsFor o rounds files) analyzer files
          (Options.textItems o.prioritizeFiles).1 = r := by
  rw [ofFilesWith_eq hrounds]
  cases h : prioritizedOf o files with
  | error fault => simp [Except.mapError, Except.map]
  | ok prioritized =>
    obtain rfl := eq_of_prioritizedOf_eq_ok h
    simp [Except.mapError, Except.map]

/-! ## Order -/

theorem strict_of_before {a b : RankedFile Rat} (h : before a b = true) (hne : a.path ≠ b.path) :
    b.importance < a.importance ∨ a.importance = b.importance ∧ a.path < b.path := by
  rcases before_iff.mp h with hlt | ⟨hnot, hpath⟩
  · exact Or.inl hlt
  · rcases (not_lt.mp hnot).lt_or_eq with hlt | heq
    · exact Or.inl hlt
    · exact Or.inr ⟨heq.symm, lt_of_le_of_ne hpath hne⟩

/-- Files with different paths are ordered strictly. -/
theorem strict_sorted {ranked : List (RankedFile Rat)} (hpaths : (ranked.map (·.path)).Nodup) :
    (sorted ranked).Pairwise fun a b =>
      b.importance < a.importance ∨ a.importance = b.importance ∧ a.path < b.path := by
  have hne : (sorted ranked).Pairwise fun a b => a.path ≠ b.path :=
    pairwise_map.mp (((sorted_perm ranked).map _).nodup_iff.mpr hpaths)
  exact (pairwise_sorted (comparable_rat _)).imp₂ (fun _ _ => strict_of_before) hne

/-- Ranking each file of a batch gives back the batch. -/
theorem source_sorted_perm (rank : SourceFile → RankedFile α)
    (hrank : ∀ f, (rank f).source = f) :
    ((sorted (files.map rank)).map RankedFile.source).Perm files := by
  have hsource : (files.map rank).map RankedFile.source = files := by
    rw [map_map]
    exact map_id'' hrank files
  have hperm := (sorted_perm (files.map rank)).map RankedFile.source
  rwa [hsource] at hperm

/-! ## Metrics of a batch -/

private theorem mem_keys_foldl_analyze {path : String} (files : List SourceFile)
    (a : Analyzer α) (found : List (String × Metrics α))
    (h : path ∈ found.map (·.1) ∨ path ∈ files.map (·.path)) :
    path ∈ ((files.foldl (fun (found, a) f =>
      let (m, a) := a.analyze f.path f.content f.language
      (Keyed.insert found f.path m, a)) (found, a)).1).map (·.1) := by
  induction files generalizing a found with
  | nil => simpa using h
  | cons f files ih =>
    apply ih
    rw [Keyed.mem_keys_insert]
    rw [map_cons, mem_cons] at h
    tauto

/-- Whatever analyzer there is, it gives every file of a batch metrics. -/
theorem lookup_analyzeAll (analyzer : Analyzer α) {f : SourceFile} (hf : f ∈ files) :
    ∃ m, (analyzeAll analyzer files).1.lookup f.path = some m := by
  apply Option.isSome_iff_exists.mp
  rw [Keyed.isSome_lookup_iff]
  exact mem_keys_foldl_analyze files analyzer [] (Or.inr (mem_map_of_mem hf))

/-! ## What a ranking presents -/

/-- The importance of a ranked file lies between its two scores, of which the structural one is
that of the metrics found for its path and of its centrality. -/
def IsBlended (policy : Score.Policy) (metrics : List (String × Metrics Rat)) (graph : Graph Rat)
    (f : RankedFile Rat) : Prop :=
  ∃ m, metrics.lookup f.path = some m ∧ f.metrics = some m ∧
    f.centrality = some (graph.centrality f.path) ∧
    min f.heuristic (Score.structural policy m (graph.centrality f.path)) ≤ f.importance ∧
    f.importance ≤ max f.heuristic (Score.structural policy m (graph.centrality f.path))

/-- A ranking presents every file of a batch once, the more important ones first and those of one
importance by path. -/
structure IsRankingOf (o : Options) (metrics : List (String × Metrics Rat))
    (files : List SourceFile) (r : Ranking Rat) : Prop where
  files_perm : (r.files.map RankedFile.source).Perm files
  ordered : r.files.Pairwise fun a b =>
    b.importance < a.importance ∨ a.importance = b.importance ∧ a.path < b.path
  nonneg : ∀ f ∈ r.files, 0 ≤ f.importance
  heuristic : ∀ f ∈ r.files, f.heuristic =
    Score.heuristic f.path f.content (Options.textItems o.prioritizeFiles).1
  plain : o.useStructure.isSet = false → ∀ f ∈ r.files, f.importance = f.heuristic
  blended : o.useStructure.isSet = true → ∃ graph, r.graph = some graph ∧
    ∀ f ∈ r.files, IsBlended (policyOf o.scoringPolicy) metrics graph f

theorem isBlended_structuralFile {s : Settings Rat} (h0 : 0 ≤ s.weight) (h1 : s.weight ≤ 1)
    (scores : List (String × Rat)) {metrics : List (String × Metrics Rat)} (graph : Graph Rat)
    {f : SourceFile} {m : Metrics Rat} (hm : metrics.lookup f.path = some m) :
    IsBlended s.policy metrics graph (structuralFile s scores metrics graph f) := by
  have hget : (metrics.lookup f.path).getD Metrics.empty = m := by rw [hm, Option.getD_some]
  refine ⟨m, hm, congrArg some hget, rfl, ?_⟩
  have himportance : (structuralFile s scores metrics graph f).importance =
      Score.blend (heuristicOf scores f)
        (Score.structural s.policy m (graph.centrality f.path)) s.weight := by
    rw [← hget]
    rfl
  rw [himportance]
  exact Score.blend_between h0 h1

theorem IsBlended.nonneg {policy : Score.Policy} {metrics : List (String × Metrics Rat)}
    {graph : Graph Rat} {f : RankedFile Rat} (h : IsBlended policy metrics graph f)
    (hheuristic : 0 ≤ f.heuristic) : 0 ≤ f.importance := by
  obtain ⟨m, -, -, -, hmin, -⟩ := h
  exact (le_min hheuristic (Score.structural_nonneg policy m _)).trans hmin

/-- What holds of a ranked batch is what holds of each file as it was ranked. -/
theorem forall_mem_sorted {rank : SourceFile → RankedFile α} {p : RankedFile α → Prop} :
    (∀ f ∈ sorted (files.map rank), p f) ↔ ∀ f ∈ files, p (rank f) := by
  simp only [(sorted_perm _).mem_iff, forall_mem_map]

theorem strict_sorted_map (hpaths : (files.map (·.path)).Nodup)
    (rank : SourceFile → RankedFile Rat) (hrank : ∀ f, (rank f).source = f) :
    (sorted (files.map rank)).Pairwise fun a b =>
      b.importance < a.importance ∨ a.importance = b.importance ∧ a.path < b.path := by
  apply strict_sorted
  have hkeys : (files.map rank).map (·.path) = files.map (·.path) := by
    rw [map_map]
    exact map_congr_left fun f _ => congrArg SourceFile.path (hrank f)
  rwa [hkeys]

theorem outcome_presents {s : Settings Rat} (h0 : 0 ≤ s.weight) (h1 : s.weight ≤ 1)
    (hpolicy : s.policy = policyOf o.scoringPolicy) (analyzer : Analyzer Rat)
    (hpaths : (files.map (·.path)).Nodup) :
    IsRankingOf o (analyzeAll analyzer files).1 files
      (outcome o s analyzer files (Options.textItems o.prioritizeFiles).1).1 := by
  have hheuristic : ∀ f ∈ files,
      heuristicOf (heuristics (Options.textItems o.prioritizeFiles).1 files : List (String × Rat))
        f = Score.heuristic f.path f.content (Options.textItems o.prioritizeFiles).1 :=
    fun f hf => heuristicOf_heuristics hpaths _ hf
  have hnonneg : ∀ f ∈ files, 0 ≤
      heuristicOf (heuristics (Options.textItems o.prioritizeFiles).1 files : List (String × Rat))
        f := by
    intro f hf
    rw [hheuristic f hf]
    exact Score.heuristic_nonneg _ _ _
  unfold outcome
  by_cases hset : o.useStructure.isSet = true
  · have hblended : ∀ f ∈ files, IsBlended (policyOf o.scoringPolicy)
        (analyzeAll analyzer files).1
        (scored s (analyzeAll analyzer files).1)
        (structuralFile s (heuristics (Options.textItems o.prioritizeFiles).1 files)
          (analyzeAll analyzer files).1 (scored s (analyzeAll analyzer files).1) f) := by
      intro f hf
      obtain ⟨m, hm⟩ := lookup_analyzeAll analyzer hf
      rw [← hpolicy]
      exact isBlended_structuralFile h0 h1 _ _ hm
    rw [if_pos hset]
    refine ⟨source_sorted_perm _ fun f => rfl, strict_sorted_map hpaths _ fun f => rfl,
      forall_mem_sorted.mpr ?_, forall_mem_sorted.mpr hheuristic, ?_,
      fun _ => ⟨_, rfl, forall_mem_sorted.mpr hblended⟩⟩
    · exact fun f hf => (hblended f hf).nonneg (hnonneg f hf)
    · intro hunset
      rw [hset] at hunset
      cases hunset
  · rw [if_neg hset]
    exact ⟨source_sorted_perm _ fun f => rfl, strict_sorted_map hpaths _ fun f => rfl,
      forall_mem_sorted.mpr hnonneg, forall_mem_sorted.mpr hheuristic,
      fun _ => forall_mem_sorted.mpr fun f _ => rfl, fun h => absurd h hset⟩

/-- Accepted options with a whole number of rounds rank every batch of files with different paths
as it is to be presented, whatever the analyzer has seen before. There is such a ranking where all
favoured parts of names are texts. -/
theorem ofFilesWith_presents (o : Options) (hcheck : o.check = .ok ()) {rounds : Int}
    (hrounds : o.centralityRounds = .int rounds) (analyzer : Analyzer Rat)
    (files : List SourceFile) (hpaths : (files.map (·.path)).Nodup) :
    (∀ r, ofFilesWith o analyzer files = .ok r →
      IsRankingOf o (analyzeAll analyzer files).1 files r.1) ∧
    ((Options.textItems o.prioritizeFiles).2 = none →
      ∃ r, ofFilesWith o analyzer files = .ok r) := by
  constructor
  · intro r hr
    obtain ⟨-, rfl⟩ := (ofFilesWith_eq_ok_iff hrounds).mp hr
    have hweight := (Options.check_eq_ok_iff.mp hcheck).weight.bounds
    exact outcome_presents hweight.1 hweight.2 rfl analyzer hpaths
  · intro htexts
    exact ⟨_, (ofFilesWith_eq_ok_iff hrounds).mpr ⟨prioritizedOf_eq_ok htexts files, rfl⟩⟩

theorem ofFilesWith_presents_scripts :
    ({ useStructure := .bool true } : Options).check = .ok () ∧
      (scripts.map (·.path)).Nodup ∧
      ∃ r, ofFiles (α := Rat) { useStructure := .bool true } bareImports scripts = .ok r ∧
        IsRankingOf { useStructure := .bool true }
          (analyzeAll (Analyzer.new bareImports true) scripts).1 scripts r := by
  have hcheck : ({ useStructure := .bool true } : Options).check = .ok () := rfl
  have hpaths : (scripts.map (·.path)).Nodup := by decide
  obtain ⟨hpresents, hexists⟩ := ofFilesWith_presents { useStructure := .bool true } hcheck
    rfl (Analyzer.new bareImports true) scripts hpaths
  obtain ⟨r, hr⟩ := hexists rfl
  refine ⟨hcheck, hpaths, r.1, ?_, hpresents r hr⟩
  rw [ofFiles, hr]
  rfl

/-! ## No weight -/

theorem withoutStructure_structuralFile {s : Settings Rat} (hweight : s.weight = 0)
    (scores : List (String × Rat)) (metrics : List (String × Metrics Rat)) (graph : Graph Rat)
    (f : SourceFile) :
    (structuralFile s scores metrics graph f).withoutStructure = plainFile scores f := by
  unfold structuralFile plainFile RankedFile.withoutStructure
  rw [hweight]
  simp only [Score.blend_zero]

/-- The order does not look at what structural analysis alone tells. -/
theorem map_withoutStructure_sorted (ranked : List (RankedFile α)) :
    (sorted ranked).map RankedFile.withoutStructure =
      sorted (ranked.map RankedFile.withoutStructure) :=
  map_mergeSort fun _ _ _ _ => rfl

theorem outcome_weightless {s : Settings Rat} (hweight : s.weight = 0)
    (analyzer : Analyzer Rat) (files : List SourceFile) (prioritized : List String)
    {on off : Value} (hon : on.isSet = true) (hoff : off.isSet = false) :
    (outcome { o with useStructure := on } s analyzer files prioritized).1.files.map
        RankedFile.withoutStructure =
      (outcome { o with useStructure := off } s analyzer files prioritized).1.files := by
  simp only [outcome, hon, hoff, if_true, map_withoutStructure_sorted, map_map]
  exact congrArg sorted (map_congr_left fun f _ => withoutStructure_structuralFile hweight _ _ _ f)

/-- Where the structural score has no weight, a ranking with structural analysis has the files, the
order and the importances of the one without it. It is there for every whole number of rounds where
all favoured parts of names are texts. -/
theorem ofFilesWith_weightless (o : Options)
    (hweight : Amount.ofValue? o.structureWeight = some (.exact 0)) {rounds : Int}
    (hrounds : o.centralityRounds = .int rounds) (analyzer : Analyzer Rat)
    (files : List SourceFile) (on off : Value) (hon : on.isSet = true)
    (hoff : off.isSet = false) :
    (ofFilesWith { o with useStructure := on } analyzer files).map
        (fun r => r.1.files.map RankedFile.withoutStructure) =
      (ofFilesWith { o with useStructure := off } analyzer files).map (fun r => r.1.files) ∧
    ((Options.textItems o.prioritizeFiles).2 = none →
      ∃ r, ofFilesWith { o with useStructure := on } analyzer files = .ok r) := by
  constructor
  · rw [ofFilesWith_eq (o := { o with useStructure := on }) hrounds,
      ofFilesWith_eq (o := { o with useStructure := off }) hrounds]
    change ((prioritizedOf o files).mapError _ |>.map _).map _ =
      ((prioritizedOf o files).mapError _ |>.map _).map _
    cases prioritizedOf o files with
    | error fault => rfl
    | ok prioritized =>
      have hzero : (settingsFor o rounds files : Settings Rat).weight = 0 :=
        Options.toScalar_of_exact hweight
      exact congrArg Except.ok (outcome_weightless hzero analyzer files prioritized hon hoff)
  · intro htexts
    exact ⟨_, (ofFilesWith_eq_ok_iff (o := { o with useStructure := on }) hrounds).mpr
      ⟨prioritizedOf_eq_ok htexts files, rfl⟩⟩

theorem ofFilesWith_weightless_scripts :
    Amount.ofValue? (.float 0.0) = some (.exact 0) ∧
      ∃ structural plain : Ranking Rat,
        ofFiles { structureWeight := .float 0.0, useStructure := .bool true } bareImports
            scripts = .ok structural ∧
          ofFiles { structureWeight := .float 0.0, useStructure := .bool false } bareImports
            scripts = .ok plain ∧
          structural.files.map (·.path) = plain.files.map (·.path) ∧
          structural.files.map (·.importance) = plain.files.map (·.importance) := by
  have hweight : Amount.ofValue? (.float 0.0) = some (.exact 0) := by decide +kernel
  obtain ⟨hfiles, hexists⟩ := ofFilesWith_weightless { structureWeight := .float 0.0 } hweight rfl
    (Analyzer.new bareImports true) scripts (.bool true) (.bool false) rfl rfl
  obtain ⟨structural, hstructural⟩ := hexists rfl
  rw [hstructural] at hfiles
  cases hplain : ofFilesWith { structureWeight := .float 0.0, useStructure := .bool false }
      (Analyzer.new bareImports true : Analyzer Rat) scripts with
  | error fault =>
    rw [hplain] at hfiles
    cases hfiles
  | ok plain =>
    rw [hplain] at hfiles
    have hsame : structural.1.files.map RankedFile.withoutStructure = plain.1.files :=
      Except.ok.inj hfiles
    refine ⟨hweight, structural.1, plain.1, ?_, ?_, ?_, ?_⟩
    · rw [ofFiles, hstructural]
      rfl
    · rw [ofFiles, hplain]
      rfl
    · rw [← hsame, map_map]
      rfl
    · rw [← hsame, map_map]
      rfl

end Ranking

end SourceDigest
