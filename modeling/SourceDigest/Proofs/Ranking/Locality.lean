import SourceDigest.Proofs.Analysis.Requests
import SourceDigest.Proofs.Graph.Insertion
import SourceDigest.Proofs.Ranking.Reordering

/-! What a further file of a batch changes for the others. Their metrics and heuristic scores are
their own and the memo of the run serves none of them, so that only the import graph can carry
anything over; where the file is no end of an import nothing of the others changes. -/

namespace SourceDigest.Ranking

open List

variable {α : Type} [Scalar α] {files part : List SourceFile}

/-! ## Options -/

theorem prioritizedOf_of_subset {o : Options} {prioritized : List String}
    (h : prioritizedOf o files = .ok prioritized) (hpart : part ⊆ files) :
    prioritizedOf o part = .ok prioritized := by
  unfold prioritizedOf at h ⊢
  dsimp only at h ⊢
  split at h
  · exact h
  · split at h
    · rename_i hall
      rw [all_eq_true] at hall
      rw [if_pos (all_eq_true.mpr fun f hf => hall f (hpart hf))]
      exact h
    · cases h

theorem settingsOf_of_subset {o : Options} {s : Settings α} (h : settingsOf o files = .ok s)
    (hpart : part ⊆ files) :
    ∃ s' : Settings α, settingsOf o part = .ok s' ∧ (part ≠ [] → s' = s) := by
  cases part with
  | nil => exact ⟨_, rfl, fun hne => absurd rfl hne⟩
  | cons f part =>
    have hne : files.isEmpty = false := isEmpty_eq_false_iff_exists_mem.mpr ⟨f, hpart (by simp)⟩
    refine ⟨s, ?_, fun _ => rfl⟩
    unfold settingsOf at h ⊢
    rw [hne] at h
    exact h

/-- A ranking with structure tells that its options could be read. -/
theorem exists_of_ofFiles_eq_ok {o : Options} {parser : Option Parser} {r : Ranking α}
    (h : ofFiles o parser files = .ok r) (hset : o.useStructure.isSet = true) :
    ∃ prioritized, prioritizedOf o files = .ok prioritized ∧
      ∃ s : Settings α, settingsOf o files = .ok s := by
  cases hprioritized : prioritizedOf o files with
  | error fault =>
    rw [ofFiles, ofFilesWith_of_fault hprioritized] at h
    cases h
  | ok prioritized =>
    cases hsettings : (settingsOf o files : Except _ (Settings α)) with
    | error fault =>
      rw [ofFiles, ofFilesWith_of_settings_fault hprioritized hset hsettings] at h
      cases h
    | ok s => exact ⟨prioritized, rfl, s, rfl⟩

/-! ## The memo of a run -/

/-- A file as the analyzer of a run is asked for it. -/
def versionOf (f : SourceFile) : Analyzer.Version :=
  ⟨f.path, f.content, f.language⟩

private theorem foldl_analyze_snd (a : Analyzer α) (found : List (String × Metrics α)) :
    (files.foldl (fun (found, a) f =>
      let (m, a) := a.analyze f.path f.content f.language
      (Keyed.insert found f.path m, a)) (found, a)).2 =
        a.after (files.map fun f => .analyze (versionOf f)) := by
  induction files generalizing a found with
  | nil => rfl
  | cons f files ih => exact ih _ _

/-- The memo of a run found nothing, and the chain ran on every file. -/
structure Unserved (parser : Option Parser) (files : List SourceFile) (r : Ranking α) : Prop where
  memo : ∃ memo, r.memo = some memo ∧ memo.hits = 0 ∧ memo.misses = files.length
  runs : (Analyzer.new parser true : Analyzer α).runs
    (files.map fun f => .analyze (versionOf f)) = files.map versionOf

theorem analyzeAll_unserved (parser : Option Parser) (hpaths : (files.map (·.path)).Nodup) :
    let a : Analyzer α := Analyzer.new parser true
    (analyzeAll a files).2.memo.hits = 0 ∧ (analyzeAll a files).2.memo.misses = files.length ∧
      a.runs (files.map fun f => .analyze (versionOf f)) = files.map versionOf := by
  intro a
  have hlacks : ∀ v ∈ files.map versionOf, a.memo.Lacks v.path :=
    fun _ _ _ hentry => absurd hentry not_mem_nil
  have hversions : ((files.map versionOf).map Analyzer.Version.path).Nodup := by
    rwa [map_map]
  obtain ⟨hhits, hmisses, hruns⟩ := Analyzer.after_of_lacks rfl hlacks hversions
  rw [map_map, length_map] at *
  have hafter : (analyzeAll a files).2 =
      a.after (files.map fun f => .analyze (versionOf f)) := foldl_analyze_snd a []
  rw [hafter]
  exact ⟨hhits, hmisses.trans (Nat.zero_add _), hruns⟩

/-! ## One run -/

def rankIn (s : Settings α) (prioritized : List String) (parser : Option Parser)
    (files : List SourceFile) (f : SourceFile) : RankedFile α :=
  structuralOf s prioritized (metricsOf parser f)
    (centralityIn s (metricsOf parser) files f.path) f

/-- What a ranking with structure holds. -/
structure StructuralRanking (s : Settings α) (prioritized : List String) (parser : Option Parser)
    (files : List SourceFile) (r : Ranking α) : Prop where
  files_eq : r.files = sorted (files.map (rankIn s prioritized parser files))
  unserved : Unserved parser files r

theorem exists_structuralRanking {o : Options} {prioritized : List String} {s : Settings α}
    (hprioritized : prioritizedOf o files = .ok prioritized)
    (hset : o.useStructure.isSet = true) (hsettings : settingsOf o files = .ok s)
    (parser : Option Parser) (hpaths : (files.map (·.path)).Nodup) :
    ∃ r, ofFiles o parser files = .ok r ∧ StructuralRanking s prioritized parser files r := by
  have hranking := ofFiles_eq_ok hprioritized hsettings parser
  have hmetrics : (analyzeAll (Analyzer.new parser true : Analyzer α) files).1 =
      files.map fun f => (f.path, metricsOf parser f) := analyzeAll_new parser true hpaths
  rw [outcome_structural hset hpaths hmetrics] at hranking
  obtain ⟨hhits, hmisses, hruns⟩ := analyzeAll_unserved (α := α) parser hpaths
  exact ⟨_, hranking, rfl, ⟨_, rfl, hhits, hmisses⟩, hruns⟩

theorem StructuralRanking.find?_eq {s : Settings α} {prioritized : List String}
    {parser : Option Parser} {r : Ranking α} (h : StructuralRanking s prioritized parser files r)
    (hpaths : (files.map (·.path)).Nodup) {f : SourceFile} (hf : f ∈ files) :
    r.find? f.path = some (rankIn s prioritized parser files f) := by
  have hmem : rankIn s prioritized parser files f ∈ r.files := by
    rw [h.files_eq]
    exact (sorted_perm _).mem_iff.mpr (mem_map_of_mem hf)
  cases hfind : r.find? f.path with
  | none =>
    have hnot := find?_eq_none.mp hfind _ hmem
    exact absurd (beq_self_eq_true f.path) hnot
  | some ranked =>
    have hranked : ranked ∈ r.files := mem_of_find?_eq_some hfind
    rw [h.files_eq] at hranked
    obtain ⟨other, hother, rfl⟩ := mem_map.mp ((sorted_perm _).mem_iff.mp hranked)
    have hpath : other.path = f.path :=
      eq_of_beq (find?_some (p := fun ranked : RankedFile α => ranked.path == f.path) hfind)
    rw [inj_on_of_nodup_map hpaths hother hf hpath]

/-! ## A further file -/

/-- The ranking has these metrics and this heuristic score of a file. -/
def HasScores (r : Ranking α) (f : SourceFile) (m : Metrics α) (heuristic : α) : Prop :=
  ∃ ranked, r.find? f.path = some ranked ∧ ranked.metrics = some m ∧ ranked.heuristic = heuristic

theorem StructuralRanking.scores {s : Settings α} {prioritized : List String}
    {parser : Option Parser} {r : Ranking α} (h : StructuralRanking s prioritized parser files r)
    (hpaths : (files.map (·.path)).Nodup) {f : SourceFile} (hf : f ∈ files) :
    r.HasScores f (metricsOf parser f) (Score.heuristic f.path f.content prioritized) :=
  ⟨_, h.find?_eq hpaths hf, rfl, rfl⟩

/-- The further file is no end of an import. -/
def Apart (α : Type) [Scalar α] (parser : Option Parser) (front back : List SourceFile)
    (g : SourceFile) : Prop :=
  Graph.Unlinked (importsOf (metricsOf (α := α) parser) front)
    (importsOf (metricsOf (α := α) parser) back)
    (g.path, (metricsOf (α := α) parser g).dependencies)

theorem Apart.centralityIn_eq {parser : Option Parser} {front back : List SourceFile}
    {g : SourceFile} (h : Apart α parser front back g) (s : Settings α) :
    centralityIn s (metricsOf parser) (front ++ g :: back) =
      centralityIn s (metricsOf parser) (front ++ back) := by
  have hscore := Graph.Unlinked.scoreAfter_eq h (0.0 : α)
  rw [centralityIn, centralityIn, importsOf, importsOf, map_append, map_append, map_cons]
  exact congrFun (congrFun hscore s.damping) s.rounds

/-- What a further file leaves to the others: their own scores always, and all they have in the
ranking where no import has to do with it. -/
structure LocalInsertion (o : Options) (parser : Option Parser) (front back : List SourceFile)
    (g : SourceFile) (smaller larger : Ranking α) : Prop where
  own : ∀ f ∈ front ++ back, ∃ m heuristic alone, ofFiles o parser [f] = .ok alone ∧
    alone.HasScores f m heuristic ∧ smaller.HasScores f m heuristic ∧ larger.HasScores f m heuristic
  unserved : Unserved parser (front ++ back) smaller ∧ Unserved parser (front ++ g :: back) larger
  undisturbed : Apart α parser front back g →
    (∀ f ∈ front ++ back, larger.find? f.path = smaller.find? f.path) ∧
      (Comparable (larger.files.map (·.importance)) →
        larger.files.filter (fun ranked => ranked.path != g.path) = smaller.files)

variable {o : Options} {parser : Option Parser} {front back : List SourceFile} {g : SourceFile}

theorem subset_insert (front back : List SourceFile) (g : SourceFile) :
    front ++ back ⊆ front ++ g :: back :=
  ((sublist_cons_self g back).append_left front).subset

theorem nodup_without (hpaths : ((front ++ g :: back).map (·.path)).Nodup) :
    ((front ++ back).map (·.path)).Nodup :=
  hpaths.sublist (((sublist_cons_self g back).append_left front).map _)

/-- The further file is the one with its path. -/
theorem filter_path_insert (hpaths : ((front ++ g :: back).map (·.path)).Nodup) :
    (front ++ g :: back).filter (fun f => f.path != g.path) = front ++ back := by
  rw [map_append, map_cons, nodup_middle, nodup_cons, ← map_append] at hpaths
  have hne : ∀ f ∈ front ++ back, (f.path != g.path) = true := by
    intro f hf
    rw [bne_iff_ne]
    intro hpath
    exact hpaths.1 (mem_map.mpr ⟨f, hf, hpath⟩)
  have hself : (g :: back).filter (fun f => f.path != g.path) =
      back.filter fun f => f.path != g.path := filter_cons_of_neg (by simp)
  rw [filter_append, hself, ← filter_append, filter_eq_self.mpr hne]

theorem StructuralRanking.undisturbed {s s' : Settings α} {prioritized : List String}
    {smaller larger : Ranking α}
    (hlarger : StructuralRanking s prioritized parser (front ++ g :: back) larger)
    (hsmaller : StructuralRanking s' prioritized parser (front ++ back) smaller)
    (hs : front ++ back ≠ [] → s' = s) (hpaths : ((front ++ g :: back).map (·.path)).Nodup)
    (hapart : Apart α parser front back g) :
    (∀ f ∈ front ++ back, larger.find? f.path = smaller.find? f.path) ∧
      (Comparable (larger.files.map (·.importance)) →
        larger.files.filter (fun ranked => ranked.path != g.path) = smaller.files) := by
  have hpaths' := nodup_without hpaths
  have hrank : ∀ f ∈ front ++ back, rankIn s prioritized parser (front ++ g :: back) f =
      rankIn s' prioritized parser (front ++ back) f := by
    intro f hf
    rw [hs (ne_nil_of_mem hf), rankIn, rankIn, hapart.centralityIn_eq]
  refine ⟨?_, ?_⟩
  · intro f hf
    rw [hlarger.find?_eq hpaths (subset_insert front back g hf), hsmaller.find?_eq hpaths' hf,
      hrank f hf]
  · intro hcomparable
    rw [hlarger.files_eq] at hcomparable ⊢
    have hranked : Comparable (((front ++ g :: back).map
        (rankIn s prioritized parser (front ++ g :: back))).map (·.importance)) :=
      hcomparable.mono ((sorted_perm _).map _).symm.subset
    have hnodup : (((front ++ g :: back).map
        (rankIn s prioritized parser (front ++ g :: back))).map (·.path)).Nodup := by
      rw [map_map]
      exact hpaths
    have hfilter : ((front ++ g :: back).map
        (rankIn s prioritized parser (front ++ g :: back))).filter
          (fun ranked => ranked.path != g.path) =
        (front ++ back).map (rankIn s prioritized parser (front ++ g :: back)) := by
      rw [filter_map, ← filter_path_insert hpaths]
      rfl
    rw [filter_sorted hranked hnodup, hfilter, map_congr_left hrank, hsmaller.files_eq]

/-- A further file changes nothing of the others but what the import graph carries over to them. A
batch with it has a ranking for every whole number of rounds where all favoured parts of names are
texts, and then so has the batch without it. Without rounding all importances can be compared. -/
theorem ofFiles_insert (o : Options) (parser : Option Parser) (front back : List SourceFile)
    (g : SourceFile) (hset : o.useStructure.isSet = true)
    (hpaths : ((front ++ g :: back).map (·.path)).Nodup) :
    (∀ (α : Type) [Scalar α] (larger : Ranking α),
      ofFiles o parser (front ++ g :: back) = .ok larger →
      ∃ smaller, ofFiles o parser (front ++ back) = .ok smaller ∧
        LocalInsertion o parser front back g smaller larger) ∧
    (∀ (α : Type) [Scalar α] rounds, o.centralityRounds = .int rounds →
      (Options.textItems o.prioritizeFiles).2 = none →
      ∃ larger : Ranking α, ofFiles o parser (front ++ g :: back) = .ok larger) ∧
    ∀ importances : List Rat, Comparable importances := by
  refine ⟨?_, fun α _ rounds hrounds htexts => exists_ranking hrounds htexts parser _,
    comparable_rat⟩
  intro α _ larger hlarger
  have hsub := subset_insert front back g
  have hpaths' := nodup_without hpaths
  obtain ⟨prioritized, hprioritized, s, hsettings⟩ := exists_of_ofFiles_eq_ok hlarger hset
  obtain ⟨s', hsettings', hs⟩ := settingsOf_of_subset hsettings hsub
  obtain ⟨r, hr, hranks⟩ := exists_structuralRanking hprioritized hset hsettings parser hpaths
  obtain rfl := Except.ok.inj (hr.symm.trans hlarger)
  obtain ⟨smaller, hsmaller, hranks'⟩ := exists_structuralRanking
    (prioritizedOf_of_subset hprioritized hsub) hset hsettings' parser hpaths'
  refine ⟨smaller, hsmaller, ?_, ⟨hranks'.unserved, hranks.unserved⟩,
    hranks.undisturbed hranks' hs hpaths⟩
  intro f hf
  have halone : [f] ⊆ front ++ g :: back := by simpa using hsub hf
  have hpaths_alone : ([f].map (·.path)).Nodup := nodup_singleton _
  obtain ⟨_, hsettings_alone, -⟩ := settingsOf_of_subset hsettings halone
  obtain ⟨alone, hof_alone, hranks_alone⟩ := exists_structuralRanking
    (prioritizedOf_of_subset hprioritized halone) hset hsettings_alone parser hpaths_alone
  exact ⟨_, _, alone, hof_alone, hranks_alone.scores hpaths_alone (mem_singleton.mpr rfl),
    hranks'.scores hpaths' hf, hranks.scores hpaths (hsub hf)⟩

/-- A script whose import leads nowhere. -/
def stray : SourceFile :=
  .ofText "lib/c.js" "import './gone'\n" "javascript"

theorem apart_stray : Apart Rat bareImports (scripts.take 1) (scripts.drop 1) stray := by
  constructor
  · decide +kernel
  · decide +kernel

/-- It changes nothing of scripts that import each other. -/
theorem ofFiles_insert_stray :
    ∃ smaller larger : Ranking Rat,
      ofFiles { useStructure := .bool true } bareImports scripts = .ok smaller ∧
        ofFiles { useStructure := .bool true } bareImports
            (scripts.take 1 ++ stray :: scripts.drop 1) = .ok larger ∧
        LocalInsertion { useStructure := .bool true } bareImports (scripts.take 1)
          (scripts.drop 1) stray smaller larger ∧
        larger.files.filter (fun ranked => ranked.path != "lib/c.js") = smaller.files := by
  obtain ⟨hlocal, hexists, hcomparable⟩ := ofFiles_insert { useStructure := .bool true }
    bareImports (scripts.take 1) (scripts.drop 1) stray rfl (by decide)
  obtain ⟨larger, hlarger⟩ := hexists Rat 10 rfl rfl
  obtain ⟨smaller, hsmaller, h⟩ := hlocal Rat larger hlarger
  exact ⟨smaller, larger, hsmaller, hlarger, h, (h.undisturbed apart_stray).2 (hcomparable _)⟩

end SourceDigest.Ranking
