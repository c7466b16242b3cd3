import SourceDigest.Proofs.Keyed
import SourceDigest.Ranking

/-! An analyzer that has not seen a path. What it remembers is kept under paths, so that files
with pairwise different paths are all analyzed without regard to the memo. -/

namespace SourceDigest

open List

variable {α : Type}

/-- A memo that holds nothing under a path, whatever the content. -/
def Memo.Lacks (memo : Memo α) (path : String) : Prop :=
  ∀ entry ∈ memo.entries, entry.1.1 ≠ path

namespace Memo

theorem lookup_eq_none {memo : Memo α} {path : String} (h : memo.Lacks path)
    (content : String) : memo.entries.lookup (keyFor path content) = none := by
  rw [lookup_eq_none_iff]
  intro entry hentry
  have hne : keyFor path content ≠ entry.1 := by
    intro he
    exact h entry hentry (congrArg Prod.fst he).symm
  simpa using hne

theorem get_of_lacks {memo : Memo α} {path : String} (h : memo.Lacks path) (content : String) :
    (memo.get (keyFor path content)).1 = none := by
  unfold get
  split
  · rw [lookup_eq_none h content]
  · rfl

theorem entries_get (memo : Memo α) (key : Key) : (memo.get key).2.entries = memo.entries := by
  unfold get
  split
  · split <;> rfl
  · rfl

theorem Lacks.set {memo : Memo α} {path : String} (h : memo.Lacks path) {key : Key}
    (hkey : key.1 ≠ path) (m : Metrics α) : (memo.set key m).Lacks path := by
  unfold Memo.set
  split
  · intro entry hentry
    dsimp only [Keyed.insert] at hentry
    split at hentry
    · obtain ⟨old, hold, rfl⟩ := mem_map.mp hentry
      split
      · exact hkey
      · exact h old hold
    · rcases mem_append.mp hentry with hentry | hentry
      · exact h entry hentry
      · rw [mem_singleton.mp hentry]
        exact hkey
  · exact h

end Memo

variable [Scalar α]

namespace Analyzer

theorem analyze_of_lacks {a : Analyzer α} {path : String} (h : a.memo.Lacks path)
    (content language : String) :
    (a.analyze path content language).1 = analyzeFresh a.chain path content language := by
  have hget := Memo.get_of_lacks h content
  unfold analyze
  dsimp only
  split
  · rename_i m memo he
    rw [he] at hget
    cases hget
  · rfl

theorem chain_analyze (a : Analyzer α) (path content language : String) :
    (a.analyze path content language).2.chain = a.chain := by
  unfold analyze
  dsimp only
  split <;> rfl

theorem lacks_analyze {a : Analyzer α} {other path : String} (h : a.memo.Lacks other)
    (hne : path ≠ other) (content language : String) :
    (a.analyze path content language).2.memo.Lacks other := by
  have hentries := Memo.entries_get a.memo (Memo.keyFor path content)
  unfold analyze
  dsimp only
  split
  · rename_i m memo he
    rw [he] at hentries
    intro entry hentry
    exact h entry (hentries ▸ hentry)
  · rename_i memo he
    rw [he] at hentries
    have hmemo : memo.Lacks other := fun entry hentry => h entry (hentries ▸ hentry)
    exact hmemo.set hne _

end Analyzer

namespace Ranking

private theorem foldl_analyze (files : List SourceFile) (a : Analyzer α)
    (found : List (String × Metrics α)) (hpaths : (files.map (·.path)).Nodup)
    (hmemo : ∀ f ∈ files, a.memo.Lacks f.path)
    (hfound : ∀ f ∈ files, f.path ∉ found.map (·.1)) :
    (files.foldl (fun (found, a) f =>
      let (m, a) := a.analyze f.path f.content f.language
      (Keyed.insert found f.path m, a)) (found, a)).1 =
        found ++ files.map fun f =>
          (f.path, Analyzer.analyzeFresh a.chain f.path f.content f.language) := by
  induction files generalizing a found with
  | nil => simp
  | cons f files ih =>
    obtain ⟨hf, hpaths⟩ := nodup_cons.mp hpaths
    have hne : ∀ other ∈ files, f.path ≠ other.path := by
      intro other hother he
      exact hf (mem_map.mpr ⟨other, hother, he.symm⟩)
    rw [foldl_cons]
    dsimp only
    rw [Keyed.insert_of_notMem (hfound f mem_cons_self),
      Analyzer.analyze_of_lacks (hmemo f mem_cons_self), ih _ _ hpaths, Analyzer.chain_analyze]
    · simp
    · intro other hother
      exact Analyzer.lacks_analyze (hmemo other (mem_cons_of_mem _ hother)) (hne other hother) _ _
    · intro other hother hm
      rw [map_append, mem_append] at hm
      rcases hm with hm | hm
      · exact hfound other (mem_cons_of_mem _ hother) hm
      · exact hne other hother (mem_singleton.mp hm).symm

/-- A new analyzer gives every file of a batch the metrics it has without any memo. -/
theorem analyzeAll_new (parser : Option Parser) (enabled : Bool) {files : List SourceFile}
    (hpaths : (files.map (·.path)).Nodup) :
    (analyzeAll (Analyzer.new parser enabled : Analyzer α) files).1 =
      files.map fun f => (f.path,
        Analyzer.analyzeFresh (Strategy.chainFor parser) f.path f.content f.language) := by
  have hmemo : ∀ f ∈ files, (Memo.new enabled : Memo α).Lacks f.path :=
    fun _ _ _ hentry => absurd hentry not_mem_nil
  exact foldl_analyze files (Analyzer.new parser enabled) [] hpaths hmemo (by simp)

end Ranking

end SourceDigest
