import Mathlib.Algebra.Order.Ring.Rat
import Mathlib.Data.List.Nodup
import Mathlib.Data.String.Basic
import SourceDigest.Ranking

/-! The order of a ranking: importance falls, and paths rise where it is the same. Where all
importances can be compared it is a total order of files with different paths, so that a batch has
one ranking and so has each part of it. -/

namespace SourceDigest.Ranking

open List

variable {α : Type} [Scalar α]

/-! ## Values that can be compared -/

/-- Of two values at most one is less, and any third one lies above the lesser or below the other.
Only what is no number at all could fail this. -/
def Comparable (values : List α) : Prop :=
  ∀ x ∈ values, ∀ y ∈ values, x < y → ¬ y < x ∧ ∀ z ∈ values, x < z ∨ z < y

theorem Comparable.mono {values part : List α} (h : Comparable values) (hpart : part ⊆ values) :
    Comparable part := by
  intro x hx y hy hlt
  obtain ⟨hasymm, hbetween⟩ := h x (hpart hx) y (hpart hy) hlt
  exact ⟨hasymm, fun z hz => hbetween z (hpart hz)⟩

/-- Without rounding all values can be compared. -/
theorem comparable_rat (values : List Rat) : Comparable values := by
  intro x _ y _ hlt
  refine ⟨lt_asymm hlt, fun z _ => ?_⟩
  rcases lt_or_ge x z with hz | hz
  · exact Or.inl hz
  · exact Or.inr (lt_of_le_of_lt hz hlt)

/-! ## Two files -/

theorem before_iff {a b : RankedFile α} :
    before a b = true ↔
      b.importance < a.importance ∨ ¬ a.importance < b.importance ∧ a.path ≤ b.path := by
  unfold before
  split_ifs with hba hab
  · simp [hba]
  · simp [hba, hab]
  · simp only [hba, hab, not_false_eq_true, true_and, false_or, Bool.not_eq_true',
      decide_eq_false_iff_not, not_lt]

theorem before_total (a b : RankedFile α) : (before a b || before b a) = true := by
  rw [Bool.or_eq_true, before_iff, before_iff]
  by_cases hab : a.importance < b.importance
  · exact Or.inr (Or.inl hab)
  · by_cases hba : b.importance < a.importance
    · exact Or.inl (Or.inl hba)
    · rcases le_total a.path b.path with hpath | hpath
      · exact Or.inl (Or.inr ⟨hab, hpath⟩)
      · exact Or.inr (Or.inr ⟨hba, hpath⟩)

section Comparable

variable {files : List (RankedFile α)} (h : Comparable (files.map (·.importance)))

include h

theorem before_trans {a b c : RankedFile α} (ha : a ∈ files) (hb : b ∈ files) (hc : c ∈ files)
    (hab : before a b = true) (hbc : before b c = true) : before a c = true := by
  have ha := mem_map_of_mem (f := (·.importance)) ha
  have hb := mem_map_of_mem (f := (·.importance)) hb
  have hc := mem_map_of_mem (f := (·.importance)) hc
  rw [before_iff] at *
  rcases hbc with hcb | ⟨hbc, hpath'⟩
  · -- `c` is below `b`, so `a` is not: it is above `c`
    have hnot : ¬ a.importance < b.importance := by
      rcases hab with hba | ⟨hab, -⟩
      · exact (h _ hb _ ha hba).1
      · exact hab
    exact Or.inl (((h _ hc _ hb hcb).2 _ ha).resolve_right hnot)
  · rcases hab with hba | ⟨hab, hpath⟩
    · exact Or.inl (((h _ hb _ ha hba).2 _ hc).resolve_left hbc)
    · refine Or.inr ⟨fun hac => ?_, hpath.trans hpath'⟩
      rcases (h _ ha _ hc hac).2 _ hb with hlt | hlt
      · exact hab hlt
      · exact hbc hlt

theorem path_eq_of_before {a b : RankedFile α} (ha : a ∈ files) (hb : b ∈ files)
    (hab : before a b = true) (hba : before b a = true) : a.path = b.path := by
  rw [before_iff] at *
  rcases hab with hlt | ⟨hnot, hpath⟩
  · rcases hba with hlt' | ⟨hnot, -⟩
    · exact absurd hlt' (h _ (mem_map_of_mem hb) _ (mem_map_of_mem ha) hlt).1
    · exact absurd hlt hnot
  · rcases hba with hlt' | ⟨-, hpath'⟩
    · exact absurd hlt' hnot
    · exact le_antisymm hpath hpath'

/-! ## All files -/

theorem pairwise_sorted : (sorted files).Pairwise fun a b => before a b = true := by
  -- importances of other files need not be comparable, so the members alone are sorted
  have htrans : ∀ a b c : { f // f ∈ files }, before a.1 b.1 = true → before b.1 c.1 = true →
      before a.1 c.1 = true := fun a b c => before_trans h a.2 b.2 c.2
  have htotal : ∀ a b : { f // f ∈ files }, (before a.1 b.1 || before b.1 a.1) = true :=
    fun a b => before_total a.1 b.1
  have hattach : (files.attach.mergeSort fun a b => before a.1 b.1).map Subtype.val =
      sorted files := by
    have hsort := map_mergeSort (r := fun a b => before a.1 b.1) (s := before)
      (f := Subtype.val) (l := files.attach) fun _ _ _ _ => rfl
    rw [hsort, attach_map_subtype_val, sorted]
  rw [← hattach, pairwise_map]
  exact pairwise_mergeSort htrans htotal files.attach

end Comparable

theorem sorted_perm (files : List (RankedFile α)) : (sorted files).Perm files :=
  mergeSort_perm files before

/-- Files with different paths stand in this order in one way only. -/
theorem eq_sorted {ranked files : List (RankedFile α)}
    (h : Comparable (files.map (·.importance))) (hpaths : (files.map (·.path)).Nodup)
    (hperm : ranked.Perm files) (hranked : ranked.Pairwise fun a b => before a b = true) :
    ranked = sorted files := by
  refine Perm.eq_of_pairwise ?_ hranked (pairwise_sorted h) (hperm.trans (sorted_perm files).symm)
  intro a b ha hb hab hba
  have hma := hperm.mem_iff.mp ha
  have hmb := (sorted_perm files).mem_iff.mp hb
  exact inj_on_of_nodup_map hpaths hma hmb (path_eq_of_before h hma hmb hab hba)

/-- Files with different paths are ranked in one order, whatever order they come in. -/
theorem sorted_eq_of_perm {files others : List (RankedFile α)} (hperm : files.Perm others)
    (h : Comparable (files.map (·.importance))) (hpaths : (files.map (·.path)).Nodup) :
    sorted files = sorted others := by
  have hothers : Comparable (others.map (·.importance)) := h.mono (hperm.map _).symm.subset
  exact eq_sorted hothers ((hperm.map _).nodup_iff.mp hpaths) ((sorted_perm files).trans hperm)
    (pairwise_sorted h)

/-- Some of the files are ranked among themselves as they are ranked among all. -/
theorem filter_sorted {files : List (RankedFile α)} (h : Comparable (files.map (·.importance)))
    (hpaths : (files.map (·.path)).Nodup) (p : RankedFile α → Bool) :
    (sorted files).filter p = sorted (files.filter p) :=
  eq_sorted (h.mono (map_subset _ filter_sublist.subset))
    (hpaths.sublist (filter_sublist.map _)) ((sorted_perm files).filter p)
    ((pairwise_sorted h).filter p)

end SourceDigest.Ranking
