import Mathlib.Order.Bounds.Basic
import SourceDigest.Digest.Markdown
import SourceDigest.Proofs.Text.Lines

/-! The fence of a content. A search that starts with three marks and adds one as long as the
content holds the fence ends, and what it ends with is the shortest run of marks, of three or more,
that the content does not hold. -/

namespace SourceDigest.Digest

open List

def marks (n : Nat) : List Char :=
  replicate n fenceMark

def fenceLength (content : List Char) : Nat :=
  max 3 (longestRun fenceMark 0 0 content + 1)

/-- A search for a fence of a content: one that the content holds is lengthened by a mark, and the
search ends with the first one that it does not hold. -/
inductive Search (content : List Char) : List Char → List Char → Prop where
  | ended {fence : List Char} (h : ¬fence <:+: content) : Search content fence fence
  | lengthened {fence found : List Char} (h : fence <:+: content) :
      Search content (fence ++ [fenceMark]) found → Search content fence found

variable {content text : List Char} {n : Nat}

/-! ## Runs -/

/-- The runs that have been passed are no longer than `longest`, and the one under way goes on into
the text. -/
theorem le_longestRun_iff (mark : Char) (longest current : Nat) :
    n ≤ longestRun mark longest current text ↔
      n ≤ longest ∨ replicate n mark <:+: replicate current mark ++ text := by
  induction text generalizing longest current with
  | nil => simp [longestRun, infix_replicate_iff]
  | cons c text ih =>
    rw [longestRun]
    by_cases hc : c = mark
    · subst hc
      have hcurrent : replicate current c ++ c :: text = replicate (current + 1) c ++ text := by
        simp [replicate_succ']
      rw [if_pos rfl, ih, hcurrent]
    · by_cases hn : n = 0
      · simp [hn]
      · have hmark : c ∉ replicate n mark := by simp [hc]
        rw [if_neg hc, ih, Text.infix_append_cons_iff hmark, infix_replicate_iff]
        simp [or_assoc]

theorem marks_infix_iff : marks n <:+: content ↔ n ≤ longestRun fenceMark 0 0 content := by
  rw [le_longestRun_iff, marks]
  constructor
  · exact Or.inr
  · rintro (h | h)
    · simp [Nat.le_zero.mp h]
    · exact h

/-! ## The search -/

theorem isLeast_fenceLength (content : List Char) :
    IsLeast {n | 3 ≤ n ∧ ¬marks n <:+: content} (fenceLength content) := by
  simp only [marks_infix_iff, fenceLength]
  constructor
  · constructor <;> omega
  · rintro n ⟨hthree, hlonger⟩
    omega

theorem not_infix_fenceFor (content : List Char) : ¬fenceFor content <:+: content :=
  (isLeast_fenceLength content).1.2

/-- The search goes on from every shorter run of three marks or more. -/
theorem search_marks (hthree : 3 ≤ n) (h : n ≤ fenceLength content) :
    Search content (marks n) (fenceFor content) := by
  obtain ⟨more, hmore⟩ := Nat.exists_eq_add_of_le h
  induction more generalizing n with
  | zero =>
    have hfound : marks n = fenceFor content := by rw [← Nat.add_zero n, ← hmore]; rfl
    rw [hfound]
    exact .ended (not_infix_fenceFor content)
  | succ more ih =>
    have hheld : marks n <:+: content := by
      by_contra hfree
      have := (isLeast_fenceLength content).2 ⟨hthree, hfree⟩
      omega
    have hlonger : marks n ++ [fenceMark] = marks (n + 1) := replicate_succ'.symm
    refine .lengthened hheld ?_
    rw [hlonger]
    exact ih (by omega) (by omega) (by omega)

theorem search_fence (content : List Char) : Search content Tokens.fence (fenceFor content) :=
  search_marks le_rfl (le_max_left 3 _)

end SourceDigest.Digest
