import SourceDigest.CommandLine.Run
import SourceDigest.Proofs.Tokens.Estimate

/-! The budget of a document. What the kept sections are charged never takes the document over its
budget; its own estimate may be larger, by the tenth that a header without fenced code is not
charged, by the lines between the parts, and by the note about what was left out. -/

namespace SourceDigest

open List

/-! ## Charges -/

namespace Budget

variable {β : Type} {cost : β → Int}

theorem isExceededBy_iff {b : Budget} {q : Rat} (hlimit : b.limit = .exact q) (tokens : Int) :
    b.isExceededBy tokens = true ↔ q < tokens := by
  simp [isExceededBy, Amount.below, hlimit]

theorem isExceededBy_ofInt (n tokens : Int) :
    (ofInt n).isExceededBy tokens = true ↔ n < tokens :=
  (isExceededBy_iff rfl tokens).trans Int.cast_lt

theorem keepFrom_isInitial (b : Budget) (cost : β → Int) (used : Int) (files : List β) :
    b.keepFrom cost used files <+: files := by
  induction files generalizing used with
  | nil => exact prefix_rfl
  | cons file rest ih =>
    rw [keepFrom]
    by_cases hexceeded : b.isExceededBy (used + cost file) = true
    · simp only [hexceeded, if_true]
      exact nil_prefix
    · simp only [hexceeded]
      exact (prefix_cons_inj file).mpr (ih (used + cost file))

/-- As long as the charges so far are within the limit, each file that is kept leaves them
within it. -/
theorem keepFrom_charges_le (n : Int) (cost : β → Int) (used : Int) (files : List β) :
    used + ((keepFrom (ofInt n) cost used files).map cost).sum ≤ max n used := by
  induction files generalizing used with
  | nil => simp [keepFrom]
  | cons file rest ih =>
    rw [keepFrom]
    by_cases hexceeded : (ofInt n).isExceededBy (used + cost file) = true
    · simp [hexceeded]
    · have hfits : ¬n < used + cost file := mt (isExceededBy_ofInt n _).mpr hexceeded
      have hrest := ih (used + cost file)
      rw [if_neg hexceeded, map_cons, sum_cons]
      omega

end Budget

namespace Digest

open Tokens

variable {d : Digest} {withMetadata : Bool} {f : RankedFile Float}

/-! ## Sections -/

theorem fence_prefix_fenceFor (content : List Char) : fence <+: fenceFor content := by
  obtain ⟨more, hmore⟩ := Nat.exists_eq_add_of_le
    (le_max_left 3 (longestRun fenceMark 0 0 content + 1))
  rw [fenceFor, hmore, replicate_add]
  exact prefix_append _ _

theorem fence_infix_fenced (f : RankedFile Float) : fence <:+: (fenced f).toList := by
  simp only [fenced, String.toList_append, String.toList_ofList, append_assoc]
  exact (fence_prefix_fenceFor _).isInfix.trans (prefix_append _ _).isInfix

theorem contains_fence_fileSection (withMetadata : Bool) (f : RankedFile Float) :
    Text.contains fence (fileSection withMetadata f).toList = true := by
  rw [Text.contains_iff_infix]
  refine (fence_infix_fenced f).trans ?_
  rw [fileSection, String.toList_intercalate]
  exact Text.infix_join (mem_map_of_mem (by simp))

theorem estimate_fileSection (withMetadata : Bool) (f : RankedFile Float) :
    estimate Rat (fileSection withMetadata f) =
      fencedTokens (normalLength (fileSection withMetadata f).toList) :=
  estimateChars_of_fence (contains_fence_fileSection withMetadata f)

/-! ## The document -/

theorem toList_markdown (estimate : String → Int) (d : Digest) (withMetadata : Bool)
    (budget : Option Budget) :
    (d.markdown estimate withMetadata budget).toList =
      d.header.toList ++ '\n' :: Text.join ['\n']
        ((keptSections estimate d withMetadata budget ++
          omissionNote (d.files.length - (keptSections estimate d withMetadata budget).length)
            budget).map String.toList) := by
  rw [markdown, String.toList_append, String.toList_append, String.toList_intercalate,
    append_assoc]
  rfl

/-- Characters of lines that stand between sections, and of a note. -/
def betweenLength (sections note : List String) : Nat :=
  sections.length + lineLengths (note.map String.toList)

theorem lineLengths_toList (sections note : List String) :
    lineLengths ((sections ++ note).map String.toList) =
      (sections.map fun s => normalLength s.toList).sum + betweenLength sections note := by
  rw [map_append, lineLengths_append, betweenLength, ← Nat.add_assoc]
  congr 1
  rw [lineLengths, map_map]
  simp only [Function.comp_def, sum_map_add, map_const', sum_replicate_nat, Nat.mul_one]

/-- Sections of files are estimated as they are charged. -/
theorem map_estimate_sections {sections : List String} {files : List (RankedFile Float)}
    (h : sections <+: files.map (fileSection withMetadata)) :
    sections.map (estimate Rat) = sections.map fun s => fencedTokens (normalLength s.toList) := by
  apply map_congr_left
  intro s hs
  obtain ⟨f, -, rfl⟩ := mem_map.mp (h.subset hs)
  exact estimate_fileSection withMetadata f

/-- A document exceeds its budget, or what its header alone is charged, by no more than a tenth of
a header without fenced code, and by the lines between sections and the note. -/
theorem estimate_markdown_le (d : Digest) (withMetadata : Bool) (n : Int) :
    let kept := keptSections (estimate Rat) d withMetadata (some (.ofInt n))
    let note := omissionNote (d.files.length - kept.length) (some (.ofInt n))
    estimate Rat (d.markdown (estimate Rat) withMetadata (some (.ofInt n))) ≤
      max n (estimate Rat d.header) +
        (fencedTokens (normalLength d.header.toList) - estimate Rat d.header) +
        fencedTokens (betweenLength kept note) := by
  intro kept note
  -- The loop bounds what the parts are charged; the document is measured against these charges.
  have hcharges : estimate Rat d.header + (kept.map (estimate Rat)).sum ≤
      max n (estimate Rat d.header) :=
    Budget.keepFrom_charges_le n (estimate Rat) (estimate Rat d.header) _
  have hinitial : kept <+: d.files.map (fileSection withMetadata) :=
    Budget.keepFrom_isInitial (.ofInt n) (estimate Rat) (estimate Rat d.header) _
  have hsections : fencedTokens (kept.map fun s => normalLength s.toList).sum ≤
      (kept.map (estimate Rat)).sum := by
    rw [map_estimate_sections hinitial]
    exact (fencedTokens_sum_le _).trans (by rw [map_map]; rfl)
  have hlength : normalLength (d.markdown (estimate Rat) withMetadata (some (.ofInt n))).toList ≤
      normalLength d.header.toList + ((kept.map fun s => normalLength s.toList).sum +
        betweenLength kept note) := by
    rw [toList_markdown, ← lineLengths_toList]
    exact normalLength_lines _ _
  calc estimate Rat (d.markdown (estimate Rat) withMetadata (some (.ofInt n)))
      ≤ fencedTokens (normalLength d.header.toList +
          ((kept.map fun s => normalLength s.toList).sum + betweenLength kept note)) :=
        (estimateChars_le _).trans (fencedTokens_mono hlength)
    _ ≤ fencedTokens (normalLength d.header.toList) +
          (fencedTokens (kept.map fun s => normalLength s.toList).sum +
            fencedTokens (betweenLength kept note)) :=
        (fencedTokens_add _ _).trans (add_le_add_right (fencedTokens_add _ _) _)
    _ ≤ _ := by omega

/-- One file below a header without fenced code. -/
def oneScript : Digest where
  name := "x"
  files := [⟨"b.py", "one two three four five six\n", "python", 28, 1.0, 1.0, none, none⟩]
  outline := none
  summary := ""
  usedStructure := .bool false
  extra := []

/-- The header and the section are charged just the budget, and the document is over it. -/
theorem markdown_over_budget :
    CommandLine.tokensOf oneScript.header ≤ 24 ∧
      24 < CommandLine.tokensOf
        (oneScript.markdown CommandLine.tokensOf false (some (.ofInt 24))) := by
  decide +kernel

end Digest

end SourceDigest
