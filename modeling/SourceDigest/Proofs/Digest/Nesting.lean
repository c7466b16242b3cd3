import SourceDigest.Digest.Record
import SourceDigest.Proofs.Digest.Budget
import SourceDigest.Proofs.Keyed

/-! The two renderings of a digest within one budget. A record charges for contents, a document
for its header and for sections that hold the contents, so that the document runs out of the
budget first: what it keeps is where the files of the record begin. -/

namespace SourceDigest

open List

/-! ## Charging more -/

namespace Budget

variable {β γ : Type} {b : Budget} {low high : Int}

theorem isExceededBy_mono (h : low ≤ high) (hlow : b.isExceededBy low = true) :
    b.isExceededBy high = true := by
  unfold isExceededBy Amount.below at hlow ⊢
  cases hlimit : b.limit with
  | exact q =>
    simp only [hlimit, decide_eq_true_eq] at hlow ⊢
    exact hlow.trans_le (by exact_mod_cast h)
  | infinite negative => simpa [hlimit] using hlow
  | undefined => simp [hlimit] at hlow

/-- Files that are charged more, after no less has been used, are kept no longer. -/
theorem keepFrom_prefix_of_le {cheap dear : β → Int} {files : List β} (hused : low ≤ high)
    (hcost : ∀ file ∈ files, cheap file ≤ dear file) :
    b.keepFrom dear high files <+: b.keepFrom cheap low files := by
  induction files generalizing low high with
  | nil => exact prefix_rfl
  | cons file rest ih =>
    have hnext : low + cheap file ≤ high + dear file :=
      add_le_add hused (hcost file mem_cons_self)
    rw [keepFrom, keepFrom]
    by_cases hdear : b.isExceededBy (high + dear file) = true
    · rw [if_pos hdear]
      exact nil_prefix
    · have hcheap : ¬b.isExceededBy (low + cheap file) = true :=
        mt (isExceededBy_mono hnext) hdear
      rw [if_neg hdear, if_neg hcheap, prefix_cons_inj]
      exact ih hnext fun file hfile => hcost file (mem_cons_of_mem _ hfile)

theorem keepFrom_map (b : Budget) (cost : γ → Int) (used : Int) (render : β → γ)
    (files : List β) :
    b.keepFrom cost used (files.map render) =
      (b.keepFrom (fun file => cost (render file)) used files).map render := by
  induction files generalizing used with
  | nil => rfl
  | cons file rest ih =>
    rw [map_cons, keepFrom, keepFrom]
    split
    · rfl
    · rw [map_cons, ih]

theorem keep_isInitial (budget : Option Budget) (cost : β → Int) (used : Int) (files : List β) :
    keep budget cost used files <+: files := by
  cases budget with
  | none => exact prefix_rfl
  | some b => exact b.keepFrom_isInitial cost used files

theorem keep_prefix_of_le (budget : Option Budget) {cheap dear : β → Int} {files : List β}
    (hused : low ≤ high) (hcost : ∀ file ∈ files, cheap file ≤ dear file) :
    keep budget dear high files <+: keep budget cheap low files := by
  cases budget with
  | none => exact prefix_rfl
  | some b => exact keepFrom_prefix_of_le hused hcost

theorem keep_map (budget : Option Budget) (cost : γ → Int) (used : Int) (render : β → γ)
    (files : List β) :
    keep budget cost used (files.map render) =
      (keep budget (fun file => cost (render file)) used files).map render := by
  cases budget with
  | none => rfl
  | some b => exact b.keepFrom_map cost used render files

end Budget

namespace Digest

open Tokens

/-! ## Contents and sections -/

/-- Between its fences stands the content, and at most a line feed after it. -/
theorem exists_fenced (f : RankedFile Float) : ∃ opening body closing : String,
    fenced f = opening ++ body ++ closing ∧ f.content.toList <+: body.toList := by
  refine ⟨_, _, _, rfl, ?_⟩
  split
  · exact prefix_rfl
  · rw [String.toList_append]
    exact prefix_append _ _

theorem content_infix_fenced (f : RankedFile Float) :
    f.content.toList <:+: (fenced f).toList := by
  obtain ⟨opening, body, closing, hfenced, hcontent⟩ := exists_fenced f
  rw [hfenced, String.toList_append, String.toList_append]
  exact hcontent.isInfix.trans (infix_append _ _ _)

theorem content_infix_fileSection (withMetadata : Bool) (f : RankedFile Float) :
    f.content.toList <:+: (fileSection withMetadata f).toList := by
  refine (content_infix_fenced f).trans ?_
  rw [fileSection, String.toList_intercalate]
  exact Text.infix_join (mem_map_of_mem (by simp))

/-! ## What is kept -/

def documentFiles (estimate : String → Int) (d : Digest) (withMetadata : Bool)
    (budget : Option Budget) : List (RankedFile Float) :=
  Budget.keep budget (fun f => estimate (fileSection withMetadata f)) (estimate d.header) d.files

theorem keptSections_eq (estimate : String → Int) (d : Digest) (withMetadata : Bool)
    (budget : Option Budget) :
    keptSections estimate d withMetadata budget =
      (documentFiles estimate d withMetadata budget).map (fileSection withMetadata) :=
  Budget.keep_map budget estimate (estimate d.header) (fileSection withMetadata) d.files

/-- The entries of a record's files, unless something else is put in their place. -/
theorem exists_record_eq (estimate : String → Int) (d : Digest) (withMetadata : Bool)
    (budget : Option Budget) (hextra : "files" ∉ d.extra.map (·.1)) :
    ∃ entries, record estimate d withMetadata budget = .table entries ∧
      entries.lookup "files" =
        some (.list ((keptFiles estimate d budget).map (fileEntry withMetadata))) :=
  ⟨_, rfl, Keyed.lookup_foldl_insert_of_notMem hextra _⟩

/-- The files of a document are where those of the record begin, and these are where the ranking
begins. The sections of the document are those of its files, and the record lists the same files
with metadata and without. -/
structure NestedSelections (d : Digest) (withMetadata : Bool) (budget : Option Budget) : Prop where
  sections : keptSections (estimate Rat) d withMetadata budget =
    (documentFiles (estimate Rat) d withMetadata budget).map (fileSection withMetadata)
  entries : "files" ∉ d.extra.map (·.1) → ∀ recordsMetadata, ∃ entries,
    record (estimate Rat) d recordsMetadata budget = .table entries ∧
      entries.lookup "files" =
        some (.list ((keptFiles (estimate Rat) d budget).map (fileEntry recordsMetadata)))
  document_record : documentFiles (estimate Rat) d withMetadata budget <+:
    keptFiles (estimate Rat) d budget
  document_ranking : documentFiles (estimate Rat) d withMetadata budget <+: d.files
  record_ranking : keptFiles (estimate Rat) d budget <+: d.files

/-- A record keeps every file that a document keeps within the same budget, whether or not either
of them tells metadata. -/
theorem keptFiles_nests (d : Digest) (withMetadata : Bool) (budget : Option Budget) :
    NestedSelections d withMetadata budget where
  sections := keptSections_eq (estimate Rat) d withMetadata budget
  entries hextra recordsMetadata := exists_record_eq (estimate Rat) d recordsMetadata budget hextra
  document_record := Budget.keep_prefix_of_le budget (estimateChars_nonneg _) fun f _ =>
    estimateChars_le_of_isInfix (content_infix_fileSection withMetadata f)
  document_ranking := Budget.keep_isInitial budget _ _ d.files
  record_ranking := Budget.keep_isInitial budget _ _ d.files

/-- A budget for the content alone leaves no room for the section below the header. -/
example : (documentFiles (estimate Rat) oneScript false (some (.ofInt 8))).length = 0 ∧
    (keptFiles (estimate Rat) oneScript (some (.ofInt 8))).length = 1 := by
  decide +kernel

end Digest

end SourceDigest
