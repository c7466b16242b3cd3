import SourceDigest.Proofs.Digest.Nesting
import SourceDigest.Proofs.Number.Unsigned

/-! Which files a budget selects. No charge is negative, so the first file that does not fit is
followed by none that would: the loop that stops there keeps the longest initial part of the
ranking that fits. -/

namespace SourceDigest

open List

/-! ## Charges -/

namespace CommandLine

open Unsigned

/-- No text is estimated at less than nothing, however long it is and however often the estimate
is rounded. -/
theorem tokensOf_nonneg (text : String) : 0 ≤ tokensOf text := by
  unfold tokensOf Tokens.estimate Tokens.estimateChars
  apply IsUnsigned.nonneg_ceil
  apply IsUnsigned.mul
  · apply isUnsigned_ofInt
    apply IsUnsigned.nonneg_ceil
    apply IsUnsigned.div
    · exact isUnsigned_ofNat _
    · decide
  · split
    · decide
    · decide

end CommandLine

namespace Budget

variable {β : Type} {b : Budget} {q low high : Rat} {cost : β → Int} {used : Int} {file : β}
  {files rest : List β} {k : Nat}

/-- What is charged for the first files, after so much has been used. -/
def charge (cost : β → Int) (used : Int) (files : List β) (k : Nat) : Int :=
  used + ((files.take k).map cost).sum

theorem charge_cons_succ :
    charge cost used (file :: rest) (k + 1) = charge cost (used + cost file) rest k := by
  rw [charge, charge, take_succ_cons, map_cons, sum_cons, Int.add_assoc]

theorem le_charge (hcost : ∀ file ∈ files, 0 ≤ cost file) (k : Nat) :
    used ≤ charge cost used files k := by
  have hsum : 0 ≤ ((files.take k).map cost).sum := by
    apply sum_nonneg
    intro charged hcharged
    obtain ⟨file, hfile, rfl⟩ := mem_map.mp hcharged
    exact hcost file (mem_of_mem_take hfile)
  rw [charge]
  omega

/-! ## The longest part that fits -/

/-- How many of the first files fit below a limit. None always do, whatever has been used. -/
def fitting (cost : β → Int) (used : Int) (limit : Rat) (files : List β) : Set Nat :=
  {k | k ≤ files.length ∧ (k = 0 ∨ (charge cost used files k : Rat) ≤ limit)}

theorem fitting_mono (h : low ≤ high) (cost : β → Int) (used : Int) (files : List β) :
    fitting cost used low files ⊆ fitting cost used high files := by
  rintro k ⟨hlength, hfits⟩
  exact ⟨hlength, hfits.imp_right fun hcharge => hcharge.trans h⟩

theorem succ_mem_fitting (hcost : ∀ file ∈ rest, 0 ≤ cost file) :
    k + 1 ∈ fitting cost used q (file :: rest) ↔
      ((used + cost file : Int) : Rat) ≤ q ∧ k ∈ fitting cost (used + cost file) q rest := by
  have hfirst : ((used + cost file : Int) : Rat) ≤ charge cost (used + cost file) rest k :=
    mod_cast le_charge hcost k
  have hnone : charge cost (used + cost file) rest 0 = used + cost file := by simp [charge]
  simp only [fitting, Set.mem_ofPred_eq, charge_cons_succ, length_cons, Nat.add_le_add_iff_right,
    Nat.succ_ne_zero, false_or]
  constructor
  · rintro ⟨hlength, hcharge⟩
    exact ⟨hfirst.trans hcharge, hlength, .inr hcharge⟩
  · rintro ⟨hfile, hlength, rfl | hcharge⟩
    · exact ⟨hlength, hnone.symm ▸ hfile⟩
    · exact ⟨hlength, hcharge⟩

/-- The loop keeps as many files as fit. -/
theorem isGreatest_keepFrom (hlimit : b.limit = .exact q) (hcost : ∀ file ∈ files, 0 ≤ cost file)
    (used : Int) : IsGreatest (fitting cost used q files) (b.keepFrom cost used files).length := by
  induction files generalizing used with
  | nil => exact ⟨⟨le_rfl, .inl rfl⟩, fun k hk => hk.1⟩
  | cons file rest ih =>
    obtain ⟨-, hrest⟩ := forall_mem_cons.mp hcost
    rw [keepFrom]
    by_cases hexceeded : b.isExceededBy (used + cost file) = true
    · -- What follows the first file that does not fit is charged no less than that file.
      have hover := (isExceededBy_iff hlimit _).mp hexceeded
      rw [if_pos hexceeded]
      refine ⟨⟨Nat.zero_le _, .inl rfl⟩, fun k hk => ?_⟩
      cases k with
      | zero => exact le_rfl
      | succ k => exact absurd ((succ_mem_fitting hrest).mp hk).1 hover.not_ge
    · have hfits := not_lt.mp (mt (isExceededBy_iff hlimit _).mpr hexceeded)
      obtain ⟨hmem, hupper⟩ := ih hrest (used + cost file)
      rw [if_neg hexceeded, length_cons]
      refine ⟨(succ_mem_fitting hrest).mpr ⟨hfits, hmem⟩, fun k hk => ?_⟩
      cases k with
      | zero => exact Nat.zero_le _
      | succ k => exact Nat.succ_le_succ (hupper ((succ_mem_fitting hrest).mp hk).2)

/-- How a selection depends on the budget: it is the longest initial part that fits below a limit,
no shorter below a higher limit, and everything without one. -/
structure KeepsLongest (cost : β → Int) (used : Int) (files : List β)
    (kept : Option Budget → List β) : Prop where
  longest {b : Budget} {q : Rat} : b.limit = .exact q →
    ∃ k, IsGreatest (fitting cost used q files) k ∧ kept (some b) = files.take k
  grows {small large : Budget} {low high : Rat} : small.limit = .exact low →
    large.limit = .exact high → low ≤ high →
    (kept (some small)).length ≤ (kept (some large)).length
  unlimited : kept none = files

theorem keepsLongest_keep (hcost : ∀ file ∈ files, 0 ≤ cost file) (used : Int) :
    KeepsLongest cost used files fun budget => keep budget cost used files where
  longest hlimit := ⟨_, isGreatest_keepFrom hlimit hcost used,
    prefix_iff_eq_take.mp (keepFrom_isInitial _ cost used files)⟩
  grows hlow hhigh h := (isGreatest_keepFrom hlow hcost used).mono
    (isGreatest_keepFrom hhigh hcost used) (fitting_mono h cost used files)
  unlimited := rfl

end Budget

namespace Digest

open CommandLine

variable {d : Digest} {withMetadata : Bool} {budget : Option Budget}

/-! ## Renderings -/

theorem omissionNote_ne_nil_iff (hnone : budget = none → omitted = 0) :
    omissionNote omitted budget ≠ [] ↔ 0 < omitted := by
  cases budget with
  | none => simp [omissionNote, hnone rfl]
  | some b =>
    by_cases h : omitted = 0
    · simp [omissionNote, h]
    · simp [omissionNote, h, Nat.pos_of_ne_zero h]

/-- Both renderings keep the longest initial part of the ranking that their charges leave room for,
and tell how many files they left out: the document in a note, if there are any, the record by
their number. -/
structure LongestSelection (d : Digest) (withMetadata : Bool) : Prop where
  document : Budget.KeepsLongest (fun f => tokensOf (fileSection withMetadata f))
    (tokensOf d.header) d.files (documentFiles tokensOf d withMetadata)
  record : Budget.KeepsLongest (fun f => tokensOf f.content) 0 d.files (keptFiles tokensOf d)
  text (budget : Option Budget) :
    let kept := documentFiles tokensOf d withMetadata budget
    let note := omissionNote (d.files.length - kept.length) budget
    d.markdown tokensOf withMetadata budget = d.header ++ "\n" ++
        "\n".intercalate (kept.map (fileSection withMetadata) ++ note) ∧
      (note ≠ [] ↔ 0 < d.files.length - kept.length)
  entries (budget : Option Budget) :
    let kept := keptFiles tokensOf d budget
    ∃ entries, d.json tokensOf withMetadata budget = Json.pretty
        (.table (d.extra.foldl (fun entries e => Keyed.insert entries e.1 e.2) entries)) ∧
      entries.lookup "files" = some (.list (kept.map (fileEntry withMetadata))) ∧
      entries.lookup "omitted_files" = some (.int (d.files.length - kept.length : Nat))

theorem selects_longest (d : Digest) (withMetadata : Bool) : LongestSelection d withMetadata where
  document := Budget.keepsLongest_keep (fun f _ => tokensOf_nonneg _) (tokensOf d.header)
  record := Budget.keepsLongest_keep (fun f _ => tokensOf_nonneg _) 0
  text budget := by
    intro kept note
    constructor
    · rw [markdown, keptSections_eq, length_map]
    · apply omissionNote_ne_nil_iff
      rintro rfl
      exact Nat.sub_self _
  entries budget := ⟨_, rfl, rfl, rfl⟩

/-- A header that is over the budget by itself leaves no room for a file, and the record, which is
not charged for it, keeps the file. -/
example : (documentFiles tokensOf oneScript false (some (.ofInt 8))).length = 0 ∧
    (keptFiles tokensOf oneScript (some (.ofInt 8))).length = 1 := by
  decide +kernel

end Digest

end SourceDigest
