import SourceDigest.Proofs.Text.Lines
import SourceDigest.Proofs.Tokens.Estimate

/-! The estimate sees the words of a text and not the white space around them. -/

namespace SourceDigest.Text

open List

variable {text part : List Char}

/-- A part without white space stands in a text where it stands in one of its words. -/
theorem infix_iff_exists_word (hne : part ≠ []) (hsolid : ∀ c ∈ part, isBlank c = false) :
    part <:+: text ↔ ∃ word ∈ words text, part <:+: word := by
  have havoids {c : Char} (hc : isBlank c = true) : c ∉ part := fun hmem => by
    simp [hsolid c hmem] at hc
  induction text using wordwise with
  | nil => simpa [words, splitOnP_nil] using hne
  | blank c rest hc ih =>
    have hrest := infix_append_cons_iff (havoids hc) [] rest
    rw [nil_append] at hrest
    rw [words_cons_blank hc, hrest, infix_nil, or_iff_right hne]
    exact ih
  | last word hword hwordSolid => simp [words_of_solid hword hwordSolid]
  | more word c rest hword hwordSolid hc ih =>
    rw [words_cons_of_solid hword hwordSolid hc, infix_append_cons_iff (havoids hc)]
    simp only [mem_cons, exists_eq_or_imp]
    exact or_congr_right ih

end SourceDigest.Text

namespace SourceDigest.Tokens

open Text

variable {text other : List Char}

theorem normalLength_of_words (h : words text = words other) :
    normalLength text = normalLength other := by
  rw [normalLength, normalLength, strip_squeeze, strip_squeeze, h]

theorem contains_fence_of_words (h : words text = words other) :
    contains fence text = contains fence other := by
  have hsolid : ∀ c ∈ fence, isBlank c = false := by
    intro c hc
    obtain rfl := List.eq_of_mem_replicate hc
    decide
  have hfence (text : List Char) : contains fence text = true ↔
      ∃ word ∈ words text, fence <:+: word :=
    contains_iff_infix.trans <| infix_iff_exists_word (by decide) hsolid
  rw [Bool.eq_iff_iff, hfence, hfence, h]

/-- Texts of the same words have the same estimate, with rounding or without it. Without it a text
costs no less inside of a longer one, whatever its first and its last word become there. -/
theorem estimate_ofWords :
    (∀ (α : Type) [Scalar α] (text other : String),
      words text.toList = words other.toList → estimate α text = estimate α other) ∧
    ∀ front text back : String, estimate Rat text ≤ estimate Rat (front ++ text ++ back) := by
  constructor
  · intro α _ text other h
    rw [estimate, estimate, estimateChars, estimateChars, normalLength_of_words h,
      contains_fence_of_words h]
  · intro front text back
    apply estimateChars_le_of_isInfix
    rw [String.toList_append, String.toList_append]
    exact List.infix_append _ _ _

/-- A fenced line with other white space in it, and with a letter at its end. -/
theorem estimate_ofWords_fenced :
    words "\x60\x60\x60\nlet  x".toList = words "\t\x60\x60\x60 let\u00a0x\n\n".toList ∧
    estimate Float "\x60\x60\x60\nlet  x" = estimate Float "\t\x60\x60\x60 let\u00a0x\n\n" ∧
    estimate Rat "let  x" ≤ estimate Rat ("\x60\x60\x60\n" ++ "let  x" ++ "y") := by
  have hwords : words "\x60\x60\x60\nlet  x".toList =
      words "\t\x60\x60\x60 let\u00a0x\n\n".toList := by decide
  exact ⟨hwords, estimate_ofWords.1 Float _ _ hwords, estimate_ofWords.2 _ _ _⟩

end SourceDigest.Tokens
