import Mathlib.Algebra.Order.BigOperators.Group.List
import Mathlib.Algebra.Order.Floor.Ring
import Mathlib.Data.Rat.Floor
import SourceDigest.Proofs.Text.Words
import SourceDigest.Tokens

/-! The estimate of tokens without rounding in between. A text of several parts is estimated as at
most the sum of what its parts are, each counted as fenced code, and the spaces between them. -/

namespace SourceDigest.Tokens

open Text

variable {text part : List Char} {c : Char}

/-! ## Length -/

theorem normalLength_eq (text : List Char) : normalLength text = extent text - 1 := by
  rw [normalLength, strip_squeeze, length_join, extent]

theorem extent_le (text : List Char) : extent text ≤ normalLength text + 1 := by
  rw [normalLength_eq]
  omega

/-! ## Tokens -/

/-- The tokens of so many characters outside of fenced code. -/
def plainTokens (length : Nat) : Int :=
  ⌈(length : Rat) / (7 / 2)⌉

/-- The tokens of so many characters of fenced code. -/
def fencedTokens (length : Nat) : Int :=
  ⌈(plainTokens length : Rat) * (11 / 10)⌉

theorem ceil_eq (q : Rat) : (Scalar.ceil q : Int) = ⌈q⌉ := by
  apply eq_of_forall_ge_iff
  intro n
  rw [Int.ceil_le]
  exact Rat.ceil_le_iff

/-- The estimate in arithmetic without rounding. -/
theorem estimateChars_eq (text : List Char) :
    estimateChars Rat text =
      if contains fence text = true then fencedTokens (normalLength text)
      else plainTokens (normalLength text) := by
  have hbase : Scalar.ceil (Scalar.ofNat (normalLength text) / 3.5 : Rat) =
      plainTokens (normalLength text) := by
    rw [ceil_eq, plainTokens, show (3.5 : Rat) = 7 / 2 by norm_num]
    rfl
  unfold estimateChars
  simp only [hbase, ceil_eq]
  split
  · rw [fencedTokens, show (1.1 : Rat) = 11 / 10 by norm_num]
    rfl
  · rw [show (1.0 : Rat) = 1 by norm_num]
    exact (congrArg _ (mul_one _)).trans (Int.ceil_intCast _)

theorem plainTokens_add (m n : Nat) : plainTokens (m + n) ≤ plainTokens m + plainTokens n := by
  unfold plainTokens
  push_cast
  rw [add_div]
  exact Int.ceil_add_le _ _

theorem fencedTokens_add (m n : Nat) : fencedTokens (m + n) ≤ fencedTokens m + fencedTokens n := by
  unfold fencedTokens
  calc ⌈(plainTokens (m + n) : Rat) * (11 / 10)⌉
      ≤ ⌈((plainTokens m + plainTokens n : Int) : Rat) * (11 / 10)⌉ := by
        gcongr
        exact plainTokens_add m n
    _ = ⌈(plainTokens m : Rat) * (11 / 10) + (plainTokens n : Rat) * (11 / 10)⌉ := by
        push_cast
        rw [add_mul]
    _ ≤ _ := Int.ceil_add_le _ _

theorem plainTokens_mono {m n : Nat} (h : m ≤ n) : plainTokens m ≤ plainTokens n := by
  unfold plainTokens
  gcongr

theorem fencedTokens_mono {m n : Nat} (h : m ≤ n) : fencedTokens m ≤ fencedTokens n := by
  unfold fencedTokens
  gcongr
  exact plainTokens_mono h

theorem plainTokens_le_fencedTokens (length : Nat) :
    plainTokens length ≤ fencedTokens length := by
  have hpositive : (0 : Rat) ≤ plainTokens length := by
    unfold plainTokens
    exact_mod_cast Int.ceil_nonneg (by positivity)
  rw [fencedTokens, Int.le_ceil_iff]
  linarith

theorem estimateChars_le (text : List Char) :
    estimateChars Rat text ≤ fencedTokens (normalLength text) := by
  rw [estimateChars_eq]
  split
  · exact le_rfl
  · exact plainTokens_le_fencedTokens _

theorem estimateChars_of_fence (h : contains fence text = true) :
    estimateChars Rat text = fencedTokens (normalLength text) := by
  rw [estimateChars_eq, if_pos h]

/-! ## Texts inside of texts -/

theorem normalLength_le_of_isInfix (h : part <:+: text) :
    normalLength part ≤ normalLength text := by
  rw [normalLength_eq, normalLength_eq]
  exact Nat.sub_le_sub_right (extent_le_of_isInfix h) 1

/-- A text costs no less inside of a longer one, which may have a fence that the text has not. -/
theorem estimateChars_le_of_isInfix (h : part <:+: text) :
    estimateChars Rat part ≤ estimateChars Rat text := by
  have hlength := normalLength_le_of_isInfix h
  by_cases hpart : contains fence part = true
  · have hfence : fence <:+: part := contains_iff_infix.mp hpart
    have htext : contains fence text = true := contains_iff_infix.mpr <| hfence.trans h
    rw [estimateChars_of_fence hpart, estimateChars_of_fence htext]
    exact fencedTokens_mono hlength
  · have hplain := plainTokens_mono hlength
    rw [estimateChars_eq, if_neg hpart, estimateChars_eq]
    split
    · exact hplain.trans (plainTokens_le_fencedTokens _)
    · exact hplain

theorem estimateChars_nonneg (text : List Char) : 0 ≤ estimateChars Rat text := by
  have hempty : estimateChars Rat [] = 0 := by decide +kernel
  exact hempty ▸ estimateChars_le_of_isInfix List.nil_infix

/-! ## Texts of several parts -/

/-- The characters that parts add to a text when each one stands on a line of its own. -/
def lineLengths (parts : List (List Char)) : Nat :=
  (parts.map fun part => normalLength part + 1).sum

theorem sum_extent_le (parts : List (List Char)) : (parts.map extent).sum ≤ lineLengths parts :=
  List.sum_le_sum fun part _ => extent_le part

theorem normalLength_lines (first : List Char) (parts : List (List Char)) :
    normalLength (first ++ '\n' :: join ['\n'] parts) ≤ normalLength first + lineLengths parts := by
  have hblank : isBlank '\n' = true := by decide
  have hfirst := extent_le first
  have hparts := sum_extent_le parts
  rw [normalLength_eq, extent_append_blank hblank, extent_join hblank]
  omega

theorem lineLengths_append (first rest : List (List Char)) :
    lineLengths (first ++ rest) = lineLengths first + lineLengths rest := by
  rw [lineLengths, List.map_append, List.sum_append]
  rfl

theorem fencedTokens_sum_le (lengths : List Nat) :
    fencedTokens lengths.sum ≤ (lengths.map fencedTokens).sum := by
  induction lengths with
  | nil => decide +kernel
  | cons length rest ih =>
    rw [List.sum_cons, List.map_cons, List.sum_cons]
    exact (fencedTokens_add length rest.sum).trans (by omega)

end SourceDigest.Tokens
