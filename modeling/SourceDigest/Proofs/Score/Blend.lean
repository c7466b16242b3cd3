import Mathlib.Tactic.Linarith
import Mathlib.Tactic.NormNum
import Mathlib.Tactic.NormNum.OfScientific
import Mathlib.Tactic.Ring
import SourceDigest.Score.Heuristic
import SourceDigest.Score.Structural

/-! Scores without rounding. Both scores are cut off at zero, and their blend, a weighted mean,
lies between them. -/

namespace SourceDigest.Score

open Scalar

theorem least_rat (a b : Rat) : least a b = min a b := by
  unfold least
  split
  · rename_i h
    exact (min_eq_right h.le).symm
  · rename_i h
    exact (min_eq_left (not_lt.mp h)).symm

theorem most_rat (a b : Rat) : most a b = max a b := by
  unfold most
  split
  · rename_i h
    exact (max_eq_right h.le).symm
  · rename_i h
    exact (max_eq_left (not_lt.mp h)).symm

theorem most_zero_nonneg (x : Rat) : 0 ≤ most x 0.0 := by
  rw [most_rat]
  exact le_max_of_le_right (by norm_num)

theorem heuristic_nonneg (path content : String) (prioritized : List String) :
    0 ≤ (heuristic path content prioritized : Rat) :=
  most_zero_nonneg _

theorem structural_nonneg (policy : Policy) (m : Metrics Rat) (centrality : Rat) :
    0 ≤ structural policy m centrality := by
  cases policy with
  | additive => exact most_zero_nonneg _
  | legacy => exact most_zero_nonneg _

theorem blend_rat (heuristic structural weight : Rat) :
    blend heuristic structural weight = heuristic + (structural - heuristic) * weight := by
  have hone : (1.0 : Rat) = 1 := by norm_num
  rw [blend, hone]
  ring

theorem blend_zero (heuristic structural : Rat) : blend heuristic structural 0 = heuristic := by
  simp [blend_rat]

theorem blend_comm (heuristic structural weight : Rat) :
    blend heuristic structural weight = blend structural heuristic (1 - weight) := by
  rw [blend_rat, blend_rat]
  ring

variable {heuristic structural weight : Rat}

theorem blend_between_of_le (h : heuristic ≤ structural) (h0 : 0 ≤ weight) (h1 : weight ≤ 1) :
    heuristic ≤ blend heuristic structural weight ∧
      blend heuristic structural weight ≤ structural := by
  have hgap : 0 ≤ structural - heuristic := sub_nonneg.mpr h
  have hpart := mul_nonneg hgap h0
  have hall := mul_le_of_le_one_right hgap h1
  rw [blend_rat]
  constructor <;> linarith

/-- The blend lies between both scores, whichever is the larger. -/
theorem blend_between (h0 : 0 ≤ weight) (h1 : weight ≤ 1) :
    min heuristic structural ≤ blend heuristic structural weight ∧
      blend heuristic structural weight ≤ max heuristic structural := by
  rcases le_total heuristic structural with h | h
  · rw [min_eq_left h, max_eq_right h]
    exact blend_between_of_le h h0 h1
  · rw [min_eq_right h, max_eq_left h, blend_comm]
    exact blend_between_of_le h (sub_nonneg.mpr h1) (sub_le_self 1 h0)

end SourceDigest.Score
