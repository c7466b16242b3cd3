import Mathlib.Algebra.Order.Ring.Rat
import SourceDigest.Options.Basic

/-! What the check of options guarantees. Each of its rules says something about one option, and
options are accepted where all of them hold; the shares among them are numbers between zero and
one, whatever type they were given in. -/

namespace SourceDigest.Options

variable {key reason : String} {v : Value} {o : Options}

/-! ## Numbers -/

def IsShare (v : Value) : Prop :=
  ∃ q : Rat, Amount.ofValue? v = some (.exact q) ∧ 0 ≤ q ∧ q ≤ 1

/-- A number that is not below a whole number. -/
def AtLeast (v : Value) (least : Int) : Prop :=
  ∃ a, Amount.ofValue? v = some a ∧ a.below least = false

/-- What is exact to the check is exact to the scores. -/
theorem toScalar_of_exact {q : Rat} (h : Amount.ofValue? v = some (.exact q)) :
    (v.toScalar : Rat) = q := by
  cases v with
  | bool b => cases b <;> simpa [Amount.ofValue?, Value.toScalar, Scalar.ofInt] using h
  | int n => simpa [Amount.ofValue?, Value.toScalar, Scalar.ofInt] using h
  | float x =>
    cases hx : Binary.ofFloat x with
    | finite negative mantissa exponent =>
      simpa [Amount.ofValue?, Value.toScalar, Scalar.ofFloat, hx] using h
    | infinite negative => simp [Amount.ofValue?, hx] at h
    | undefined => simp [Amount.ofValue?, hx] at h
  | null | text | list | tuple | table | moment => simp [Amount.ofValue?] at h

theorem IsShare.bounds (h : IsShare v) : 0 ≤ (v.toScalar : Rat) ∧ (v.toScalar : Rat) ≤ 1 := by
  obtain ⟨q, hq, h0, h1⟩ := h
  rw [toScalar_of_exact hq]
  exact ⟨h0, h1⟩

theorem AtLeast.le_of_int {n least : Int} (h : AtLeast (.int n) least) : least ≤ n := by
  obtain ⟨a, ha, hbelow⟩ := h
  obtain rfl : Amount.exact n = a := by simpa [Amount.ofValue?] using ha
  exact_mod_cast (show (least : Rat) ≤ n by simpa [Amount.below] using hbelow)

/-! ## Single rules -/

theorem requireNumber_eq_ok_iff {mismatch : Fault} {keeps : Amount → Bool} :
    requireNumber key v mismatch keeps reason = .ok () ↔
      ∃ a, Amount.ofValue? v = some a ∧ keeps a = true := by
  unfold requireNumber
  cases Amount.ofValue? v with
  | none => simp
  | some a => cases hkeeps : keeps a <;> simp [hkeeps]

theorem requireSize_eq_ok_iff :
    requireSize v = .ok () ↔ ∃ a, Amount.ofValue? v = some a ∧ a.atMost 0 = false := by
  simp [requireSize, requireNumber_eq_ok_iff]

theorem requireShare_eq_ok_iff : requireShare key v = .ok () ↔ IsShare v := by
  rw [requireShare, requireNumber_eq_ok_iff]
  constructor
  · rintro ⟨a, ha, hkeeps⟩
    cases a with
    | exact q => exact ⟨q, ha, by simpa [Amount.atLeast, Amount.atMost] using hkeeps⟩
    | infinite negative => cases negative <;> cases hkeeps
    | undefined => cases hkeeps
  · rintro ⟨q, hq, hbounds⟩
    exact ⟨.exact q, hq, by simpa [Amount.atLeast, Amount.atMost] using hbounds⟩

theorem requireAtLeastOne_eq_ok_iff : requireAtLeastOne key v = .ok () ↔ AtLeast v 1 := by
  simp [requireAtLeastOne, requireNumber_eq_ok_iff, AtLeast]

theorem requireTokens_eq_ok_iff : requireTokens v = .ok () ↔ v = .null ∨ AtLeast v 1 := by
  cases v with
  | null => simp [requireTokens]
  | _ => simp [requireTokens, requireAtLeastOne_eq_ok_iff]

theorem requireOneOf_eq_ok_iff {choices : List String} :
    requireOneOf key v choices reason = .ok () ↔ ∃ s ∈ choices, v = .text s := by
  unfold requireOneOf
  cases v with
  | text s => by_cases hs : s ∈ choices <;> simp [hs]
  | _ => simp

theorem requireIncluded_eq_ok_iff : requireIncluded v = .ok () ↔ v.isSet = true := by
  cases hset : v.isSet <;> simp [requireIncluded, hset]

/-! ## All rules -/

/-- Options that keep every rule. -/
structure Accepted (o : Options) : Prop where
  size : ∃ a, Amount.ofValue? o.maxFileSize = some a ∧ a.atMost 0 = false
  weight : IsShare o.structureWeight
  damping : IsShare o.centralityDamping
  rounds : AtLeast o.centralityRounds 1
  format : ∃ s ∈ ["markdown", "json"], o.outputFormat = .text s
  policy : ∃ s ∈ ["additive", "legacy"], o.scoringPolicy = .text s
  verbosity : ∃ s ∈ ["quiet", "normal", "verbose"], o.verbosity = .text s
  tokens : o.maxTokens = .null ∨ AtLeast o.maxTokens 1
  included : o.includePatterns.isSet = true

theorem unit_bind_eq_ok_iff {ε β : Type} {x : Except ε Unit} {f : Unit → Except ε β} {b : β} :
    x >>= f = .ok b ↔ x = .ok () ∧ f () = .ok b := by
  cases x with
  | error e => simp [bind, Except.bind]
  | ok _ => simp [bind, Except.bind]

theorem check_eq_ok_iff : o.check = .ok () ↔ Accepted o := by
  simp only [check, unit_bind_eq_ok_iff, requireSize_eq_ok_iff, requireShare_eq_ok_iff,
    requireAtLeastOne_eq_ok_iff, requireOneOf_eq_ok_iff, requireTokens_eq_ok_iff,
    requireIncluded_eq_ok_iff]
  constructor
  · rintro ⟨hsize, hweight, hdamping, hrounds, hformat, hpolicy, hverbosity, htokens, hincluded⟩
    exact ⟨hsize, hweight, hdamping, hrounds, hformat, hpolicy, hverbosity, htokens, hincluded⟩
  · intro h
    exact ⟨h.size, h.weight, h.damping, h.rounds, h.format, h.policy, h.verbosity, h.tokens,
      h.included⟩

end SourceDigest.Options
