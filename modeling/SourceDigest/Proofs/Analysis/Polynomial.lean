import Mathlib.Algebra.BigOperators.Fin
import Mathlib.Data.Int.ModEq
import Mathlib.Tactic.Ring
import SourceDigest.Analysis.RollingHash

/-! The rolling hash against the exact polynomial. Reducing in each step and giving the residue
its sign once at the end comes to the signed residue of the polynomial in 31 over all code points,
which is never reduced. -/

namespace SourceDigest.RollingHash

open List

/-- The polynomial in 31 whose coefficients are the code points of a text, the first one highest. -/
def polynomial (text : List Char) : Int :=
  ∑ i : Fin text.length, (text[i].toNat : Int) * 31 ^ (text.length - 1 - i)

/-- The number between minus half the modulus and half the modulus in the residue class of `n`. -/
structure IsSignedResidue (n residue : Int) : Prop where
  lower : -2 ^ 31 ≤ residue
  upper : residue < 2 ^ 31
  congruent : residue ≡ n [ZMOD 2 ^ 32]

/-! ## The polynomial -/

@[simp] theorem polynomial_nil : polynomial [] = 0 :=
  rfl

theorem polynomial_cons (c : Char) (text : List Char) :
    polynomial (c :: text) = c.toNat * 31 ^ text.length + polynomial text := by
  have hexponent (i : Fin text.length) :
      (c :: text).length - 1 - (i.succ : Nat) = text.length - 1 - i := by
    rw [length_cons, Fin.val_succ]
    omega
  calc polynomial (c :: text)
      = c.toNat * 31 ^ text.length +
          ∑ i : Fin text.length, (text[i].toNat : Int) * 31 ^ ((c :: text).length - 1 - i.succ) :=
        Fin.sum_univ_succ _
    _ = c.toNat * 31 ^ text.length + polynomial text := by
        simp only [hexponent, polynomial]

theorem polynomial_append (front back : List Char) :
    polynomial (front ++ back) = polynomial front * 31 ^ back.length + polynomial back := by
  induction front with
  | nil => simp
  | cons c front ih =>
    rw [cons_append, polynomial_cons, polynomial_cons, ih, length_append]
    ring

theorem polynomial_concat (text : List Char) (c : Char) :
    polynomial (text ++ [c]) = polynomial text * 31 + c.toNat := by
  simp [polynomial_append, polynomial_cons]

/-! ## Signed residues -/

theorem IsSignedResidue.of_modEq {m n residue : Int} (h : IsSignedResidue m residue)
    (hn : m ≡ n [ZMOD 2 ^ 32]) : IsSignedResidue n residue :=
  ⟨h.lower, h.upper, h.congruent.trans hn⟩

theorem IsSignedResidue.unique {n first second : Int} (h : IsSignedResidue n first)
    (h' : IsSignedResidue n second) : first = second := by
  have hdvd : (2 : Int) ^ 32 ∣ second - first := (h.congruent.trans h'.congruent.symm).dvd
  have := h.lower
  have := h.upper
  have := h'.lower
  have := h'.upper
  omega

theorem isSignedResidue_signed {h : Nat} (hlt : h < modulus) : IsSignedResidue h (signed h) := by
  rw [modulus] at hlt
  by_cases hhalf : modulus / 2 ≤ h
  · have hsigned : signed h = h - 2 ^ 32 := if_pos hhalf
    rw [modulus] at hhalf
    refine ⟨by omega, by omega, ?_⟩
    rw [hsigned]
    exact Int.sub_modulus_modEq_iff.mpr rfl
  · have hsigned : signed h = h := if_neg hhalf
    rw [modulus] at hhalf
    exact ⟨by omega, by omega, hsigned ▸ rfl⟩

/-! ## The accumulator -/

theorem step_modEq (h : Nat) (c : Char) : (step h c : Int) ≡ h * 31 + c.toNat [ZMOD 2 ^ 32] := by
  rw [step, Int.natCast_mod]
  exact Int.mod_modEq _ _

theorem foldl_step_lt (text : List Char) : text.foldl step 0 < modulus := by
  induction text using List.reverseRecOn with
  | nil => decide
  | append_singleton text c _ =>
    rw [foldl_concat, step]
    exact Nat.mod_lt _ (by decide)

/-- What is reduced in every step stays congruent to the polynomial, which is not. -/
theorem foldl_step_modEq (text : List Char) :
    ((text.foldl step 0 : Nat) : Int) ≡ polynomial text [ZMOD 2 ^ 32] := by
  induction text using List.reverseRecOn with
  | nil => rfl
  | append_singleton text c ih =>
    rw [foldl_concat, polynomial_concat]
    exact (step_modEq _ _).trans ((ih.mul_right 31).add_right _)

/-! ## The hash -/

theorem isSignedResidue_ofChars (text : List Char) :
    IsSignedResidue (polynomial text) (ofChars text) :=
  (isSignedResidue_signed (foldl_step_lt text)).of_modEq (foldl_step_modEq text)

/-- Two texts have one hash where their polynomials are congruent. -/
theorem ofChars_eq_iff {first second : List Char} :
    ofChars first = ofChars second ↔ polynomial first ≡ polynomial second [ZMOD 2 ^ 32] := by
  have hfirst := isSignedResidue_ofChars first
  have hsecond := isSignedResidue_ofChars second
  constructor
  · intro h
    rw [h] at hfirst
    exact hfirst.congruent.symm.trans hsecond.congruent
  · intro h
    exact hfirst.unique (hsecond.of_modEq h.symm)

/-- The hash of a text is the signed residue of its polynomial, and the hash of two texts in a row
follows from both hashes and the length of the second text. -/
theorem rollingHash_residue :
    (∀ (content : String) (residue : Int),
      rollingHash content = residue ↔ IsSignedResidue (polynomial content.toList) residue) ∧
    ∀ first second : String, rollingHash (first ++ second) ≡
      rollingHash first * 31 ^ second.length + rollingHash second [ZMOD 2 ^ 32] := by
  have hresidue (content : String) := isSignedResidue_ofChars content.toList
  refine ⟨fun content residue => ⟨?_, (hresidue content).unique⟩, fun first second => ?_⟩
  · rintro rfl
    exact hresidue content
  · calc rollingHash (first ++ second)
        ≡ polynomial (first ++ second).toList [ZMOD 2 ^ 32] := (hresidue _).congruent
      _ = polynomial first.toList * 31 ^ second.length + polynomial second.toList := by
        rw [String.toList_append, polynomial_append, String.length_toList]
      _ ≡ rollingHash first * 31 ^ second.length + rollingHash second [ZMOD 2 ^ 32] :=
        ((hresidue first).congruent.symm.mul_right _).add (hresidue second).congruent.symm

/-- A text whose polynomial is beyond thirty-two bits and whose hash is negative. -/
example : rollingHash "hello world, this is a test" = -176559395 := by
  decide +kernel

end SourceDigest.RollingHash
