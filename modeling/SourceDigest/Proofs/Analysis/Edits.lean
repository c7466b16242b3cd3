import Mathlib.RingTheory.Coprime.Lemmas
import SourceDigest.Analysis.Memo
import SourceDigest.Proofs.Analysis.Polynomial

/-! What the hash of a file tells about a change to it. The powers of 31 are units of the residues,
so a change shows in the hash of the whole just where it shows in the hash of the part that was
changed, and one or two characters are hashed without any reduction. -/

namespace SourceDigest.RollingHash

open List

/-- The smallest changes of a text: one character in place of another, or two different neighbours
the other way round. -/
inductive Edited : List Char → List Char → Prop where
  | replaced (front back : List Char) {c d : Char} (h : c ≠ d) :
      Edited (front ++ c :: back) (front ++ d :: back)
  | swapped (front back : List Char) {c d : Char} (h : c ≠ d) :
      Edited (front ++ c :: d :: back) (front ++ d :: c :: back)

/-! ## Parts of a text -/

theorem dvd_of_dvd_mul_pow {difference : Int} {k : Nat}
    (h : (2 : Int) ^ 32 ∣ difference * 31 ^ k) : (2 : Int) ^ 32 ∣ difference := by
  have hcoprime : IsCoprime ((2 : Int) ^ 32) (31 ^ k) :=
    IsCoprime.pow (Int.isCoprime_iff_gcd_eq_one.mpr rfl)
  exact hcoprime.dvd_of_dvd_mul_right h

/-- What stands around parts of one length does not change whether they have one hash. -/
theorem ofChars_around_iff (front back : List Char) {first second : List Char}
    (hlength : first.length = second.length) :
    ofChars (front ++ first ++ back) = ofChars (front ++ second ++ back) ↔
      ofChars first = ofChars second := by
  have hdifference : polynomial (front ++ second ++ back) - polynomial (front ++ first ++ back) =
      (polynomial second - polynomial first) * 31 ^ back.length := by
    simp only [polynomial_append, hlength]
    ring
  rw [ofChars_eq_iff, ofChars_eq_iff, Int.modEq_iff_dvd, Int.modEq_iff_dvd, hdifference]
  exact ⟨dvd_of_dvd_mul_pow, fun h => h.mul_right _⟩

/-! ## Few characters -/

theorem toNat_lt (c : Char) : c.toNat < 0x110000 := by
  rcases c.valid with h | ⟨-, h⟩
  · exact h.trans (by decide)
  · exact h

theorem ofChars_of_lt {text : List Char} (h0 : 0 ≤ polynomial text)
    (h : polynomial text < 2 ^ 31) : ofChars text = polynomial text :=
  (isSignedResidue_ofChars text).unique ⟨by omega, h, rfl⟩

theorem ofChars_single (c : Char) : ofChars [c] = c.toNat := by
  have hvalue : polynomial [c] = c.toNat := by simp [polynomial_cons]
  have hlt := toNat_lt c
  rw [ofChars_of_lt (by omega) (by omega), hvalue]

theorem ofChars_pair (c d : Char) : ofChars [c, d] = c.toNat * 31 + d.toNat := by
  have hvalue : polynomial [c, d] = c.toNat * 31 + d.toNat := by simp [polynomial_cons]
  have hc := toNat_lt c
  have hd := toNat_lt d
  rw [ofChars_of_lt (by omega) (by omega), hvalue]

/-! ## Edits -/

theorem Edited.ofChars_ne {content edited : List Char} (h : Edited content edited) :
    ofChars edited ≠ ofChars content := by
  cases h with
  | @replaced front back c d hne =>
    have haround := ofChars_around_iff front back (show [d].length = [c].length from rfl)
    rw [append_assoc, append_assoc, ofChars_single, ofChars_single] at haround
    intro heq
    have hsame : d.toNat = c.toNat := mod_cast haround.mp heq
    exact hne (Char.toNat_inj.mp hsame.symm)
  | @swapped front back c d hne =>
    have haround := ofChars_around_iff front back (show [d, c].length = [c, d].length from rfl)
    rw [append_assoc, append_assoc, ofChars_pair, ofChars_pair] at haround
    intro heq
    have hsame := haround.mp heq
    exact hne (Char.toNat_inj.mp (by omega))

/-- A small edit gives a file another key, and parts of one length with one hash can stand for each
other in every text. -/
theorem keyFor_tells_edits :
    (∀ content edited : String, Edited content.toList edited.toList →
      rollingHash edited ≠ rollingHash content ∧
        ∀ path, Memo.keyFor path edited ≠ Memo.keyFor path content) ∧
    ∀ front back first second : String, first.length = second.length →
      rollingHash first = rollingHash second →
        rollingHash (front ++ first ++ back) = rollingHash (front ++ second ++ back) := by
  refine ⟨fun content edited h => ⟨h.ofChars_ne, fun path hkey => ?_⟩, ?_⟩
  · exact h.ofChars_ne (congrArg Prod.snd hkey)
  · intro front back first second hlength hhash
    simp only [rollingHash, String.toList_append]
    exact (ofChars_around_iff _ _ (by rwa [String.length_toList, String.length_toList])).mpr hhash

/-- One digit of a script, two letters the other way round, and two words with one hash. -/
theorem keyFor_tells_edits_script :
    rollingHash "export const a = 2;" ≠ rollingHash "export const a = 1;" ∧
      Memo.keyFor "a.ts" "export const b = 1;" ≠ Memo.keyFor "a.ts" "export cosnt b = 1;" ∧
      rollingHash ("let " ++ "Aa" ++ " = 1;") = rollingHash ("let " ++ "BB" ++ " = 1;") := by
  refine ⟨(keyFor_tells_edits.1 _ _ ?_).1, (keyFor_tells_edits.1 _ _ ?_).2 "a.ts", ?_⟩
  · exact .replaced "export const a = ".toList [';'] (by decide)
  · exact .swapped "export co".toList "t b = 1;".toList (by decide)
  · exact keyFor_tells_edits.2 _ _ _ _ (by decide) (by decide)

end SourceDigest.RollingHash
