import Mathlib
import SourceDigest.Number.Scalar

/-! Doubles without a minus sign. Products and quotients of such doubles have none either, so what
is computed from counts by multiplying and dividing is never below zero: not when a step is
rounded, and not when one of them leaves the line. -/

namespace SourceDigest.Unsigned

open Float.Model Float.Model.UnpackedFloat

variable {spec : Format} {f g : UnpackedFloat} {x y : Float} {n : Int}

/-! ## Doubles that are taken apart -/

/-- The sign that is packed with a value; the one that is not a number has no minus. -/
def signOf : UnpackedFloat → Sign
  | .infinity sign => sign
  | .notANumber => .positive
  | .zero sign => sign
  | .finite sign _ _ _ => sign

theorem signOf_roundWithAccuracy (sign : Sign) (m : Nat) (e : Int) (accuracy : Accuracy) :
    signOf (roundWithAccuracy spec sign m e accuracy) = sign := by
  unfold roundWithAccuracy
  dsimp only
  split <;> rfl

theorem signOf_normalize (m : Nat) (e : Int) :
    signOf (UnpackedFloat.normalize spec m e .positive) = .positive := by
  unfold UnpackedFloat.normalize
  split
  · rename_i hlt
    exact absurd (compare_lt_iff_lt.mp hlt) (by omega)
  · rfl
  · exact signOf_roundWithAccuracy ..

theorem signOf_mul (hf : signOf f = .positive) (hg : signOf g = .positive) :
    signOf (UnpackedFloat.mul spec f g) = .positive := by
  cases f <;> cases g <;> cases hf <;> cases hg <;>
    first | rfl | exact signOf_roundWithAccuracy ..

theorem signOf_div (hf : signOf f = .positive) (hg : signOf g = .positive) :
    signOf (UnpackedFloat.div spec f g) = .positive := by
  cases f <;> cases g <;> cases hf <;> cases hg <;>
    first | rfl | exact signOf_roundWithAccuracy ..

theorem signOf_ofScientific (m : Nat) (e : Int) :
    signOf (UnpackedFloat.ofScientific spec m e) = .positive := by
  unfold UnpackedFloat.ofScientific
  split_ifs
  · rfl
  · rfl
  · rfl
  · exact signOf_mul rfl rfl
  · exact signOf_div rfl rfl

/-! ## Packing -/

theorem unpackSign_pack (f : UnpackedFloat) :
    unpackSign (UnpackedFloat.pack spec f) = (signOf f).toBitVec := by
  cases f with
  | infinity sign => exact unpackSign_packComponents ..
  | notANumber => exact unpackSign_packComponents ..
  | zero sign => exact unpackSign_packComponents ..
  | finite sign m e hm =>
    unfold UnpackedFloat.pack
    dsimp only
    split_ifs <;> exact unpackSign_packComponents ..

theorem signOf_unpack {bits : BitVec spec.numBits} (h : unpackSign bits = 0#1) :
    signOf (UnpackedFloat.unpack spec bits) = .positive := by
  have hsign : Sign.ofBitVec (unpackSign bits) = .positive := by rw [h]; rfl
  unfold UnpackedFloat.unpack
  dsimp only
  split_ifs <;> first | exact hsign | rfl

/-! ## Doubles -/

/-- The sign bit of a double is clear. -/
def IsUnsigned (x : Float) : Prop :=
  @unpackSign Format.binary64 x.toBits.toBitVec = 0#1

instance : DecidablePred IsUnsigned :=
  fun _ => inferInstanceAs (Decidable (_ = _))

theorem isUnsigned_pack (h : signOf f = .positive) : IsUnsigned ⟨Float.Model.pack f⟩ :=
  (unpackSign_pack f).trans (congrArg Sign.toBitVec h)

theorem IsUnsigned.signOf (h : IsUnsigned x) : signOf x.toModel.unpack = .positive :=
  signOf_unpack h

theorem IsUnsigned.mul (hx : IsUnsigned x) (hy : IsUnsigned y) : IsUnsigned (x * y) :=
  isUnsigned_pack (signOf_mul hx.signOf hy.signOf)

theorem IsUnsigned.div (hx : IsUnsigned x) (hy : IsUnsigned y) : IsUnsigned (x / y) :=
  isUnsigned_pack (signOf_div hx.signOf hy.signOf)

theorem isUnsigned_ofScientific (n : Nat) : IsUnsigned (Float.ofScientific n false 0) := by
  unfold Float.ofScientific
  split
  · -- The number as it is, times the power of ten that is one.
    have hone : IsUnsigned Float.exactlyRepresentablePowersOfTen[0] := by decide
    have hnumber : IsUnsigned n.toUInt64.toFloat := isUnsigned_pack (signOf_normalize _ _)
    simpa only [Bool.false_eq_true, if_false] using hnumber.mul hone
  · exact isUnsigned_pack (signOf_ofScientific _ _)

theorem isUnsigned_ofInt (h : 0 ≤ n) : IsUnsigned (Scalar.ofInt n) := by
  have hint : (Scalar.ofInt n : Float) = Scalar.floatOfInt n := rfl
  rw [hint, Scalar.floatOfInt, if_neg (by omega)]
  exact isUnsigned_ofScientific n.natAbs

theorem isUnsigned_ofNat (n : Nat) : IsUnsigned (Scalar.ofNat n) :=
  isUnsigned_ofInt (Int.natCast_nonneg n)

/-! ## Rounding up -/

theorem IsUnsigned.toNat_toBits_lt (h : IsUnsigned x) : x.toBits.toNat < 2 ^ 63 := by
  have hbit : x.toBits.toBitVec.msb = false := by
    have hsign := congrArg (BitVec.getLsbD · 0) h
    simp only [unpackSign, BitVec.cast_eq, BitVec.getLsbD_eq_getElem, Nat.lt_one_iff,
      BitVec.getElem_extract, Nat.add_zero, BitVec.getElem_zero] at hsign
    exact (BitVec.msb_eq_getLsbD_last _).trans hsign
  have hdouble := BitVec.msb_eq_false_iff_two_mul_lt.mp hbit
  have hbits : x.toBits.toBitVec.toNat = x.toBits.toNat := rfl
  omega

/-- A double without a minus is taken apart into something that has none. -/
theorem IsUnsigned.nonneg_toRat? (h : IsUnsigned x) :
    ∀ value ∈ (Binary.ofFloat x).toRat?, 0 ≤ value := by
  have hnegative : (x.toBits.toNat / 0x8000000000000000 == 1) = false := by
    have := h.toNat_toBits_lt
    simp only [beq_eq_false_iff_ne]
    omega
  have hfinite (m : Nat) (e : Int) : ∀ value ∈ (Binary.finite false m e).toRat?, 0 ≤ value := by
    rintro _ ⟨⟩
    exact Rat.mkRat_nonneg (Int.natCast_nonneg _) _
  unfold Binary.ofFloat
  simp only [hnegative]
  split_ifs
  · rintro value ⟨⟩
  · rintro value ⟨⟩
  · exact hfinite _ _
  · exact hfinite _ _

/-- What has no minus is not rounded up to something below zero. -/
theorem IsUnsigned.nonneg_ceil (h : IsUnsigned x) : 0 ≤ Scalar.ceil x := by
  have hceil : Scalar.ceil x = Scalar.ceilFloat x := rfl
  have hvalue := h.nonneg_toRat?
  rw [hceil, Scalar.ceilFloat]
  split
  · rename_i value hsome
    exact_mod_cast (hvalue value hsome).trans Rat.le_ceil
  · exact le_rfl

end SourceDigest.Unsigned
