import Mathlib
import SourceDigest.Number.Scalar

/-! Whole numbers among doubles. A whole number below `2 ^ 53` is a double with all its bits, and a
sum of such numbers is exact as long as it stays below the same bound. -/

namespace SourceDigest.Whole

open Float.Model Float.Model.UnpackedFloat

variable {m n k a b : Nat} {e : Int}

/-! ## Mantissas -/

/-- A whole number moved up to the fifty-three bits of a mantissa. -/
def mantissa (n : Nat) : Nat :=
  n * 2 ^ (52 - n.log2)

theorem mantissa_pos (h : 0 < n) : 0 < mantissa n :=
  Nat.mul_pos h (Nat.two_pow_pos _)

theorem log2_le (h : n < 2 ^ 53) : n.log2 ≤ 52 := by
  rcases Nat.eq_zero_or_pos n with rfl | hpos
  · decide
  · exact Nat.le_of_lt_succ ((Nat.log2_lt hpos.ne').mpr h)

theorem mantissa_bounds (hpos : 0 < n) (h : n < 2 ^ 53) :
    2 ^ 52 ≤ mantissa n ∧ mantissa n < 2 ^ 53 := by
  have hlog := log2_le h
  have hlow : 2 ^ n.log2 ≤ n := Nat.log2_self_le hpos.ne'
  have hhigh : n < 2 ^ (n.log2 + 1) := Nat.lt_log2_self
  have hpow : 0 < 2 ^ (52 - n.log2) := Nat.two_pow_pos _
  constructor
  · calc 2 ^ 52 = 2 ^ n.log2 * 2 ^ (52 - n.log2) := by rw [← pow_add]; congr 1; omega
      _ ≤ mantissa n := Nat.mul_le_mul_right _ hlow
  · calc mantissa n < 2 ^ (n.log2 + 1) * 2 ^ (52 - n.log2) := Nat.mul_lt_mul_of_pos_right hhigh hpow
      _ = 2 ^ 53 := by rw [← pow_add]; congr 1; omega

theorem log2_of_bounds (h : 2 ^ 52 ≤ m ∧ m < 2 ^ 53) : m.log2 = 52 :=
  (Nat.log2_eq_iff (by omega)).mpr h

/-- The mantissa of a number, moved on to a scale that is given by fewer bits. -/
theorem mantissa_mul (hk : k ≤ n.log2) (h : n < 2 ^ 53) :
    mantissa n * 2 ^ (n.log2 - k) = n * 2 ^ (52 - k) := by
  have hlog := log2_le h
  rw [mantissa, Nat.mul_assoc, ← pow_add]
  congr 2
  omega

/-! ## Rounding -/

theorem shiftRight_mul (m k : Nat) :
    ExtendedMantissa.mk (m * 2 ^ k) false false >>> k = ⟨m, false, false⟩ := by
  induction k generalizing m with
  | zero => simp [HShiftRight.hShiftRight, Nat.repeat]
  | succ k ih =>
    have hstep : ExtendedMantissa.mk (m * 2 ^ (k + 1)) false false >>> (k + 1) =
        (ExtendedMantissa.mk (m * 2 ^ (k + 1)) false false >>> k).shiftRightOne := rfl
    have hdouble : m * 2 ^ (k + 1) = m * 2 * 2 ^ k := by ring
    rw [hstep, hdouble, ih (m * 2)]
    simp [ExtendedMantissa.shiftRightOne]

theorem log2_mul_two_pow (h : 0 < m) : (m * 2 ^ k).log2 = m.log2 + k := by
  apply (Nat.log2_eq_iff (Nat.mul_pos h (Nat.two_pow_pos k)).ne').mpr
  constructor
  · rw [pow_add]
    exact Nat.mul_le_mul_right _ (Nat.log2_self_le h.ne')
  · rw [Nat.add_right_comm, pow_add]
    exact Nat.mul_lt_mul_of_pos_right Nat.lt_log2_self (Nat.two_pow_pos k)

theorem targetExponent_eq (h : m.log2 = 52) (hpos : 0 < m) (he : -1074 ≤ e + k) :
    Format.binary64.targetExponent (totalExponent (m * 2 ^ k) e) = e + k := by
  simp only [Format.targetExponent, totalExponent, Format.mantissaBits, Format.minExponent,
    log2_mul_two_pow hpos, h]
  omega

theorem shiftToTargetExponent_eq (h : m.log2 = 52) (hpos : 0 < m) (he : -1074 ≤ e + k) :
    shiftToTargetExponent Format.binary64 (m * 2 ^ k) e .exact = (⟨m, false, false⟩, e + k) := by
  have hshift : (e + k - e).toNat = k := by omega
  simp only [shiftToTargetExponent, targetExponent_eq h hpos he, shiftToExponent, hshift,
    ExtendedMantissa.ofMantissaAndAccuracy, shiftRight_mul]

/-- A mantissa with bits to spare that are all zero is rounded to itself. -/
theorem round_eq (h : 2 ^ 52 ≤ m ∧ m < 2 ^ 53) (hpos : 0 < m) (he : -1074 ≤ e + k) :
    UnpackedFloat.round Format.binary64 .positive (m * 2 ^ k) e =
      .finite .positive m (e + k) hpos := by
  have hlog := log2_of_bounds h
  have hstay : (e - (e + k)).toNat = 0 := by omega
  have hfirst := shiftToTargetExponent_eq hlog hpos he
  have hsecond : shiftToTargetExponent Format.binary64 m (e + k) .exact =
      (⟨m, false, false⟩, e + k) := by
    simpa using shiftToTargetExponent_eq (k := 0) (e := e + k) hlog hpos (by simpa using he)
  have hrounded : (ExtendedMantissa.mk m false false).roundedMantissa = m := rfl
  simp only [UnpackedFloat.round, targetExponent_eq hlog hpos he, decreaseExponent, hstay,
    Nat.shiftLeft_zero, Int.natCast_zero, Int.sub_zero, roundWithAccuracy, hfirst, hrounded,
    hsecond, hpos.ne', dif_neg, not_false_eq_true]

theorem normalize_of_pos (h : 0 < m) (e : Int) (zeroSign : Sign) :
    UnpackedFloat.normalize Format.binary64 m e zeroSign =
      UnpackedFloat.round Format.binary64 .positive m e := by
  have hcompare : compare (m : Int) 0 = .gt := compare_gt_iff_gt.mpr (by exact_mod_cast h)
  rw [UnpackedFloat.normalize, hcompare, Int.toNat_natCast]

/-! ## Sums -/

/-- A whole number as a double that is taken apart. -/
def unpacked (n : Nat) : UnpackedFloat :=
  if h : 0 < n then .finite .positive (mantissa n) (n.log2 - 52) (mantissa_pos h)
  else .zero .positive

theorem unpacked_of_pos (h : 0 < n) :
    unpacked n = .finite .positive (mantissa n) (n.log2 - 52) (mantissa_pos h) :=
  dif_pos h

theorem unpacked_zero : unpacked 0 = .zero .positive :=
  rfl

theorem add_unpacked_of_pos (ha : 0 < a) (hb : 0 < b) (h : a + b < 2 ^ 53) :
    UnpackedFloat.add Format.binary64 (unpacked a) (unpacked b) = unpacked (a + b) := by
  have hsum : 0 < a + b := by omega
  have hloga : a.log2 ≤ (a + b).log2 :=
    (Nat.le_log2 hsum.ne').mpr ((Nat.log2_self_le ha.ne').trans (Nat.le_add_right a b))
  -- Both mantissas are moved to the scale of the smaller number, and so is that of the sum.
  generalize hscale : min a.log2 b.log2 = scale
  have hmin : min ((a.log2 : Int) - 52) (b.log2 - 52) = scale - 52 := by omega
  have hshift (n : Nat) (hn : scale ≤ n.log2) :
      ((n.log2 : Int) - 52 - (scale - 52)).toNat = n.log2 - scale := by omega
  have hmantissas : mantissa a * 2 ^ (a.log2 - scale) + mantissa b * 2 ^ (b.log2 - scale) =
      mantissa (a + b) * 2 ^ ((a + b).log2 - scale) := by
    rw [mantissa_mul (by omega) (by omega), mantissa_mul (by omega) (by omega),
      mantissa_mul (by omega) h, Nat.add_mul]
  have hexponent : (scale : Int) - 52 + ((a + b).log2 - scale : Nat) = (a + b).log2 - 52 := by
    omega
  have hround := round_eq (k := (a + b).log2 - scale) (e := (scale : Int) - 52)
    (mantissa_bounds hsum h) (mantissa_pos hsum) (by omega)
  rw [unpacked_of_pos ha, unpacked_of_pos hb, unpacked_of_pos hsum]
  simp only [UnpackedFloat.add, hmin, decreaseExponent, hshift a (by omega), hshift b (by omega),
    Nat.shiftLeft_eq, Sign.apply]
  rw [← Int.natCast_add, hmantissas, normalize_of_pos, hround]
  · simp only [hexponent]
  · exact Nat.mul_pos (mantissa_pos hsum) (Nat.two_pow_pos _)

theorem add_unpacked (h : a + b < 2 ^ 53) :
    UnpackedFloat.add Format.binary64 (unpacked a) (unpacked b) = unpacked (a + b) := by
  rcases Nat.eq_zero_or_pos a with rfl | ha
  · rw [Nat.zero_add, unpacked_zero]
    rcases Nat.eq_zero_or_pos b with rfl | hb
    · rfl
    · rw [unpacked_of_pos hb]
      rfl
  · rcases Nat.eq_zero_or_pos b with rfl | hb
    · rw [Nat.add_zero, unpacked_of_pos ha]
      rfl
    · exact add_unpacked_of_pos ha hb h

/-! ## Bits -/

theorem toNat_packComponents (exponent : BitVec 11) (fraction : BitVec 52) :
    (packComponents Format.binary64 .positive exponent fraction).toNat =
      exponent.toNat * 2 ^ 52 + fraction.toNat := by
  simp only [packComponents, Sign.toBitVec]
  rw [BitVec.toNat_append, BitVec.toNat_append, ← Nat.shiftLeft_add_eq_or_of_lt fraction.isLt,
    Nat.shiftLeft_eq]
  simp

/-- The bits of a positive whole number: its exponent, and the mantissa without its leading
bit. -/
theorem pack_unpacked (hpos : 0 < n) (h : n < 2 ^ 53) :
    UnpackedFloat.pack Format.binary64 (unpacked n) =
      packComponents Format.binary64 .positive (BitVec.ofNat 11 (n.log2 + 1023))
        (BitVec.ofNat 52 (mantissa n)) := by
  have hlog := log2_le h
  have hmantissa := log2_of_bounds (mantissa_bounds hpos h)
  have hexponent : ((n.log2 : Int) - 52 + (2 ^ (11 - 1) - 1 : Nat) + (52 : Nat)).toNat =
      n.log2 + 1023 := by omega
  have hfinite : ¬2 ^ 11 ≤ n.log2 + 1023 + 1 := by omega
  rw [unpacked_of_pos hpos]
  simp only [UnpackedFloat.pack, hmantissa, Format.exponentBias, Format.mantissaBits, hexponent,
    if_neg hfinite, if_true]

theorem toNat_exponent (h : n < 2 ^ 53) : (BitVec.ofNat 11 (n.log2 + 1023)).toNat =
    n.log2 + 1023 := by
  have hlog := log2_le h
  rw [BitVec.toNat_ofNat]
  omega

theorem toNat_fraction (hpos : 0 < n) (h : n < 2 ^ 53) :
    (BitVec.ofNat 52 (mantissa n)).toNat + 2 ^ 52 = mantissa n := by
  obtain ⟨hlow, hhigh⟩ := mantissa_bounds hpos h
  rw [BitVec.toNat_ofNat]
  omega

theorem unpack_pack (h : n < 2 ^ 53) :
    UnpackedFloat.unpack Format.binary64 (UnpackedFloat.pack Format.binary64 (unpacked n)) =
      unpacked n := by
  rcases Nat.eq_zero_or_pos n with rfl | hpos
  · rfl
  have hlog := log2_le h
  have hexponent := toNat_exponent h
  have hnormal : BitVec.ofNat 11 (n.log2 + 1023) ≠ 0#11 := fun hzero => by
    rw [hzero] at hexponent
    simp at hexponent
  have hfinite : BitVec.ofNat 11 (n.log2 + 1023) ≠ -1#11 := fun hones => by
    rw [hones] at hexponent
    simp at hexponent
    omega
  have hleading : (1#1 ++ BitVec.ofNat 52 (mantissa n)).toNat = mantissa n := by
    rw [BitVec.toNat_append, ← Nat.shiftLeft_add_eq_or_of_lt (BitVec.isLt _), Nat.shiftLeft_eq]
    exact (Nat.add_comm _ _).trans (toNat_fraction hpos h)
  have hbias : ((n.log2 + 1023 : Nat) : Int) - ((2 ^ (11 - 1) - 1 : Nat) + (52 : Nat)) =
      n.log2 - 52 := by omega
  rw [pack_unpacked hpos h, unpacked_of_pos hpos]
  simp only [UnpackedFloat.unpack, unpackExponent_packComponents, unpackMantissa_packComponents,
    unpackSign_packComponents, Sign.ofBitVec_toBitVec, if_neg hnormal, if_neg hfinite, hexponent,
    Format.exponentBias, hleading, hbias]

/-! ## Doubles -/

def toFloat (n : Nat) : Float :=
  ⟨Float.Model.pack (unpacked n)⟩

theorem toFloat_add (h : a + b < 2 ^ 53) : toFloat a + toFloat b = toFloat (a + b) := by
  have hmodel : toFloat a + toFloat b = ⟨Float.Model.pack (UnpackedFloat.add Format.binary64
      (UnpackedFloat.unpack Format.binary64 (UnpackedFloat.pack Format.binary64 (unpacked a)))
      (UnpackedFloat.unpack Format.binary64 (UnpackedFloat.pack Format.binary64 (unpacked b))))⟩ :=
    rfl
  rw [hmodel, unpack_pack (by omega), unpack_pack (by omega), add_unpacked h]
  rfl

theorem toNat_toBits (hpos : 0 < n) (h : n < 2 ^ 53) :
    (toFloat n).toBits.toNat + 2 ^ 52 = (n.log2 + 1023) * 2 ^ 52 + mantissa n := by
  have hfraction := toNat_fraction hpos h
  have hbits : (toFloat n).toBits.toNat =
      (UnpackedFloat.pack Format.binary64 (unpacked n)).toNat := rfl
  rw [hbits, pack_unpacked hpos h, toNat_packComponents, toNat_exponent h]
  omega

theorem ofFloat_toFloat (hpos : 0 < n) (h : n < 2 ^ 53) :
    Binary.ofFloat (toFloat n) = .finite false (mantissa n) (n.log2 - 52) := by
  have hlog := log2_le h
  obtain ⟨hlow, hhigh⟩ := mantissa_bounds hpos h
  have hbits := toNat_toBits hpos h
  unfold Binary.ofFloat
  generalize (toFloat n).toBits.toNat = bits at hbits ⊢
  have hnegative : bits / 0x8000000000000000 = 0 := by omega
  have hexponent : bits / 0x10000000000000 % 2048 = n.log2 + 1023 := by omega
  have hfraction : bits % 0x10000000000000 = mantissa n - 2 ^ 52 := by omega
  have hnormal : ¬n.log2 + 1023 = 2047 := by omega
  have hpositive : ¬n.log2 + 1023 = 0 := by omega
  have hmantissa : mantissa n - 2 ^ 52 + 0x10000000000000 = mantissa n := by omega
  have hvalue : ((n.log2 + 1023 : Nat) : Int) - 1075 = n.log2 - 52 := by omega
  simp only [Binary.hiddenBit, hnegative, hexponent, hfraction, if_neg hnormal, if_neg hpositive,
    hmantissa, hvalue]
  rfl

/-- A whole number as a double is that number exactly. -/
theorem toRat?_ofFloat (h : n < 2 ^ 53) : (Binary.ofFloat (toFloat n)).toRat? = some (n : Rat) := by
  rcases Nat.eq_zero_or_pos n with rfl | hpos
  · have hzero : Binary.ofFloat (toFloat 0) = .finite false 0 (-1074) := by decide
    rw [hzero]
    exact congrArg some (Rat.zero_mkRat _)
  have hlog := log2_le h
  have hratio : Binary.ratio (mantissa n) (n.log2 - 52) =
      (n * 2 ^ (52 - n.log2), 1 * 2 ^ (52 - n.log2)) := by
    by_cases hfull : n.log2 = 52
    · simp [Binary.ratio, mantissa, hfull]
    · have hexponent : (-((n.log2 : Int) - 52)).toNat = 52 - n.log2 := by omega
      rw [Binary.ratio, if_neg (by omega), hexponent, Nat.one_mul]
      rfl
  have hvalue : mkRat ((n * 2 ^ (52 - n.log2) : Nat) : Int) (1 * 2 ^ (52 - n.log2)) = n := by
    rw [Int.natCast_mul, Rat.mkRat_mul_right (Nat.two_pow_pos _).ne', Rat.mkRat_one]
    rfl
  rw [ofFloat_toFloat hpos h, Binary.toRat?, hratio]
  exact congrArg some hvalue

theorem beq_zero_iff (h : n < 2 ^ 53) : (toFloat n == 0.0) = true ↔ n = 0 := by
  have hzero : (0.0 : Float) = toFloat 0 := by rfl
  have hmodel : (toFloat n == toFloat 0) = UnpackedFloat.beq
      (UnpackedFloat.unpack Format.binary64 (UnpackedFloat.pack Format.binary64 (unpacked n)))
      (UnpackedFloat.unpack Format.binary64 (UnpackedFloat.pack Format.binary64 (unpacked 0))) :=
    rfl
  rw [hzero, hmodel, unpack_pack h, unpack_pack (by decide), unpacked_zero,
    beq_iff_ne_notANumber_and_eq]
  rcases Nat.eq_zero_or_pos n with rfl | hpos
  · simp [unpacked_zero]
  · simp [unpacked_of_pos hpos, hpos.ne']

/-! ## Points that are added one after the other -/

theorem floatOfInt_point {point : Int} (h : point = 1 ∨ point = 2) :
    Scalar.floatOfInt point = toFloat point.toNat := by
  rcases h with rfl | rfl
  · decide
  · decide

/-- Points of one and of two have their whole sum, however they follow each other. -/
theorem foldl_points {points : List Int} (hpoints : ∀ point ∈ points, point = 1 ∨ point = 2)
    (htotal : a + points.sum = (b : Int)) (h : b < 2 ^ 53) :
    points.foldl (fun sum point => sum + Scalar.ofInt point) (toFloat a) = toFloat b := by
  induction points generalizing a with
  | nil => simp_all
  | cons point points ih =>
    obtain ⟨hpoint, hrest⟩ := List.forall_mem_cons.mp hpoints
    have hnonneg : 0 ≤ points.sum := List.sum_nonneg fun other hother => by
      have := hrest other hother
      omega
    rw [List.sum_cons] at htotal
    have hstep : toFloat a + Scalar.ofInt point = toFloat (a + point.toNat) := by
      rw [← toFloat_add (by omega)]
      exact congrArg (toFloat a + ·) (floatOfInt_point hpoint)
    rw [List.foldl_cons, hstep]
    exact ih hrest (by omega)

end SourceDigest.Whole
