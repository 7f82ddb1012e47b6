import Mathlib

/-!
# The float model

What the operations of the core float model have in common, in whichever format: the position of
the leading digit, the mantissa of a shift, how far rounding can move a mantissa, the sign of a
packed number, and that a valid bit pattern survives unpacking and packing.
-/

namespace Facet

open Float.Model Float.Model.UnpackedFloat

/-! ## Leading digits -/

theorem bounds_of_log2 {m k : Nat} (h : m.log2 = k) (hk : k ≠ 0) :
    2 ^ k ≤ m ∧ m < 2 ^ (k + 1) := by
  have hm : m ≠ 0 := by
    rintro rfl
    exact hk (by rw [← h, Nat.log2_zero])
  exact (Nat.log2_eq_iff hm).mp h

theorem log2_of_bounds {m k : Nat} (hlo : 2 ^ k ≤ m) (hhi : m < 2 ^ (k + 1)) : m.log2 = k := by
  have hpos : 0 < 2 ^ k := Nat.two_pow_pos k
  exact (Nat.log2_eq_iff (by omega)).mpr ⟨hlo, hhi⟩

theorem log2_shiftLeft {n : Nat} (hn : n ≠ 0) (k : Nat) : (n <<< k).log2 = n.log2 + k := by
  rw [Nat.shiftLeft_eq]
  refine log2_of_bounds ?_ ?_
  · rw [Nat.pow_add]
    exact Nat.mul_le_mul_right _ (Nat.log2_self_le hn)
  · rw [Nat.add_right_comm, Nat.pow_add]
    exact Nat.mul_lt_mul_of_pos_right Nat.lt_log2_self (Nat.two_pow_pos k)

/-! ## Mantissas -/

theorem mantissa_shiftRight (em : ExtendedMantissa) (k : Nat) :
    (em >>> k).mantissa = em.mantissa / 2 ^ k := by
  induction k with
  | zero => exact (Nat.div_one _).symm
  | succ k ih =>
      show (em >>> k).mantissa / 2 = _
      rw [ih, Nat.div_div_eq_div_mul, Nat.pow_succ]

theorem mantissa_ofMantissaAndAccuracy (m : Nat) (a : Accuracy) :
    (ExtendedMantissa.ofMantissaAndAccuracy m a).mantissa = m := by
  cases a with
  | exact => rfl
  | inexact o => cases o <;> rfl

/-- Rounding to nearest goes up by at most one. -/
theorem roundedMantissa_bounds (em : ExtendedMantissa) :
    em.mantissa ≤ em.roundedMantissa ∧ em.roundedMantissa ≤ em.mantissa + 1 := by
  obtain ⟨m, round, sticky⟩ := em
  have hmod : m % 2 < 2 := Nat.mod_lt m (by decide)
  cases round <;> cases sticky <;>
    simp only [ExtendedMantissa.roundedMantissa, ExtendedMantissa.accuracy,
      Accuracy.roundToNearestEven] <;> omega

/-- Rounding away the last digit goes to the nearest half or below. -/
theorem roundedMantissa_shiftRightOne_le (em : ExtendedMantissa) :
    em.shiftRightOne.roundedMantissa ≤ (em.mantissa + 1) / 2 := by
  obtain ⟨m, round, sticky⟩ := em
  obtain ⟨bit, hbit, hm⟩ : ∃ bit : Bool, (m % 2 != 0) = bit ∧ m % 2 = bit.toNat := by
    rcases Nat.mod_two_eq_zero_or_one m with h | h <;> rw [h] <;> exact ⟨_, rfl, rfl⟩
  have hshift : (ExtendedMantissa.mk m round sticky).shiftRightOne
      = ⟨m / 2, bit, round || sticky⟩ := by
    rw [← hbit]
    rfl
  have hmod : m / 2 % 2 < 2 := Nat.mod_lt _ (by decide)
  rw [hshift]
  cases bit <;> cases round <;> cases sticky <;>
    simp only [Bool.or, Bool.toNat, cond, ExtendedMantissa.roundedMantissa,
      ExtendedMantissa.accuracy, Accuracy.roundToNearestEven] at hm ⊢ <;> omega

/-! ## Sizes -/

/-- Rounding moves a number by at most the last digit that it keeps. -/
theorem abs_rounded_sub_le {m r k : Nat} {e : Int} {t : ℝ} (hle : m / 2 ^ k ≤ r)
    (hge : r ≤ m / 2 ^ k + 1) (hlo : (m : ℝ) * 2 ^ e ≤ t) (hhi : t < (m + 1) * 2 ^ e) :
    |(r : ℝ) * 2 ^ (e + (k : Int)) - t| ≤ 2 ^ (e + (k : Int)) := by
  have hfloor : m / 2 ^ k * 2 ^ k ≤ m := Nat.div_mul_le_self m (2 ^ k)
  have hceil : m + 1 ≤ (m / 2 ^ k + 1) * 2 ^ k := by
    rw [Nat.add_mul, Nat.one_mul]
    exact Nat.lt_div_mul_add (Nat.two_pow_pos k)
  have hfloor' : ((m / 2 ^ k : Nat) : ℝ) * 2 ^ k ≤ m := by exact_mod_cast hfloor
  have hceil' : (m : ℝ) + 1 ≤ (((m / 2 ^ k : Nat) : ℝ) + 1) * 2 ^ k := by exact_mod_cast hceil
  have hle' : ((m / 2 ^ k : Nat) : ℝ) ≤ r := by exact_mod_cast hle
  have hge' : (r : ℝ) ≤ ((m / 2 ^ k : Nat) : ℝ) + 1 := by exact_mod_cast hge
  have hpow : (0 : ℝ) < 2 ^ e := by positivity
  have hpow' : (0 : ℝ) < 2 ^ k := by positivity
  rw [zpow_add₀ two_ne_zero, zpow_natCast]
  generalize ((m / 2 ^ k : Nat) : ℝ) = M at *
  -- the exact number and the rounded one lie between the same two multiples of the last digit
  have hlast := (mul_pos hpow' hpow).le
  have h₁ : M * (2 ^ k * 2 ^ e) ≤ t := by
    have := mul_le_mul_of_nonneg_right hfloor' hpow.le
    linarith
  have h₂ : t ≤ (M + 1) * (2 ^ k * 2 ^ e) := by
    have := mul_le_mul_of_nonneg_right hceil' hpow.le
    linarith
  have h₃ := mul_le_mul_of_nonneg_right hle' hlast
  have h₄ := mul_le_mul_of_nonneg_right hge' hlast
  rw [abs_le]
  constructor <;> linarith

/-- How large a number is whose mantissa keeps some digits beyond the last. -/
theorem digits_mul_lastDigit_le {m k d : Nat} {e : Int} {t : ℝ} (hfull : 2 ^ d ≤ m / 2 ^ k)
    (hlo : (m : ℝ) * 2 ^ e ≤ t) : (2 : ℝ) ^ d * 2 ^ (e + (k : Int)) ≤ t := by
  have hm : 2 ^ d * 2 ^ k ≤ m := (Nat.le_div_iff_mul_le (Nat.two_pow_pos k)).mp hfull
  have hm' : (2 : ℝ) ^ d * 2 ^ k ≤ m := by exact_mod_cast hm
  have hpow : (0 : ℝ) < 2 ^ e := by positivity
  rw [zpow_add₀ two_ne_zero, zpow_natCast]
  calc (2 : ℝ) ^ d * (2 ^ e * 2 ^ k) = 2 ^ d * 2 ^ k * 2 ^ e := by ring
    _ ≤ m * 2 ^ e := mul_le_mul_of_nonneg_right hm' hpow.le
    _ ≤ t := hlo

/-- A whole quotient falls short of the exact one by less than a unit. -/
theorem quotient_bounds {m m' k : Nat} {e e' t : Int} (hm' : 0 < m') (he : e = e' + k + t) :
    (((m <<< k) / m' : Nat) : ℝ) * 2 ^ t ≤ m * 2 ^ e / (m' * 2 ^ e')
      ∧ (m : ℝ) * 2 ^ e / (m' * 2 ^ e') < (((m <<< k) / m' : Nat) + 1) * 2 ^ t := by
  have hpos : (0 : ℝ) < m' := by exact_mod_cast hm'
  have hpow : (0 : ℝ) < 2 ^ t := by positivity
  have hquotient : ((m <<< k : Nat) : ℝ) / m' * 2 ^ t = m * 2 ^ e / (m' * 2 ^ e') := by
    rw [he, Nat.shiftLeft_eq, zpow_add₀ two_ne_zero, zpow_add₀ two_ne_zero, zpow_natCast]
    push_cast
    field_simp
  rw [← hquotient]
  refine ⟨mul_le_mul_of_nonneg_right Nat.cast_div_le hpow.le, mul_lt_mul_of_pos_right ?_ hpow⟩
  rw [div_lt_iff₀ hpos]
  exact_mod_cast Nat.lt_mul_of_div_lt (Nat.lt_succ_self _) hm'

/-- So does a whole root. -/
theorem root_bounds {n : Nat} {t : Int} {s : ℝ} (hs : (n : ℝ) * (2 ^ t) ^ 2 = s) :
    (Nat.sqrt n : ℝ) * 2 ^ t ≤ √s ∧ √s < (Nat.sqrt n + 1) * 2 ^ t := by
  have hpow : (0 : ℝ) < 2 ^ t := by positivity
  have hroot : √s = √n * 2 ^ t := by
    rw [← hs, Real.sqrt_mul (Nat.cast_nonneg n), Real.sqrt_sq hpow.le]
  rw [hroot]
  exact ⟨mul_le_mul_of_nonneg_right Real.nat_sqrt_le_real_sqrt hpow.le,
    mul_lt_mul_of_pos_right Real.real_sqrt_lt_nat_sqrt_succ hpow⟩

theorem shiftLeft_mul_zpow (m k : Nat) (e : Int) :
    ((m <<< k : Nat) : ℝ) * 2 ^ (e - (k : Int)) = m * 2 ^ e := by
  rw [Nat.shiftLeft_eq, zpow_sub₀ two_ne_zero, zpow_natCast]
  push_cast
  field_simp

/-! ## Signs -/

theorem unpackSign_packComponents {spec : Format} {sign : Sign}
    {exponent : BitVec spec.exponentBits} {mantissa : BitVec spec.mantissaBitsWithoutImplicit} :
    unpackSign (packComponents spec sign exponent mantissa) = sign.toBitVec := by
  ext i hi
  obtain rfl : i = 0 := by omega
  simp [unpackSign, packComponents, BitVec.getLsbD_append, BitVec.getElem_append]

/-! ## Bit patterns -/

section BitPatterns

variable {spec : Format} {b : BitVec spec.numBits}

/-- A leading digit put in front of a mantissa. -/
theorem toNat_one_append {k : Nat} (v : BitVec k) : (1#1 ++ v).toNat = 2 ^ k + v.toNat := by
  rw [BitVec.toNat_append, ← Nat.shiftLeft_add_eq_or_of_lt v.isLt, Nat.shiftLeft_eq]
  show 1 * 2 ^ k + v.toNat = 2 ^ k + v.toNat
  rw [Nat.one_mul]

/-- A pattern is its sign, exponent and mantissa. -/
theorem packComponents_eq {exponent : BitVec spec.exponentBits}
    {mantissa : BitVec spec.mantissaBitsWithoutImplicit} (hexponent : unpackExponent b = exponent)
    (hmantissa : unpackMantissa b = mantissa) :
    packComponents spec (Sign.ofBitVec (unpackSign b)) exponent mantissa = b := by
  have hsign : ∀ s : BitVec 1, (Sign.ofBitVec s).toBitVec = s := by decide
  subst hexponent hmantissa
  apply BitVec.eq_of_getLsbD_eq
  intro i hi
  change i < 1 + spec.exponentBits + spec.mantissaBitsWithoutImplicit at hi
  rw [packComponents, hsign, BitVec.getLsbD_append, BitVec.getLsbD_append]
  -- a bit of the mantissa, of the exponent, or the sign
  by_cases hlow : i < spec.mantissaBitsWithoutImplicit
  · simp [hlow, unpackMantissa]
  · by_cases hmid : i - spec.mantissaBitsWithoutImplicit < spec.exponentBits
    · have hplace : spec.mantissaBitsWithoutImplicit + (i - spec.mantissaBitsWithoutImplicit) = i :=
        Nat.add_sub_cancel' (Nat.le_of_not_lt hlow)
      simp [hlow, hmid, unpackExponent, hplace]
    · obtain rfl : i = spec.mantissaBitsWithoutImplicit + spec.exponentBits := by omega
      simp [unpackSign]

/-- A subnormal number has no leading digit, by which packing knows it. -/
theorem pack_subnormal (hspec : 1 < spec.exponentBits) (hexponent : unpackExponent b = 0#_)
    (hpos : 0 < (unpackMantissa b).toNat) :
    UnpackedFloat.pack spec (.finite (Sign.ofBitVec (unpackSign b)) (unpackMantissa b).toNat
      (-(spec.exponentBias + spec.mantissaBitsWithoutImplicit) + 1) hpos) = b := by
  have hlog : (unpackMantissa b).toNat.log2 < spec.mantissaBitsWithoutImplicit :=
    (Nat.log2_lt hpos.ne').mpr (unpackMantissa b).isLt
  have hroom : 2 ^ 2 ≤ 2 ^ spec.exponentBits := Nat.pow_le_pow_right (by decide) hspec
  rw [UnpackedFloat.pack, if_neg (by omega), if_neg (by rw [Format.mantissaBits]; omega)]
  refine packComponents_eq hexponent ?_
  rw [BitVec.ofNat_toNat, BitVec.setWidth_eq]

/-- A normal number gets its exponent back and loses the leading digit that unpacking put there. -/
theorem pack_normal (hmax : unpackExponent b ≠ -1#_)
    (hpos : 0 < (1#1 ++ unpackMantissa b).toNat) :
    UnpackedFloat.pack spec (.finite (Sign.ofBitVec (unpackSign b))
      (1#1 ++ unpackMantissa b).toNat
      ((unpackExponent b).toNat - (spec.exponentBias + spec.mantissaBitsWithoutImplicit)) hpos)
      = b := by
  have hmantissa := (unpackMantissa b).isLt
  have hexponent := (unpackExponent b).isLt
  have hdigits := toNat_one_append (unpackMantissa b)
  have hlog : (1#1 ++ unpackMantissa b).toNat.log2 = spec.mantissaBitsWithoutImplicit :=
    log2_of_bounds (by omega) (by rw [Nat.pow_succ]; omega)
  have hbelow : (unpackExponent b).toNat ≠ 2 ^ spec.exponentBits - 1 := by
    intro heq
    refine hmax (BitVec.eq_of_toNat_eq ?_)
    rw [heq, BitVec.neg_one_eq_allOnes, BitVec.toNat_allOnes]
  have hbiased : (((unpackExponent b).toNat
      - (spec.exponentBias + spec.mantissaBitsWithoutImplicit) : Int) + spec.exponentBias
      + spec.mantissaBitsWithoutImplicit).toNat = (unpackExponent b).toNat := by omega
  rw [UnpackedFloat.pack, hbiased, if_neg (by omega),
    if_pos (by rw [hlog, Format.mantissaBits]; omega)]
  refine packComponents_eq ?_ ?_
  · rw [BitVec.ofNat_toNat, BitVec.setWidth_eq]
  · apply BitVec.eq_of_toNat_eq
    rw [BitVec.toNat_ofNat, hdigits, Nat.add_mod_left, Nat.mod_eq_of_lt hmantissa]

/-- **Packing gives every valid pattern back.** The one it could lose is a NaN other than the
canonical one, which is not valid. -/
theorem pack_unpack_of_valid (hspec : 1 < spec.exponentBits) (hb : spec.Valid b) :
    UnpackedFloat.pack spec (UnpackedFloat.unpack spec b) = b := by
  rw [UnpackedFloat.unpack]
  split
  · rename_i hmax
    split
    · rename_i hzero
      exact packComponents_eq hmax hzero
    · rename_i hnan
      exact (hb.eq_packedNaN hmax hnan).symm
  · rename_i hmax
    split
    · rename_i hexponent
      split
      · rename_i hzero
        exact packComponents_eq hexponent hzero
      · rename_i hnonzero
        have hpos : 0 < (unpackMantissa b).toNat := by
          rw [BitVec.toNat_pos, BitVec.pos_iff_ne_zero]
          exact hnonzero
        have hsame := pack_subnormal hspec hexponent hpos
        simpa [hexponent] using hsame
    · exact pack_normal hmax _

end BitPatterns

end Facet
