import Facet.Proofs.FloatModel
import Facet.Scalar

/-!
# Rounding of single-precision results

A finite scalar stands for a rational number (`value`). What an operation on scalars returns stands
for the exact result, up to one unit in the last place: off by at most `ulp` of its size, or by the
least positive scalar where it is too small to have that many digits. Sums and differences are never
that small, and a root never vanishes.
-/

namespace Facet.Scalar

open Float.Model Float.Model.UnpackedFloat

/-! ## Values -/

/-- A sign as a factor. -/
def factor : Sign → ℚ
  | .positive => 1
  | .negative => -1

theorem abs_factor (s : Sign) : |factor s| = 1 := by cases s <;> simp [factor]

theorem factor_mul (s s' : Sign) : factor (s * s') = factor s * factor s' := by
  cases s <;> cases s' <;> decide +kernel

theorem factor_div (s s' : Sign) : factor (s / s') = factor s / factor s' := by
  cases s <;> cases s' <;> decide +kernel

/-- The number that a float stands for; infinities and NaN count as zero. -/
def unpackedValue : UnpackedFloat → ℚ
  | .finite s m e _ => factor s * (m * 2 ^ e)
  | _ => 0

theorem unpackedValue_zero (s : Sign) : unpackedValue (.zero s) = 0 := rfl

/-- The number that a scalar stands for. -/
def value (x : Float32) : ℚ := unpackedValue x.toModel.unpack

/-- The weight of the last of 24 digits, relative to the first. -/
noncomputable def ulp : ℝ := 1 / 2 ^ 23

/-- The least positive scalar. -/
noncomputable def tiny : ℝ := 1 / 2 ^ 149

/-- The least number that rounds to infinity: half a unit above the largest scalar. -/
noncomputable def overflow : ℝ := 2 ^ 128 - 2 ^ 103

theorem lt_overflow {t : ℝ} (h : t < 2 ^ 127) : t < overflow := by
  unfold overflow
  linarith

example : value 0.1 = 13421773 / 134217728 := by decide +kernel

theorem isFinite_zero : (0 : Float32).isFinite = true := by decide

theorem value_zero : value (0 : Float32) = 0 := by decide +kernel

theorem isFinite_one : (1 : Float32).isFinite = true := by decide

theorem value_one : value (1 : Float32) = 1 := by decide +kernel

/-! ## Formats -/

/-- The mantissas and exponents of binary32: 24 digits, or fewer at the least exponent. -/
structure Fits (m : Nat) (e : Int) : Prop where
  pos : 0 < m
  lt : m < 2 ^ 24
  low : -149 ≤ e
  high : e ≤ 104
  full : 2 ^ 23 ≤ m ∨ e = -149

theorem fits_of_unpack {x : Float32.Model} {s : Sign} {m : Nat} {e : Int} {hm : 0 < m}
    (h : x.unpack = .finite s m e hm) : Fits m e := by
  unfold Float32.Model.unpack UnpackedFloat.unpack at h
  dsimp only at h
  have hmantissa : (@unpackMantissa Format.binary32 x.toBits.toBitVec).toNat < 2 ^ 23 :=
    BitVec.isLt _
  have hexponent : (@unpackExponent Format.binary32 x.toBits.toBitVec).toNat < 2 ^ 8 :=
    BitVec.isLt _
  have hbias : (Format.binary32.exponentBias : Int) = 127 := rfl
  split at h
  · split at h <;> exact absurd h (by simp)
  · rename_i hnotMax
    have hmax : (@unpackExponent Format.binary32 x.toBits.toBitVec).toNat ≠ 255 :=
      fun heq => hnotMax (BitVec.eq_of_toNat_eq heq)
    split at h
    · rename_i hzero
      split at h
      · exact absurd h (by simp)
      · rw [UnpackedFloat.finite.injEq] at h
        obtain ⟨-, rfl, rfl⟩ := h
        rw [hzero, hbias]
        exact ⟨hm, by omega, by decide, by decide, .inr rfl⟩
    · rename_i hnotZero
      have hmin : (@unpackExponent Format.binary32 x.toBits.toBitVec).toNat ≠ 0 :=
        fun heq => hnotZero (BitVec.eq_of_toNat_eq heq)
      rw [UnpackedFloat.finite.injEq] at h
      obtain ⟨-, rfl, rfl⟩ := h
      have hdigits : (1#1 ++ @unpackMantissa Format.binary32 x.toBits.toBitVec).toNat
          = 2 ^ 23 + (@unpackMantissa Format.binary32 x.toBits.toBitVec).toNat :=
        toNat_one_append _
      rw [hdigits, hbias]
      exact ⟨by omega, by omega, by omega, by omega, .inl (by omega)⟩

theorem unpack_pack (s : Sign) {m : Nat} {e : Int} (h : Fits m e) :
    (Float32.Model.pack (.finite s m e h.pos)).unpack = .finite s m e h.pos := by
  obtain ⟨hpos, hlt, hlow, hhigh, hfull⟩ := h
  have hsign : Sign.ofBitVec s.toBitVec = s := by cases s <;> rfl
  have hbias : (Format.binary32.exponentBias : Int) = 127 := rfl
  unfold Float32.Model.pack Float32.Model.unpack
  rw [UInt32.toBitVec_ofBitVec]
  unfold UnpackedFloat.pack
  dsimp only
  rw [hbias, if_neg (by omega)]
  by_cases hlog : m.log2 + 1 = Format.binary32.mantissaBits
  · -- a leading digit, which packing leaves out
    have hlog' : m.log2 = 23 := Nat.succ_injective hlog
    obtain ⟨hlo, -⟩ := bounds_of_log2 hlog' (by decide)
    obtain ⟨b, hb⟩ : ∃ b : Nat, e + 150 = b := ⟨(e + 150).toNat, by omega⟩
    have hbiased : (e + 127 + ((23 : Nat) : Int)).toNat = b := by omega
    have hexponent : (BitVec.ofNat 8 b).toNat = b := by
      rw [BitVec.toNat_ofNat, Nat.mod_eq_of_lt (by omega)]
    have hnotMax : BitVec.ofNat 8 b ≠ -1#8 := by
      intro heq
      have hnat := congrArg BitVec.toNat heq
      rw [hexponent] at hnat
      change b = 255 at hnat
      omega
    have hnotMin : BitVec.ofNat 8 b ≠ 0#8 := by
      intro heq
      have hnat := congrArg BitVec.toNat heq
      rw [hexponent] at hnat
      change b = 0 at hnat
      omega
    have hdigits : (1#1 ++ BitVec.ofNat 23 m).toNat = m := by
      rw [toNat_one_append, BitVec.toNat_ofNat]
      omega
    rw [if_pos hlog, hbiased]
    unfold UnpackedFloat.unpack
    simp only [unpackMantissa_packComponents, unpackExponent_packComponents,
      unpackSign_packComponents]
    rw [if_neg hnotMax, if_neg hnotMin, UnpackedFloat.finite.injEq]
    refine ⟨hsign, hdigits, ?_⟩
    rw [hexponent, hbias]
    omega
  · -- no leading digit, so the exponent is the least
    have hsmall : m < 2 ^ 23 := by
      by_contra hlarge
      exact hlog (congrArg (· + 1) (log2_of_bounds (by omega) hlt))
    obtain rfl : e = -149 := by omega
    have hmantissa : (BitVec.ofNat 23 m).toNat = m := by
      rw [BitVec.toNat_ofNat, Nat.mod_eq_of_lt hsmall]
    have hne : BitVec.ofNat 23 m ≠ 0#23 := by
      intro heq
      have hnat := congrArg BitVec.toNat heq
      rw [hmantissa] at hnat
      change m = 0 at hnat
      omega
    rw [if_neg hlog]
    unfold UnpackedFloat.unpack
    simp only [unpackMantissa_packComponents, unpackExponent_packComponents,
      unpackSign_packComponents]
    rw [if_neg (by decide), if_pos trivial, dif_neg hne, UnpackedFloat.finite.injEq]
    exact ⟨hsign, hmantissa, rfl⟩

/-- A number beyond the largest exponent is packed as an infinity. -/
theorem unpack_pack_of_large (s : Sign) {m : Nat} {e : Int} (h : 0 < m) (he : 105 ≤ e) :
    (Float32.Model.pack (.finite s m e h)).unpack = .infinity s := by
  have hbias : (Format.binary32.exponentBias : Int) = 127 := rfl
  have hpack : Float32.Model.pack (.finite s m e h) = Float32.Model.pack (.infinity s) := by
    unfold Float32.Model.pack UnpackedFloat.pack
    congr 2
    rw [hbias]
    exact if_pos (by show 256 ≤ (e + 127 + 23).toNat + 1; omega)
  rw [hpack]
  cases s <;> rfl

/-! ## Rounding -/

/-- How many digits of a mantissa rounding drops. -/
def dropped (m : Nat) (e : Int) : Nat := (max ((m.log2 : Int) + e - 23) (-149) - e).toNat

/-- What rounding leaves of a mantissa, before a carry beyond 24 digits is taken back. -/
def rounded (m : Nat) (e : Int) (a : Accuracy) : Nat :=
  (ExtendedMantissa.ofMantissaAndAccuracy m a >>> dropped m e).roundedMantissa

theorem targetExponent_eq (m : Nat) (e : Int) :
    Format.binary32.targetExponent (totalExponent m e) = max ((m.log2 : Int) + e - 23) (-149) := by
  simp only [Format.targetExponent, totalExponent, Format.mantissaBits, Format.minExponent]
  norm_num
  omega

theorem shiftToTargetExponent_eq (m : Nat) (e : Int) (a : Accuracy) :
    shiftToTargetExponent Format.binary32 m e a
      = (ExtendedMantissa.ofMantissaAndAccuracy m a >>> dropped m e, e + dropped m e) := by
  unfold shiftToTargetExponent shiftToExponent dropped
  rw [targetExponent_eq]

theorem rounded_bounds (m : Nat) (e : Int) (a : Accuracy) :
    m / 2 ^ dropped m e ≤ rounded m e a ∧ rounded m e a ≤ m / 2 ^ dropped m e + 1 := by
  have h := roundedMantissa_bounds (ExtendedMantissa.ofMantissaAndAccuracy m a >>> dropped m e)
  rwa [mantissa_shiftRight, mantissa_ofMantissaAndAccuracy] at h

theorem rounded_exact {m : Nat} {e : Int} (h : dropped m e = 0) : rounded m e .exact = m := by
  unfold rounded
  rw [h]
  rfl

/-- The last digit that rounding drops is rounded to nearest. -/
theorem rounded_le_half {m j : Nat} {e : Int} (h : dropped m e = j + 1) :
    rounded m e .exact ≤ (m / 2 ^ j + 1) / 2 := by
  have hle := roundedMantissa_shiftRightOne_le
    (ExtendedMantissa.ofMantissaAndAccuracy m .exact >>> j)
  rw [mantissa_shiftRight, mantissa_ofMantissaAndAccuracy] at hle
  unfold rounded
  rw [h]
  exact hle

variable {m : Nat} {e : Int}

/-- Rounding leaves 24 digits, or fewer at the least exponent. -/
theorem dropped_spec (hfull : 2 ^ 23 ≤ m ∨ e ≤ -149) :
    -149 ≤ e + dropped m e ∧ m / 2 ^ dropped m e < 2 ^ 24
      ∧ (e + dropped m e = -149 ∨ 2 ^ 23 ≤ m / 2 ^ dropped m e) := by
  have hlog : 2 ^ 23 ≤ m → 23 ≤ m.log2 := fun h => (Nat.le_log2 (by omega)).mpr h
  have hsum : e + dropped m e = max ((m.log2 : Int) + e - 23) (-149) := by
    unfold dropped
    omega
  refine ⟨by omega, ?_, ?_⟩
  · rw [Nat.div_lt_iff_lt_mul (Nat.two_pow_pos _), ← Nat.pow_add]
    exact Nat.lt_log2_self.trans_le (Nat.pow_le_pow_right (by decide) (by omega))
  · by_cases hleast : e + dropped m e = -149
    · exact .inl hleast
    · right
      have hne : m ≠ 0 := by
        rintro rfl
        rw [Nat.log2_zero] at hsum
        omega
      rw [Nat.le_div_iff_mul_le (Nat.two_pow_pos _), ← Nat.pow_add, ← Nat.le_log2 hne]
      omega

theorem exponent_lt {e n : Int} {m k : Nat} (hfull : e + k = -149 ∨ 2 ^ 23 ≤ m / 2 ^ k)
    (hn : -126 < n) (hmax : (m : ℝ) * 2 ^ e < 2 ^ n) : e + k < n - 23 := by
  rcases hfull with hleast | hfull
  · omega
  · have hm : 2 ^ (23 + k) ≤ m := by
      rw [Nat.pow_add]
      exact (Nat.le_div_iff_mul_le (Nat.two_pow_pos k)).mp hfull
    have hlt : (2 : ℝ) ^ (((23 + k : Nat) : Int) + e) < 2 ^ n := by
      rw [zpow_add₀ two_ne_zero, zpow_natCast]
      refine lt_of_le_of_lt ?_ hmax
      exact mul_le_mul_of_nonneg_right (by exact_mod_cast hm) (by positivity)
    have := (zpow_lt_zpow_iff_right₀ (by norm_num : (1 : ℝ) < 2)).mp hlt
    omega

/-- A mantissa that fits is left as it is; the carry from 24 digits to 25 is taken back. -/
theorem exists_carried {r : Nat} {t : Int} (hr : 0 < r) (hle : r ≤ 2 ^ 24) (hlow : -149 ≤ t)
    (hhigh : t < 104 ∨ t = 104 ∧ r < 2 ^ 24) (hfull : t = -149 ∨ 2 ^ 23 ≤ r) :
    ∃ m' e', Fits m' e' ∧ (m' : ℚ) * 2 ^ e' = r * 2 ^ t
      ∧ r / 2 ^ dropped r t = m' ∧ t + dropped r t = e' := by
  rcases Nat.lt_or_eq_of_le hle with hlt | rfl
  · have hlog : r.log2 < 24 := (Nat.log2_lt hr.ne').mpr hlt
    have hkeep : dropped r t = 0 := by
      unfold dropped
      omega
    refine ⟨r, t, ⟨hr, hlt, hlow, by omega, hfull.symm⟩, rfl, ?_, ?_⟩
    · rw [hkeep, Nat.pow_zero, Nat.div_one]
    · rw [hkeep]
      exact add_zero t
  · have hone : dropped (2 ^ 24) t = 1 := by
      unfold dropped
      rw [Nat.log2_two_pow]
      omega
    refine ⟨2 ^ 23, t + 1, ⟨by decide, by decide, by omega, by omega, .inl le_rfl⟩, ?_, ?_, ?_⟩
    · rw [zpow_add_one₀ two_ne_zero]
      push_cast
      ring
    · rw [hone]
      rfl
    · rw [hone]
      rfl

theorem roundWithAccuracy_eq (s : Sign) (a : Accuracy) :
    roundWithAccuracy Format.binary32 s m e a
      = if h : rounded m e a / 2 ^ dropped (rounded m e a) (e + dropped m e) = 0 then .zero s
        else .finite s (rounded m e a / 2 ^ dropped (rounded m e a) (e + dropped m e))
          (e + dropped m e + dropped (rounded m e a) (e + dropped m e)) (Nat.pos_of_ne_zero h) := by
  unfold roundWithAccuracy
  rw [shiftToTargetExponent_eq]
  dsimp only
  rw [shiftToTargetExponent_eq]
  dsimp only
  simp only [mantissa_shiftRight, mantissa_ofMantissaAndAccuracy, rounded]
  rfl

/-- The scalar that a rounded number is packed into. -/
def packed (s : Sign) (m : Nat) (e : Int) (a : Accuracy) : Float32 :=
  ⟨Float32.Model.pack (roundWithAccuracy Format.binary32 s m e a)⟩

/-- Rounding stays within the exponents of scalars, a carry beyond 24 digits included. -/
def InRange (m : Nat) (e : Int) (a : Accuracy) : Prop :=
  e + dropped m e < 104 ∨ e + dropped m e = 104 ∧ rounded m e a < 2 ^ 24

theorem inRange_of_lt (a : Accuracy) (hfull : 2 ^ 23 ≤ m ∨ e ≤ -149)
    (hmax : (m : ℝ) * 2 ^ e < 2 ^ 127) : InRange m e a := by
  obtain ⟨-, -, hfull'⟩ := dropped_spec hfull
  exact .inl (exponent_lt (n := 127) hfull' (by decide) (by exact_mod_cast hmax))

/-- A number without more digits stays in range up to the least one that rounds to infinity. -/
theorem inRange_exact (hfull : 2 ^ 23 ≤ m ∨ e ≤ -149) (hmax : (m : ℝ) * 2 ^ e < overflow) :
    InRange m e .exact := by
  obtain ⟨-, hlt, hfull'⟩ := dropped_spec hfull
  have hmax' : (m : ℝ) * 2 ^ e < 2 ^ 128 := by
    unfold overflow at hmax
    linarith
  have hexponent := exponent_lt (n := 128) hfull' (by decide) (by exact_mod_cast hmax')
  by_cases hhigh : e + dropped m e < 104
  · exact .inl hhigh
  · right
    have hmost : e + (dropped m e : Int) = 104 := by omega
    refine ⟨hmost, ?_⟩
    rcases hdropped : dropped m e with - | j
    · rw [hdropped, Nat.pow_zero, Nat.div_one] at hlt
      rwa [rounded_exact hdropped]
    · -- half a unit is missing to the power of two, so rounding does not reach it
      have hhalf : m / 2 ^ j < 2 ^ 25 - 1 := by
        rw [Nat.div_lt_iff_lt_mul (Nat.two_pow_pos j)]
        have hpow : (0 : ℝ) < 2 ^ e := by positivity
        have hunit : (2 : ℝ) ^ j * 2 ^ e = 2 ^ 103 := by
          rw [← zpow_natCast, ← zpow_add₀ two_ne_zero, ← zpow_natCast]
          congr 1
          omega
        have hscaled : (m : ℝ) * 2 ^ e < (2 ^ 25 - 1) * 2 ^ j * 2 ^ e := by
          rw [mul_assoc, hunit]
          unfold overflow at hmax
          linarith
        have hreal : (m : ℝ) < ((2 ^ 25 - 1 : Nat) : ℝ) * 2 ^ j := by
          have := lt_of_mul_lt_mul_right hscaled hpow.le
          norm_num at this ⊢
          exact this
        exact_mod_cast hreal
      have hle := rounded_le_half hdropped
      omega

/-- **The value of a rounded number.** -/
theorem value_packed (s : Sign) (a : Accuracy) (hfull : 2 ^ 23 ≤ m ∨ e ≤ -149)
    (hrange : InRange m e a) :
    (packed s m e a).isFinite = true
      ∧ value (packed s m e a) = factor s * (rounded m e a * 2 ^ (e + dropped m e)) := by
  obtain ⟨hlow, hlt, hfull'⟩ := dropped_spec hfull
  obtain ⟨hle, hge⟩ := rounded_bounds m e a
  have hround := roundWithAccuracy_eq (m := m) (e := e) s a
  unfold InRange at hrange
  generalize rounded m e a = r at *
  generalize e + (dropped m e : Int) = t at *
  unfold packed value
  rw [hround]
  rcases Nat.eq_zero_or_pos r with rfl | hr
  · rw [dif_pos (Nat.zero_div _)]
    rw [Nat.cast_zero, zero_mul, mul_zero]
    cases s <;> exact ⟨rfl, rfl⟩
  · obtain ⟨m', e', hfits, hvalue, hm', he'⟩ :=
      exists_carried hr (by omega) hlow hrange (hfull'.imp_right hle.trans')
    have hne : r / 2 ^ dropped r t ≠ 0 := by
      rw [hm']
      exact hfits.pos.ne'
    rw [dif_neg hne]
    subst hm' he'
    have hunpack := unpack_pack s hfits
    refine ⟨?_, ?_⟩
    · show (Float32.Model.pack _).unpack.isFinite = true
      rw [hunpack]
      rfl
    · rw [hunpack]
      exact congrArg (factor s * ·) hvalue

/-- Out of range, a rounded number is infinite. -/
theorem inRange_of_isFinite {s : Sign} {a : Accuracy} (hfull : 2 ^ 23 ≤ m ∨ e ≤ -149)
    (hfinite : (packed s m e a).isFinite = true) : InRange m e a := by
  by_contra hout
  obtain ⟨-, hlt, hfull'⟩ := dropped_spec hfull
  obtain ⟨hle, hge⟩ := rounded_bounds m e a
  have hround := roundWithAccuracy_eq (m := m) (e := e) s a
  unfold InRange at hout
  unfold packed at hfinite
  generalize rounded m e a = r at *
  generalize e + (dropped m e : Int) = t at *
  have hr : 2 ^ 23 ≤ r := (hfull'.resolve_left (by omega)).trans hle
  have hdropped : dropped r t = r.log2 - 23 := by
    unfold dropped
    omega
  have hlog : 23 ≤ r.log2 := (Nat.le_log2 (by omega)).mpr hr
  have hne : r / 2 ^ dropped r t ≠ 0 := by
    have hself := Nat.log2_self_le (by omega : r ≠ 0)
    have hpow : 2 ^ dropped r t ≤ 2 ^ r.log2 := Nat.pow_le_pow_right (by decide) (by omega)
    exact (Nat.div_pos (hpow.trans hself) (Nat.two_pow_pos _)).ne'
  have hlarge : 105 ≤ t + (dropped r t : Int) := by
    have hcarry : r = 2 ^ 24 → r.log2 = 24 := by
      rintro rfl
      exact Nat.log2_two_pow
    omega
  rw [hround, dif_neg hne] at hfinite
  change (Float32.Model.pack _).unpack.isFinite = true at hfinite
  rw [unpack_pack_of_large s _ hlarge] at hfinite
  exact absurd hfinite Bool.false_ne_true

/-- The last digit that rounding keeps. -/
theorem lastDigit_le {m k : Nat} {e : Int} {t : ℝ} (hfull : 2 ^ 23 ≤ m / 2 ^ k)
    (hlo : (m : ℝ) * 2 ^ e ≤ t) : (2 : ℝ) ^ (e + (k : Int)) ≤ ulp * t := by
  have h := digits_mul_lastDigit_le hfull hlo
  unfold ulp
  linarith

/-- Rounding moves a number by at most the last digit that it keeps. -/
theorem packed_near_lastDigit (s : Sign) (a : Accuracy) {t : ℝ} (hfull : 2 ^ 23 ≤ m ∨ e ≤ -149)
    (hlo : (m : ℝ) * 2 ^ e ≤ t) (hhi : t < (m + 1) * 2 ^ e) (hrange : InRange m e a) :
    (packed s m e a).isFinite = true
      ∧ |(value (packed s m e a) : ℝ) - factor s * t| ≤ 2 ^ (e + (dropped m e : Int)) := by
  obtain ⟨hfinite, hvalue⟩ := value_packed s a hfull hrange
  obtain ⟨hle, hge⟩ := rounded_bounds m e a
  refine ⟨hfinite, ?_⟩
  rw [hvalue]
  push_cast
  have habs : |((factor s : ℚ) : ℝ)| = 1 := by exact_mod_cast abs_factor s
  rw [← mul_sub, abs_mul, habs, one_mul]
  exact abs_rounded_sub_le hle hge hlo hhi

/-- **Rounding is off by one unit in the last place at most.** -/
theorem packed_near (s : Sign) (a : Accuracy) {t : ℝ} (hfull : 2 ^ 23 ≤ m ∨ e ≤ -149)
    (hlo : (m : ℝ) * 2 ^ e ≤ t) (hhi : t < (m + 1) * 2 ^ e) (hrange : InRange m e a) :
    (packed s m e a).isFinite = true
      ∧ |(value (packed s m e a) : ℝ) - factor s * t| ≤ max (ulp * t) tiny := by
  obtain ⟨-, -, hkept⟩ := dropped_spec hfull
  obtain ⟨hfinite, hnear⟩ := packed_near_lastDigit s a hfull hlo hhi hrange
  refine ⟨hfinite, hnear.trans ?_⟩
  rcases hkept with hleast | hkept
  · refine le_trans (le_of_eq ?_) (le_max_right _ _)
    rw [hleast, tiny, zpow_neg, one_div]
    norm_cast
  · exact (lastDigit_le hkept hlo).trans (le_max_left _ _)

/-- A scalar that rounds `t`, with an error of at most `err`: finite below the overflow, and close
to `t` if it is finite. -/
structure RoundsTo (x : Float32) (t err : ℝ) : Prop where
  finite : |t| < overflow → x.isFinite = true
  near : x.isFinite = true → |(value x : ℝ) - t| ≤ err

theorem RoundsTo.of_near {x : Float32} {t err : ℝ}
    (h : x.isFinite = true ∧ |(value x : ℝ) - t| ≤ err) : RoundsTo x t err :=
  ⟨fun _ => h.1, fun _ => h.2⟩

theorem RoundsTo.finite_near {x : Float32} {t err : ℝ} (h : RoundsTo x t err)
    (hmax : |t| < 2 ^ 127) : x.isFinite = true ∧ |(value x : ℝ) - t| ≤ err :=
  have hfinite := h.finite (lt_overflow hmax)
  ⟨hfinite, h.near hfinite⟩

theorem abs_factor_mul (s : Sign) {t : ℝ} (ht : 0 ≤ t) : |(factor s : ℝ) * t| = t := by
  have habs : |((factor s : ℚ) : ℝ)| = 1 := by exact_mod_cast abs_factor s
  rw [abs_mul, habs, one_mul, abs_of_nonneg ht]

/-- A number of which the least scalar is a divisor loses no digits that scalars could not hold. -/
theorem packed_exact_rounds (s : Sign) (hfull : 2 ^ 23 ≤ m ∨ e = -149) (hlow : -149 ≤ e) :
    RoundsTo (packed s m e .exact) (factor s * (m * 2 ^ e)) (ulp * (m * 2 ^ e)) := by
  have hpow : (0 : ℝ) < 2 ^ e := by positivity
  have hfull' := hfull.imp_right le_of_eq
  constructor
  · intro hmax
    rw [abs_factor_mul s (by positivity)] at hmax
    exact (value_packed s .exact hfull' (inRange_exact hfull' hmax)).1
  · intro hfinite
    have hrange := inRange_of_isFinite hfull' hfinite
    obtain ⟨-, -, hkept⟩ := dropped_spec hfull'
    rcases hkept with hleast | hkept
    · have hnone : dropped m e = 0 := by omega
      obtain ⟨-, hvalue⟩ := value_packed s .exact hfull' hrange
      rw [hvalue, rounded_exact hnone, hnone]
      push_cast
      rw [add_zero, sub_self, abs_zero]
      unfold ulp
      positivity
    · obtain ⟨-, hnear⟩ :=
        packed_near_lastDigit s .exact hfull' le_rfl (by linarith) hrange
      exact hnear.trans (lastDigit_le hkept le_rfl)

/-- A whole number of units that the least scalar divides, rounded. -/
theorem round_rounds (s : Sign) (hm : 0 < m) (hlow : -149 ≤ e) :
    RoundsTo ⟨Float32.Model.pack (UnpackedFloat.round Format.binary32 s m e)⟩
      (factor s * (m * 2 ^ e)) (ulp * (m * 2 ^ e)) := by
  obtain ⟨k, hk⟩ : ∃ k, (e - max ((m.log2 : Int) + e - 23) (-149)).toNat = k := ⟨_, rfl⟩
  have hround : UnpackedFloat.round Format.binary32 s m e
      = roundWithAccuracy Format.binary32 s (m <<< k) (e - k) .exact := by
    unfold UnpackedFloat.round decreaseExponent
    rw [targetExponent_eq]
    dsimp only
    rw [hk]
  have hvalue := shiftLeft_mul_zpow m k e
  have hfull : 2 ^ 23 ≤ m <<< k ∨ e - (k : Int) = -149 := by
    have hlog := log2_shiftLeft hm.ne' k
    have hne : m <<< k ≠ 0 := by
      rw [Nat.shiftLeft_eq]
      positivity
    rw [← Nat.le_log2 hne, hlog]
    omega
  have h := packed_exact_rounds s hfull (by omega)
  rw [hvalue] at h
  unfold packed at h
  rw [← hround] at h
  exact h

theorem normalize_eq_round {m : Int} (hm : m ≠ 0) (e : Int) (zero : Sign) :
    ∃ (s : Sign) (n : Nat), 0 < n ∧ factor s * n = m
      ∧ UnpackedFloat.normalize Format.binary32 m e zero
        = UnpackedFloat.round Format.binary32 s n e := by
  unfold UnpackedFloat.normalize
  rcases lt_or_gt_of_ne hm with hneg | hpos
  · have hcast : (((-m).toNat : Nat) : ℚ) = -m := by
      exact_mod_cast Int.toNat_of_nonneg (by omega : 0 ≤ -m)
    rw [Int.compare_eq_lt.mpr hneg]
    exact ⟨.negative, (-m).toNat, by omega, by rw [hcast]; simp [factor], rfl⟩
  · have hcast : ((m.toNat : Nat) : ℚ) = m := by
      exact_mod_cast Int.toNat_of_nonneg hpos.le
    rw [Int.compare_eq_gt.mpr hpos]
    exact ⟨.positive, m.toNat, by omega, by rw [hcast]; simp [factor], rfl⟩

/-- Sums and differences end with this. -/
theorem normalize_rounds {m : Int} (zero : Sign) (hlow : -149 ≤ e) :
    RoundsTo ⟨Float32.Model.pack (UnpackedFloat.normalize Format.binary32 m e zero)⟩
      (m * 2 ^ e) (ulp * |(m : ℝ) * 2 ^ e|) := by
  by_cases hm : m = 0
  · subst hm
    have hzero : UnpackedFloat.normalize Format.binary32 0 e zero = .zero zero := rfl
    rw [hzero, Int.cast_zero, zero_mul, abs_zero, mul_zero]
    cases zero <;> exact ⟨fun _ => rfl, fun _ => by simp [value]; rfl⟩
  · obtain ⟨s, n, hn, hvalue, hround⟩ := normalize_eq_round hm e zero
    have hvalue' : ((factor s : ℚ) : ℝ) * n = m := by exact_mod_cast hvalue
    rw [hround, ← hvalue', mul_assoc, abs_factor_mul s (by positivity)]
    exact round_rounds s hn hlow

/-! ## Operands -/

/-- A float that stands for a number, as it is stored. -/
inductive Stored : UnpackedFloat → Prop
  | zero (s : Sign) : Stored (.zero s)
  | finite (s : Sign) {m : Nat} {e : Int} (h : Fits m e) : Stored (.finite s m e h.pos)

theorem stored_unpack {x : Float32} (h : x.isFinite = true) : Stored x.toModel.unpack := by
  change x.toModel.unpack.isFinite = true at h
  cases hx : x.toModel.unpack with
  | infinity s => rw [hx] at h; exact absurd h Bool.false_ne_true
  | notANumber => rw [hx] at h; exact absurd h Bool.false_ne_true
  | zero s => exact .zero s
  | finite s m e hm => exact .finite s (fits_of_unpack hx)

theorem Stored.neg {u : UnpackedFloat} (h : Stored u) :
    Stored u.neg ∧ unpackedValue u.neg = -unpackedValue u := by
  cases h with
  | zero s => exact ⟨.zero _, by unfold UnpackedFloat.neg unpackedValue; rw [neg_zero]⟩
  | finite s h =>
      refine ⟨.finite _ h, ?_⟩
      cases s with
      | negative => show factor .positive * _ = -(factor .negative * _); simp [factor]
      | positive => show factor .negative * _ = -(factor .positive * _); simp [factor]

/-- A number that is stored is packed and found again. -/
theorem Stored.value_pack {u : UnpackedFloat} (h : Stored u) :
    let x : Float32 := ⟨Float32.Model.pack u⟩
    x.isFinite = true ∧ value x = unpackedValue u := by
  cases h with
  | zero s => cases s <;> exact ⟨rfl, rfl⟩
  | finite s h =>
      unfold value
      refine ⟨?_, by rw [unpack_pack s h]⟩
      show (Float32.Model.pack _).unpack.isFinite = true
      rw [unpack_pack s h]
      rfl

/-- It is off by nothing. -/
theorem Stored.pack_near {u : UnpackedFloat} (h : Stored u) {t : ℝ}
    (ht : (unpackedValue u : ℝ) = t) :
    let x : Float32 := ⟨Float32.Model.pack u⟩
    x.isFinite = true ∧ |(value x : ℝ) - t| ≤ ulp * |t| := by
  obtain ⟨hfinite, hvalue⟩ := h.value_pack
  refine ⟨hfinite, ?_⟩
  rw [hvalue, ht, sub_self, abs_zero]
  unfold ulp
  positivity

theorem Stored.finite_value (s : Sign) {m : Nat} {e : Int} (h : Fits m e) :
    (unpackedValue (.finite s m e h.pos) : ℝ) = factor s * (m * 2 ^ e) := by
  unfold unpackedValue
  push_cast
  rfl

/-! ## Sums and differences -/

theorem apply_shiftLeft (s : Sign) (m : Nat) {e t : Int} (ht : t ≤ e) :
    ((s.apply (m <<< (e - t).toNat : Nat) : Int) : ℝ) * 2 ^ t = factor s * (m * 2 ^ e) := by
  have hpow : (2 : ℝ) ^ e = 2 ^ (e - t).toNat * 2 ^ t := by
    rw [← zpow_natCast, ← zpow_add₀ two_ne_zero]
    congr 1
    omega
  rw [hpow, Nat.shiftLeft_eq]
  cases s <;> simp only [Sign.apply, factor] <;> push_cast <;> ring

theorem Stored.add_rounds {u v : UnpackedFloat} (hu : Stored u) (hv : Stored v) :
    RoundsTo ⟨Float32.Model.pack (UnpackedFloat.add Format.binary32 u v)⟩
      (unpackedValue u + unpackedValue v) (ulp * |(unpackedValue u : ℝ) + unpackedValue v|) := by
  cases hu with
  | zero s =>
      rw [unpackedValue_zero, Rat.cast_zero, zero_add]
      cases hv with
      | zero s' =>
          obtain ⟨s'', hzero⟩ : ∃ s'', UnpackedFloat.add Format.binary32 (.zero s) (.zero s')
              = .zero s'' := by
            cases s <;> cases s' <;> exact ⟨_, rfl⟩
          rw [hzero]
          exact .of_near ((Stored.zero s'').pack_near rfl)
      | finite s' h' => exact .of_near ((Stored.finite s' h').pack_near rfl)
  | finite s h =>
      cases hv with
      | zero s' =>
          rw [unpackedValue_zero, Rat.cast_zero, add_zero]
          exact .of_near ((Stored.finite s h).pack_near rfl)
      | @finite s' m' e' h' =>
          rename_i m e
          have hlow : -149 ≤ min e e' := le_min h.low h'.low
          have hvalue := apply_shiftLeft s m (min_le_left e e')
          have hvalue' := apply_shiftLeft s' m' (min_le_right e e')
          rw [finite_value s h, finite_value s' h', ← hvalue, ← hvalue', ← add_mul,
            ← Int.cast_add]
          exact normalize_rounds .positive hlow

theorem apply_neg (s : Sign) (n : Int) : (-s).apply n = -s.apply n := by
  cases s with
  | negative => exact (Int.neg_neg n).symm
  | positive => rfl

theorem unpacked_sub_eq (u v : UnpackedFloat) :
    UnpackedFloat.sub Format.binary32 u v = UnpackedFloat.add Format.binary32 u v.neg := by
  cases u <;> cases v <;> try rfl
  rename_i s m e hm s' m' e' hm'
  unfold UnpackedFloat.sub UnpackedFloat.add UnpackedFloat.neg
  dsimp only
  rw [apply_neg, ← Int.sub_eq_add_neg]

variable {x y : Float32}

/-- **Sums round to within one unit in the last place**, however small they are. -/
theorem add_rounds (hx : x.isFinite = true) (hy : y.isFinite = true) :
    RoundsTo (x + y) (value x + value y) (ulp * |(value x : ℝ) + value y|) :=
  (stored_unpack hx).add_rounds (stored_unpack hy)

/-- **So do differences.** -/
theorem sub_rounds (hx : x.isFinite = true) (hy : y.isFinite = true) :
    RoundsTo (x - y) (value x - value y) (ulp * |(value x : ℝ) - value y|) := by
  obtain ⟨hneg, hvalue⟩ := (stored_unpack hy).neg
  have hdiff : x - y = ⟨Float32.Model.pack
      (UnpackedFloat.add Format.binary32 x.toModel.unpack y.toModel.unpack.neg)⟩ := by
    rw [← unpacked_sub_eq]
    rfl
  have h := (stored_unpack hx).add_rounds hneg
  rw [hvalue, Rat.cast_neg, ← sub_eq_add_neg, ← hdiff] at h
  exact h

theorem add_near (hx : x.isFinite = true) (hy : y.isFinite = true)
    (hmax : |(value x : ℝ) + value y| < 2 ^ 127) :
    (x + y).isFinite = true
      ∧ |(value (x + y) : ℝ) - (value x + value y)| ≤ ulp * |(value x : ℝ) + value y| :=
  (add_rounds hx hy).finite_near hmax

theorem sub_near (hx : x.isFinite = true) (hy : y.isFinite = true)
    (hmax : |(value x : ℝ) - value y| < 2 ^ 127) :
    (x - y).isFinite = true
      ∧ |(value (x - y) : ℝ) - (value x - value y)| ≤ ulp * |(value x : ℝ) - value y| :=
  (sub_rounds hx hy).finite_near hmax

/-! ## Products, quotients and roots -/

theorem Fits.value_lt {m : Nat} {e : Int} (h : Fits m e) : (m : ℝ) * 2 ^ e < 2 ^ 128 := by
  have hm : (m : ℝ) < 2 ^ 24 := by exact_mod_cast h.lt
  have he : (2 : ℝ) ^ e ≤ 2 ^ (104 : Int) := zpow_le_zpow_right₀ (by norm_num) h.high
  have hpow : (0 : ℝ) < 2 ^ e := by positivity
  calc (m : ℝ) * 2 ^ e < 2 ^ 24 * 2 ^ e := mul_lt_mul_of_pos_right hm hpow
    _ ≤ 2 ^ 24 * 2 ^ (104 : Int) := mul_le_mul_of_nonneg_left he (by positivity)
    _ = 2 ^ 128 := by norm_num

/-- A zero is packed for zero. -/
theorem zero_near (s : Sign) {t : ℝ} (ht : t = 0) :
    let x : Float32 := ⟨Float32.Model.pack (.zero s)⟩
    x.isFinite = true ∧ |(value x : ℝ) - t| ≤ max (ulp * |t|) tiny := by
  obtain ⟨hfinite, hnear⟩ := (Stored.zero s).pack_near (t := t) (by
    rw [unpackedValue_zero, Rat.cast_zero, ht])
  exact ⟨hfinite, hnear.trans (le_max_left _ _)⟩

/-- The signs of what is rounded come first. -/
theorem signed_near (s : Sign) (a : Accuracy) {t t' : ℝ} (ht : factor s * t = t')
    (hfull : 2 ^ 23 ≤ m ∨ e ≤ -149) (hlo : (m : ℝ) * 2 ^ e ≤ t) (hhi : t < (m + 1) * 2 ^ e)
    (hrange : InRange m e a) :
    (packed s m e a).isFinite = true
      ∧ |(value (packed s m e a) : ℝ) - t'| ≤ max (ulp * |t'|) tiny := by
  have hpow : (0 : ℝ) ≤ m * 2 ^ e := by positivity
  rw [← ht, abs_factor_mul s (hpow.trans hlo)]
  exact packed_near s a hfull hlo hhi hrange

/-- A product keeps as many digits as its factors. -/
theorem Fits.mul_full {m m' : Nat} {e e' : Int} (h : Fits m e) (h' : Fits m' e') :
    2 ^ 23 ≤ m * m' ∨ e + e' ≤ -149 := by
  rcases h.full with hm | he
  · exact .inl (hm.trans (Nat.le_mul_of_pos_right m h'.pos))
  · rcases h'.full with hm' | he'
    · exact .inl (hm'.trans (Nat.le_mul_of_pos_left m' h.pos))
    · exact .inr (by omega)

theorem Stored.mul_rounds {u v : UnpackedFloat} (hu : Stored u) (hv : Stored v) :
    RoundsTo ⟨Float32.Model.pack (UnpackedFloat.mul Format.binary32 u v)⟩
      (unpackedValue u * unpackedValue v)
      (max (ulp * |(unpackedValue u : ℝ) * unpackedValue v|) tiny) := by
  cases hu with
  | zero s =>
      have hzero : ((unpackedValue (.zero s) : ℚ) : ℝ) * unpackedValue v = 0 := by
        rw [unpackedValue_zero, Rat.cast_zero, zero_mul]
      cases hv <;> exact .of_near (zero_near _ hzero)
  | @finite s m e h =>
      cases hv with
      | zero s' =>
          exact .of_near (zero_near _ (by rw [unpackedValue_zero, Rat.cast_zero, mul_zero]))
      | @finite s' m' e' h' =>
          have hfull := h.mul_full h'
          have hpow : (0 : ℝ) < 2 ^ (e + e') := by positivity
          have hproduct : factor (s * s') * (((m * m' : Nat) : ℝ) * 2 ^ (e + e'))
              = factor s * (m * 2 ^ e) * (factor s' * (m' * 2 ^ e')) := by
            rw [factor_mul, zpow_add₀ two_ne_zero]
            push_cast
            ring
          rw [finite_value s h, finite_value s' h', ← hproduct]
          have hnear := signed_near (s * s') .exact rfl hfull le_rfl (by linarith)
          refine ⟨fun hmax => (hnear (inRange_exact hfull ?_)).1,
            fun hfinite => (hnear (inRange_of_isFinite hfull hfinite)).2⟩
          rwa [abs_factor_mul _ (by positivity)] at hmax

/-- **Products round to within one unit in the last place**, or one least scalar. -/
theorem mul_rounds (hx : x.isFinite = true) (hy : y.isFinite = true) :
    RoundsTo (x * y) (value x * value y) (max (ulp * |(value x : ℝ) * value y|) tiny) :=
  (stored_unpack hx).mul_rounds (stored_unpack hy)

theorem mul_near (hx : x.isFinite = true) (hy : y.isFinite = true)
    (hmax : |(value x : ℝ) * value y| < 2 ^ 127) :
    (x * y).isFinite = true
      ∧ |(value (x * y) : ℝ) - value x * value y| ≤ max (ulp * |(value x : ℝ) * value y|) tiny :=
  (mul_rounds hx hy).finite_near hmax

/-- Less than half of the least scalar rounds to zero. -/
theorem rounded_eq_zero (hsmall : (m : ℝ) * 2 ^ e < tiny / 2) (hlow : -149 ≤ e + dropped m e) :
    rounded m e .exact = 0 := by
  have hhalf : tiny / 2 = 2 ^ (-150 : Int) := by
    unfold tiny
    norm_num
  have hpow : (0 : ℝ) < 2 ^ e := by positivity
  have hlt : ∀ {j : Nat}, -150 ≤ e + j → m < 2 ^ j := by
    intro j hj
    have hle : (2 : ℝ) ^ (-150 : Int) ≤ 2 ^ j * 2 ^ e := by
      rw [← zpow_natCast, ← zpow_add₀ two_ne_zero, add_comm]
      exact zpow_le_zpow_right₀ (by norm_num) hj
    have hscaled := lt_of_mul_lt_mul_right ((hsmall.trans_eq hhalf).trans_le hle) hpow.le
    exact_mod_cast hscaled
  rcases hdropped : dropped m e with - | j
  · rw [hdropped] at hlow
    rw [rounded_exact hdropped]
    have := hlt (j := 0) (by omega)
    omega
  · rw [hdropped] at hlow
    have hle := rounded_le_half hdropped
    rw [Nat.div_eq_of_lt (hlt (by omega))] at hle
    omega

theorem Stored.mul_vanishes {u v : UnpackedFloat} (hu : Stored u) (hv : Stored v)
    (hsmall : |(unpackedValue u : ℝ) * unpackedValue v| < tiny / 2) :
    value ⟨Float32.Model.pack (UnpackedFloat.mul Format.binary32 u v)⟩ = 0 := by
  cases hu with
  | zero s => cases hv <;> exact (Stored.zero _).value_pack.2
  | @finite s m e h =>
      cases hv with
      | zero s' => exact (Stored.zero _).value_pack.2
      | @finite s' m' e' h' =>
          have hproduct : |((unpackedValue (.finite s m e h.pos) : ℚ) : ℝ)
              * unpackedValue (.finite s' m' e' h'.pos)| = ((m * m' : Nat) : ℝ) * 2 ^ (e + e') := by
            rw [finite_value s h, finite_value s' h', abs_mul, abs_factor_mul s (by positivity),
              abs_factor_mul s' (by positivity), zpow_add₀ two_ne_zero]
            push_cast
            ring
          rw [hproduct] at hsmall
          have hfull := h.mul_full h'
          have hmax : ((m * m' : Nat) : ℝ) * 2 ^ (e + e') < 2 ^ 127 := by
            refine hsmall.trans ?_
            unfold tiny
            norm_num
          have hvalue := (value_packed (s * s') .exact hfull (inRange_of_lt .exact hfull hmax)).2
          rw [rounded_eq_zero hsmall (dropped_spec hfull).1, Nat.cast_zero, zero_mul,
            mul_zero] at hvalue
          exact hvalue

/-- **Products below half of the least scalar vanish.** -/
theorem mul_vanishes (hx : x.isFinite = true) (hy : y.isFinite = true)
    (hsmall : |(value x : ℝ) * value y| < tiny / 2) : value (x * y) = 0 :=
  (stored_unpack hx).mul_vanishes (stored_unpack hy) hsmall

theorem Stored.div_near {u v : UnpackedFloat} (hu : Stored u) (hv : Stored v)
    (hne : unpackedValue v ≠ 0) (hmax : |(unpackedValue u : ℝ) / unpackedValue v| < 2 ^ 127) :
    let x : Float32 := ⟨Float32.Model.pack (UnpackedFloat.div Format.binary32 u v)⟩
    x.isFinite = true ∧ |(value x : ℝ) - unpackedValue u / unpackedValue v|
      ≤ max (ulp * |(unpackedValue u : ℝ) / unpackedValue v|) tiny := by
  cases hv with
  | zero s' => exact absurd (unpackedValue_zero s') hne
  | @finite s' m' e' h' =>
      cases hu with
      | zero s => exact zero_near _ (by rw [unpackedValue_zero, Rat.cast_zero, zero_div])
      | @finite s m e h =>
          obtain ⟨t, ht⟩ : ∃ t, min (e - e')
              (max ((m.log2 : Int) + e - (m'.log2 + e') - 24) (-149)) = t := ⟨_, rfl⟩
          obtain ⟨k, hk⟩ : ∃ k, (e - e' - t).toNat = k := ⟨_, rfl⟩
          have htarget : Format.binary32.targetExponent (totalExponent m e - totalExponent m' e')
              = max ((m.log2 : Int) + e - (m'.log2 + e') - 24) (-149) := by
            simp only [Format.targetExponent, totalExponent, Format.mantissaBits,
              Format.minExponent]
            norm_num
            omega
          have hcore : divCore Format.binary32 m e m' e'
              = ((m <<< k) / m', t, accuracyOfFraction ((m <<< k) % m') m') := by
            unfold divCore
            dsimp only
            rw [htarget, ht, hk]
          rw [finite_value s h, finite_value s' h'] at hmax ⊢
          unfold UnpackedFloat.div
          dsimp only
          rw [hcore]
          dsimp only
          have hfull : 2 ^ 23 ≤ (m <<< k) / m' ∨ t ≤ -149 := by
            by_cases hleast : t ≤ -149
            · exact .inr hleast
            · left
              have hlt : m' < 2 ^ (m'.log2 + 1) := Nat.lt_log2_self
              rw [Nat.le_div_iff_mul_le h'.pos, Nat.shiftLeft_eq]
              calc 2 ^ 23 * m' ≤ 2 ^ 23 * 2 ^ (m'.log2 + 1) := Nat.mul_le_mul_left _ hlt.le
                _ = 2 ^ (23 + (m'.log2 + 1)) := (Nat.pow_add _ _ _).symm
                _ ≤ 2 ^ (m.log2 + k) := Nat.pow_le_pow_right (by decide) (by omega)
                _ = 2 ^ m.log2 * 2 ^ k := Nat.pow_add _ _ _
                _ ≤ m * 2 ^ k := Nat.mul_le_mul_right _ (Nat.log2_self_le h.pos.ne')
          obtain ⟨hfloor, hceil⟩ := quotient_bounds h'.pos (by omega : e = e' + k + t) (m := m)
          have hsigned : factor (s / s') * (m * 2 ^ e / (m' * 2 ^ e') : ℝ)
              = factor s * (m * 2 ^ e) / (factor s' * (m' * 2 ^ e')) := by
            rw [factor_div]
            push_cast
            exact div_mul_div_comm _ _ _ _
          rw [← hsigned, abs_factor_mul _ (by positivity)] at hmax
          exact signed_near (s / s') _ hsigned hfull hfloor hceil
            (inRange_of_lt _ hfull (hfloor.trans_lt hmax))

/-- **So do quotients.** -/
theorem div_near (hx : x.isFinite = true) (hy : y.isFinite = true) (hne : value y ≠ 0)
    (hmax : |(value x : ℝ) / value y| < 2 ^ 127) :
    (x / y).isFinite = true
      ∧ |(value (x / y) : ℝ) - value x / value y| ≤ max (ulp * |(value x : ℝ) / value y|) tiny :=
  (stored_unpack hx).div_near (stored_unpack hy) hne hmax

theorem sqrtCore_eq {m : Nat} {e : Int} (h : Fits m e) :
    ∃ n t a, sqrtCore Format.binary32 m e = (Nat.sqrt n, t, a) ∧ -98 ≤ t ∧ 2 ^ 46 ≤ n
      ∧ (n : ℝ) * (2 ^ t) ^ 2 = m * 2 ^ e := by
  obtain ⟨t, ht⟩ : ∃ t, min (e / 2) (max (((m.log2 : Int) + 1 + e + 1) / 2 - 24) (-149)) = t :=
    ⟨_, rfl⟩
  obtain ⟨k, hk⟩ : ∃ k, (e - 2 * t).toNat = k := ⟨_, rfl⟩
  have htarget : Format.binary32.targetExponent ((totalExponent m e + 1) / 2)
      = max (((m.log2 : Int) + 1 + e + 1) / 2 - 24) (-149) := by
    simp only [Format.targetExponent, totalExponent, Format.mantissaBits, Format.minExponent]
    norm_num
  have hlow := h.low
  have hlog := log2_shiftLeft h.pos.ne' k
  have hne : m <<< k ≠ 0 := by
    rw [Nat.shiftLeft_eq]
    exact (Nat.mul_pos h.pos (Nat.two_pow_pos k)).ne'
  obtain ⟨a, hcore⟩ : ∃ a, sqrtCore Format.binary32 m e
      = (Nat.sqrt (m <<< (e - 2 * min (e / 2) (Format.binary32.targetExponent
          ((totalExponent m e + 1) / 2))).toNat),
        min (e / 2) (Format.binary32.targetExponent ((totalExponent m e + 1) / 2)), a) := ⟨_, rfl⟩
  rw [htarget, ht, hk] at hcore
  refine ⟨m <<< k, t, a, hcore, by omega, ?_, ?_⟩
  · rw [← Nat.le_log2 hne, hlog]
    omega
  · obtain rfl : e = k + (t + t) := by omega
    rw [Nat.shiftLeft_eq, zpow_add₀ two_ne_zero, zpow_add₀ two_ne_zero, zpow_natCast]
    push_cast
    ring

theorem Stored.sqrt_near {u : UnpackedFloat} (hu : Stored u) (hnonneg : 0 ≤ unpackedValue u) :
    let x : Float32 := ⟨Float32.Model.pack (UnpackedFloat.sqrt Format.binary32 u)⟩
    x.isFinite = true
      ∧ |(value x : ℝ) - √(unpackedValue u)| ≤ ulp * √(unpackedValue u) := by
  cases hu with
  | zero s =>
      have h := (Stored.zero s).pack_near (t := 0) (by rw [unpackedValue_zero, Rat.cast_zero])
      rw [unpackedValue_zero, Rat.cast_zero, Real.sqrt_zero]
      rwa [abs_zero] at h
  | @finite s m e h =>
      have hpos : (0 : ℚ) < m * 2 ^ e := by
        have := h.pos
        positivity
      cases s with
      | negative =>
          exfalso
          unfold unpackedValue factor at hnonneg
          linarith
      | positive =>
          obtain ⟨n, t, a, hcore, hlow, hn, hvalue⟩ := sqrtCore_eq h
          obtain ⟨hfloor, hceil⟩ := root_bounds hvalue
          have hsize : (unpackedValue (.finite .positive m e h.pos) : ℝ) = m * 2 ^ e := by
            rw [finite_value .positive h, factor, Rat.cast_one, one_mul]
          have hdigits : 2 ^ 23 ≤ Nat.sqrt n := by
            rw [Nat.le_sqrt]
            exact le_trans (by norm_num) hn
          have hmax : √(m * 2 ^ e : ℝ) < 2 ^ 127 := by
            rw [Real.sqrt_lt' (by positivity)]
            exact h.value_lt.trans (by norm_num)
          rw [hsize]
          unfold UnpackedFloat.sqrt
          dsimp only
          rw [hcore]
          dsimp only
          obtain ⟨hfinite, hnear⟩ :=
            packed_near_lastDigit .positive a (.inl hdigits) hfloor hceil
              (inRange_of_lt a (.inl hdigits) (hfloor.trans_lt hmax))
          rw [factor, Rat.cast_one, one_mul] at hnear
          obtain ⟨-, -, hkept⟩ := dropped_spec (e := t) (.inl hdigits)
          refine ⟨hfinite, hnear.trans ?_⟩
          rcases hkept with hleast | hkept
          · omega
          · exact lastDigit_le hkept hfloor

/-- **Roots round to within one unit in the last place.** -/
theorem sqrt_near (hx : x.isFinite = true) (hnonneg : 0 ≤ value x) :
    x.sqrt.isFinite = true
      ∧ |(value x.sqrt : ℝ) - √(value x)| ≤ ulp * √(value x) :=
  (stored_unpack hx).sqrt_near hnonneg

/-! ## Comparisons -/

theorem Fits.lt_of_exponent_lt {m m' : Nat} {e e' : Int} (h : Fits m e) (h' : Fits m' e')
    (he : e < e') : (m : ℚ) * 2 ^ e < m' * 2 ^ e' := by
  have hm' : 2 ^ 23 ≤ m' := h'.full.resolve_right (by have := h.low; omega)
  have hlt : (m : ℚ) < 2 ^ 24 := by exact_mod_cast h.lt
  have hge : (2 : ℚ) ^ 23 ≤ m' := by exact_mod_cast hm'
  have hstep : (2 : ℚ) ^ (e + 1) ≤ 2 ^ e' := zpow_le_zpow_right₀ (by norm_num) he
  have hpow : (0 : ℚ) < 2 ^ e := by positivity
  calc (m : ℚ) * 2 ^ e < 2 ^ 24 * 2 ^ e := mul_lt_mul_of_pos_right hlt hpow
    _ = 2 ^ 23 * 2 ^ (e + 1) := by rw [zpow_add_one₀ two_ne_zero]; ring
    _ ≤ m' * 2 ^ e' := mul_le_mul hge hstep (by positivity) (by positivity)

theorem Fits.compare_eq {m m' : Nat} {e e' : Int} (h : Fits m e) (h' : Fits m' e') :
    (compare e e').then (compare m m') = compare ((m : ℚ) * 2 ^ e) (m' * 2 ^ e') := by
  rcases lt_trichotomy e e' with he | rfl | he
  · rw [compare_lt_iff_lt.mpr he, compare_lt_iff_lt.mpr (h.lt_of_exponent_lt h' he)]
    rfl
  · have hpow : (0 : ℚ) < 2 ^ e := by positivity
    rw [compare_eq_iff_eq.mpr rfl]
    show compare m m' = _
    rcases lt_trichotomy m m' with hm | rfl | hm
    · have hlt : (m : ℚ) < m' := by exact_mod_cast hm
      rw [compare_lt_iff_lt.mpr hm, compare_lt_iff_lt.mpr (mul_lt_mul_of_pos_right hlt hpow)]
    · rw [compare_eq_iff_eq.mpr rfl, compare_eq_iff_eq.mpr rfl]
    · have hlt : (m' : ℚ) < m := by exact_mod_cast hm
      rw [compare_gt_iff_gt.mpr hm, compare_gt_iff_gt.mpr (mul_lt_mul_of_pos_right hlt hpow)]
  · rw [compare_gt_iff_gt.mpr he, compare_gt_iff_gt.mpr (h'.lt_of_exponent_lt h he)]
    rfl

theorem unpackedValue_positive {m : Nat} {e : Int} (hm : 0 < m) :
    unpackedValue (.finite .positive m e hm) = m * 2 ^ e := one_mul _

theorem unpackedValue_negative {m : Nat} {e : Int} (hm : 0 < m) :
    unpackedValue (.finite .negative m e hm) = -(m * 2 ^ e) := neg_one_mul _

theorem compare_neg (a b : ℚ) : compare (-a) (-b) = compare b a := by
  rcases lt_trichotomy b a with h | rfl | h
  · rw [compare_lt_iff_lt.mpr h, compare_lt_iff_lt.mpr (neg_lt_neg h)]
  · rw [compare_eq_iff_eq.mpr rfl, compare_eq_iff_eq.mpr rfl]
  · rw [compare_gt_iff_gt.mpr h, compare_gt_iff_gt.mpr (neg_lt_neg h)]

/-- **Scalars compare as the numbers they stand for.** -/
theorem Stored.compare_eq {u v : UnpackedFloat} (hu : Stored u) (hv : Stored v) :
    UnpackedFloat.compare u v = some (compare (unpackedValue u) (unpackedValue v)) := by
  have hpos : ∀ {m : Nat} {e : Int}, Fits m e → (0 : ℚ) < m * 2 ^ e := by
    intro m e h
    have := h.pos
    positivity
  cases hu with
  | zero s =>
      rw [unpackedValue_zero]
      cases hv with
      | zero s' => rfl
      | finite s' h' =>
          cases s' with
          | negative =>
              rw [unpackedValue_negative, compare_gt_iff_gt.mpr (neg_lt_zero.mpr (hpos h'))]
              rfl
          | positive =>
              rw [unpackedValue_positive, compare_lt_iff_lt.mpr (hpos h')]
              rfl
  | finite s h =>
      cases hv with
      | zero s' =>
          rw [unpackedValue_zero]
          cases s with
          | negative =>
              rw [unpackedValue_negative, compare_lt_iff_lt.mpr (neg_lt_zero.mpr (hpos h))]
              rfl
          | positive =>
              rw [unpackedValue_positive, compare_gt_iff_gt.mpr (hpos h)]
              rfl
      | finite s' h' =>
          cases s with
          | negative =>
              rw [unpackedValue_negative]
              cases s' with
              | negative =>
                  rw [unpackedValue_negative, compare_neg, @Std.OrientedCmp.eq_swap _ compare,
                    ← h.compare_eq h']
                  rfl
              | positive =>
                  have hlt := (neg_lt_zero.mpr (hpos h)).trans (hpos h')
                  rw [unpackedValue_positive, compare_lt_iff_lt.mpr hlt]
                  rfl
          | positive =>
              rw [unpackedValue_positive]
              cases s' with
              | negative =>
                  have hlt := (neg_lt_zero.mpr (hpos h')).trans (hpos h)
                  rw [unpackedValue_negative, compare_gt_iff_gt.mpr hlt]
                  rfl
              | positive =>
                  rw [unpackedValue_positive, ← h.compare_eq h']
                  rfl

theorem lt_iff (hx : x.isFinite = true) (hy : y.isFinite = true) :
    x < y ↔ value x < value y := by
  have hcompare := (stored_unpack hx).compare_eq (stored_unpack hy)
  have hlt : x < y ↔ (x.toModel.unpack.compare y.toModel.unpack == some .lt) = true :=
    decide_eq_true_iff
  rw [hlt, hcompare, beq_iff_eq, Option.some.injEq, compare_lt_iff_lt]
  rfl

theorem zero_lt_iff (hx : x.isFinite = true) : 0 < x ↔ 0 < value x := by
  rw [lt_iff isFinite_zero hx, value_zero]

theorem isNaN_eq_false (hx : x.isFinite = true) : x.isNaN = false := by
  have hstored := stored_unpack hx
  show x.toModel.unpack.isNaN = false
  generalize x.toModel.unpack = u at hstored
  cases hstored <;> rfl

theorem Stored.abs {u : UnpackedFloat} (h : Stored u) :
    Stored u.abs ∧ unpackedValue u.abs = |unpackedValue u| := by
  cases h with
  | zero s => exact ⟨.zero _, by rw [unpackedValue_zero, abs_zero]; rfl⟩
  | @finite s m e h =>
      refine ⟨.finite _ h, ?_⟩
      have hnonneg : (0 : ℚ) ≤ m * 2 ^ e := by positivity
      rw [unpackedValue, abs_mul, abs_factor, one_mul, abs_of_nonneg hnonneg]
      exact unpackedValue_positive h.pos

theorem abs_value (hx : x.isFinite = true) :
    x.abs.isFinite = true ∧ value x.abs = |value x| := by
  obtain ⟨hstored, hvalue⟩ := (stored_unpack hx).abs
  obtain ⟨hfinite, hpack⟩ := hstored.value_pack
  exact ⟨hfinite, hpack.trans hvalue⟩

/-- Only the zeros stand for zero. -/
theorem unpack_of_value_eq_zero (hx : x.isFinite = true) (h : value x = 0) :
    ∃ s, x.toModel.unpack = .zero s := by
  have hstored := stored_unpack hx
  unfold value at h
  generalize x.toModel.unpack = u at *
  cases hstored with
  | zero s => exact ⟨s, rfl⟩
  | @finite s m e hfits =>
      have hpos := hfits.pos
      have hfactor : factor s ≠ 0 := abs_ne_zero.mp (by rw [abs_factor]; exact one_ne_zero)
      exact absurd h (mul_ne_zero hfactor (by positivity))

end Facet.Scalar
