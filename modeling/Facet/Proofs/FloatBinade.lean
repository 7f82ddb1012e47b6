import Facet.Proofs.ScalarRounding

/-!
# Rounding of double-precision results

A positive normal number lies in the binade `E` when it is at least `2 ^ E` and below
`2 ^ (E + 1)`. Products, quotients, square roots and conversions keep track of binades up to one or
two, whichever way they round; as long as those are far from the ends of the range, each of them is
the exact result within one rounding.

Roundings are counted as factors (`Within`), so that a chain of operations is followed by adding
them up, and closeness can be read in both directions.
-/

namespace Facet

open Float.Model Float.Model.UnpackedFloat

/-! ## Closeness -/

/-- The most by which a rounding can change a number, as a factor. -/
noncomputable def slack : ℝ := (1 + 1 / 2 ^ 51 : ℚ)

theorem one_le_slack : 1 ≤ slack := by
  unfold slack
  norm_num

theorem slack_pow_pos (n : Nat) : 0 < slack ^ n :=
  pow_pos (zero_lt_one.trans_le one_le_slack) n

/-- `x` and `t` are the same up to `n` roundings. -/
def Within (n : Nat) (x t : ℝ) : Prop := x ≤ t * slack ^ n ∧ t ≤ x * slack ^ n

namespace Within

variable {n n' : Nat} {x y t u : ℝ}

theorem of_near (ht : 0 ≤ t) (h : |x - t| ≤ t / 2 ^ 52) : Within 1 x t := by
  obtain ⟨hlo, hhi⟩ := abs_le.mp h
  unfold Within slack
  rw [pow_one]
  push_cast
  constructor <;> nlinarith

theorem trans (h : Within n x t) (h' : Within n' t u) : Within (n + n') x u := by
  obtain ⟨hle, hge⟩ := h
  obtain ⟨hle', hge'⟩ := h'
  constructor
  · calc x ≤ t * slack ^ n := hle
      _ ≤ u * slack ^ n' * slack ^ n := mul_le_mul_of_nonneg_right hle' (slack_pow_pos n).le
      _ = u * slack ^ (n + n') := by rw [pow_add]; ring
  · calc u ≤ t * slack ^ n' := hge'
      _ ≤ x * slack ^ n * slack ^ n' := mul_le_mul_of_nonneg_right hge (slack_pow_pos n').le
      _ = x * slack ^ (n + n') := by rw [pow_add]; ring

theorem mono (h : Within n x t) (hx : 0 ≤ x) (ht : 0 ≤ t) (hn : n ≤ n') : Within n' x t := by
  have hpow := pow_le_pow_right₀ one_le_slack hn
  exact ⟨h.1.trans (mul_le_mul_of_nonneg_left hpow ht),
    h.2.trans (mul_le_mul_of_nonneg_left hpow hx)⟩

theorem mul (h : Within n x t) (h' : Within n' y u) (hx : 0 ≤ x) (ht : 0 ≤ t) (hy : 0 ≤ y)
    (hu : 0 ≤ u) : Within (n + n') (x * y) (t * u) := by
  have hn := slack_pow_pos n
  have hn' := slack_pow_pos n'
  unfold Within
  rw [pow_add]
  constructor
  · calc x * y ≤ t * slack ^ n * (u * slack ^ n') := mul_le_mul h.1 h'.1 hy (by positivity)
      _ = t * u * (slack ^ n * slack ^ n') := by ring
  · calc t * u ≤ x * slack ^ n * (y * slack ^ n') := mul_le_mul h.2 h'.2 hu (by positivity)
      _ = x * y * (slack ^ n * slack ^ n') := by ring

theorem inv (h : Within n x t) (hx : 0 < x) (ht : 0 < t) : Within n x⁻¹ t⁻¹ := by
  constructor
  · calc x⁻¹ = t * (x⁻¹ * t⁻¹) := by field_simp
      _ ≤ x * slack ^ n * (x⁻¹ * t⁻¹) := mul_le_mul_of_nonneg_right h.2 (by positivity)
      _ = t⁻¹ * slack ^ n := by field_simp
  · calc t⁻¹ = x * (x⁻¹ * t⁻¹) := by field_simp
      _ ≤ t * slack ^ n * (x⁻¹ * t⁻¹) := mul_le_mul_of_nonneg_right h.1 (by positivity)
      _ = x⁻¹ * slack ^ n := by field_simp

theorem div (h : Within n x t) (h' : Within n' y u) (hx : 0 ≤ x) (ht : 0 ≤ t) (hy : 0 < y)
    (hu : 0 < u) : Within (n + n') (x / y) (t / u) := by
  rw [div_eq_mul_inv, div_eq_mul_inv]
  exact h.mul (h'.inv hy hu) hx ht (inv_nonneg.mpr hy.le) (inv_nonneg.mpr hu.le)

theorem sqrt (h : Within (2 * n) x t) : Within n √x √t := by
  have hn := slack_pow_pos n
  unfold Within at h ⊢
  rw [pow_mul'] at h
  constructor
  · calc √x ≤ √(t * (slack ^ n) ^ 2) := Real.sqrt_le_sqrt h.1
      _ = √t * slack ^ n := by rw [Real.sqrt_mul' _ (by positivity), Real.sqrt_sq hn.le]
  · calc √t ≤ √(x * (slack ^ n) ^ 2) := Real.sqrt_le_sqrt h.2
      _ = √x * slack ^ n := by rw [Real.sqrt_mul' _ (by positivity), Real.sqrt_sq hn.le]

end Within

/-! ## Binades -/

/-- The number that a double stands for. -/
def doubleValue (x : Float) : ℚ := Scalar.unpackedValue x.toModel.unpack

/-- `x` is positive and normal, and its binade is one of those from `lo` to `hi`. -/
def InBinades (x : Float) (lo hi : Int) : Prop :=
  ∃ m e h, x.toModel.unpack = .finite .positive m e h ∧ m.log2 = 52 ∧ lo ≤ e + 52 ∧ e + 52 ≤ hi

theorem InBinades.mono {x : Float} {lo hi lo' hi' : Int} (h : InBinades x lo hi) (hlo : lo' ≤ lo)
    (hhi : hi ≤ hi') : InBinades x lo' hi' := by
  obtain ⟨m, e, hpos, hunpack, hlog, hle, hge⟩ := h
  exact ⟨m, e, hpos, hunpack, hlog, hlo.trans hle, hge.trans hhi⟩

/-! ## Rounding -/

theorem shiftToTarget {m j : Nat} {e : Int} (a : Accuracy) (hm : m.log2 = 52 + j)
    (he : -1074 ≤ e + j) :
    (shiftToTargetExponent Format.binary64 m e a).1.mantissa = m / 2 ^ j
      ∧ (shiftToTargetExponent Format.binary64 m e a).2 = e + j := by
  have htarget : Format.binary64.targetExponent (totalExponent m e) = e + j := by
    simp only [Format.targetExponent, totalExponent, Format.mantissaBits, Format.minExponent, hm]
    norm_num
    omega
  have hshift : (e + j - e).toNat = j := by omega
  unfold shiftToTargetExponent shiftToExponent
  dsimp only
  rw [htarget, hshift, mantissa_shiftRight, mantissa_ofMantissaAndAccuracy]
  exact ⟨rfl, rfl⟩

/-- **Rounding stays in the binade or goes to the start of the next**, and is off by less than the
weight of its last digit. -/
theorem roundWithAccuracy_binade {m : Nat} {e : Int} (a : Accuracy) (hm : 52 ≤ m.log2)
    (he : -1022 ≤ m.log2 + e) :
    ∃ m' e' h, roundWithAccuracy Format.binary64 .positive m e a = .finite .positive m' e' h
      ∧ m'.log2 = 52 ∧ m.log2 + e ≤ e' + 52 ∧ e' + 52 ≤ m.log2 + e + 1
      ∧ ∀ t : ℝ, m * 2 ^ e ≤ t → t < (m + 1) * 2 ^ e → |m' * 2 ^ e' - t| ≤ t / 2 ^ 52 := by
  obtain ⟨j, hj⟩ := Nat.exists_eq_add_of_le hm
  obtain ⟨hmantissa, hexponent⟩ := shiftToTarget a hj (by omega : -1074 ≤ e + (j : Int))
  have hround := roundedMantissa_bounds (shiftToTargetExponent Format.binary64 m e a).1
  have hbounds := bounds_of_log2 hj (by omega)
  have hlo : 2 ^ 52 ≤ m / 2 ^ j := by
    rw [Nat.le_div_iff_mul_le (Nat.two_pow_pos j), ← Nat.pow_add]
    exact hbounds.1
  have hhi : m / 2 ^ j < 2 ^ 53 := by
    rw [Nat.div_lt_iff_lt_mul (Nat.two_pow_pos j), ← Nat.pow_add]
    exact hbounds.2.trans_eq (congrArg (2 ^ ·) (by omega))
  generalize hfirst : shiftToTargetExponent Format.binary64 m e a = first at *
  obtain ⟨em, e₁⟩ := first
  dsimp only at hmantissa hexponent hround
  rw [hmantissa] at hround
  -- the second shift takes back a carry into the fifty-fourth bit
  have hcarry : em.roundedMantissa.log2 = 52 ∨ em.roundedMantissa = 2 ^ 53 := by
    by_cases hsmall : em.roundedMantissa < 2 ^ 53
    · exact .inl (log2_of_bounds (by omega) hsmall)
    · exact .inr (by omega)
  obtain ⟨i, hi, hlog, hmant, hwhole⟩ : ∃ i ≤ 1, em.roundedMantissa.log2 = 52 + i
      ∧ (em.roundedMantissa / 2 ^ i).log2 = 52
      ∧ em.roundedMantissa / 2 ^ i * 2 ^ i = em.roundedMantissa := by
    rcases hcarry with hsmall | hmax
    · exact ⟨0, by omega, hsmall, by rw [Nat.pow_zero, Nat.div_one, hsmall], by simp⟩
    · exact ⟨1, le_rfl, by rw [hmax, Nat.log2_two_pow], by rw [hmax]; decide, by rw [hmax]; decide⟩
  obtain ⟨hmantissa', hexponent'⟩ :=
    shiftToTarget .exact hlog (by omega : -1074 ≤ e₁ + (i : Int))
  have hne :
      (shiftToTargetExponent Format.binary64 em.roundedMantissa e₁ .exact).1.mantissa ≠ 0 := by
    rw [hmantissa']
    intro hzero
    rw [hzero] at hmant
    exact absurd hmant (by decide)
  unfold roundWithAccuracy
  rw [hfirst]
  dsimp only
  rw [dif_neg hne]
  refine ⟨_, _, _, rfl, by rw [hmantissa']; exact hmant, by rw [hexponent']; omega,
    by rw [hexponent']; omega, ?_⟩
  intro t hle hlt
  have hvalue : ((em.roundedMantissa / 2 ^ i : Nat) : ℝ) * 2 ^ (e₁ + (i : Int))
      = em.roundedMantissa * 2 ^ e₁ := by
    have hcast : ((em.roundedMantissa / 2 ^ i : Nat) : ℝ) * 2 ^ i = em.roundedMantissa := by
      exact_mod_cast hwhole
    rw [← hcast, zpow_add₀ two_ne_zero, zpow_natCast]
    ring
  have hlast := digits_mul_lastDigit_le hlo hle
  rw [hmantissa', hexponent', hvalue, hexponent]
  refine (abs_rounded_sub_le hround.1 hround.2 hle hlt).trans ?_
  linarith

/-! ## Packing -/

theorem unpack_pack {m : Nat} {e : Int} (h : 0 < m) (hm : m.log2 = 52) (hlo : -1074 ≤ e)
    (hhi : e ≤ 971) :
    (Float.Model.pack (.finite .positive m e h)).unpack = .finite .positive m e h := by
  obtain ⟨hmlo, hmhi⟩ := bounds_of_log2 hm (by decide)
  obtain ⟨b, hb⟩ : ∃ b : Nat, e + 1075 = b := ⟨(e + 1075).toNat, by omega⟩
  have hexponent : (BitVec.ofNat 11 b).toNat = b := by
    rw [BitVec.toNat_ofNat, Nat.mod_eq_of_lt (by omega)]
  have hpack : UnpackedFloat.pack Format.binary64 (.finite .positive m e h)
      = packComponents Format.binary64 .positive (BitVec.ofNat 11 b) (BitVec.ofNat 52 m) := by
    have hbiased : (e + Format.binary64.exponentBias
        + Format.binary64.mantissaBitsWithoutImplicit).toNat = b := by
      show (e + 1023 + 52).toNat = b
      omega
    unfold UnpackedFloat.pack
    dsimp only
    rw [hbiased, if_neg (by show ¬ 2048 ≤ b + 1; omega), if_pos (by rw [hm]; rfl)]
  unfold Float.Model.pack Float.Model.unpack
  rw [UInt64.toBitVec_ofBitVec, hpack]
  unfold UnpackedFloat.unpack
  simp only [unpackMantissa_packComponents, unpackExponent_packComponents,
    unpackSign_packComponents]
  have hnotMax : BitVec.ofNat 11 b ≠ -1#11 := by
    intro heq
    have := congrArg BitVec.toNat heq
    rw [hexponent] at this
    change b = 2047 at this
    omega
  have hnotMin : BitVec.ofNat 11 b ≠ 0#11 := by
    intro heq
    have := congrArg BitVec.toNat heq
    rw [hexponent] at this
    change b = 0 at this
    omega
  rw [if_neg hnotMax, if_neg hnotMin, UnpackedFloat.finite.injEq]
  refine ⟨rfl, ?_, ?_⟩
  · have hmantissa : (BitVec.ofNat 52 m).toNat = m - 2 ^ 52 := by
      rw [BitVec.toNat_ofNat]
      omega
    show (1#1 ++ BitVec.ofNat 52 m).toNat = m
    rw [toNat_one_append, hmantissa]
    omega
  · rw [hexponent]
    show (b : Int) - (1023 + 52) = e
    omega

/-! ## Operations -/

theorem doubleValue_eq {x : Float} {m : Nat} {e : Int} {h : 0 < m}
    (hx : x.toModel.unpack = .finite .positive m e h) : (doubleValue x : ℝ) = m * 2 ^ e := by
  rw [doubleValue, hx, Scalar.unpackedValue_positive]
  push_cast
  rfl

theorem InBinades.pos {x : Float} {lo hi : Int} (h : InBinades x lo hi) :
    (0 : ℝ) < doubleValue x := by
  obtain ⟨m, e, hm, hunpack, -⟩ := h
  rw [doubleValue_eq hunpack]
  positivity

/-- What rounding gives is packed as it is, if it is far from the ends of the range. -/
theorem round_within {m : Nat} {e : Int} (a : Accuracy) {t : ℝ} (hm : 52 ≤ m.log2)
    (hlo : -1022 ≤ m.log2 + e) (hhi : m.log2 + e ≤ 1022) (hle : m * 2 ^ e ≤ t)
    (hlt : t < (m + 1) * 2 ^ e) :
    let x : Float := ⟨Float.Model.pack (roundWithAccuracy Format.binary64 .positive m e a)⟩
    InBinades x (m.log2 + e) (m.log2 + e + 1) ∧ Within 1 (doubleValue x) t := by
  obtain ⟨m', e', hpos, hround, hlog, hlo', hhi', hnear⟩ := roundWithAccuracy_binade a hm hlo
  have hunpack := unpack_pack (e := e') hpos hlog (by omega) (by omega)
  have hvalue := doubleValue_eq (x := ⟨Float.Model.pack (.finite .positive m' e' hpos)⟩) hunpack
  rw [hround]
  refine ⟨⟨m', e', hpos, hunpack, hlog, hlo', hhi'⟩, ?_⟩
  rw [hvalue]
  have hnonneg : (0 : ℝ) ≤ m * 2 ^ e := by positivity
  exact .of_near (hnonneg.trans hle) (hnear t hle hlt)

/-- A whole number lies in the binade of its leading digit, or rounds up to the next. -/
theorem ofNat_within {n : Nat} (hn : n ≠ 0) (hlog : n.log2 ≤ 1022) :
    let x : Float := ⟨Float.Model.pack (UnpackedFloat.ofNat Format.binary64 n)⟩
    InBinades x n.log2 (n.log2 + 1) ∧ Within 1 (doubleValue x) n := by
  have htarget : Format.binary64.targetExponent (totalExponent n 0) = (n.log2 : Int) - 52 := by
    simp only [Format.targetExponent, totalExponent, Format.mantissaBits, Format.minExponent]
    norm_num
    omega
  have hround : UnpackedFloat.ofNat Format.binary64 n
      = roundWithAccuracy Format.binary64 .positive (n <<< (52 - n.log2))
        (0 - (52 - n.log2 : Nat)) .exact := by
    have hcompare : compare (n : Int) 0 = .gt := Int.compare_eq_gt.mpr (by omega)
    have hshift : (0 - ((n.log2 : Int) - 52)).toNat = 52 - n.log2 := by omega
    unfold UnpackedFloat.ofNat UnpackedFloat.ofInt UnpackedFloat.normalize
    rw [hcompare]
    unfold UnpackedFloat.round decreaseExponent
    dsimp only
    rw [Int.toNat_natCast, htarget, hshift]
  have hshifted := log2_shiftLeft hn (52 - n.log2)
  have hvalue : ((n <<< (52 - n.log2) : Nat) : ℝ) * 2 ^ (0 - (52 - n.log2 : Nat) : Int) = n := by
    rw [shiftLeft_mul_zpow, zpow_zero, mul_one]
  rw [hround]
  obtain ⟨hin, hnear⟩ := round_within .exact (by omega) (by omega) (by omega) hvalue.le (by
    have hpow : (0 : ℝ) < 2 ^ (0 - (52 - n.log2 : Nat) : Int) := by positivity
    linarith)
  exact ⟨hin.mono (by omega) (by omega), hnear⟩

section Operations

variable {x y : Float} {lo hi lo' hi' : Int}

/-- The exponents of a product add up, with one more for the digits and one for rounding. -/
theorem InBinades.mul (hx : InBinades x lo hi) (hy : InBinades y lo' hi')
    (hlo : -1022 ≤ lo + lo') (hhi : hi + hi' ≤ 1021) :
    InBinades (x * y) (lo + lo') (hi + hi' + 2)
      ∧ Within 1 (doubleValue (x * y)) (doubleValue x * doubleValue y) := by
  obtain ⟨m, e, hm, hunpack, hlog, hle, hge⟩ := hx
  obtain ⟨m', e', hm', hunpack', hlog', hle', hge'⟩ := hy
  obtain ⟨hmlo, hmhi⟩ := bounds_of_log2 hlog (by decide)
  obtain ⟨hmlo', hmhi'⟩ := bounds_of_log2 hlog' (by decide)
  have hproduct : x * y = ⟨Float.Model.pack
      (roundWithAccuracy Format.binary64 .positive (m * m') (e + e') .exact)⟩ := by
    show (⟨Float.Model.pack (UnpackedFloat.mul Format.binary64 x.toModel.unpack y.toModel.unpack)⟩
      : Float) = _
    rw [hunpack, hunpack']
    rfl
  have hne : m * m' ≠ 0 := Nat.mul_ne_zero hm.ne' hm'.ne'
  have hlo₁ : 104 ≤ (m * m').log2 := by
    rw [Nat.le_log2 hne]
    calc 2 ^ 104 = 2 ^ 52 * 2 ^ 52 := by norm_num
      _ ≤ m * m' := Nat.mul_le_mul hmlo hmlo'
  have hhi₁ : (m * m').log2 < 106 := by
    rw [Nat.log2_lt hne]
    calc m * m' < 2 ^ 53 * 2 ^ 53 := Nat.mul_lt_mul'' hmhi hmhi'
      _ = 2 ^ 106 := by norm_num
  have hvalue : ((m * m' : Nat) : ℝ) * 2 ^ (e + e') = m * 2 ^ e * (m' * 2 ^ e') := by
    rw [zpow_add₀ two_ne_zero]
    push_cast
    ring
  rw [hproduct, doubleValue_eq hunpack, doubleValue_eq hunpack', ← hvalue]
  have hpow : (0 : ℝ) < 2 ^ (e + e') := by positivity
  obtain ⟨hin, hnear⟩ := round_within (m := m * m') (e := e + e') .exact (by omega) (by omega)
    (by omega) le_rfl (by linarith)
  exact ⟨hin.mono (by omega) (by omega), hnear⟩

/-- The exponents of a quotient subtract, with one less for the digits and one more for rounding. -/
theorem InBinades.div (hx : InBinades x lo hi) (hy : InBinades y lo' hi')
    (hlo : -1021 ≤ lo - hi') (hhi : hi - lo' ≤ 1022) :
    InBinades (x / y) (lo - hi' - 1) (hi - lo' + 1)
      ∧ Within 1 (doubleValue (x / y)) (doubleValue x / doubleValue y) := by
  obtain ⟨m, e, hm, hunpack, hlog, hle, hge⟩ := hx
  obtain ⟨m', e', hm', hunpack', hlog', hle', hge'⟩ := hy
  obtain ⟨hmlo, hmhi⟩ := bounds_of_log2 hlog (by decide)
  obtain ⟨hmlo', hmhi'⟩ := bounds_of_log2 hlog' (by decide)
  have htarget : min (e - e') (Format.binary64.targetExponent
      (totalExponent m e - totalExponent m' e')) = e - e' - 53 := by
    simp only [Format.targetExponent, totalExponent, Format.mantissaBits, Format.minExponent,
      hlog, hlog']
    norm_num
    omega
  have hshift : (e - e' - (e - e' - 53)).toNat = 53 := by omega
  obtain ⟨a, hquotient⟩ : ∃ a, x / y = ⟨Float.Model.pack
      (roundWithAccuracy Format.binary64 .positive ((m <<< 53) / m') (e - e' - 53) a)⟩ := by
    have hunfold : x / y = ⟨Float.Model.pack
        (UnpackedFloat.div Format.binary64 x.toModel.unpack y.toModel.unpack)⟩ := rfl
    rw [hunpack, hunpack'] at hunfold
    unfold UnpackedFloat.div divCore at hunfold
    dsimp only at hunfold
    rw [htarget, hshift] at hunfold
    exact ⟨_, hunfold⟩
  have hlo₁ : 2 ^ 52 ≤ (m <<< 53) / m' := by
    rw [Nat.le_div_iff_mul_le hm', Nat.shiftLeft_eq]
    omega
  have hhi₁ : (m <<< 53) / m' < 2 ^ 54 := by
    rw [Nat.div_lt_iff_lt_mul hm', Nat.shiftLeft_eq]
    omega
  have hne : (m <<< 53) / m' ≠ 0 := by omega
  have hlo₂ : 52 ≤ ((m <<< 53) / m').log2 := (Nat.le_log2 hne).mpr hlo₁
  have hhi₂ : ((m <<< 53) / m').log2 < 54 := (Nat.log2_lt hne).mpr hhi₁
  obtain ⟨hfloor, hceil⟩ := quotient_bounds (m := m) (k := 53) hm'
    (by push_cast; ring : e = e' + (53 : Nat) + (e - e' - 53))
  rw [hquotient, doubleValue_eq hunpack, doubleValue_eq hunpack']
  obtain ⟨hin, hnear⟩ := round_within a hlo₂ (by omega) (by omega) hfloor hceil
  exact ⟨hin.mono (by omega) (by omega), hnear⟩

/-- A square root halves the exponent. -/
theorem InBinades.sqrt (hx : InBinades x lo hi) (hlo : -1000 ≤ lo) (hhi : hi ≤ 1000) :
    InBinades x.sqrt (lo / 2) (hi / 2 + 1) ∧ Within 1 (doubleValue x.sqrt) √(doubleValue x) := by
  obtain ⟨m, e, hm, hunpack, hlog, hle, hge⟩ := hx
  obtain ⟨t, ht⟩ : ∃ t, e / 2 - 26 = t := ⟨_, rfl⟩
  have htarget : min (e / 2) (Format.binary64.targetExponent ((totalExponent m e + 1) / 2))
      = t := by
    simp only [Format.targetExponent, totalExponent, Format.mantissaBits, Format.minExponent, hlog]
    norm_num
    omega
  obtain ⟨k, hk⟩ : ∃ k, (e - 2 * t).toNat = k := ⟨_, rfl⟩
  obtain ⟨a, hroot⟩ : ∃ a, x.sqrt = ⟨Float.Model.pack (roundWithAccuracy Format.binary64 .positive
      (Nat.sqrt (m <<< k)) t a)⟩ := by
    have hunfold : x.sqrt
        = ⟨Float.Model.pack (UnpackedFloat.sqrt Format.binary64 x.toModel.unpack)⟩ := rfl
    rw [hunpack] at hunfold
    unfold UnpackedFloat.sqrt sqrtCore at hunfold
    dsimp only at hunfold
    change x.sqrt = ⟨Float.Model.pack (roundWithAccuracy _ _ (Nat.sqrt (m <<< (e - 2 *
      min (e / 2) (Format.binary64.targetExponent ((totalExponent m e + 1) / 2))).toNat))
      (min (e / 2) (Format.binary64.targetExponent ((totalExponent m e + 1) / 2))) _)⟩ at hunfold
    rw [htarget, hk] at hunfold
    exact ⟨_, hunfold⟩
  -- the mantissa under the root has 105 or 106 bits, so the root has 53
  have hshifted := log2_shiftLeft hm.ne' k
  obtain ⟨hlo₁, hhi₁⟩ := bounds_of_log2 hshifted (by omega)
  have hlo₂ : 2 ^ 52 ≤ Nat.sqrt (m <<< k) := by
    rw [Nat.le_sqrt]
    calc 2 ^ 52 * 2 ^ 52 = 2 ^ 104 := by norm_num
      _ ≤ 2 ^ (m.log2 + k) := Nat.pow_le_pow_right (by decide) (by omega)
      _ ≤ m <<< k := hlo₁
  have hhi₂ : Nat.sqrt (m <<< k) < 2 ^ 53 := by
    rw [Nat.sqrt_lt]
    calc m <<< k < 2 ^ (m.log2 + k + 1) := hhi₁
      _ ≤ 2 ^ 106 := Nat.pow_le_pow_right (by decide) (by omega)
      _ = 2 ^ 53 * 2 ^ 53 := by norm_num
  have hlog₂ := log2_of_bounds hlo₂ hhi₂
  have hvalue : ((m <<< k : Nat) : ℝ) * (2 ^ t) ^ 2 = m * 2 ^ e := by
    obtain rfl : e = k + (t + t) := by omega
    rw [Nat.shiftLeft_eq, zpow_add₀ two_ne_zero, zpow_add₀ two_ne_zero, zpow_natCast]
    push_cast
    ring
  obtain ⟨hfloor, hceil⟩ := root_bounds hvalue
  rw [hroot, doubleValue_eq hunpack]
  obtain ⟨hin, hnear⟩ := round_within a (by omega) (by omega) (by omega) hfloor hceil
  exact ⟨hin.mono (by omega) (by omega), hnear⟩

theorem toNat_ofNatClamp (n : Nat) : (UInt32.ofNatClamp n).toNat = min n (2 ^ 32 - 1) := by
  have hsize : UInt32.size = 2 ^ 32 := rfl
  unfold UInt32.ofNatClamp
  split
  · rename_i hn
    show n = _
    omega
  · rename_i hn
    show UInt32.size - 1 = _
    omega

/-- Truncation rounds down, and stops at the largest word. -/
theorem InBinades.toNat_toUInt32 (h : InBinades x lo hi) :
    x.toUInt32.toNat = min ⌊doubleValue x⌋₊ (2 ^ 32 - 1) := by
  obtain ⟨m, e, hm, hunpack, -⟩ := h
  have hwhole : x.toUInt32 = UInt32.ofNatClamp ((m <<< e.toNat) / 2 ^ (-e).toNat) := by
    show x.toModel.unpack.toUInt32 = _
    rw [hunpack]
    unfold UnpackedFloat.toUInt32 UnpackedFloat.toInt roundToInt decreaseExponent shiftToExponent
    dsimp only
    have hup : (e - 0).toNat = e.toNat := by omega
    have hdown : (0 - (e - (e.toNat : Int))).toNat = (-e).toNat := by omega
    rw [hup, hdown, mantissa_shiftRight]
    rfl
  have hvalue : doubleValue x = ((m <<< e.toNat : Nat) : ℚ) / (2 ^ (-e).toNat : Nat) := by
    have hpow : (2 : ℚ) ^ e = 2 ^ e.toNat / 2 ^ (-e).toNat := by
      rw [← zpow_natCast, ← zpow_natCast, ← zpow_sub₀ two_ne_zero]
      congr 1
      omega
    rw [doubleValue, hunpack, Scalar.unpackedValue_positive, hpow, Nat.shiftLeft_eq]
    push_cast
    ring
  rw [hwhole, toNat_ofNatClamp, hvalue, Nat.floor_div_eq_div]

end Operations

end Facet
