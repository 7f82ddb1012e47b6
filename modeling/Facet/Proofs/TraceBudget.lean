import Facet.Proofs.FloatBinade
import Facet.Trace.Resolution

/-!
# Trace resolutions and their budget

A surface that is too large for the pixel buffer is traced at a lower resolution, both sides scaled
by the square root of the shortage, rounded down, and raised to one where nothing is left. Scaling
both sides by the root scales the area by the shortage, so the pixels fit; raising a side to one
does not, because the other side is not lowered in turn. With room for `m` pixels a side beside
another is scaled to the largest `k` with `k ^ 2 * other ≤ side * m`, so the buffer is overrun when
`m + 1` is such a `k` for one of the sides.

All of this is computed in double precision, so it holds up to a few roundings (`Scaled`). They are
too little to add a pixel while the number of pixels is far below the precision.
-/

namespace Facet.Trace

/-! ## Sizes -/

theorem toNat_area (e : Extent) : e.area.toNat = e.width.toNat * e.height.toNat := by
  have hw := e.width.toNat_lt
  have hh := e.height.toNat_lt
  have hlt : e.width.toNat * e.height.toNat < 2 ^ 64 :=
    calc e.width.toNat * e.height.toNat < 2 ^ 32 * 2 ^ 32 := Nat.mul_lt_mul'' hw hh
      _ = 2 ^ 64 := by norm_num
  unfold Extent.area
  rw [UInt64.toNat_mul, UInt32.toNat_toUInt64, UInt32.toNat_toUInt64, Nat.mod_eq_of_lt hlt]

theorem toNat_atLeastOne (e : Extent) :
    e.atLeastOne.width.toNat = max e.width.toNat 1
      ∧ e.atLeastOne.height.toNat = max e.height.toNat 1 := by
  unfold Extent.atLeastOne
  rw [UInt32.toNat_max, UInt32.toNat_max]
  exact ⟨rfl, rfl⟩

theorem one_le_atLeastOne (e : Extent) :
    1 ≤ e.atLeastOne.width.toNat ∧ 1 ≤ e.atLeastOne.height.toNat := by
  obtain ⟨hwidth, hheight⟩ := toNat_atLeastOne e
  omega

/-- The number of pixels that a buffer has room for, never none. -/
def room (maxBytes : UInt64) : Nat := max (maxBytes.toNat / 16) 1

theorem one_le_room (maxBytes : UInt64) : 1 ≤ room maxBytes := le_max_right _ _

theorem toNat_maxPixels (maxBytes : UInt64) :
    (max (maxBytes / pixelSize) 1).toNat = room maxBytes := by
  rw [UInt64.toNat_max, UInt64.toNat_div]
  rfl

/-! ## Scaled sides -/

/-- A scaled side is the exact one, up to five roundings, rounded down and raised to one. -/
theorem scaleSide_bounds {side : UInt32} {scale : Float} {t : ℝ} (hside : 1 ≤ side.toNat)
    (hin : InBinades scale (-33) 33) (ht : 0 < t) (hnear : Within 3 (doubleValue scale) t) :
    1 ≤ (scaleSide side scale).toNat
      ∧ ((scaleSide side scale).toNat : ℝ) ≤ max (side.toNat * t * slack ^ 5) 1
      ∧ ∀ k : Nat, k < 2 ^ 32 → k * slack ^ 5 ≤ side.toNat * t →
        k ≤ (scaleSide side scale).toNat := by
  have hlog : side.toNat.log2 < 32 := (Nat.log2_lt (by omega)).mpr side.toNat_lt
  obtain ⟨hsideIn, hsideNear⟩ := ofNat_within (n := side.toNat) (by omega) (by omega)
  change InBinades side.toFloat _ _ at hsideIn
  change Within 1 (doubleValue side.toFloat) _ at hsideNear
  obtain ⟨hproductIn, hproductNear⟩ := hsideIn.mul hin (by omega) (by omega)
  -- one rounding of the side, three of the scale, one of their product
  have hwithin : Within 5 (doubleValue (side.toFloat * scale)) (side.toNat * t) :=
    hproductNear.trans
      (hsideNear.mul hnear hsideIn.pos.le (Nat.cast_nonneg _) hin.pos.le ht.le)
  have htruncated : (scaleSide side scale).toNat
      = max (min ⌊doubleValue (side.toFloat * scale)⌋₊ (2 ^ 32 - 1)) 1 := by
    unfold scaleSide
    rw [UInt32.toNat_max, hproductIn.toNat_toUInt32]
    rfl
  have hpos : (0 : ℚ) ≤ doubleValue (side.toFloat * scale) := by exact_mod_cast hproductIn.pos.le
  rw [htruncated]
  refine ⟨le_max_right _ _, ?_, ?_⟩
  · rw [Nat.cast_max, Nat.cast_one]
    refine max_le_max_right 1 (le_trans ?_ hwithin.1)
    have hfloor := Nat.floor_le hpos
    have hmin : ((min ⌊doubleValue (side.toFloat * scale)⌋₊ (2 ^ 32 - 1) : Nat) : ℚ)
        ≤ doubleValue (side.toFloat * scale) :=
      le_trans (by exact_mod_cast min_le_left _ _) hfloor
    exact_mod_cast hmin
  · intro k hk hle
    have hpow := slack_pow_pos 5
    have hreal : (k : ℝ) ≤ doubleValue (side.toFloat * scale) :=
      le_of_mul_le_mul_right (hle.trans hwithin.2) hpow
    have hfloor : k ≤ ⌊doubleValue (side.toFloat * scale)⌋₊ :=
      Nat.le_floor (by exact_mod_cast hreal)
    exact (le_min hfloor (by omega)).trans (le_max_left _ _)

/-- `a` is below `b` by more than the roundings of two sides can add to it. -/
def WellBelow (a b : Nat) : Prop := (2 ^ 47 + 1) * a < 2 ^ 47 * b

instance (a b : Nat) : Decidable (WellBelow a b) :=
  inferInstanceAs (Decidable (_ < _))

/-- A side that reaches `m + 1` beside another is longer than that to begin with. -/
theorem lt_of_wellBelow {side other m : Nat} (hother : 1 ≤ other)
    (h : WellBelow ((m + 1) ^ 2 * other) (side * m)) : m + 1 < side := by
  unfold WellBelow at h
  have hsquare : (m + 1) ^ 2 ≤ (m + 1) ^ 2 * other := Nat.le_mul_of_pos_right _ hother
  have hlt : (m + 1) * (m + 1) < (m + 1) * side :=
    calc (m + 1) * (m + 1) = (m + 1) ^ 2 := by ring
      _ < side * m := by omega
      _ ≤ (m + 1) * side := by rw [mul_comm]; exact Nat.mul_le_mul_right side (Nat.le_succ m)
  exact lt_of_mul_lt_mul_left hlt (Nat.zero_le _)

/-- `n` is what a side is scaled to, beside another, when there is room for `m` pixels. -/
structure Scaled (n side other m : Nat) : Prop where
  pos : 1 ≤ n
  le : n = 1 ∨ ¬ WellBelow (side * m) (n ^ 2 * other)
  ge : ∀ k < 2 ^ 32, WellBelow (k ^ 2 * other) (side * m) → k ≤ n

theorem slack_pow_ten_le : (slack ^ 5) ^ 2 ≤ 1 + 1 / 2 ^ 47 := by
  unfold slack
  norm_num

theorem sq_side_mul_scale {side other m : Nat} (hside : 1 ≤ side) (hother : 1 ≤ other) :
    ((side : ℝ) * √(m / (side * other))) ^ 2 * other = side * m := by
  have hside' : (0 : ℝ) < side := by exact_mod_cast hside
  have hother' : (0 : ℝ) < other := by exact_mod_cast hother
  rw [mul_pow, Real.sq_sqrt (by positivity)]
  field_simp

theorem scaleSide_scaled {side : UInt32} {other m : Nat} {scale : Float} (hside : 1 ≤ side.toNat)
    (hother : 1 ≤ other) (hm : 1 ≤ m) (hin : InBinades scale (-33) 33)
    (hnear : Within 3 (doubleValue scale) √(m / (side.toNat * other))) :
    Scaled (scaleSide side scale).toNat side.toNat other m := by
  have hside' : (0 : ℝ) < side.toNat := by exact_mod_cast hside
  have hother' : (0 : ℝ) < other := by exact_mod_cast hother
  have hm' : (0 : ℝ) < m := by exact_mod_cast hm
  have hsquare := sq_side_mul_scale (m := m) hside hother
  obtain ⟨hpos, hle, hge⟩ :=
    scaleSide_bounds hside hin (Real.sqrt_pos.mpr (by positivity)) hnear
  generalize (scaleSide side scale).toNat = n at hpos hle hge ⊢
  -- only the square of the exact side matters from here on, and that is rational
  have hexact : 0 ≤ (side.toNat : ℝ) * √(m / (side.toNat * other)) := by positivity
  generalize (side.toNat : ℝ) * √(m / (side.toNat * other)) = exact at hsquare hle hge hexact
  have hslack := slack_pow_ten_le
  have hslackPos := slack_pow_pos 5
  generalize slack ^ 5 = error at hle hge hslack hslackPos
  refine ⟨hpos, ?_, ?_⟩
  · rcases le_max_iff.mp hle with hle | hle
    · right
      have hreal : (2 ^ 47 : ℝ) * (n ^ 2 * other) ≤ (2 ^ 47 + 1) * (side.toNat * m) :=
        calc (2 ^ 47 : ℝ) * (n ^ 2 * other)
            ≤ 2 ^ 47 * ((exact * error) ^ 2 * other) := by gcongr
          _ = 2 ^ 47 * error ^ 2 * (exact ^ 2 * other) := by ring
          _ ≤ 2 ^ 47 * (1 + 1 / 2 ^ 47) * (exact ^ 2 * other) := by gcongr
          _ = (2 ^ 47 + 1) * (side.toNat * m) := by rw [hsquare]; ring
      unfold WellBelow
      rw [not_lt]
      exact_mod_cast hreal
    · left
      have : n ≤ 1 := by exact_mod_cast hle
      omega
  · intro k hk hbelow
    have hreal : ((2 ^ 47 + 1 : ℝ)) * (k ^ 2 * other) < 2 ^ 47 * (side.toNat * m) := by
      exact_mod_cast hbelow
    refine hge k hk ?_
    rw [← pow_le_pow_iff_left₀ (by positivity) hexact two_ne_zero]
    refine le_of_mul_le_mul_right ?_ hother'
    calc (k * error : ℝ) ^ 2 * other = error ^ 2 * (k ^ 2 * other : ℝ) := by ring
      _ ≤ (1 + 1 / 2 ^ 47) * (k ^ 2 * other : ℝ) := by gcongr
      _ = (2 ^ 47 + 1) * (k ^ 2 * other : ℝ) / 2 ^ 47 := by ring
      _ ≤ 2 ^ 47 * (side.toNat * m : ℝ) / 2 ^ 47 := by gcongr
      _ = exact ^ 2 * other := by rw [hsquare]; ring

/-- The scale is the root of the share of the pixels that there is room for, up to three
roundings. -/
theorem scale_within {most area : UInt64} (hmost : 1 ≤ most.toNat) (harea : 1 ≤ area.toNat) :
    InBinades (most.toFloat / area.toFloat).sqrt (-33) 33
      ∧ Within 3 (doubleValue (most.toFloat / area.toFloat).sqrt) √(most.toNat / area.toNat) := by
  have hfloat : ∀ {n : UInt64}, 1 ≤ n.toNat →
      InBinades n.toFloat 0 64 ∧ Within 1 (doubleValue n.toFloat) n.toNat := by
    intro n hn
    have hlog : n.toNat.log2 < 64 := (Nat.log2_lt (by omega)).mpr n.toNat_lt
    obtain ⟨hin, hnear⟩ := ofNat_within (n := n.toNat) (by omega) (by omega)
    exact ⟨InBinades.mono hin (by omega) (by omega), hnear⟩
  obtain ⟨hmostIn, hmostNear⟩ := hfloat hmost
  obtain ⟨hareaIn, hareaNear⟩ := hfloat harea
  have hmost' : (0 : ℝ) < most.toNat := by exact_mod_cast hmost
  have harea' : (0 : ℝ) < area.toNat := by exact_mod_cast harea
  obtain ⟨hquotientIn, hquotientNear⟩ := hmostIn.div hareaIn (by omega) (by omega)
  obtain ⟨hrootIn, hrootNear⟩ := hquotientIn.sqrt (by omega) (by omega)
  have hshare : Within 3 (doubleValue (most.toFloat / area.toFloat)) (most.toNat / area.toNat) :=
    hquotientNear.trans (hmostNear.div hareaNear hmostIn.pos.le hmost'.le hareaIn.pos harea')
  have hshare' : Within (2 * 2) (doubleValue (most.toFloat / area.toFloat))
      (most.toNat / area.toNat) :=
    hshare.mono hquotientIn.pos.le (by positivity) (by decide)
  exact ⟨hrootIn.mono (by omega) (by omega), hrootNear.trans hshare'.sqrt⟩

/-- A resolution is that of the surface, or each side is scaled. -/
theorem fitResolution_cases (surface : Extent) (maxBytes : UInt64) :
    (surface.atLeastOne.area.toNat ≤ room maxBytes
        ∧ fitResolution surface maxBytes = surface.atLeastOne)
      ∨ (room maxBytes < surface.atLeastOne.area.toNat
        ∧ Scaled (fitResolution surface maxBytes).width.toNat surface.atLeastOne.width.toNat
            surface.atLeastOne.height.toNat (room maxBytes)
        ∧ Scaled (fitResolution surface maxBytes).height.toNat surface.atLeastOne.height.toNat
            surface.atLeastOne.width.toNat (room maxBytes)) := by
  obtain ⟨hwidth, hheight⟩ := one_le_atLeastOne surface
  have harea := toNat_area surface.atLeastOne
  have hmost := toNat_maxPixels maxBytes
  have hroom := one_le_room maxBytes
  unfold fitResolution
  dsimp only
  generalize surface.atLeastOne = full at hwidth hheight harea ⊢
  generalize max (maxBytes / pixelSize) 1 = most at hmost ⊢
  by_cases hfits : full.area ≤ most
  · left
    rw [if_pos hfits, ← hmost]
    exact ⟨UInt64.le_iff_toNat_le.mp hfits, rfl⟩
  · right
    have hlt := UInt64.lt_iff_toNat_lt.mp (UInt64.not_le.mp hfits)
    rw [hmost] at hlt
    obtain ⟨hin, hnear⟩ := @scale_within most full.area (by omega) (by omega)
    rw [if_neg hfits]
    rw [hmost, harea, Nat.cast_mul] at hnear
    refine ⟨hlt, scaleSide_scaled hwidth hheight hroom hin hnear, ?_⟩
    rw [mul_comm] at hnear
    exact scaleSide_scaled hheight hwidth hroom hin hnear

/-! ## Pixels -/

namespace Scaled

variable {n n' side other m : Nat}

/-- Scaling down, a side is not raised by rounding: it would have to be raised by a whole pixel. -/
theorem le_side (h : Scaled n side other m) (hside : 1 ≤ side) (hlt : side < 2 ^ 32)
    (hm : m < side * other) : n ≤ side := by
  rcases h.le with rfl | hle
  · exact hside
  · by_contra hgt
    unfold WellBelow at hle
    have hstep : (side + 1) ^ 2 * other ≤ n ^ 2 * other :=
      Nat.mul_le_mul_right other (Nat.pow_le_pow_left (by omega) 2)
    have hother : 0 < other := by
      by_contra hzero
      obtain rfl : other = 0 := by omega
      omega
    have hscaled : 2 ^ 47 * (side + 1) ^ 2 * other < (2 ^ 47 + 1) * side ^ 2 * other :=
      calc 2 ^ 47 * (side + 1) ^ 2 * other ≤ 2 ^ 47 * (n ^ 2 * other) := by
            rw [mul_assoc]
            exact Nat.mul_le_mul_left _ hstep
        _ ≤ (2 ^ 47 + 1) * (side * m) := by omega
        _ < (2 ^ 47 + 1) * (side * (side * other)) :=
            Nat.mul_lt_mul_of_pos_left (Nat.mul_lt_mul_of_pos_left hm (by omega)) (by norm_num)
        _ = (2 ^ 47 + 1) * side ^ 2 * other := by ring
    have hsides := lt_of_mul_lt_mul_right hscaled (Nat.zero_le other)
    have hsquare : side ^ 2 ≤ 2 ^ 32 * side := by
      rw [pow_two]
      exact Nat.mul_le_mul_right side hlt.le
    nlinarith

/-- Two scaled sides share out the pixels that there is room for, unless one was raised to one. -/
theorem not_wellBelow_mul (h : Scaled n side other m) (h' : Scaled n' other side m)
    (hside : 1 ≤ side) (hother : 1 ≤ other) : n = 1 ∨ n' = 1 ∨ ¬ WellBelow m (n * n') := by
  rcases h.le with hone | hle
  · exact .inl hone
  rcases h'.le with hone | hle'
  · exact .inr (.inl hone)
  unfold WellBelow at hle hle' ⊢
  rw [not_lt] at hle hle'
  refine .inr (.inr ?_)
  -- the product of the two bounds, where the shape of the surface cancels
  rw [not_lt, ← Nat.pow_le_pow_iff_left two_ne_zero]
  refine Nat.le_of_mul_le_mul_right ?_ (Nat.mul_pos hside hother)
  calc (2 ^ 47 * (n * n')) ^ 2 * (side * other)
      = 2 ^ 47 * (n ^ 2 * other) * (2 ^ 47 * (n' ^ 2 * side)) := by ring
    _ ≤ (2 ^ 47 + 1) * (side * m) * ((2 ^ 47 + 1) * (other * m)) := Nat.mul_le_mul hle hle'
    _ = ((2 ^ 47 + 1) * m) ^ 2 * (side * other) := by ring

/-- A side that is not too long for the other one has room even when that one is a single pixel. -/
theorem le_room (h : Scaled n side other m) (hm : 1 ≤ m)
    (hside : WellBelow (side * m) ((m + 1) ^ 2 * other)) : n ≤ m := by
  rcases h.le with rfl | hle
  · exact hm
  · unfold WellBelow at hle hside
    have hlt : n ^ 2 * other < (m + 1) ^ 2 * other := by omega
    have hpow := lt_of_mul_lt_mul_right hlt (Nat.zero_le other)
    have := lt_of_pow_lt_pow_left₀ 2 (Nat.zero_le _) hpow
    omega

theorem room_lt (h : Scaled n side other m) (hlt : side < 2 ^ 32) (hother : 1 ≤ other)
    (hside : WellBelow ((m + 1) ^ 2 * other) (side * m)) : m < n :=
  h.ge (m + 1) ((lt_of_wellBelow hother hside).trans hlt) hside

end Scaled

/-! ## Budgets -/

/-- Neither side alone is scaled to more pixels than there is room for. -/
def InProportion (e : Extent) (m : Nat) : Prop :=
  WellBelow (e.width.toNat * m) ((m + 1) ^ 2 * e.height.toNat)
    ∧ WellBelow (e.height.toNat * m) ((m + 1) ^ 2 * e.width.toNat)

/-- One of the sides alone is scaled to more pixels than there is room for. -/
def Elongated (e : Extent) (m : Nat) : Prop :=
  WellBelow ((m + 1) ^ 2 * e.height.toNat) (e.width.toNat * m)
    ∨ WellBelow ((m + 1) ^ 2 * e.width.toNat) (e.height.toNat * m)

instance (e : Extent) (m : Nat) : Decidable (InProportion e m) :=
  inferInstanceAs (Decidable (_ ∧ _))

instance (e : Extent) (m : Nat) : Decidable (Elongated e m) :=
  inferInstanceAs (Decidable (_ ∨ _))

/-- What a resolution keeps of the surface and of the budget, and where it does not. -/
structure ScalesToBudget (surface : Extent) (maxBytes : UInt64) (traced : Extent) : Prop where
  width : 1 ≤ traced.width.toNat ∧ traced.width.toNat ≤ max surface.width.toNat 1
  height : 1 ≤ traced.height.toNat ∧ traced.height.toNat ≤ max surface.height.toNat 1
  /-- A surface that fits is traced as it is. -/
  whole : 16 * (max surface.width.toNat 1 * max surface.height.toNat 1) ≤ maxBytes.toNat →
    traced = ⟨max surface.width 1, max surface.height 1⟩
  /-- If neither side is too long, there is room for the pixels, up to the roundings. -/
  near : InProportion surface.atLeastOne (maxBytes.toNat / 16) →
    ¬ WellBelow (maxBytes.toNat / 16) (traced.width.toNat * traced.height.toNat)
  /-- For budgets that roundings cannot be seen in, the pixels then fit. -/
  fits : InProportion surface.atLeastOne (maxBytes.toNat / 16) → maxBytes.toNat < 2 ^ 51 →
    16 * (traced.width.toNat * traced.height.toNat) ≤ maxBytes.toNat
  /-- If a side is too long, the pixels never fit. -/
  overruns : Elongated surface.atLeastOne (maxBytes.toNat / 16) →
    maxBytes.toNat < 16 * (traced.width.toNat * traced.height.toNat)

theorem room_eq {maxBytes : UInt64} (h : 16 ≤ maxBytes.toNat) :
    room maxBytes = maxBytes.toNat / 16 := by
  unfold room
  omega

/-- A whole number of pixels is exceeded only if it is exceeded by more than the roundings. -/
theorem le_of_not_wellBelow {m n : Nat} (hm : m < 2 ^ 47) (h : ¬ WellBelow m n) : n ≤ m := by
  unfold WellBelow at h
  omega

theorem not_wellBelow_of_le {m n : Nat} (h : n ≤ m) : ¬ WellBelow m n := by
  unfold WellBelow
  omega

theorem fitResolution_sides (surface : Extent) (maxBytes : UInt64) :
    (1 ≤ (fitResolution surface maxBytes).width.toNat
        ∧ (fitResolution surface maxBytes).width.toNat ≤ surface.atLeastOne.width.toNat)
      ∧ 1 ≤ (fitResolution surface maxBytes).height.toNat
        ∧ (fitResolution surface maxBytes).height.toNat ≤ surface.atLeastOne.height.toNat := by
  obtain ⟨hwidth, hheight⟩ := one_le_atLeastOne surface
  have harea := toNat_area surface.atLeastOne
  rcases fitResolution_cases surface maxBytes with ⟨-, heq⟩ | ⟨hlt, hscaled, hscaled'⟩
  · rw [heq]
    exact ⟨⟨hwidth, le_rfl⟩, hheight, le_rfl⟩
  · rw [harea] at hlt
    refine ⟨⟨hscaled.pos, hscaled.le_side hwidth surface.atLeastOne.width.toNat_lt hlt⟩,
      hscaled'.pos, hscaled'.le_side hheight surface.atLeastOne.height.toNat_lt ?_⟩
    rwa [mul_comm]

/-- There is room for the pixels, up to the roundings, unless a side is too long. -/
theorem fitResolution_near {surface : Extent} {maxBytes : UInt64}
    (h : InProportion surface.atLeastOne (room maxBytes)) :
    ¬ WellBelow (room maxBytes) ((fitResolution surface maxBytes).width.toNat
      * (fitResolution surface maxBytes).height.toNat) := by
  obtain ⟨hwidth, hheight⟩ := h
  have hroom := one_le_room maxBytes
  rcases fitResolution_cases surface maxBytes with ⟨hle, heq⟩ | ⟨-, hscaled, hscaled'⟩
  · rw [heq, ← toNat_area]
    exact not_wellBelow_of_le hle
  · obtain ⟨hone, hone'⟩ := one_le_atLeastOne surface
    -- beside a side of one pixel, what counts is the length of the other
    rcases hscaled.not_wellBelow_mul hscaled' hone hone' with heq | heq | hnear
    · rw [heq, one_mul]
      exact not_wellBelow_of_le (hscaled'.le_room hroom hheight)
    · rw [heq, mul_one]
      exact not_wellBelow_of_le (hscaled.le_room hroom hwidth)
    · exact hnear

theorem Elongated.lt_area {e : Extent} {m : Nat} (h : Elongated e m) (hwidth : 1 ≤ e.width.toNat)
    (hheight : 1 ≤ e.height.toNat) : m < e.area.toNat := by
  have hlt : ∀ {side other : Nat}, 1 ≤ other → WellBelow ((m + 1) ^ 2 * other) (side * m) →
      m < side * other := by
    intro side other hother h
    have := (lt_of_wellBelow hother h).trans_le (Nat.le_mul_of_pos_right side hother)
    omega
  rw [toNat_area]
  rcases h with h | h
  · exact hlt hheight h
  · rw [mul_comm]
    exact hlt hwidth h

/-- A side that is too long takes up more than the room by itself. -/
theorem fitResolution_overruns {surface : Extent} {maxBytes : UInt64}
    (h : Elongated surface.atLeastOne (room maxBytes)) :
    room maxBytes < (fitResolution surface maxBytes).width.toNat
      * (fitResolution surface maxBytes).height.toNat := by
  obtain ⟨hwidth, hheight⟩ := one_le_atLeastOne surface
  rcases fitResolution_cases surface maxBytes with ⟨hle, -⟩ | ⟨-, hscaled, hscaled'⟩
  · exact absurd hle (not_le.mpr (h.lt_area hwidth hheight))
  · rcases h with h | h
    · have := hscaled.room_lt surface.atLeastOne.width.toNat_lt hheight h
      exact this.trans_le (Nat.le_mul_of_pos_right _ hscaled'.pos)
    · have := hscaled'.room_lt surface.atLeastOne.height.toNat_lt hwidth h
      exact this.trans_le (Nat.le_mul_of_pos_left _ hscaled.pos)

/--
**A resolution keeps to the surface always, and to the budget unless a side is too long.** For such
a surface the shorter side is raised to a pixel, and the longer one alone is over the budget.
-/
theorem fitResolution_scalesToBudget (surface : Extent) (maxBytes : UInt64)
    (h : 16 ≤ maxBytes.toNat) :
    ScalesToBudget surface maxBytes (fitResolution surface maxBytes) := by
  obtain ⟨hwidth, hheight⟩ := toNat_atLeastOne surface
  obtain ⟨hsides, hsides'⟩ := fitResolution_sides surface maxBytes
  have hnear := @fitResolution_near surface maxBytes
  have hoverruns := @fitResolution_overruns surface maxBytes
  rw [room_eq h] at hnear hoverruns
  refine ⟨?width, ?height, ?whole, hnear, ?fits, ?overruns⟩
  case width => rwa [← hwidth]
  case height => rwa [← hheight]
  case whole =>
    intro hfits
    rw [← hwidth, ← hheight, ← toNat_area] at hfits
    rcases fitResolution_cases surface maxBytes with ⟨-, heq⟩ | ⟨hlt, -⟩
    · exact heq
    · rw [room_eq h] at hlt
      omega
  case fits =>
    intro hshape hsmall
    have := le_of_not_wellBelow (by omega) (hnear hshape)
    omega
  case overruns =>
    intro hshape
    have := hoverruns hshape
    omega

/-- A screen of the usual shape fits; a row of a thousand pixels does not. -/
theorem fitResolution_screenAndRow :
    16 ≤ (16000000 : UInt64).toNat
      ∧ 16 * ((fitResolution ⟨3840, 2160⟩ 16000000).width.toNat
          * (fitResolution ⟨3840, 2160⟩ 16000000).height.toNat) ≤ (16000000 : UInt64).toNat
      ∧ 16 ≤ (16 : UInt64).toNat
      ∧ (16 : UInt64).toNat < 16 * ((fitResolution ⟨1000, 1⟩ 16).width.toNat
          * (fitResolution ⟨1000, 1⟩ 16).height.toNat) :=
  ⟨by decide, (fitResolution_scalesToBudget ⟨3840, 2160⟩ 16000000 (by decide)).fits (by decide)
      (by decide),
    by decide, (fitResolution_scalesToBudget ⟨1000, 1⟩ 16 (by decide)).overruns (by decide)⟩

/--
The budget is overrun in two ways. A row of a thousand pixels is scaled to one of thirty-one where
there is room for one pixel; and where there is room for one pixel less than `2 ^ 60`, the sides of
a square, which are scaled to just below `2 ^ 30`, are rounded up to it.
-/
theorem fitResolution_overBudget :
    (16 ≤ (16 : UInt64).toNat ∧ fitResolution ⟨1000, 1⟩ 16 = ⟨31, 1⟩
        ∧ ¬ 16 * 31 * 1 ≤ (16 : UInt64).toNat)
      ∧ 16 ≤ (18446744073709551615 : UInt64).toNat
        ∧ fitResolution ⟨4294967295, 4294967295⟩ 18446744073709551615 = ⟨1073741824, 1073741824⟩
        ∧ ¬ 16 * 1073741824 * 1073741824 ≤ (18446744073709551615 : UInt64).toNat := by
  decide +kernel

/-! ## Sizes of the pixel buffer -/

/-- **The bytes of the pixels of a trace resolution can be counted in 64 bits.** -/
theorem area_fitResolution_lt (surface : Extent) (limit : UInt32) :
    (fitResolution surface limit.toUInt64).area.toNat < 2 ^ 60 := by
  have hlimit := limit.toNat_lt
  have hroom : room limit.toUInt64 < 2 ^ 28 := by
    unfold room
    rw [UInt32.toNat_toUInt64]
    omega
  rcases fitResolution_cases surface limit.toUInt64 with ⟨hle, heq⟩ | ⟨-, hscaled, hscaled'⟩
  · rw [heq]
    omega
  · obtain ⟨hwidth, hheight⟩ := one_le_atLeastOne surface
    have hw := (fitResolution surface limit.toUInt64).width.toNat_lt
    have hh := (fitResolution surface limit.toUInt64).height.toNat_lt
    rw [toNat_area]
    rcases hscaled.not_wellBelow_mul hscaled' hwidth hheight with heq | heq | hnear
    -- a single row or column is never too large
    · rw [heq]
      omega
    · rw [heq]
      omega
    · have := le_of_not_wellBelow (by omega) hnear
      omega

theorem toNat_pixelBytes (surface : Extent) (limit : UInt32) :
    ((fitResolution surface limit.toUInt64).area * pixelSize).toNat
      = 16 * (fitResolution surface limit.toUInt64).width.toNat
        * (fitResolution surface limit.toUInt64).height.toNat := by
  have hlt := area_fitResolution_lt surface limit
  rw [UInt64.toNat_mul]
  show _ * 16 % 2 ^ 64 = _
  rw [Nat.mod_eq_of_lt (by omega), toNat_area]
  ring

end Facet.Trace
