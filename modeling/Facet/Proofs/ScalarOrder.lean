import Facet.Proofs.SpecialValues

/-!
# The order of scalars

Infinities take part in the order: a scalar other than NaN is compared as its place on the extended
line (`place`). That makes the order transitive. On magnitudes, which leave out the second zero, it
is antisymmetric as well.
-/

namespace Facet.Scalar

open Float.Model Float.Model.UnpackedFloat

/-! ## Places on the line -/

/-- Where a float stands on the extended line; NaN is nowhere and counts as zero. -/
noncomputable def unpackedPlace : UnpackedFloat → EReal
  | .infinity .positive => ⊤
  | .infinity .negative => ⊥
  | u => ((unpackedValue u : ℝ) : EReal)

/-- Where a scalar stands. -/
noncomputable def place (x : Float32) : EReal := unpackedPlace x.toModel.unpack

theorem Stored.place_eq {u : UnpackedFloat} (h : Stored u) :
    unpackedPlace u = ((unpackedValue u : ℝ) : EReal) := by
  cases h <;> rfl

variable {x y z : Float32}

/-- **Scalars compare as their places.** -/
theorem lt_iff_place (hx : x.isNaN = false) (hy : y.isNaN = false) :
    x < y ↔ place x < place y := by
  -- finite scalars compare as numbers; the signs decide where an infinity takes part
  rcases isFinite_or_isInf hx with hx | hx
  · have hu := stored_unpack hx
    rcases isFinite_or_isInf hy with hy | hy
    · rw [lt_iff hx hy, place, place, hu.place_eq, (stored_unpack hy).place_eq,
        EReal.coe_lt_coe_iff, Rat.cast_lt]
      rfl
    · obtain ⟨s, hs⟩ := unpack_of_isInf hy
      rw [lt_iff_compare, place, place, hu.place_eq, hs]
      generalize x.toModel.unpack = u at *
      cases s <;> cases hu <;> simp [UnpackedFloat.compare, unpackedPlace]
  · obtain ⟨s, hs⟩ := unpack_of_isInf hx
    rw [lt_iff_compare, place, place, hs]
    rcases isFinite_or_isInf hy with hy | hy
    · have hv := stored_unpack hy
      rw [hv.place_eq]
      generalize y.toModel.unpack = v at *
      cases s <;> cases hv <;> simp [UnpackedFloat.compare, unpackedPlace]
    · obtain ⟨s', hs'⟩ := unpack_of_isInf hy
      have hsigns : compare Sign.negative Sign.positive = .lt := rfl
      rw [hs']
      cases s <;> cases s' <;> simp [UnpackedFloat.compare, unpackedPlace, hsigns]

theorem le_iff_place (hx : x.isNaN = false) (hy : y.isNaN = false) :
    x ≤ y ↔ place x ≤ place y := by
  rw [← not_lt, ← lt_iff_place hy hx]
  exact ⟨not_lt_of_le, le_of_not_lt hy hx⟩

theorem le_trans (h : x ≤ y) (h' : y ≤ z) : x ≤ z := by
  obtain ⟨hx, hy⟩ := not_nan_of_le h
  obtain ⟨-, hz⟩ := not_nan_of_le h'
  rw [le_iff_place hx hy] at h
  rw [le_iff_place hy hz] at h'
  exact (le_iff_place hx hz).mpr (h.trans h')

theorem lt_of_lt_of_le (h : x < y) (h' : y ≤ z) : x < z := by
  obtain ⟨hx, hy⟩ := not_nan_of_le (le_of_lt h)
  obtain ⟨-, hz⟩ := not_nan_of_le h'
  rw [lt_iff_place hx hy] at h
  rw [le_iff_place hy hz] at h'
  exact (lt_iff_place hx hz).mpr (h.trans_le h')

/-! ## Magnitudes -/

theorem isNaN_abs : x.abs.isNaN = x.isNaN := by
  change (Float32.Model.pack x.toModel.unpack.abs).unpack.isNaN = x.toModel.unpack.isNaN
  rw [isNaN_unpack_pack]
  cases x.toModel.unpack <;> rfl

theorem positive_abs (h : x.isNaN = false) : Positive x.abs.toModel.unpack := by
  refine Positive.pack (u := x.toModel.unpack.abs) ?_
  change x.toModel.unpack.isNaN = false at h
  generalize x.toModel.unpack = u at *
  cases u with
  | notANumber => exact absurd h Bool.noConfusion
  | infinity s => exact .infinity
  | zero s => exact .zero
  | finite s m e hm => exact .finite hm

theorem abs_ne_neg_zero (h : x.isNaN = false) : x.abs ≠ -0 := by
  intro hzero
  have hpositive := positive_iff.mp (positive_abs h)
  have hnegative : unpackedSign (-0 : Float32).toModel.unpack = some .negative := rfl
  rw [hzero, hnegative] at hpositive
  exact absurd (Option.some.inj hpositive) Sign.noConfusion

/-- Magnitudes that compare equal are the same scalar. -/
theorem abs_eq_of_le_of_le (h : x.abs ≤ y.abs) (h' : y.abs ≤ x.abs) : x.abs = y.abs := by
  obtain ⟨hx, hy⟩ := not_nan_of_le h
  rw [isNaN_abs] at hx hy
  have hcompare : (x.abs == y.abs) = true := by
    show (UnpackedFloat.compare x.abs.toModel.unpack y.abs.toModel.unpack == some .eq) = true
    rw [le_iff_compare] at h
    rw [h.resolve_left fun hlt => not_lt_of_le h' (lt_iff_compare.mpr hlt)]
    rfl
  obtain ⟨-, -, heq | ⟨-, hzero⟩ | ⟨hzero, -⟩⟩ := Float32.beq_iff_ne_nan_and_eq.mp hcompare
  · exact heq
  · exact absurd hzero (abs_ne_neg_zero hy)
  · exact absurd hzero (abs_ne_neg_zero hx)

theorem zero_le_abs (h : x.isNaN = false) : 0 ≤ x.abs := by
  rw [le_iff_compare]
  show UnpackedFloat.compare (.zero .positive) _ = _ ∨ UnpackedFloat.compare (.zero .positive) _ = _
  have hpositive := positive_abs h
  generalize x.abs.toModel.unpack = u at *
  cases hpositive with
  | infinity => exact .inl rfl
  | zero => exact .inr rfl
  | finite hm => exact .inl rfl

/-- A magnitude that is not positive is the zero, and not the other one. -/
theorem abs_eq_zero_of_not_lt (hx : x.isNaN = false) (h : ¬0 < x.abs) : x.abs = 0 := by
  have hdefined : x.abs.isNaN = false := isNaN_abs.trans hx
  have hle : x.abs ≤ (0 : Float32).abs := le_of_not_lt (isNaN_eq_false isFinite_zero) hdefined h
  exact abs_eq_of_le_of_le hle (zero_le_abs hx)

end Facet.Scalar
