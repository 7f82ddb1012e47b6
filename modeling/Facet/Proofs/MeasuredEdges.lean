import Facet.Proofs.WorstDeviation

/-!
# Which edges the normal check measures

An edge is measured if the vector between its corners, as computed, can be scaled to length one.
That leaves out more than the edges without a length: those with an undefined end, and those whose
squares vanish or overflow. A normal that is not finite shows along every edge that is measured. A
corner that is not finite shows along none, because both of its edges are left out, so such a record
is judged by the opposite edge alone.
-/

namespace Facet

open Scalar (value ulp tiny ulp_nonneg tiny_nonneg)

/-! ## Undefined operands -/

namespace Scalar

open Float.Model Float.Model.UnpackedFloat

variable {x y : Float32}

theorem isNaN_add (h : x.isNaN = true ∨ y.isNaN = true) : (x + y).isNaN = true := by
  change (Float32.Model.pack (UnpackedFloat.add _ x.toModel.unpack y.toModel.unpack)).unpack.isNaN
    = true
  rw [isNaN_unpack_pack]
  change x.toModel.unpack.isNaN = true ∨ y.toModel.unpack.isNaN = true at h
  generalize x.toModel.unpack = u at *
  generalize y.toModel.unpack = v at *
  cases u with
  | notANumber => rfl
  | _ =>
      cases v with
      | notANumber => rfl
      | _ => exact absurd h (by simp [UnpackedFloat.isNaN])

theorem isNaN_mul (h : x.isNaN = true) : (x * y).isNaN = true := by
  change (Float32.Model.pack (UnpackedFloat.mul _ x.toModel.unpack y.toModel.unpack)).unpack.isNaN
    = true
  rw [isNaN_unpack_pack]
  change x.toModel.unpack.isNaN = true at h
  generalize x.toModel.unpack = u at *
  cases u with
  | notANumber => rfl
  | _ => exact absurd h Bool.false_ne_true

/-- A magnitude that is not finite exceeds every finite tolerance. -/
theorem exceeds_abs (hx : x.isFinite = false) (hy : y.isFinite = true) :
    x.abs.isNaN = true ∨ y < x.abs := by
  rcases hnan : x.isNaN with - | -
  · right
    obtain ⟨s, hs⟩ := unpack_of_isInf ((isFinite_or_isInf hnan).resolve_left (by simp [hx]))
    have habs : x.abs.toModel.unpack = .infinity .positive := by
      change (Float32.Model.pack x.toModel.unpack.abs).unpack = _
      rw [hs]
      cases s <;> rfl
    have hstored := stored_unpack hy
    rw [lt_iff_compare, habs]
    generalize y.toModel.unpack = v at *
    cases hstored <;> rfl
  · left
    rw [isNaN_abs, hnan]

end Scalar

namespace Vec3

variable {a b n u : Vec3}

theorem isFinite_of_sub (h : (a - b).IsFinite) : a.IsFinite ∧ b.IsFinite := by
  obtain ⟨hax, hbx⟩ := Scalar.isFinite_of_sub h.x
  obtain ⟨hay, hby⟩ := Scalar.isFinite_of_sub h.y
  obtain ⟨haz, hbz⟩ := Scalar.isFinite_of_sub h.z
  exact ⟨⟨hax, hay, haz⟩, ⟨hbx, hby, hbz⟩⟩

/-- **A vector that is not finite shows in every product.** -/
theorem isFinite_dot_eq_false (h : ¬n.IsFinite) : (n.dot u).isFinite = false := by
  by_contra hfinite
  rw [Bool.not_eq_false] at hfinite
  obtain ⟨hxy, hz⟩ := Scalar.isFinite_of_add hfinite
  obtain ⟨hx, hy⟩ := Scalar.isFinite_of_add hxy
  exact h ⟨(Scalar.isFinite_of_mul hx).1, (Scalar.isFinite_of_mul hy).1,
    (Scalar.isFinite_of_mul hz).1⟩

theorem isNaN_dot (h : ¬n.Defined) : (n.dot u).isNaN = true := by
  by_cases hx : n.x.isNaN = true
  · exact Scalar.isNaN_add (.inl (Scalar.isNaN_add (.inl (Scalar.isNaN_mul hx))))
  · by_cases hy : n.y.isNaN = true
    · exact Scalar.isNaN_add (.inl (Scalar.isNaN_add (.inr (Scalar.isNaN_mul hy))))
    · by_cases hz : n.z.isNaN = true
      · exact Scalar.isNaN_add (.inr (Scalar.isNaN_mul hz))
      · simp only [Bool.not_eq_true] at hx hy hz
        exact absurd ⟨hx, hy, hz⟩ h

/-! ## Vectors with a direction -/

/-- **A vector has a direction if its length, as computed, is finite and positive.** -/
theorem normalized?_isSome_iff :
    a.normalized?.isSome = true ↔ a.length.isFinite = true ∧ 0 < a.length := by
  rw [Option.isSome_iff_exists]
  constructor
  · rintro ⟨n, hn⟩
    obtain ⟨hr, hrpos, -⟩ := normalized?_eq_some.mp hn
    obtain ⟨hlength, hpos⟩ := Scalar.of_reciprocal hr hrpos
    exact ⟨hlength, (Scalar.zero_lt_iff hlength).mpr hpos⟩
  · rintro ⟨hlength, hpos⟩
    obtain ⟨-, hlo, hhi, -⟩ := coordinates_le_length hlength ((Scalar.zero_lt_iff hlength).mp hpos)
    obtain ⟨hr, hrpos⟩ := Scalar.reciprocal_pos hlength hlo hhi
    exact ⟨_, normalized?_eq_some.mpr ⟨hr, hrpos, rfl⟩⟩

theorem isFinite_of_dot_self (h : (a.dot a).isFinite = true) : a.IsFinite := by
  by_contra hnot
  rw [isFinite_dot_eq_false hnot] at h
  exact absurd h Bool.false_ne_true

/-- So it has one if the sum of its squares is finite and does not vanish. -/
theorem normalized?_isSome_iff_dot :
    a.normalized?.isSome = true ↔ (a.dot a).isFinite = true ∧ 0 < value (a.dot a) := by
  rw [normalized?_isSome_iff]
  constructor
  · rintro ⟨hlength, hpos⟩
    have hdot : (a.dot a).isFinite = true := Scalar.isFinite_of_sqrt hlength
    have hnonneg := Scalar.value_nonneg (positive_dot_self (isFinite_of_dot_self hdot).defined)
    refine ⟨hdot, lt_of_le_of_ne hnonneg fun hzero => ?_⟩
    have hroot := (Scalar.sqrt_near hdot hnonneg).2
    have hlength₀ : (0 : ℝ) < value a.length := by
      exact_mod_cast (Scalar.zero_lt_iff hlength).mp hpos
    change |(value a.length : ℝ) - √(value (a.dot a))| ≤ _ at hroot
    rw [← hzero, Rat.cast_zero, Real.sqrt_zero, mul_zero, sub_zero, abs_of_pos hlength₀] at hroot
    linarith
  · rintro ⟨hdot, hpos⟩
    obtain ⟨hlength, hroot⟩ := Scalar.sqrt_near hdot hpos.le
    refine ⟨hlength, (Scalar.zero_lt_iff hlength).mpr ?_⟩
    have hpos' : (0 : ℝ) < √(value (a.dot a)) := Real.sqrt_pos.mpr (by exact_mod_cast hpos)
    have hge := (abs_le.mp hroot).1
    have hlength₀ : (0 : ℝ) < value (a.dot a).sqrt := by
      unfold ulp at hge
      linarith
    exact_mod_cast hlength₀

/-! ## Sums of squares -/

theorem square_near {x : Float32} (h : (x * x).isFinite = true) :
    |(value (x * x) : ℝ) - (value x : ℝ) ^ 2| ≤ ulp * (value x : ℝ) ^ 2 + tiny := by
  obtain ⟨hx, -⟩ := Scalar.isFinite_of_mul h
  have hnear := (Scalar.mul_rounds hx hx).near h
  rw [← sq, abs_of_nonneg (sq_nonneg (value x : ℝ))] at hnear
  exact hnear.trans
    (max_le_add_of_nonneg (mul_nonneg ulp_nonneg (sq_nonneg _)) tiny_nonneg)

theorem lengthSq_exact (a : Vec3) : a.exact.real.lengthSq
    = (value a.x : ℝ) ^ 2 + (value a.y : ℝ) ^ 2 + (value a.z : ℝ) ^ 2 := by
  simp only [Offset.lengthSq, Offset.dot, Offset.real, exact]
  ring

/-- A sum of squares that does not overflow is close to the exact one. -/
theorem dot_self_near (h : (a.dot a).isFinite = true) :
    |(value (a.dot a) : ℝ) - a.exact.real.lengthSq|
      ≤ 4 * ulp * a.exact.real.lengthSq + 5 * tiny := by
  -- no step overflowed, so each is off by a unit in the last place of what came before
  obtain ⟨hxy, hz⟩ := Scalar.isFinite_of_add h
  obtain ⟨hx, hy⟩ := Scalar.isFinite_of_add hxy
  have hxy' := Scalar.sum_near_of_finite hxy hx hy (square_near hx) (square_near hy)
  have hnear := Scalar.sum_near_of_finite h hxy hz hxy' (square_near hz)
  change |(value (a.dot a) : ℝ) - _| ≤ _ at hnear
  have hx₀ := sq_nonneg (value a.x : ℝ)
  have hy₀ := sq_nonneg (value a.y : ℝ)
  have hz₀ := sq_nonneg (value a.z : ℝ)
  rw [lengthSq_exact]
  refine hnear.trans ?_
  rw [abs_of_nonneg hx₀, abs_of_nonneg hy₀, abs_of_nonneg hz₀, abs_of_nonneg (add_nonneg hx₀ hy₀)]
  unfold ulp tiny
  linarith

/-- **Squares do not overflow** if their exact sum is below the range by a part in a million. -/
theorem isFinite_dot_self (ha : a.IsFinite)
    (hmax : a.exact.real.lengthSq ≤ (1 - 1 / 2 ^ 20) * 2 ^ 128) : (a.dot a).isFinite = true := by
  rw [lengthSq_exact] at hmax
  have hx₀ := sq_nonneg (value a.x : ℝ)
  have hy₀ := sq_nonneg (value a.y : ℝ)
  have hz₀ := sq_nonneg (value a.z : ℝ)
  have hsquare : ∀ {x : Float32}, x.isFinite = true →
      (value x : ℝ) ^ 2 ≤ (1 - 1 / 2 ^ 20) * 2 ^ 128 → (x * x).isFinite = true := by
    intro x hx hle
    refine (Scalar.mul_rounds hx hx).finite ?_
    rw [← sq, abs_of_nonneg (sq_nonneg (value x : ℝ))]
    unfold Scalar.overflow
    linarith
  have hx := hsquare ha.x (by linarith)
  have hy := hsquare ha.y (by linarith)
  have hz := hsquare ha.z (by linarith)
  have hx' := square_near hx
  have hy' := square_near hy
  have hz' := square_near hz
  have hxy : (a.x * a.x + a.y * a.y).isFinite = true := by
    refine (Scalar.add_rounds hx hy).finite ((Scalar.abs_add_value_le hx' hy').trans_lt ?_)
    rw [abs_of_nonneg hx₀, abs_of_nonneg hy₀]
    unfold Scalar.overflow ulp tiny
    linarith
  have hxy' := Scalar.sum_near_of_finite hxy hx hy hx' hy'
  refine (Scalar.add_rounds hxy hz).finite ((Scalar.abs_add_value_le hxy' hz').trans_lt ?_)
  rw [abs_of_nonneg hx₀, abs_of_nonneg hy₀, abs_of_nonneg hz₀, abs_of_nonneg (add_nonneg hx₀ hy₀)]
  unfold Scalar.overflow ulp tiny
  linarith

/-- Squares below half of the least scalar add up to nothing. -/
theorem dot_self_vanishes (ha : a.IsFinite) (h : a.exact.real.lengthSq < tiny / 2) :
    value (a.dot a) = 0 := by
  rw [lengthSq_exact] at h
  have hx₀ := sq_nonneg (value a.x : ℝ)
  have hy₀ := sq_nonneg (value a.y : ℝ)
  have hz₀ := sq_nonneg (value a.z : ℝ)
  have hsquare : ∀ {x : Float32}, x.isFinite = true → (value x : ℝ) ^ 2 < tiny / 2 →
      (x * x == 0) = true := by
    intro x hx hlt
    have hsize : |(value x : ℝ) * value x| < tiny / 2 := by
      rwa [← sq, abs_of_nonneg (sq_nonneg (value x : ℝ))]
    have hfinite := (Scalar.mul_near hx hx (hsize.trans (by unfold tiny; norm_num))).1
    exact Scalar.isZero_of_value hfinite (Scalar.mul_vanishes hx hx hsize)
  have hx := hsquare ha.x (by linarith)
  have hy := hsquare ha.y (by linarith)
  have hz := hsquare ha.z (by linarith)
  have hxy := Scalar.alike_add_zero (Scalar.isFinite_of_isZero hx) hy
  have hsum := Scalar.alike_add_zero (hxy.isFinite (Scalar.isFinite_of_isZero hx)) hz
  exact (hsum.trans hxy).value_eq.trans (Scalar.value_of_isZero hx)

theorem normalized?_isSome_of_lengthSq (ha : a.IsFinite) (hlo : 6 * tiny ≤ a.exact.real.lengthSq)
    (hhi : a.exact.real.lengthSq ≤ (1 - 1 / 2 ^ 20) * 2 ^ 128) :
    a.normalized?.isSome = true := by
  have hfinite := isFinite_dot_self ha hhi
  refine normalized?_isSome_iff_dot.mpr ⟨hfinite, ?_⟩
  have hge := (abs_le.mp (dot_self_near hfinite)).1
  have hpos : (0 : ℝ) < value (a.dot a) := by
    unfold ulp tiny at *
    linarith
  exact_mod_cast hpos

theorem lengthSq_of_normalized? (h : a.normalized?.isSome = true) :
    a.IsFinite ∧ tiny / 2 ≤ a.exact.real.lengthSq
      ∧ a.exact.real.lengthSq ≤ (1 + 5 * ulp) * 2 ^ 128 := by
  obtain ⟨hfinite, hpos⟩ := normalized?_isSome_iff_dot.mp h
  have ha := isFinite_of_dot_self hfinite
  refine ⟨ha, ?_, ?_⟩
  -- shorter vectors lose every square, longer ones have a sum beyond the largest scalar
  · by_contra hlt
    rw [dot_self_vanishes ha (not_le.mp hlt)] at hpos
    exact absurd hpos (lt_irrefl 0)
  · have hge := (abs_le.mp (dot_self_near hfinite)).1
    have hle := (abs_le.mp (Scalar.abs_value_le hfinite)).2
    unfold ulp tiny at *
    linarith

/-! ## Edges between finite ends -/

/-- How far apart two finite vectors are. -/
noncomputable def exactDistance (a b : Vec3) : ℝ := (a.exact - b.exact).real.length

/-- A computed difference is almost as long as the exact one. -/
theorem abs_length_sub_le (h : (a - b).IsFinite) :
    |(a - b).exact.real.length - a.exactDistance b| ≤ ulp * a.exactDistance b := by
  obtain ⟨ha, hb⟩ := isFinite_of_sub h
  have hrounds : Rounds (a - b).exact.real (a.exact - b.exact).real := by
    rw [Offset.real_sub]
    exact ⟨(Scalar.sub_rounds ha.x hb.x).near h.x, (Scalar.sub_rounds ha.y hb.y).near h.y,
      (Scalar.sub_rounds ha.z hb.z).near h.z⟩
  exact (Offset.abs_length_sub_le _ _).trans hrounds.length_sub_le

/-- **An edge of any ordinary length has a direction.** -/
theorem normalized?_sub_isSome (ha : a.IsFinite) (hb : b.IsFinite)
    (hlo : 1 / 2 ^ 73 ≤ a.exactDistance b)
    (hhi : a.exactDistance b ≤ (1 - 1 / 2 ^ 20) * 2 ^ 64) :
    (a - b).normalized?.isSome = true := by
  have hfinite := (sub_rounds ha hb (by
    rw [← Offset.real_sub]
    exact hhi.trans_lt (by norm_num))).1
  obtain ⟨hge, hle⟩ := abs_le.mp (abs_length_sub_le hfinite)
  refine normalized?_isSome_of_lengthSq hfinite ?_ ?_
  · rw [← Offset.sq_length]
    calc 6 * tiny ≤ ((1 - ulp) * (1 / 2 ^ 73)) ^ 2 := by
          unfold ulp tiny
          norm_num
      _ ≤ (a - b).exact.real.length ^ 2 := by
          refine pow_le_pow_left₀ ?_ ?_ 2
          · unfold ulp
            norm_num
          · unfold ulp at *
            linarith
  · rw [← Offset.sq_length]
    calc (a - b).exact.real.length ^ 2 ≤ ((1 + ulp) * ((1 - 1 / 2 ^ 20) * 2 ^ 64)) ^ 2 := by
          refine pow_le_pow_left₀ (Offset.length_nonneg _) ?_ 2
          unfold ulp at *
          linarith
      _ ≤ (1 - 1 / 2 ^ 20) * 2 ^ 128 := by
          unfold ulp
          norm_num

/-- **No other edge has one**, up to the last digits of the bounds. -/
theorem length_of_normalized?_sub (h : (a - b).normalized?.isSome = true) :
    1 / 2 ^ 76 ≤ a.exactDistance b ∧ a.exactDistance b ≤ (1 + 1 / 2 ^ 20) * 2 ^ 64 := by
  obtain ⟨hfinite, hlo, hhi⟩ := lengthSq_of_normalized? h
  obtain ⟨hge, hle⟩ := abs_le.mp (abs_length_sub_le hfinite)
  rw [← Offset.sq_length] at hlo hhi
  have hlo' : 1 / 2 ^ 75 ≤ (a - b).exact.real.length := by
    refine le_of_sq_le_sq ?_ (Offset.length_nonneg _)
    refine le_trans ?_ hlo
    unfold tiny
    norm_num
  have hhi' : (a - b).exact.real.length ≤ (1 + 3 * ulp) * 2 ^ 64 := by
    refine le_of_sq_le_sq (hhi.trans ?_) ?_
    · unfold ulp
      norm_num
    · unfold ulp
      norm_num
  unfold ulp at *
  constructor <;> linarith

end Vec3

/-! ## Undefined records -/

namespace TriangleRecord

open Scalar (infinity notANumber)

variable {r : TriangleRecord} {tolerance : Float32} {k : Fin 3}

theorem measure?_isSome : (r.measure? k).isSome = (r.edge k).normalized?.isSome :=
  Option.isSome_map

/-- An edge is measured only between finite corners. -/
theorem finite_of_measure? (h : (r.measure? k).isSome = true) :
    (r.corner k).IsFinite ∧ (r.corner (k + 1)).IsFinite := by
  rw [measure?_isSome, edge_eq] at h
  exact (Vec3.isFinite_of_sub (Vec3.lengthSq_of_normalized? h).1).symm

theorem measure?_isSome_iff : (r.measure? k).isSome = true ↔
    (r.corner k).IsFinite ∧ (r.corner (k + 1)).IsFinite
      ∧ (r.edge k).length.isFinite = true ∧ 0 < (r.edge k).length := by
  constructor
  · intro h
    obtain ⟨hfirst, hsecond⟩ := finite_of_measure? h
    rw [measure?_isSome, Vec3.normalized?_isSome_iff] at h
    exact ⟨hfirst, hsecond, h⟩
  · rintro ⟨-, -, h⟩
    rw [measure?_isSome, Vec3.normalized?_isSome_iff]
    exact h

/-- What is measured along an edge with an undefined normal fails the check. -/
theorem exceeds_of_undefined {d : Float32} (hnormal : ¬r.normal.truncate.IsFinite)
    (hsome : tolerance.isFinite = true ∨ ¬r.normal.truncate.Defined)
    (hd : r.measure? k = some d) : d.isNaN = true ∨ tolerance < d := by
  obtain ⟨e, -, rfl⟩ := Option.map_eq_some_iff.mp hd
  rcases hsome with htolerance | hundefined
  · exact Scalar.exceeds_abs (Vec3.isFinite_dot_eq_false hnormal) htolerance
  · left
    rw [Scalar.isNaN_abs]
    exact Vec3.isNaN_dot hundefined

/-- A corner that is not finite leaves only the opposite edge to be measured. -/
theorem opposite_of_measure? {l : Fin 3} (hcorner : ¬(r.corner k).IsFinite)
    (h : (r.measure? l).isSome = true) : l = k + 1 := by
  obtain ⟨hfirst, hsecond⟩ := finite_of_measure? h
  have hne : l ≠ k := by
    rintro rfl
    exact hcorner hfirst
  have hne' : l + 1 ≠ k := by
    rintro rfl
    exact hcorner hsecond
  omega

/--
**What the check sees of a record that is undefined.** Only edges that are measured count, and an
edge is measured if both of its ends are finite and its length, as computed, is finite and positive;
that is, between lengths of about `2 ^ -74` and `2 ^ 64`. A normal that is NaN, or infinite where
the tolerance is finite, is reported if an edge is measured at all. A corner that is not finite is
never seen: the opposite edge alone decides.
-/
theorem misaligned_undefined (records : List TriangleRecord) (htolerance : 0 ≤ tolerance) {i : Nat}
    (hr : records[i]? = some r) :
    (∀ k, (r.measure? k).isSome = true ↔ (r.corner k).IsFinite ∧ (r.corner (k + 1)).IsFinite
      ∧ (r.edge k).length.isFinite = true ∧ 0 < (r.edge k).length)
    ∧ (∀ k, (r.corner k).IsFinite → (r.corner (k + 1)).IsFinite →
      (1 / 2 ^ 73 ≤ (r.corner (k + 1)).exactDistance (r.corner k) →
        (r.corner (k + 1)).exactDistance (r.corner k) ≤ (1 - 1 / 2 ^ 20) * 2 ^ 64 →
        (r.measure? k).isSome = true)
      ∧ ((r.measure? k).isSome = true →
        1 / 2 ^ 76 ≤ (r.corner (k + 1)).exactDistance (r.corner k)
        ∧ (r.corner (k + 1)).exactDistance (r.corner k) ≤ (1 + 1 / 2 ^ 20) * 2 ^ 64))
    ∧ (¬r.normal.truncate.IsFinite → tolerance.isFinite = true ∨ ¬r.normal.truncate.Defined →
      (i ∈ misaligned tolerance records ↔ ∃ k, (r.measure? k).isSome = true))
    ∧ ∀ k, ¬(r.corner k).IsFinite → (i ∈ misaligned tolerance records ↔
      ∃ d, r.measure? (k + 1) = some d ∧ (d.isNaN = true ∨ tolerance < d)) := by
  have hreported : i ∈ misaligned tolerance records
      ↔ ∃ k d, r.measure? k = some d ∧ (d.isNaN = true ∨ tolerance < d) := by
    rw [mem_misaligned, hr, ← isMisaligned_iff r htolerance]
    exact ⟨fun ⟨r', hr', h⟩ => Option.some.inj hr' ▸ h, fun h => ⟨r, rfl, h⟩⟩
  refine ⟨fun k => measure?_isSome_iff, fun k hfirst hsecond => ⟨fun hlo hhi => ?_, fun h => ?_⟩,
    fun hnormal hsome => ?_, fun k hcorner => ?_⟩
  · rw [measure?_isSome, edge_eq]
    exact Vec3.normalized?_sub_isSome hsecond hfirst hlo hhi
  · rw [measure?_isSome, edge_eq] at h
    exact Vec3.length_of_normalized?_sub h
  · simp only [hreported, Option.isSome_iff_exists]
    exact ⟨fun ⟨k, d, hd, _⟩ => ⟨k, d, hd⟩,
      fun ⟨k, d, hd⟩ => ⟨k, d, hd, exceeds_of_undefined hnormal hsome hd⟩⟩
  · rw [hreported]
    refine ⟨fun ⟨l, d, hd, h⟩ => ?_, fun ⟨d, hd, h⟩ => ⟨_, d, hd, h⟩⟩
    obtain rfl := opposite_of_measure? hcorner (Option.isSome_of_mem hd)
    exact ⟨d, hd, h⟩

/-- A triangle with an undefined corner, whose normal is orthogonal to the opposite edge. -/
def torn : TriangleRecord :=
  ⟨⟨0, 0, 1, 0⟩, ⟨notANumber, 0, 0, 0⟩, ⟨1, 0, 0, 0⟩, ⟨0, 1, 0, 0⟩⟩

/-- A triangle with sides of the given length, whose normal lies along the first of them. -/
def upended (side : Float32) : TriangleRecord :=
  ⟨⟨1, 0, 0, 0⟩, ⟨0, 0, 0, 0⟩, ⟨side, 0, 0, 0⟩, ⟨0, side, 0, 0⟩⟩

/-- The first of these is not seen, the second is. -/
def undefinedRecords : List TriangleRecord :=
  [torn, { upended 1 with normal := ⟨infinity, notANumber, 0, 0⟩ }]

theorem misaligned_undefinedRecords : (0 : Float32) ≤ TriangleRecord.tolerance
    ∧ (∃ r, undefinedRecords[0]? = some r ∧ ¬(r.corner 0).IsFinite
      ∧ 0 ∉ misaligned TriangleRecord.tolerance undefinedRecords)
    ∧ ∃ r, undefinedRecords[1]? = some r ∧ ¬r.normal.truncate.IsFinite
      ∧ (r.measure? 0).isSome = true
      ∧ 1 ∈ misaligned TriangleRecord.tolerance undefinedRecords := by
  have htolerance : (0 : Float32) ≤ TriangleRecord.tolerance := by decide +kernel
  refine ⟨htolerance, ⟨_, rfl, by decide, fun h => ?_⟩, _, rfl, by decide, by decide +kernel, ?_⟩
  · obtain ⟨-, -, -, hcorner⟩ := misaligned_undefined undefinedRecords htolerance (i := 0) rfl
    obtain ⟨d, hd, hexceeds⟩ := (hcorner 0 (by decide)).mp h
    have hzero : torn.measure? 1 = some 0 := by decide +kernel
    obtain rfl := Option.some.inj (hzero.symm.trans hd)
    revert hexceeds
    decide +kernel
  · obtain ⟨-, -, hnormal, -⟩ := misaligned_undefined undefinedRecords htolerance (i := 1) rfl
    exact (hnormal (by decide) (.inl (by decide +kernel))).mpr ⟨0, by decide +kernel⟩

/-- A record with a NaN among its corners passes the check. So does one whose corners are finite and
all different, and whose normal is along an edge: no edge of it is measured. -/
theorem misaligned_overlooks : (0 : Float32) ≤ TriangleRecord.tolerance
    ∧ (¬(torn.corner 0).IsFinite ∧ misaligned TriangleRecord.tolerance [torn] = [])
    ∧ ∀ side ∈ [(1e20 : Float32), 1e-30],
      (∀ k, ((upended side).corner k).IsFinite
        ∧ (upended side).corner k ≠ (upended side).corner (k + 1)
        ∧ (upended side).measure? k = none)
      ∧ misaligned TriangleRecord.tolerance [upended side] = [] := by
  refine ⟨by decide +kernel, ⟨by decide, by decide +kernel⟩, ?_⟩
  decide +kernel

end TriangleRecord

end Facet
