import Facet.Face.EarClipping
import Facet.Face.Record
import Facet.Proofs.FaceLists
import Facet.Proofs.RegistryOrder
import Facet.Proofs.VectorRounding
import Facet.Proofs.WorstDeviation

/-!
# Which triangles pass the normal check

A triangle that is cut off a face gets the normal of its own corners, or that of the face where its
corners define none. Rounding turns the first of these the further the closer the corners lie to a
line. The check passes for certain when the angle at the middle corner is not too flat, or when the
corners define no normal but lie in the plane of the face (`Face.Steady`). It fails for some that
are flatter, also in faces that are planar and convex.
-/

namespace Facet

open Scalar (value ulp tiny ulp_nonneg)

/-! ## Ordinary lengths -/

namespace Offset

/-- A length between a hundred-thousandth and a hundred million. -/
def Ordinary (d : Offset ℚ) : Prop := 1 / 10 ^ 10 ≤ d.lengthSq ∧ d.lengthSq ≤ 10 ^ 16

instance (d : Offset ℚ) : Decidable d.Ordinary := inferInstanceAs (Decidable (_ ∧ _))

theorem sq_length_real (d : Offset ℚ) : d.real.length ^ 2 = (d.lengthSq : ℚ) := by
  rw [sq_length, lengthSq, real_dot, lengthSq]

theorem Ordinary.bounds {d : Offset ℚ} (h : d.Ordinary) :
    1 / 10 ^ 5 ≤ d.real.length ∧ d.real.length ≤ 10 ^ 8 := by
  have hsq := d.sq_length_real
  have hlo : (((1 / 10 ^ 10 : ℚ)) : ℝ) ≤ (d.lengthSq : ℚ) := Rat.cast_le.mpr h.1
  have hhi : ((d.lengthSq : ℚ) : ℝ) ≤ ((10 ^ 16 : ℚ) : ℝ) := Rat.cast_le.mpr h.2
  push_cast at hlo hhi
  constructor
  · refine le_of_sq_le_sq ?_ d.real.length_nonneg
    rw [hsq]
    exact hlo.trans' (by norm_num)
  · refine le_of_sq_le_sq ?_ (by norm_num)
    rw [hsq]
    exact hhi.trans (by norm_num)

end Offset

/-! ## Vectors along an offset -/

namespace Vec3

/-- A finite vector within `c` of a multiple of `d`, the multiple being hardly longer than one. -/
structure Along (n : Vec3) (d : Offset ℝ) (c : ℝ) : Prop where
  finite : n.IsFinite
  near : ∃ k, 0 < k ∧ k * d.length ≤ 1001 / 1000 ∧ (n.exact.real - k * d).length ≤ c

variable {n x y u : Vec3} {d v : Offset ℝ} {c s : ℝ}

theorem Along.length_le (h : n.Along d c) : n.exact.real.length ≤ 1001 / 1000 + c := by
  obtain ⟨k, hk, hkd, hnear⟩ := h.near
  have hsum := Offset.length_add_le (k * d) (n.exact.real - k * d)
  rw [Offset.add_sub_cancel, Offset.length_mul d hk.le] at hsum
  linarith

/-- What is almost orthogonal to the offset is so to the vector. -/
theorem Along.abs_dot_le (h : n.Along d c) (hs : 0 ≤ s) (hd : |d.dot v| ≤ s * d.length) :
    |n.exact.real.dot v| ≤ 1001 / 1000 * s + c * v.length := by
  obtain ⟨k, hk, hkd, hnear⟩ := h.near
  have hsplit : n.exact.real.dot v = k * d.dot v + (n.exact.real - k * d).dot v := by
    rw [← Offset.mul_dot, ← Offset.add_dot, Offset.add_sub_cancel]
  rw [hsplit]
  calc |k * d.dot v + (n.exact.real - k * d).dot v|
      ≤ k * |d.dot v| + |(n.exact.real - k * d).dot v| := by
        refine (abs_add_le _ _).trans_eq ?_
        rw [abs_mul, abs_of_pos hk]
    _ ≤ k * (s * d.length) + c * v.length :=
        add_le_add (mul_le_mul_of_nonneg_left hd hk.le)
          ((Offset.abs_dot_le _ _).trans (mul_le_mul_of_nonneg_right hnear v.length_nonneg))
    _ = s * (k * d.length) + c * v.length := by ring
    _ ≤ s * (1001 / 1000) + c * v.length := by gcongr
    _ = _ := by ring

/-- What is off from `d` in proportion is, scaled to length one, off by as much. -/
theorem normalized?_along (hx : x.IsFinite) (hc : 0 ≤ c) (hc' : c ≤ 8 / 10000)
    (hlo : 1 / 2 ^ 49 ≤ d.length) (hhi : d.length ≤ 2 ^ 59)
    (hnear : (x.exact.real - d).length ≤ c * d.length) :
    ∃ u, x.normalized? = some u ∧ u.Along d (1001 / 1000 * c + 2 * ulp) := by
  have hlength := abs_le.mp (Offset.abs_length_sub_le x.exact.real d)
  have hsmall : c * d.length ≤ 8 / 10000 * d.length :=
    mul_le_mul_of_nonneg_right hc' d.length_nonneg
  obtain ⟨u, k, hdefined, hfinite, hk, hunit, hu⟩ :=
    normalized?_near hx (by linarith) (by linarith)
  have hkd : k * d.length ≤ 1001 / 1000 := by
    have hle := mul_le_mul_of_nonneg_left
      (by linarith : 9992 / 10000 * d.length ≤ x.exact.real.length) hk.le
    have hunit' := (abs_le.mp hunit).2
    unfold ulp at hunit'
    linarith
  refine ⟨u, hdefined, hfinite, k, hk, hkd, ?_⟩
  have hsum := Offset.length_add_le (k * (x.exact.real - d)) (u.exact.real - k * x.exact.real)
  have hsplit : k * (x.exact.real - d) + (u.exact.real - k * x.exact.real)
      = u.exact.real - k * d := by
    ext <;> simp <;> ring
  rw [hsplit, Offset.length_mul _ hk.le] at hsum
  have hscaled : k * (x.exact.real - d).length ≤ 1001 / 1000 * c :=
    calc k * (x.exact.real - d).length ≤ k * (c * d.length) :=
          mul_le_mul_of_nonneg_left hnear hk.le
      _ = c * (k * d.length) := by ring
      _ ≤ c * (1001 / 1000) := mul_le_mul_of_nonneg_left hkd hc
      _ = _ := mul_comm _ _
  linarith

/-- The direction of a side. -/
theorem normalized?_side (hx : x.IsFinite) (hy : y.IsFinite)
    (hside : (x.exact - y.exact).Ordinary) :
    ∃ u, (x - y).normalized? = some u ∧ u.Along (x.exact - y.exact).real (4 * ulp) := by
  obtain ⟨hlo, hhi⟩ := hside.bounds
  obtain ⟨hfinite, hrounds⟩ := sub_rounds hx hy (by
    rw [← Offset.real_sub]
    exact hhi.trans_lt (by norm_num))
  rw [← Offset.real_sub] at hrounds
  obtain ⟨u, hdefined, hu⟩ := normalized?_along hfinite ulp_nonneg
    (by unfold ulp; norm_num) (hlo.trans' (by norm_num)) (hhi.trans (by norm_num))
    hrounds.length_sub_le
  obtain ⟨k, hk, hkd, hnear⟩ := hu.near
  refine ⟨u, hdefined, hu.finite, k, hk, hkd, hnear.trans ?_⟩
  have := ulp_nonneg
  linarith

/-- A side without a length is computed as one. -/
theorem normalized?_side_zero (hx : x.IsFinite) (hy : y.IsFinite)
    (hside : x.exact - y.exact = ⟨0, 0, 0⟩) : (x - y).normalized? = none := by
  have hlength : (x.exact.real - y.exact.real).length = 0 := by
    rw [← Offset.real_sub, hside]
    simp [Offset.length, Offset.lengthSq, Offset.dot, Offset.real]
  obtain ⟨hfinite, hrounds⟩ := sub_rounds hx hy (by rw [hlength]; norm_num)
  rw [← Offset.real_sub, hside] at hrounds
  refine normalized?_of_zero hfinite ?_
  ext
  · simpa [Offset.real, exact] using hrounds.x
  · simpa [Offset.real, exact] using hrounds.y
  · simpa [Offset.real, exact] using hrounds.z

/-- **A normal that is orthogonal enough to a side has a small product with its direction.** -/
theorem dot_side (hn : n.IsFinite) (hlength : n.exact.real.length ≤ 101 / 100) (hx : x.IsFinite)
    (hy : y.IsFinite) (hside : x.exact - y.exact = ⟨0, 0, 0⟩ ∨ (x.exact - y.exact).Ordinary)
    (hlean : |n.exact.real.dot (x.exact - y.exact).real|
      ≤ 92 / 100000 * (x.exact - y.exact).real.length)
    (hu : (x - y).normalized? = some u) :
    (n.dot u).isFinite = true ∧ |(value (n.dot u) : ℝ)| ≤ 1 / 1000 := by
  rcases hside with hside | hside
  · rw [normalized?_side_zero hx hy hside] at hu
    exact absurd hu (by simp)
  · obtain ⟨u', hdefined, halong⟩ := normalized?_side hx hy hside
    obtain rfl : u = u' := Option.some_injective _ (hu.symm.trans hdefined)
    have hulength := halong.length_le
    have hproduct : |n.exact.real.dot u.exact.real| ≤ 93 / 100000 := by
      rw [Offset.dot_comm] at hlean ⊢
      have hle := halong.abs_dot_le (by norm_num) hlean
      unfold ulp at hle
      linarith
    have hlengths : n.exact.real.length * u.exact.real.length ≤ 101 / 100 * (101 / 100) := by
      refine mul_le_mul hlength ?_ (Offset.length_nonneg _) (by norm_num)
      unfold ulp at hulength
      linarith
    obtain ⟨hdot, hdot'⟩ := dot_near hn halong.finite (hlengths.trans (by norm_num))
    have htotal := abs_sub_abs_le_abs_sub (value (n.dot u) : ℝ) (n.exact.real.dot u.exact.real)
    refine ⟨hdot, ?_⟩
    unfold ulp tiny at *
    linarith

end Vec3

/-! ## Corners that span a plane -/

namespace Ear

variable (e : Ear Vec3)

/-- The exact sides of a triangle, in ring order. -/
def offsets : List (Offset ℚ) :=
  [e.middle.exact - e.first.exact, e.last.exact - e.middle.exact, e.first.exact - e.last.exact]

/-- The exact cross product of the first two sides, both taken backwards. -/
def plane : Offset ℚ :=
  (e.first.exact - e.middle.exact).cross (e.middle.exact - e.last.exact)

/-- No coordinate of a corner is infinite or NaN. -/
structure IsFinite : Prop where
  first : e.first.IsFinite
  middle : e.middle.IsFinite
  last : e.last.IsFinite

instance : Decidable e.IsFinite :=
  decidable_of_iff (e.first.IsFinite ∧ e.middle.IsFinite ∧ e.last.IsFinite)
    ⟨fun ⟨h₀, h₁, h₂⟩ => ⟨h₀, h₁, h₂⟩, fun ⟨h₀, h₁, h₂⟩ => ⟨h₀, h₁, h₂⟩⟩

/-- The first two sides have ordinary lengths, and the sine of the angle between them is at least a
thousandth. -/
structure Spans : Prop extends e.IsFinite where
  firstSide : (e.first.exact - e.middle.exact).Ordinary
  secondSide : (e.middle.exact - e.last.exact).Ordinary
  angle : (e.first.exact - e.middle.exact).lengthSq * (e.middle.exact - e.last.exact).lengthSq
    ≤ 10 ^ 6 * e.plane.lengthSq

instance : Decidable e.Spans :=
  decidable_of_iff (e.IsFinite ∧ (e.first.exact - e.middle.exact).Ordinary
      ∧ (e.middle.exact - e.last.exact).Ordinary
      ∧ (e.first.exact - e.middle.exact).lengthSq * (e.middle.exact - e.last.exact).lengthSq
        ≤ 10 ^ 6 * e.plane.lengthSq)
    ⟨fun ⟨h, hp, hq, hsin⟩ => ⟨h, hp, hq, hsin⟩, fun ⟨h, hp, hq, hsin⟩ => ⟨h, hp, hq, hsin⟩⟩

/-- The sides lean from a plane by a sine of at most a five-thousandth. -/
def LiesAlong (normal : Offset ℚ) : Prop :=
  ∀ d ∈ e.offsets, 5000 ^ 2 * normal.dot d ^ 2 ≤ normal.lengthSq * d.lengthSq

instance (normal : Offset ℚ) : Decidable (e.LiesAlong normal) :=
  inferInstanceAs (Decidable (∀ d ∈ e.offsets, _))

variable {e}

/-- The plane of a triangle contains its sides. -/
theorem plane_dot {d : Offset ℚ} (h : d ∈ e.offsets) : e.plane.dot d = 0 := by
  simp only [offsets, List.mem_cons, List.not_mem_nil, or_false] at h
  rcases h with rfl | rfl | rfl <;>
  · simp only [plane, Offset.dot, Offset.cross, Offset.sub_x, Offset.sub_y, Offset.sub_z]
    ring

theorem LiesAlong.abs_dot_le {normal : Offset ℚ} (h : e.LiesAlong normal) {d : Offset ℚ}
    (hd : d ∈ e.offsets) :
    |normal.real.dot d.real| ≤ 1 / 5000 * (normal.real.length * d.real.length) := by
  have hn := normal.real.length_nonneg
  have hd₀ := d.real.length_nonneg
  refine abs_le_of_sq_le_sq ?_ (by positivity)
  have hcast := (Rat.cast_le (K := ℝ)).mpr (h d hd)
  push_cast at hcast
  rw [mul_pow, mul_pow, Offset.sq_length_real, Offset.sq_length_real, Offset.real_dot]
  linarith

/-- The area that corners span, next to the product of two sides. -/
theorem Spans.angle_real (h : e.Spans) :
    (e.first.exact - e.middle.exact).real.length * (e.middle.exact - e.last.exact).real.length
      ≤ 10 ^ 3 * e.plane.real.length := by
  refine le_of_sq_le_sq ?_ (by have := e.plane.real.length_nonneg; positivity)
  rw [mul_pow, mul_pow, Offset.sq_length_real, Offset.sq_length_real, Offset.sq_length_real]
  have hcast := (Rat.cast_le (K := ℝ)).mpr h.angle
  push_cast at hcast
  exact hcast.trans_eq (by norm_num)

/-- **Corners that span a plane define its normal.** -/
theorem Spans.planeNormal? (h : e.Spans) :
    ∃ n, Face.planeNormal? e.first e.middle e.last = some n
      ∧ n.Along e.plane.real (719 / 10 ^ 6) := by
  obtain ⟨hplo, hphi⟩ := h.firstSide.bounds
  obtain ⟨hqlo, hqhi⟩ := h.secondSide.bounds
  have hangle := h.angle_real
  have hplane : e.plane.real = (e.first.exact - e.middle.exact).real.cross
      (e.middle.exact - e.last.exact).real := Offset.real_cross _ _
  have hupper := Offset.length_cross_le (e.first.exact - e.middle.exact).real
    (e.middle.exact - e.last.exact).real
  rw [← hplane] at hupper
  obtain ⟨hp, hp'⟩ := Vec3.sub_rounds h.first h.middle (by
    rw [← Offset.real_sub]
    exact hphi.trans_lt (by norm_num))
  obtain ⟨hq, hq'⟩ := Vec3.sub_rounds h.middle h.last (by
    rw [← Offset.real_sub]
    exact hqhi.trans_lt (by norm_num))
  rw [← Offset.real_sub] at hp' hq'
  have hlo : (1 : ℝ) / 10 ^ 5 * (1 / 10 ^ 5) ≤ _ :=
    mul_le_mul hplo hqlo (by positivity) (Offset.length_nonneg _)
  have hhi : _ ≤ (10 : ℝ) ^ 8 * 10 ^ 8 :=
    mul_le_mul hphi hqhi (Offset.length_nonneg _) (by positivity)
  obtain ⟨hw, hw'⟩ := Vec3.cross_near hp hq hp' hq' (hhi.trans (by norm_num))
  rw [← hplane] at hw'
  have hnear : (((e.first - e.middle).cross (e.middle - e.last)).exact.real - e.plane.real).length
      ≤ 7172 / 10 ^ 7 * e.plane.real.length := by
    unfold ulp tiny at hw'
    linarith
  obtain ⟨n, hdefined, hfinite, k, hk, hkd, hn⟩ := Vec3.normalized?_along hw (by norm_num)
    (by norm_num) (by linarith) (by linarith) hnear
  refine ⟨n, hdefined, hfinite, k, hk, hkd, hn.trans ?_⟩
  unfold ulp
  norm_num

end Ear

/-! ## Records -/

namespace TriangleRecord

/-- **Small deviations do not add up to a misaligned record.** -/
theorem deviation_of_small {r : TriangleRecord}
    (h : ∀ d ∈ r.deviations, d.isFinite = true ∧ (value d : ℝ) ≤ 1 / 1000) :
    r.deviation.isFinite = true ∧ (value r.deviation : ℝ) ≤ 1 / 1000 := by
  rcases r.worst_deviation.mem_or_none with hmem | ⟨-, hzero⟩
  · exact h _ hmem
  · rw [hzero, Scalar.value_zero]
    exact ⟨Scalar.isFinite_zero, by norm_num⟩

theorem isMisaligned_of_small {r : TriangleRecord}
    (h : ∀ d ∈ r.deviations, d.isFinite = true ∧ (value d : ℝ) ≤ 1 / 1000) :
    r.isMisaligned tolerance = false := by
  obtain ⟨hfinite, hsmall⟩ := deviation_of_small h
  have htolerance : tolerance.isFinite = true := by decide +kernel
  have hvalue : (1 : ℚ) / 1000 ≤ value tolerance := by decide +kernel
  have hle : ¬tolerance < r.deviation := by
    rw [Scalar.lt_iff htolerance hfinite, not_lt, ← Rat.cast_le (K := ℝ)]
    have hcast := (Rat.cast_le (K := ℝ)).mpr hvalue
    push_cast at hcast
    linarith
  unfold isMisaligned
  rw [Scalar.isNaN_eq_false hfinite, decide_eq_false hle]
  rfl

end TriangleRecord

namespace Face

/-- The face that corners make, where the first three define a normal. -/
def through (corners : List Vec3) (h : 3 ≤ corners.length) : Face :=
  ⟨(ringNormal? corners).getD ⟨0, 0, 0⟩, corners, h⟩

/-- The first three corners, which a record keeps. -/
def opening (f : Face) : Ear Vec3 :=
  let r := TriangleRecord.ofFace f
  ⟨r.first.truncate, r.second.truncate, r.third.truncate⟩

/-- What lets the normal of an ear pass the check: either its corners span a plane, or they define
no normal but lie along the plane that the first corners of the face span. -/
structure Steady (f : Face) (e : Ear Vec3) : Prop extends e.IsFinite where
  sides : ∀ d ∈ e.offsets, d = ⟨0, 0, 0⟩ ∨ d.Ordinary
  plane : e.Spans ∨ planeNormal? e.first e.middle e.last = none ∧ f.opening.Spans
    ∧ e.LiesAlong f.opening.plane

instance (f : Face) (e : Ear Vec3) : Decidable (Steady f e) :=
  decidable_of_iff (e.IsFinite ∧ (∀ d ∈ e.offsets, d = ⟨0, 0, 0⟩ ∨ d.Ordinary)
      ∧ (e.Spans ∨ planeNormal? e.first e.middle e.last = none ∧ f.opening.Spans
        ∧ e.LiesAlong f.opening.plane))
    ⟨fun ⟨h, hsides, hplane⟩ => ⟨h, hsides, hplane⟩, fun ⟨h, hsides, hplane⟩ => ⟨h, hsides, hplane⟩⟩

theorem planeNormal?_of_ofCorners {f : Face} (h : ofCorners f.corners = .ok f) :
    planeNormal? (f.corner 0) (f.corner 1) (f.corner 2) = some f.normal := by
  obtain ⟨normal, corners, hthree⟩ := f
  match corners, hthree with
  | a :: b :: c :: rest, hthree =>
    rw [ofCorners, dif_pos hthree] at h
    split at h
    · rename_i n hn
      cases h
      exact hn
    · exact absurd h (by simp)

/-- The normal of a steady ear is orthogonal enough to every side of it. -/
theorem Steady.normal {f : Face} {e : Ear Vec3} (hf : ofCorners f.corners = .ok f)
    (h : Steady f e) :
    (ofEar f.normal e).normal.IsFinite ∧ (ofEar f.normal e).normal.exact.real.length ≤ 101 / 100
      ∧ ∀ d ∈ e.offsets, |(ofEar f.normal e).normal.exact.real.dot d.real|
        ≤ 92 / 100000 * d.real.length := by
  -- whichever plane the normal belongs to, the sides of the ear lie along it
  have hplane : ∃ plane : Offset ℚ, (ofEar f.normal e).normal.Along plane.real (719 / 10 ^ 6)
      ∧ ∀ d ∈ e.offsets,
        |plane.real.dot d.real| ≤ 1 / 5000 * d.real.length * plane.real.length := by
    unfold ofEar
    dsimp only
    rcases h.plane with hspans | ⟨hnone, hspans, hlies⟩
    · obtain ⟨n, hn, halong⟩ := hspans.planeNormal?
      rw [hn, Option.getD_some]
      refine ⟨e.plane, halong, fun d hd => ?_⟩
      rw [Offset.real_dot, Ear.plane_dot hd, Rat.cast_zero, abs_zero]
      have := e.plane.real.length_nonneg
      have := d.real.length_nonneg
      positivity
    · obtain ⟨n, hn, halong⟩ := hspans.planeNormal?
      have hsame : n = f.normal :=
        Option.some_injective _ (hn.symm.trans (planeNormal?_of_ofCorners hf))
      rw [hnone, Option.getD_none, ← hsame]
      refine ⟨f.opening.plane, halong, fun d hd => (hlies.abs_dot_le hd).trans_eq ?_⟩
      ring
  obtain ⟨plane, halong, hlies⟩ := hplane
  refine ⟨halong.finite, halong.length_le.trans (by norm_num), fun d hd => ?_⟩
  have hd₀ := d.real.length_nonneg
  have hle := halong.abs_dot_le (by positivity) (hlies d hd)
  linarith

/-- **A steady ear makes a record that passes.** -/
theorem Steady.isMisaligned {f : Face} {e : Ear Vec3} (hf : ofCorners f.corners = .ok f)
    (h : Steady f e) :
    (TriangleRecord.ofFace (ofEar f.normal e)).isMisaligned TriangleRecord.tolerance = false := by
  obtain ⟨hfinite, hlength, hlean⟩ := h.normal hf
  refine TriangleRecord.isMisaligned_of_small fun d hd => ?_
  obtain ⟨u, hu, rfl⟩ := List.mem_map.mp hd
  obtain ⟨edge, hedge, hu⟩ := List.mem_filterMap.mp hu
  have hpass : ∀ {x y : Vec3}, x.IsFinite → y.IsFinite → x.exact - y.exact ∈ e.offsets →
      (x - y).normalized? = some u →
      (((ofEar f.normal e).normal.dot u).abs).isFinite = true
        ∧ (value (((ofEar f.normal e).normal.dot u).abs) : ℝ) ≤ 1 / 1000 := by
    intro x y hx hy hmem hu
    obtain ⟨hdot, hsmall⟩ := Vec3.dot_side hfinite hlength hx hy (h.sides _ hmem) (hlean _ hmem) hu
    obtain ⟨habs, hvalue⟩ := Scalar.abs_value hdot
    rw [hvalue]
    push_cast
    exact ⟨habs, hsmall⟩
  have hnormal : (TriangleRecord.ofFace (ofEar f.normal e)).normal.truncate
      = (ofEar f.normal e).normal := rfl
  rw [hnormal]
  simp only [TriangleRecord.edges, List.mem_cons, List.not_mem_nil, or_false] at hedge
  rcases hedge with rfl | rfl | rfl
  · exact hpass h.middle h.first (by simp [Ear.offsets]) hu
  · exact hpass h.last h.middle (by simp [Ear.offsets]) hu
  · exact hpass h.first h.last (by simp [Ear.offsets]) hu

/-- A triangle of a face is an ear with the normal of the face to fall back on. -/
theorem ofEar_opening {f t : Face} {ts : List Face} (h : f.triangulate = .ok ts) (ht : t ∈ ts) :
    ofEar f.normal t.opening = t := by
  obtain ⟨e, rfl⟩ := mem_triangulate h ht
  rfl

end Face

/-! ## Collecting -/

namespace Registry

open TriangleRecord (tolerance)

/-- Everything `collect` can do with live bodies: it hands out their records, unless one of them is
misaligned. -/
theorem collect_cases {r : Registry} {ids : List Handle} {records : List TriangleRecord}
    (h : r.gather ids = .ok records) (d : Device) :
    (r.collect ids d = (.ok records, d) ∧ ∀ t ∈ records, t.isMisaligned tolerance = false)
    ∨ (r.collect ids d).1 = .error (.fault .misalignedNormals)
      ∧ ∃ t ∈ records, t.isMisaligned tolerance = true := by
  have hcollects := r.collects ids d
  rw [gather_eq] at h
  generalize r.collect ids d = outcome at hcollects ⊢
  cases hcollects with
  | unknown hfirst => rw [hfirst] at h; exact absurd h (by simp)
  | misaligned _ hfirst ht hmisaligned =>
      rw [hfirst] at h
      cases h
      exact .inr ⟨rfl, _, ht, hmisaligned⟩
  | collected hfirst haligned =>
      rw [hfirst] at h
      cases h
      exact .inl ⟨rfl, haligned⟩

/-- The records of a new body are those of its faces. -/
theorem gather_created {r r' : Registry} (h : r.bodies.WellFormed) {faces : List Face}
    {d d' : Device} {id : Handle} (hcreate : r.create faces d = (.ok id, r', d')) :
    r'.gather [id] = .ok (faces.map TriangleRecord.ofFace) := by
  rcases create_cases h faces d with
    ⟨id', r₁, d₁, hrun, -, -, -, hbody, -⟩ | ⟨d₁, hrun, -⟩
  · rw [hrun] at hcreate
    cases hcreate
    rw [gather, hbody, Function.update_self, gather]
    show Except.ok (List.map _ _ ++ []) = _
    rw [List.append_nil]
    rfl
  · rw [hrun] at hcreate
    exact absurd hcreate (by simp)

/--
**Collecting the triangles of faces.** After any calls, a body of the triangles that were cut off
faces is either collected, and then every normal is orthogonal enough to the edges, or stopped by
the check, and then a triangle that fails it is not steady.
-/
theorem collect_triangulated (capacity : UInt32) (d₀ : Device) (calls : List Call)
    {faces triangles : List Face} (hfaces : ∀ f ∈ faces, Face.ofCorners f.corners = .ok f)
    (htriangles : Face.triangulateAll faces = .ok triangles) {id : Handle} {r : Registry}
    {d : Device}
    (hcreate : ((Run.start capacity d₀).after calls).registry.create triangles
      ((Run.start capacity d₀).after calls).device = (.ok id, r, d)) :
    (r.collect [id] d = (.ok (triangles.map TriangleRecord.ofFace), d)
      ∧ ∀ t ∈ triangles, (TriangleRecord.ofFace t).isMisaligned tolerance = false)
    ∨ (r.collect [id] d).1 = .error (.fault .misalignedNormals)
      ∧ ∃ f ∈ faces, ∃ ts, f.triangulate = .ok ts
        ∧ ∃ t ∈ ts, (TriangleRecord.ofFace t).isMisaligned tolerance = true
          ∧ ¬Face.Steady f t.opening := by
  have hgather := gather_created (orderInv_after capacity d₀ calls).wellFormed hcreate
  rcases collect_cases hgather d with ⟨hcollect, haligned⟩ | ⟨hfault, record, hrecord, hmisaligned⟩
  · exact .inl ⟨hcollect, fun t ht => haligned _ (List.mem_map_of_mem ht)⟩
  · obtain ⟨t, ht, rfl⟩ := List.mem_map.mp hrecord
    obtain ⟨f, hf, ts, hts, htmem⟩ := Face.mem_triangulateAll htriangles t ht
    refine .inr ⟨hfault, f, hf, ts, hts, t, htmem, hmisaligned, fun hsteady => ?_⟩
    have hpass := hsteady.isMisaligned (hfaces f hf)
    rw [Face.ofEar_opening hts htmem, hmisaligned] at hpass
    exact absurd hpass (by simp)

/-- A square with a lifted corner, and one with a corner in the middle of a side. -/
def steadyPlates : List Face :=
  [.through [⟨0, 0, 0⟩, ⟨1, 0, 0⟩, ⟨1, 1, 0.05⟩, ⟨0, 1, 0⟩] (by decide),
    .through [⟨0, 0, 0⟩, ⟨2, 0, 0⟩, ⟨2, 2, 0⟩, ⟨1, 2, 0⟩, ⟨0, 2, 0⟩] (by decide)]

theorem collect_steadyPlates :
    ∃ triangles id r d, (∀ f ∈ steadyPlates, Face.ofCorners f.corners = .ok f)
      ∧ Face.triangulateAll steadyPlates = .ok triangles ∧ triangles.length = 5
      ∧ ((Run.start 1 {}).after []).registry.create triangles ((Run.start 1 {}).after []).device
        = (.ok id, r, d)
      ∧ r.collect [id] d = (.ok (triangles.map TriangleRecord.ofFace), d)
      ∧ ∀ t ∈ triangles, (TriangleRecord.ofFace t).isMisaligned tolerance = false := by
  have hfaces : ∀ f ∈ steadyPlates, Face.ofCorners f.corners = .ok f := by decide +kernel
  have hlength : (Face.triangulateAll steadyPlates).map List.length = .ok 5 := by decide +kernel
  have hsteady : ∀ f ∈ steadyPlates, ∀ t ∈ f.triangulate.toOption.getD [],
      Face.Steady f t.opening := by decide +kernel
  cases htriangles : Face.triangulateAll steadyPlates with
  | error e => rw [htriangles] at hlength; exact absurd hlength (by simp [Except.map])
  | ok triangles =>
      rw [htriangles] at hlength
      injection hlength with hlength
      obtain ⟨id, r, d, hcreate⟩ : ∃ id r d,
          ((Run.start 1 {}).after []).registry.create triangles ((Run.start 1 {}).after []).device
            = (.ok id, r, d) := ⟨_, _, _, rfl⟩
      refine ⟨triangles, id, r, d, hfaces, rfl, hlength, hcreate, ?_⟩
      rcases collect_triangulated 1 {} [] hfaces htriangles hcreate with
        hcollect | ⟨-, f, hf, ts, hts, t, ht, -, hunsteady⟩
      · exact hcollect
      · exact absurd (hsteady f hf t (by rw [hts]; exact ht)) hunsteady

/-- A plate with three corners on a line, two of them far apart. -/
def sliverPlate : Face :=
  .through [⟨-8, 2, 2⟩, ⟨-26, -52, -22⟩, ⟨0, 0, 0⟩, ⟨2.4375, 7.3125, 3.25⟩,
    ⟨900000, 2700000, 1200000⟩] (by decide)

/-- The plate lies in a plane, and one of its triangles on a line. The computed sides of that
triangle are not parallel, so it does not keep the normal of the plate, and the check fails. -/
theorem collect_sliverPlate :
    ∃ triangles id r d, Face.ofCorners sliverPlate.corners = .ok sliverPlate
      ∧ (∀ c ∈ sliverPlate.corners,
        sliverPlate.opening.plane.dot (c.exact - (sliverPlate.corner 0).exact) = 0)
      ∧ Face.triangulateAll [sliverPlate] = .ok triangles
      ∧ (∃ t ∈ triangles, t.opening.plane = ⟨0, 0, 0⟩ ∧ t.normal ≠ sliverPlate.normal)
      ∧ ((Run.start 1 {}).after []).registry.create triangles ((Run.start 1 {}).after []).device
        = (.ok id, r, d)
      ∧ (r.collect [id] d).1 = .error (.fault .misalignedNormals) := by
  have hfails : ∃ t ∈ (Face.triangulateAll [sliverPlate]).toOption.getD [],
      t.opening.plane = ⟨0, 0, 0⟩ ∧ t.normal ≠ sliverPlate.normal
        ∧ (TriangleRecord.ofFace t).isMisaligned tolerance = true := by decide +kernel
  cases htriangles : Face.triangulateAll [sliverPlate] with
  | error e =>
      rw [htriangles] at hfails
      obtain ⟨t, ht, -⟩ := hfails
      exact absurd ht List.not_mem_nil
  | ok triangles =>
      rw [htriangles] at hfails
      obtain ⟨t, ht, hline, hnormal, hmisaligned⟩ := hfails
      obtain ⟨id, r, d, hcreate⟩ : ∃ id r d,
          ((Run.start 1 {}).after []).registry.create triangles ((Run.start 1 {}).after []).device
            = (.ok id, r, d) := ⟨_, _, _, rfl⟩
      refine ⟨triangles, id, r, d, by decide +kernel, by decide +kernel, rfl,
        ⟨t, ht, hline, hnormal⟩, hcreate, ?_⟩
      have hgather := gather_created (orderInv_after 1 {} []).wellFormed hcreate
      rcases collect_cases hgather d with ⟨-, haligned⟩ | ⟨hfault, -⟩
      · rw [haligned _ (List.mem_map_of_mem ht)] at hmisaligned
        exact absurd hmisaligned Bool.false_ne_true
      · exact hfault

end Registry

end Facet
