import Facet.Proofs.OrbitRange

/-!
# Steps through the target

A step forward is taken off the distance before the distance is clamped. One that is longer than the
distance leaves a negative number, and a direction times a negative number points the other way: the
eye goes through the target and comes out behind it, as far as the step was too long. Only that
length is clamped, so the eye stops at the least distance just when it overshoots by no more, and
then on the far side.

The eye is taken where the camera has it, so sines and cosines play no part. The rounding that does
is that of one unit vector, one product and one length, from `Facet.Proofs.VectorRounding`.
-/

namespace Facet

open Scalar (value ulp tiny Alike)

namespace Vec3

variable {a b n : Vec3}

/-- Vectors that are equal but for the signs of zeros are as long as each other. -/
theorem length_eq_of_alike (hx : Alike a.x b.x) (hy : Alike a.y b.y) (hz : Alike a.z b.z) :
    a.length = b.length := by
  unfold length dot
  rw [hx.mul_self_eq, hy.mul_self_eq, hz.mul_self_eq]

/-- Nothing of a vector is left when it is multiplied by zero. -/
theorem mul_zero_length {k : Float32} (ha : a.IsFinite) (hk : (k == 0) = true) :
    ((a * k).y == 0) = true ∧ (a * k).length = 0 := by
  have hfinite := Scalar.isFinite_of_isZero hk
  have hzero : (0 == (0 : Float32)) = true := by decide
  have hlength : (a * k).length = Vec3.zero.length :=
    length_eq_of_alike (.inr ⟨Scalar.isZero_mul ha.x hfinite (.inr hk), hzero⟩)
      (.inr ⟨Scalar.isZero_mul ha.y hfinite (.inr hk), hzero⟩)
      (.inr ⟨Scalar.isZero_mul ha.z hfinite (.inr hk), hzero⟩)
  refine ⟨Scalar.isZero_mul ha.y hfinite (.inr hk), hlength.trans ?_⟩
  decide

theorem cross_isFinite (ha : a.Small) (hb : b.Small) : (a.cross b).IsFinite := by
  have hcoordinate : ∀ {p q r s : Float32}, p.isFinite = true → q.isFinite = true →
      r.isFinite = true → s.isFinite = true → |value p| ≤ 9 → |value q| ≤ 9 → |value r| ≤ 9 →
      |value s| ≤ 9 → (p * q - r * s).isFinite = true := by
    have hproduct : ∀ {p q : Float32}, p.isFinite = true → q.isFinite = true → |value p| ≤ 9 →
        |value q| ≤ 9 → (p * q).isFinite = true ∧ |(value (p * q) : ℝ)| ≤ 82 := by
      intro p q hp hq hp' hq'
      have hp'' : |(value p : ℝ)| ≤ 9 := by exact_mod_cast hp'
      have hq'' : |(value q : ℝ)| ≤ 9 := by exact_mod_cast hq'
      have hsize : |(value p : ℝ) * value q| ≤ 81 := by
        rw [abs_mul]
        exact (mul_le_mul hp'' hq'' (abs_nonneg _) (by positivity)).trans (by norm_num)
      obtain ⟨hfinite, hle⟩ := Scalar.mul_le_size hp hq hsize (by norm_num)
      unfold ulp tiny at hle
      exact ⟨hfinite, by linarith⟩
    intro p q r s hp hq hr hs hp' hq' hr' hs'
    obtain ⟨hpq, hpq'⟩ := hproduct hp hq hp' hq'
    obtain ⟨hrs, hrs'⟩ := hproduct hr hs hr' hs'
    refine (Scalar.sub_near hpq hrs ?_).1
    have htriangle := abs_sub (value (p * q) : ℝ) (value (r * s))
    linarith
  exact ⟨hcoordinate ha.y hb.z hb.y ha.z ha.size_y hb.size_z hb.size_y ha.size_z,
    hcoordinate ha.z hb.x hb.z ha.x ha.size_z hb.size_x hb.size_z ha.size_x,
    hcoordinate ha.x hb.y hb.x ha.y ha.size_x hb.size_y hb.size_x ha.size_y⟩

/-- What a unit vector times a scalar is off by. -/
theorem scaled_near {k : Float32} (hn : n.IsFinite) (hunit : |n.exact.real.length - 1| ≤ 10 * ulp)
    (hk : k.isFinite = true) (hlo : 1 / 2 ^ 49 ≤ |(value k : ℝ)|)
    (hhi : |(value k : ℝ)| ≤ 2 ^ 59) :
    (n * k).IsFinite
      ∧ ((n * k).exact.real - (value k : ℝ) * n.exact.real).length ≤ 2 * ulp * |(value k : ℝ)| := by
  have hk₀ := abs_nonneg (value k : ℝ)
  have hunit' : n.exact.real.length ≤ 3 / 2 := by
    have := (abs_le.mp hunit).2
    unfold ulp at this
    linarith
  have hcoordinate : ∀ {s : Float32}, s.isFinite = true → |(value s : ℝ)| ≤ n.exact.real.length →
      (s * k).isFinite = true
        ∧ |(value (s * k) : ℝ) - value k * value s| ≤ ulp * |(value k : ℝ)| * |(value s : ℝ)|
          + tiny := by
    intro s hs hle
    have hsize : |(value s : ℝ) * value k| ≤ 3 / 2 * 2 ^ 59 := by
      rw [abs_mul]
      exact mul_le_mul (hle.trans hunit') hhi hk₀ (by positivity)
    obtain ⟨hfinite, hnear⟩ := Scalar.product_near hs hk (hsize.trans_lt (by norm_num))
    refine ⟨hfinite, ?_⟩
    rw [mul_comm (value k : ℝ)]
    refine hnear.trans_eq ?_
    rw [abs_mul]
    ring
  obtain ⟨hx, hx'⟩ := hcoordinate hn.x n.exact.real.abs_x_le
  obtain ⟨hy, hy'⟩ := hcoordinate hn.y n.exact.real.abs_y_le
  obtain ⟨hz, hz'⟩ := hcoordinate hn.z n.exact.real.abs_z_le
  refine ⟨⟨hx, hy, hz⟩, ?_⟩
  have herror := Offset.length_le_of_errors
    (d := (n * k).exact.real - (value k : ℝ) * n.exact.real) (e := n.exact.real)
    (mul_nonneg Scalar.ulp_nonneg hk₀) Scalar.tiny_nonneg hx' hy' hz'
  have hsize : |(value k : ℝ)| * n.exact.real.length ≤ |(value k : ℝ)| * (3 / 2) :=
    mul_le_mul_of_nonneg_left hunit' hk₀
  rw [mul_assoc] at herror
  unfold ulp tiny at *
  linarith

/-- The length that is computed for it is the size of the scalar. -/
theorem scaled_length_near {k : Float32} (hn : n.IsFinite)
    (hunit : |n.exact.real.length - 1| ≤ 10 * ulp) (hk : k.isFinite = true)
    (hlo : 1 / 2 ^ 49 ≤ |(value k : ℝ)|) (hhi : |(value k : ℝ)| ≤ 2 ^ 59) :
    (n * k).length.isFinite = true
      ∧ |(value (n * k).length : ℝ) - (|(value k : ℝ)|)| ≤ 19 * ulp * |(value k : ℝ)| := by
  obtain ⟨hfinite, herror⟩ := scaled_near hn hunit hk hlo hhi
  have hclose := Offset.abs_length_sub_le (n * k).exact.real ((value k : ℝ) * n.exact.real)
  have hscaled : |(|(value k : ℝ)|) * n.exact.real.length - (|(value k : ℝ)|)|
      ≤ |(value k : ℝ)| * (10 * ulp) := by
    rw [← mul_sub_one, abs_mul, abs_abs]
    exact mul_le_mul_of_nonneg_left hunit (abs_nonneg _)
  rw [Offset.length_mul_abs] at hclose
  have hexact := abs_sub_le (n * k).exact.real.length
    ((|(value k : ℝ)|) * n.exact.real.length) (|(value k : ℝ)|)
  obtain ⟨hexact₁, hexact₂⟩ := abs_le.mp (hexact.trans (add_le_add hclose hscaled))
  have hlo' : 1 / 2 ^ 50 ≤ (n * k).exact.real.length := by
    unfold ulp at *
    linarith
  have hhi' : (n * k).exact.real.length ≤ 2 ^ 60 := by
    unfold ulp at *
    linarith
  obtain ⟨hlengthFinite, hnear⟩ := length_near hfinite hlo' hhi'
  refine ⟨hlengthFinite, ?_⟩
  have htriangle := abs_sub_le (value (n * k).length : ℝ) (n * k).exact.real.length
    (|(value k : ℝ)|)
  unfold ulp at *
  linarith

end Vec3

namespace OrbitCamera

variable {c : OrbitCamera} {z dt : Float32}

/-! ## The direction of the eye -/

/-- The eye as seen from the target. -/
def eye (c : OrbitCamera) : Vec3 := c.origin - c.config.target

/-- The vector whose direction a step forward keeps: the eye, with nothing to the side added. -/
def kept (c : OrbitCamera) (dt : Float32) : Vec3 :=
  c.eye + c.basis.2.1 * (0 * dt) + c.basis.2.2 * (0 * dt)

theorem kept_alike (heye : c.eye.IsFinite) (hdt : dt.isFinite = true) :
    Alike (c.kept dt).x c.eye.x ∧ Alike (c.kept dt).y c.eye.y ∧ Alike (c.kept dt).z c.eye.z := by
  have hright : c.basis.2.1.Small := Vec3.normalizedOr_small (by decide +kernel)
  have hup : c.basis.2.2.IsFinite := Vec3.cross_isFinite hright c.forward_small
  have hstep : (0 * dt == 0) = true :=
    Scalar.isZero_mul Scalar.isFinite_zero hdt (.inl (by decide))
  have hzero := Scalar.isFinite_of_isZero hstep
  have hcoordinate : ∀ {e r u : Float32}, e.isFinite = true → r.isFinite = true →
      u.isFinite = true → Alike (e + r * (0 * dt) + u * (0 * dt)) e := by
    intro e r u he hr hu
    have hfirst := Scalar.alike_add_zero he (Scalar.isZero_mul hr hzero (.inr hstep))
    have hfinite := hfirst.isFinite he
    have hsecond := Scalar.alike_add_zero hfinite (Scalar.isZero_mul hu hzero (.inr hstep))
    exact hsecond.trans hfirst
  exact ⟨hcoordinate heye.x hright.x hup.x, hcoordinate heye.y hright.y hup.y,
    hcoordinate heye.z hright.z hup.z⟩

/-! ## Where the eye comes out -/

/-- The vector by which a step of `s` forward displaces the eye from the target. -/
theorem stepOffset_forward (c : OrbitCamera) (z dt : Float32) :
    c.stepOffset ⟨0, 0, z⟩ dt = (c.kept dt).normalizedOr (-c.basis.1) * (c.distance - z * dt) := rfl

/-- What is left of the distance is no positive number. -/
theorem remaining_nonpos (h : c.InBounds) {s : Float32} (hs : s.isFinite = true)
    (hbeyond : c.distance ≤ s) :
    (c.distance - s).isFinite = true ∧ value (c.distance - s) ≤ 0 := by
  have hle := (Scalar.le_iff h.isFinite_distance hs).mp hbeyond
  have hfinite : (c.distance - s).isFinite = true := by
    refine (Scalar.sub_rounds h.isFinite_distance hs).finite ?_
    have hpos : (0 : ℝ) < value c.distance := by exact_mod_cast h.distance_pos
    have hle' : (value c.distance : ℝ) ≤ value s := by exact_mod_cast hle
    have hlargest := (abs_le.mp (Scalar.abs_value_le hs)).2
    rw [abs_of_nonpos (by linarith)]
    unfold Scalar.overflow
    linarith
  exact ⟨hfinite, Scalar.value_sub_nonpos h.isFinite_distance hs hfinite hle⟩

/-- One coordinate of a direction that is scaled twice, the second time by a negative number. -/
theorem mul_opposite {e r k : Float32} (he : e.isFinite = true) (hr : r.isFinite = true)
    (hk : k.isFinite = true) (her : (e * r).isFinite = true) (hr₀ : 0 ≤ value r)
    (hk₀ : value k ≤ 0) : value (e * r * k) * value e ≤ 0 := by
  obtain ⟨hpos, hneg⟩ := Scalar.value_mul_signs he hr
  obtain ⟨hpos', hneg'⟩ := Scalar.value_mul_signs her hk
  rcases le_total 0 (value e) with he₀ | he₀
  · have hdirection := hpos (mul_nonneg he₀ hr₀)
    exact mul_nonpos_of_nonpos_of_nonneg
      (hneg' (mul_nonpos_of_nonneg_of_nonpos hdirection hk₀)) he₀
  · have hdirection := hneg (mul_nonpos_of_nonpos_of_nonneg he₀ hr₀)
    exact mul_nonpos_of_nonneg_of_nonpos (hpos' (mul_nonneg_of_nonpos_of_nonpos hdirection hk₀)) he₀

/-- An eye with a direction keeps it. -/
theorem kept_normalized {n : Vec3} (hdt : dt.isFinite = true) (h : c.eye.normalized? = some n) :
    (c.kept dt).exact = c.eye.exact ∧ (c.kept dt).IsFinite
      ∧ ∃ n', (c.kept dt).normalized? = some n' := by
  obtain ⟨heye, -⟩ := Vec3.normalized?_small h
  obtain ⟨hx, hy, hz⟩ := kept_alike heye hdt
  have hlength := Vec3.length_eq_of_alike hx hy hz
  obtain ⟨hr, hrpos, -⟩ := Vec3.normalized?_eq_some.mp h
  rw [← hlength] at hr hrpos
  refine ⟨?_, ⟨hx.isFinite heye.x, hy.isFinite heye.y, hz.isFinite heye.z⟩, _,
    Vec3.normalized?_eq_some.mpr ⟨hr, hrpos, rfl⟩⟩
  unfold Vec3.exact
  rw [hx.value_eq, hy.value_eq, hz.value_eq]

theorem stepOffset_of_normalized {n : Vec3} (h : (c.kept dt).normalized? = some n) :
    c.stepOffset ⟨0, 0, z⟩ dt = n * (c.distance - z * dt) := by
  rw [stepOffset_forward]
  unfold Vec3.normalizedOr
  rw [h]
  rfl

/-- Beyond the target, no coordinate of the eye keeps its sign. -/
theorem stepOffset_dot_nonpos {n : Vec3} (h : c.InBounds) (hstep : (z * dt).isFinite = true)
    (hbeyond : c.distance ≤ z * dt) (hn : c.eye.normalized? = some n) :
    (c.stepOffset ⟨0, 0, z⟩ dt).exact.dot c.eye.exact ≤ 0 := by
  obtain ⟨-, hdt⟩ := Scalar.isFinite_of_mul hstep
  obtain ⟨hexact, hkept, n', hn'⟩ := kept_normalized hdt hn
  obtain ⟨hk, hk₀⟩ := remaining_nonpos h hstep hbeyond
  obtain ⟨-, hsmall⟩ := Vec3.normalized?_small hn'
  rw [stepOffset_of_normalized hn', ← hexact]
  obtain ⟨hr, hrpos, rfl⟩ := Vec3.normalized?_eq_some.mp hn'
  have hr₀ := ((Scalar.zero_lt_iff hr).mp hrpos).le
  exact add_nonpos (add_nonpos (mul_opposite hkept.x hr hk hsmall.x hr₀ hk₀)
    (mul_opposite hkept.y hr hk hsmall.y hr₀ hk₀)) (mul_opposite hkept.z hr hk hsmall.z hr₀ hk₀)

/-! ## How far it comes out -/

/-- A unit vector along an offset is of length one, up to rounding. -/
theorem along_length {n e : Offset ℝ} {t : ℝ} (ht : 0 < t) (hunit : |t * e.length - 1| ≤ 8 * ulp)
    (hdirection : (n - t * e).length ≤ 2 * ulp) : |n.length - 1| ≤ 10 * ulp := by
  have hclose := Offset.abs_length_sub_le n (t * e)
  rw [Offset.length_mul _ ht.le] at hclose
  have htriangle := abs_sub_le n.length (t * e.length) 1
  linarith

/-- It points in the direction of the offset. -/
theorem along_pos {n e : Offset ℝ} {t : ℝ} (hunit : |t * e.length - 1| ≤ 8 * ulp)
    (hdirection : (n - t * e).length ≤ 2 * ulp) : (1 - 10 * ulp) * e.length ≤ n.dot e := by
  have hdot := Offset.abs_dot_sub_le n e e t
  have hself : e.dot e = e.length ^ 2 := e.sq_length.symm
  have he := e.length_nonneg
  have hscaled := mul_le_mul_of_nonneg_right (abs_le.mp hunit).1 he
  have herror := mul_le_mul_of_nonneg_right hdirection he
  have hlow := (abs_le.mp hdot).1
  rw [hself] at hlow
  have hsquare : (t * e.length - 1) * e.length = t * e.length ^ 2 - e.length := by ring
  rw [hsquare] at hscaled
  linarith

/-- Scaled by a negative number, it points against it. -/
theorem opposite_neg {d n e : Offset ℝ} {k : ℝ} (hk : k < 0) (he : 0 < e.length)
    (halong : (1 - 10 * ulp) * e.length ≤ n.dot e)
    (hscaled : (d - k * n).length ≤ 2 * ulp * |k|) : d.dot e < 0 := by
  have hdot := (abs_le.mp (Offset.abs_dot_sub_le d n e k)).2
  have herror := mul_le_mul_of_nonneg_right hscaled he.le
  have hproduct := mul_le_mul_of_nonpos_left halong hk.le
  have hpos := mul_neg_of_neg_of_pos hk he
  rw [abs_of_neg hk] at herror
  have hlinear : k * ((1 - 10 * ulp) * e.length) = (1 - 10 * ulp) * (k * e.length) := by ring
  have hlinear' : 2 * ulp * -k * e.length = -(2 * ulp) * (k * e.length) := by ring
  rw [hlinear] at hproduct
  rw [hlinear'] at herror
  unfold ulp at *
  linarith

/-- By how much a step of `s` forward is longer than the distance. -/
def overshoot (c : OrbitCamera) (s : Float32) : ℚ := value s - value c.distance

/-- The eye is not so close to the target or so far off that its direction is rounded away: it is
between `2⁻⁵⁰` and `2⁶⁰` from it. -/
structure Apart (c : OrbitCamera) : Prop where
  finite : c.eye.IsFinite
  low : 1 / 2 ^ 100 ≤ c.eye.exact.lengthSq
  high : c.eye.exact.lengthSq ≤ 2 ^ 120

instance (c : OrbitCamera) : Decidable c.Apart :=
  decidable_of_iff (c.eye.IsFinite ∧ 1 / 2 ^ 100 ≤ c.eye.exact.lengthSq
      ∧ c.eye.exact.lengthSq ≤ 2 ^ 120)
    ⟨fun ⟨hfinite, hlow, hhigh⟩ => ⟨hfinite, hlow, hhigh⟩,
      fun ⟨hfinite, hlow, hhigh⟩ => ⟨hfinite, hlow, hhigh⟩⟩

theorem Apart.length_bounds (h : c.Apart) :
    1 / 2 ^ 50 ≤ c.eye.exact.real.length ∧ c.eye.exact.real.length ≤ 2 ^ 60 := by
  have hsq : c.eye.exact.real.lengthSq = (c.eye.exact.lengthSq : ℚ) := Offset.real_dot _ _
  have hlow := Rat.cast_le (K := ℝ).mpr h.low
  have hhigh := Rat.cast_le (K := ℝ).mpr h.high
  push_cast at hlow hhigh
  rw [← hsq] at hlow hhigh
  constructor
  · refine Real.le_sqrt_of_sq_le (le_trans ?_ hlow)
    norm_num
  · refine Real.sqrt_le_iff.mpr ⟨by positivity, hhigh.trans ?_⟩
    norm_num

/-- What is left of the distance is the overshoot, with a minus sign. -/
theorem remaining_near (h : c.InBounds) {s : Float32} (hs : s.isFinite = true)
    (hbeyond : c.distance ≤ s) :
    |(|(value (c.distance - s) : ℝ)|) - c.overshoot s| ≤ ulp * c.overshoot s := by
  obtain ⟨hfinite, hnonpos⟩ := remaining_nonpos h hs hbeyond
  have hle := (Scalar.le_iff h.isFinite_distance hs).mp hbeyond
  have hle' : (value c.distance : ℝ) ≤ value s := by exact_mod_cast hle
  have hnonpos' : (value (c.distance - s) : ℝ) ≤ 0 := by exact_mod_cast hnonpos
  have hnear := (Scalar.sub_rounds h.isFinite_distance hs).near hfinite
  rw [abs_of_nonpos (by linarith : (value c.distance : ℝ) - value s ≤ 0)] at hnear
  obtain ⟨hnear₁, hnear₂⟩ := abs_le.mp hnear
  unfold overshoot
  rw [abs_of_nonpos hnonpos', abs_le]
  push_cast
  constructor <;> linarith

/-- **Far enough from rounding, the eye comes out exactly opposite**, at a displacement as long as
the overshoot. -/
theorem stepOffset_opposite (h : c.InBounds) (hapart : c.Apart) (hstep : (z * dt).isFinite = true)
    (hbeyond : c.distance ≤ z * dt) (hlo : 1 / 2 ^ 48 ≤ c.overshoot (z * dt))
    (hhi : c.overshoot (z * dt) ≤ 2 ^ 58) :
    (c.stepOffset ⟨0, 0, z⟩ dt).exact.dot c.eye.exact < 0
      ∧ (c.stepOffset ⟨0, 0, z⟩ dt).length.isFinite = true
      ∧ |(value (c.stepOffset ⟨0, 0, z⟩ dt).length : ℝ) - c.overshoot (z * dt)|
        ≤ 21 * ulp * c.overshoot (z * dt) := by
  obtain ⟨-, hdt⟩ := Scalar.isFinite_of_mul hstep
  obtain ⟨hlow, hhigh⟩ := hapart.length_bounds
  obtain ⟨n₀, -, hn₀, -⟩ := Vec3.normalized?_near hapart.finite hlow hhigh
  obtain ⟨hexact, hkept, -⟩ := kept_normalized hdt hn₀
  -- the eye itself may differ in the signs of zeros from the vector that is normalized
  rw [← hexact] at hlow hhigh ⊢
  obtain ⟨n, t, hn, hnFinite, ht, hunit, hdirection⟩ := Vec3.normalized?_near hkept hlow hhigh
  rw [stepOffset_of_normalized hn]
  obtain ⟨hk, hk₀⟩ := remaining_nonpos h hstep hbeyond
  have hsize := remaining_near h hstep hbeyond
  have hk₀' : (value (c.distance - z * dt) : ℝ) ≤ 0 := by exact_mod_cast hk₀
  have hlo' := Rat.cast_le (K := ℝ).mpr hlo
  have hhi' := Rat.cast_le (K := ℝ).mpr hhi
  push_cast at hlo' hhi'
  generalize c.distance - z * dt = k at *
  generalize (c.overshoot (z * dt) : ℝ) = d at *
  obtain ⟨hsize₁, hsize₂⟩ := abs_le.mp hsize
  have hklo : 1 / 2 ^ 49 ≤ |(value k : ℝ)| := by
    unfold ulp at hsize₁
    linarith
  have hkhi : |(value k : ℝ)| ≤ 2 ^ 59 := by
    unfold ulp at hsize₂
    linarith
  have hlength := along_length ht hunit hdirection
  refine ⟨?_, ?_⟩
  · obtain ⟨-, hscaled⟩ := Vec3.scaled_near hnFinite hlength hk hklo hkhi
    have hneg : (value k : ℝ) < 0 := by
      rw [abs_of_nonpos hk₀'] at hklo
      linarith
    have hdot := opposite_neg hneg (lt_of_lt_of_le (by positivity) hlow)
      (along_pos hunit hdirection) hscaled
    rw [Offset.real_dot] at hdot
    exact_mod_cast hdot
  · obtain ⟨hlengthFinite, hnear⟩ := Vec3.scaled_length_near hnFinite hlength hk hklo hkhi
    refine ⟨hlengthFinite, ?_⟩
    have htriangle := abs_sub_le (value (n * k).length : ℝ) (|(value k : ℝ)|) d
    unfold ulp at *
    linarith

/-- The new distance is the overshoot, clamped. -/
theorem placed_distance_near {offset : Vec3} {d err : ℝ} (h : c.config.Bounded)
    (hlength : offset.length.isFinite = true) (hnear : |(value offset.length : ℝ) - d| ≤ err) :
    |(value (c.placed offset).distance : ℝ)
      - max (value c.config.minDistance : ℝ) (min d (value c.config.maxDistance))| ≤ err := by
  have hclamp := Scalar.value_clamp hlength h.isFinite_minDistance h.high h.ordered
  change |((value (Scalar.clamp _ _ offset.length) : ℚ) : ℝ) - _| ≤ err
  rw [hclamp]
  push_cast
  refine le_trans ?_ hnear
  refine (abs_max_sub_max_le_max _ _ _ _).trans ?_
  rw [sub_self, abs_zero]
  refine max_le (abs_nonneg _) ((abs_min_sub_min_le_max _ _ _ _).trans ?_)
  rw [sub_self, abs_zero]
  exact max_le le_rfl (abs_nonneg _)

/-- **A step forward of at least the distance goes through the target.** It does not fail, and the
distance stays within its bounds, but the new displacement of the eye is never on the side where the
eye was; where nothing is rounded away it is on the other side, and the distance is the overshoot,
clamped. -/
theorem moveBy_passes_target (h : c.InBounds) (hstep : (z * dt).isFinite = true)
    (hbeyond : c.distance ≤ z * dt) :
    ∃ offset, c.moveBy ⟨0, 0, z⟩ dt = .ok (c.placed offset) ∧ (c.placed offset).InBounds
      ∧ (∀ n, c.eye.normalized? = some n → offset.exact.dot c.eye.exact ≤ 0)
      ∧ (c.Apart → 1 / 2 ^ 48 ≤ c.overshoot (z * dt) → c.overshoot (z * dt) ≤ 2 ^ 58 →
        offset.exact.dot c.eye.exact < 0
          ∧ |value (c.placed offset).distance - max (value c.config.minDistance)
              (min (c.overshoot (z * dt)) (value c.config.maxDistance))|
            ≤ 21 / 2 ^ 23 * c.overshoot (z * dt)) := by
  obtain ⟨hremaining, -⟩ := remaining_nonpos h hstep hbeyond
  have hdefined : (c.stepOffset ⟨0, 0, z⟩ dt).Defined :=
    Vec3.mul_defined (c.outward_small _ _).toIsFinite hremaining
  refine ⟨c.stepOffset ⟨0, 0, z⟩ dt, ?_, placed_inBounds h.bounded hdefined, ?_, ?_⟩
  · rw [moveBy_eq, setOffset_eq h.bounded.ordered]
  · intro n hn
    exact stepOffset_dot_nonpos h hstep hbeyond hn
  · intro hapart hlo hhi
    obtain ⟨hdot, hlength, hnear⟩ := stepOffset_opposite h hapart hstep hbeyond hlo hhi
    refine ⟨hdot, Rat.cast_le (K := ℝ).mp ?_⟩
    have hdistance := placed_distance_near h.bounded hlength hnear
    unfold ulp at hdistance
    rw [mul_one_div] at hdistance
    push_cast
    exact hdistance

/-- Four in front of the target, at its height. -/
def frontView : OrbitCamera := { config := {}, distance := 4 }

theorem moveBy_passes_frontView :
    frontView.config.Usable ∧ frontView.InBounds ∧ (6 * 1 : Float32).isFinite = true
      ∧ frontView.distance ≤ 6 * 1 ∧ frontView.Apart ∧ frontView.overshoot (6 * 1) = 2
      ∧ ∃ offset, frontView.moveBy ⟨0, 0, 6⟩ 1 = .ok (frontView.placed offset)
        ∧ (frontView.placed offset).InBounds
        ∧ offset.exact.dot frontView.eye.exact < 0
        ∧ |value (frontView.placed offset).distance - max (value frontView.config.minDistance)
            (min (frontView.overshoot (6 * 1)) (value frontView.config.maxDistance))|
          ≤ 21 / 2 ^ 23 * frontView.overshoot (6 * 1) := by
  have hbounds : frontView.InBounds := ⟨by decide, by decide, by decide⟩
  have hapart : frontView.Apart := by decide +kernel
  have hovershoot : frontView.overshoot (6 * 1) = 2 := by decide +kernel
  obtain ⟨offset, hmove, hplaced, -, hopposite⟩ :=
    moveBy_passes_target hbounds (by decide : (6 * 1 : Float32).isFinite = true) (by decide)
  obtain ⟨hdot, hnear⟩ := hopposite hapart (by rw [hovershoot]; norm_num)
    (by rw [hovershoot]; norm_num)
  exact ⟨by decide, hbounds, by decide, by decide, hapart, hovershoot, offset, hmove, hplaced, hdot,
    hnear⟩

/-- The eye stops two behind the target and not at the least distance in front of it. -/
theorem frontView_ends_behind :
    frontView.config.Usable ∧ frontView.InBounds ∧ OffPoles frontView.phi
      ∧ frontView.distance ≤ 6 * 1
      ∧ ((frontView.moveBy ⟨0, 0, 6⟩ 1).toOption.any fun c =>
        decide (frontView.eye.dot c.eye < 0) && c.distance == 2
          && !(c.distance == c.config.minDistance)) = true :=
  ⟨by decide, ⟨by decide, by decide, by decide⟩, by decide, by decide, by decide +kernel⟩

/-! ## Onto the target -/

/-- **A step forward of exactly the distance, whatever goes to the side, leaves the polar angle
undefined.** -/
theorem moveBy_onto_target (h : c.InBounds) {direction : Vec3}
    (hstep : (direction.z * dt).isFinite = true)
    (hexact : value (direction.z * dt) = value c.distance) :
    ∃ c', c.moveBy direction dt = .ok c' ∧ c'.distance = c.config.minDistance
      ∧ c'.phi.isNaN = true := by
  have hremaining : (c.distance - direction.z * dt == 0) = true := by
    have hrounds := Scalar.sub_rounds h.isFinite_distance hstep
    rw [hexact, sub_self, abs_zero, mul_zero] at hrounds
    have hfinite := hrounds.finite (by
      rw [abs_zero]
      exact Scalar.lt_overflow (by positivity))
    have hzero := abs_nonpos_iff.mp (hrounds.near hfinite)
    rw [sub_zero] at hzero
    exact Scalar.isZero_of_value hfinite (by exact_mod_cast hzero)
  have houtward := (c.outward_small (direction.x * dt) (direction.y * dt)).toIsFinite
  have hdefined : (c.stepOffset direction dt).Defined :=
    Vec3.mul_defined houtward (Scalar.isFinite_of_isZero hremaining)
  obtain ⟨hheight, hlength⟩ : ((c.stepOffset direction dt).y == 0) = true
      ∧ (c.stepOffset direction dt).length = 0 := Vec3.mul_zero_length houtward hremaining
  have hundirected : Undirected (c.stepOffset direction dt) := by
    refine .inr ⟨hheight, ?_⟩
    rw [hlength]
    decide
  refine ⟨c.placed (c.stepOffset direction dt), ?_, ?_, ?_⟩
  · rw [moveBy_eq, setOffset_eq h.bounded.ordered]
  · show Scalar.clamp _ _ (c.stepOffset direction dt).length = _
    rw [hlength]
    unfold Scalar.clamp
    rw [if_pos h.bounded.low]
    exact if_neg (Scalar.not_lt_of_le h.bounded.ordered)
  · exact polarAngle_undirected hdefined hundirected

end OrbitCamera

end Facet
