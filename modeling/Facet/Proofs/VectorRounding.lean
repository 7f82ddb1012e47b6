import Facet.Proofs.ScalarRounding
import Facet.Vector

/-!
# Rounding of vector operations

An `Offset` is a displacement in exact coordinates. This module says how far the operations on
vectors stray from those on offsets: differences hold in every coordinate, products, lengths and
unit vectors within a few units in the last place of the length.
-/

namespace Facet

open Scalar (value ulp tiny)

/-! ## Offsets -/

/-- A displacement in exact coordinates. -/
@[ext] structure Offset (R : Type) where
  x : R
  y : R
  z : R
deriving DecidableEq

namespace Offset

section Ring

variable {R : Type} [CommRing R]

instance : Add (Offset R) := ⟨fun d e => ⟨d.x + e.x, d.y + e.y, d.z + e.z⟩⟩
instance : Sub (Offset R) := ⟨fun d e => ⟨d.x - e.x, d.y - e.y, d.z - e.z⟩⟩
instance : HMul R (Offset R) (Offset R) := ⟨fun k d => ⟨k * d.x, k * d.y, k * d.z⟩⟩

def dot (d e : Offset R) : R := d.x * e.x + d.y * e.y + d.z * e.z

def cross (d e : Offset R) : Offset R :=
  ⟨d.y * e.z - e.y * d.z, d.z * e.x - e.z * d.x, d.x * e.y - e.x * d.y⟩

def lengthSq (d : Offset R) : R := d.dot d

@[simp] theorem add_x (d e : Offset R) : (d + e).x = d.x + e.x := rfl
@[simp] theorem add_y (d e : Offset R) : (d + e).y = d.y + e.y := rfl
@[simp] theorem add_z (d e : Offset R) : (d + e).z = d.z + e.z := rfl
@[simp] theorem sub_x (d e : Offset R) : (d - e).x = d.x - e.x := rfl
@[simp] theorem sub_y (d e : Offset R) : (d - e).y = d.y - e.y := rfl
@[simp] theorem sub_z (d e : Offset R) : (d - e).z = d.z - e.z := rfl
@[simp] theorem mul_x (k : R) (d : Offset R) : (k * d).x = k * d.x := rfl
@[simp] theorem mul_y (k : R) (d : Offset R) : (k * d).y = k * d.y := rfl
@[simp] theorem mul_z (k : R) (d : Offset R) : (k * d).z = k * d.z := rfl

theorem dot_comm (d e : Offset R) : d.dot e = e.dot d := by
  unfold dot
  ring

theorem add_dot (d d' e : Offset R) : (d + d').dot e = d.dot e + d'.dot e := by
  simp only [dot, add_x, add_y, add_z]
  ring

theorem mul_dot (k : R) (d e : Offset R) : (k * d).dot e = k * d.dot e := by
  simp only [dot, mul_x, mul_y, mul_z]
  ring

theorem add_sub_cancel (d e : Offset R) : d + (e - d) = e := by
  ext <;> simp

end Ring

/-! ## Lengths -/

noncomputable def length (d : Offset ℝ) : ℝ := √d.lengthSq

variable (d e : Offset ℝ)

theorem lengthSq_nonneg : 0 ≤ d.lengthSq :=
  add_nonneg (add_nonneg (mul_self_nonneg d.x) (mul_self_nonneg d.y)) (mul_self_nonneg d.z)

theorem length_nonneg : 0 ≤ d.length := Real.sqrt_nonneg _

theorem sq_length : d.length ^ 2 = d.lengthSq := Real.sq_sqrt d.lengthSq_nonneg

theorem abs_dot_le : |d.dot e| ≤ d.length * e.length := by
  unfold length
  rw [← Real.sqrt_mul d.lengthSq_nonneg]
  refine Real.abs_le_sqrt ?_
  unfold lengthSq dot
  nlinarith [sq_nonneg (d.x * e.y - d.y * e.x), sq_nonneg (d.y * e.z - d.z * e.y),
    sq_nonneg (d.z * e.x - d.x * e.z)]

theorem length_add_le : (d + e).length ≤ d.length + e.length := by
  refine Real.sqrt_le_iff.mpr ⟨add_nonneg d.length_nonneg e.length_nonneg, ?_⟩
  have hcross := (abs_le.mp (abs_dot_le d e)).2
  have hsum : (d + e).lengthSq = d.lengthSq + 2 * d.dot e + e.lengthSq := by
    simp only [lengthSq, dot, add_x, add_y, add_z]
    ring
  rw [hsum, ← sq_length, ← sq_length]
  nlinarith

theorem length_mul_abs (k : ℝ) : (k * d).length = |k| * d.length := by
  have hsq : (k * d).lengthSq = k ^ 2 * d.lengthSq := by
    simp only [lengthSq, dot, mul_x, mul_y, mul_z]
    ring
  unfold length
  rw [hsq, Real.sqrt_mul (sq_nonneg k), Real.sqrt_sq_eq_abs]

theorem length_mul {k : ℝ} (hk : 0 ≤ k) : (k * d).length = k * d.length := by
  rw [length_mul_abs, abs_of_nonneg hk]

theorem abs_x_le : |d.x| ≤ d.length := by
  refine Real.abs_le_sqrt ?_
  unfold lengthSq dot
  nlinarith [sq_nonneg d.y, sq_nonneg d.z]

theorem abs_y_le : |d.y| ≤ d.length := by
  refine Real.abs_le_sqrt ?_
  unfold lengthSq dot
  nlinarith [sq_nonneg d.x, sq_nonneg d.z]

theorem abs_z_le : |d.z| ≤ d.length := by
  refine Real.abs_le_sqrt ?_
  unfold lengthSq dot
  nlinarith [sq_nonneg d.x, sq_nonneg d.y]

/-- The offset with the absolute values of the coordinates. -/
def magnitude : Offset ℝ := ⟨|d.x|, |d.y|, |d.z|⟩

theorem length_magnitude : d.magnitude.length = d.length := by
  unfold length lengthSq dot magnitude
  simp only [abs_mul_abs_self]

theorem sum_abs_le : |d.x * e.x| + |d.y * e.y| + |d.z * e.z| ≤ d.length * e.length := by
  have h := (abs_le.mp (abs_dot_le d.magnitude e.magnitude)).2
  rw [length_magnitude, length_magnitude] at h
  simpa only [dot, magnitude, abs_mul] using h

variable {d e}

/-- An offset with larger coordinates, whatever their signs, is longer. -/
theorem length_le_of_abs_le (hx : |d.x| ≤ |e.x|) (hy : |d.y| ≤ |e.y|) (hz : |d.z| ≤ |e.z|) :
    d.length ≤ e.length := by
  refine Real.sqrt_le_sqrt ?_
  have hx' := sq_le_sq.mpr hx
  have hy' := sq_le_sq.mpr hy
  have hz' := sq_le_sq.mpr hz
  unfold lengthSq dot
  nlinarith

/-- Errors in proportion to the coordinates of an offset, and a constant besides. -/
theorem length_le_of_errors {k t : ℝ} (hk : 0 ≤ k) (ht : 0 ≤ t) (hx : |d.x| ≤ k * |e.x| + t)
    (hy : |d.y| ≤ k * |e.y| + t) (hz : |d.z| ≤ k * |e.z| + t) :
    d.length ≤ k * e.length + 2 * t := by
  have hconstant : (⟨t, t, t⟩ : Offset ℝ).length ≤ 2 * t := by
    refine Real.sqrt_le_iff.mpr ⟨by positivity, ?_⟩
    unfold lengthSq dot
    nlinarith [sq_nonneg t]
  have hbound : d.length ≤ (k * e.magnitude + (⟨t, t, t⟩ : Offset ℝ)).length :=
    length_le_of_abs_le (hx.trans (le_abs_self _)) (hy.trans (le_abs_self _))
      (hz.trans (le_abs_self _))
  have hsum := length_add_le (k * e.magnitude) ⟨t, t, t⟩
  rw [length_mul _ hk, length_magnitude] at hsum
  linarith

/-- The size of the six products that a cross product subtracts in pairs. -/
theorem length_products_le (d e : Offset ℝ) :
    (⟨|d.y * e.z| + |e.y * d.z|, |d.z * e.x| + |e.z * d.x|, |d.x * e.y| + |e.x * d.y|⟩
      : Offset ℝ).length ≤ 3 / 2 * (d.length * e.length) := by
  refine Real.sqrt_le_iff.mpr ⟨?_, ?_⟩
  · have := d.length_nonneg
    have := e.length_nonneg
    positivity
  · have hpair : ∀ s t : ℝ, (|s| + |t|) * (|s| + |t|) ≤ 2 * (s ^ 2 + t ^ 2) := by
      intro s t
      nlinarith [sq_nonneg (|s| - |t|), sq_abs s, sq_abs t]
    have hx := hpair (d.y * e.z) (e.y * d.z)
    have hy := hpair (d.z * e.x) (e.z * d.x)
    have hz := hpair (d.x * e.y) (e.x * d.y)
    have hproduct := mul_nonneg d.lengthSq_nonneg e.lengthSq_nonneg
    have htotal : (⟨|d.y * e.z| + |e.y * d.z|, |d.z * e.x| + |e.z * d.x|,
        |d.x * e.y| + |e.x * d.y|⟩ : Offset ℝ).lengthSq ≤ 2 * (d.lengthSq * e.lengthSq) := by
      unfold lengthSq dot
      linarith [sq_nonneg (d.x * e.x), sq_nonneg (d.y * e.y), sq_nonneg (d.z * e.z)]
    rw [mul_pow, mul_pow, sq_length, sq_length]
    linarith

theorem length_cross_le (d e : Offset ℝ) : (d.cross e).length ≤ d.length * e.length := by
  unfold length
  rw [← Real.sqrt_mul d.lengthSq_nonneg]
  refine Real.sqrt_le_sqrt ?_
  -- what is missing is the square of the scalar product
  unfold lengthSq dot cross
  nlinarith [sq_nonneg (d.x * e.x + d.y * e.y + d.z * e.z)]

theorem length_sub_comm (d e : Offset ℝ) : (d - e).length = (e - d).length := by
  unfold length lengthSq dot
  congr 1
  simp only [sub_x, sub_y, sub_z]
  ring

/-- What is close to an offset is almost as long. -/
theorem abs_length_sub_le (d e : Offset ℝ) : |d.length - e.length| ≤ (d - e).length := by
  have h₁ := length_add_le e (d - e)
  have h₂ := length_add_le d (e - d)
  rw [add_sub_cancel] at h₁ h₂
  rw [length_sub_comm e d] at h₂
  rw [abs_le]
  constructor <;> linarith

/-- What is close to a multiple of an offset has almost its scalar products. -/
theorem abs_dot_sub_le (d n e : Offset ℝ) (k : ℝ) :
    |d.dot e - k * n.dot e| ≤ (d - k * n).length * e.length := by
  have hsplit : d.dot e - k * n.dot e = (d - k * n).dot e := by
    simp only [dot, sub_x, sub_y, sub_z, mul_x, mul_y, mul_z]
    ring
  rw [hsplit]
  exact abs_dot_le _ _

/-- The same offset in real coordinates. -/
noncomputable def real (d : Offset ℚ) : Offset ℝ := ⟨d.x, d.y, d.z⟩

theorem real_sub (d e : Offset ℚ) : (d - e).real = d.real - e.real := by
  ext <;> simp [real]

theorem real_dot (d e : Offset ℚ) : d.real.dot e.real = (d.dot e : ℚ) := by
  simp only [real, dot]
  push_cast
  ring

theorem real_cross (d e : Offset ℚ) : (d.cross e).real = d.real.cross e.real := by
  ext <;> simp [real, cross]

end Offset

/-! ## Errors that add up -/

namespace Scalar

theorem ulp_nonneg : 0 ≤ ulp := by
  unfold ulp
  positivity

theorem tiny_nonneg : 0 ≤ tiny := by
  unfold tiny
  positivity

variable {x y : Float32} {s t ex ey : ℝ}

theorem product_near (hx : x.isFinite = true) (hy : y.isFinite = true)
    (hmax : |(value x : ℝ) * value y| < 2 ^ 127) :
    (x * y).isFinite = true
      ∧ |(value (x * y) : ℝ) - value x * value y| ≤ ulp * |(value x : ℝ) * value y| + tiny := by
  obtain ⟨hfinite, hnear⟩ := mul_near hx hy hmax
  exact ⟨hfinite, hnear.trans
    (max_le_add_of_nonneg (mul_nonneg ulp_nonneg (abs_nonneg _)) tiny_nonneg)⟩

theorem abs_add_value_le (hs : |(value x : ℝ) - s| ≤ ex) (ht : |(value y : ℝ) - t| ≤ ey) :
    |(value x : ℝ) + value y| ≤ |s| + |t| + ex + ey := by
  have h₁ := abs_add_le (value x : ℝ) (value y)
  have h₂ := abs_sub_abs_le_abs_sub (value x : ℝ) s
  have h₃ := abs_sub_abs_le_abs_sub (value y : ℝ) t
  linarith

/-- A finite sum of scalars that stand for `s` and `t`. -/
theorem sum_near_of_finite (hfinite : (x + y).isFinite = true) (hx : x.isFinite = true)
    (hy : y.isFinite = true) (hs : |(value x : ℝ) - s| ≤ ex) (ht : |(value y : ℝ) - t| ≤ ey) :
    |(value (x + y) : ℝ) - (s + t)| ≤ ex + ey + ulp * (|s| + |t| + ex + ey) := by
  have hinner : |(value x : ℝ) + value y - (s + t)| ≤ ex + ey := by
    rw [add_sub_add_comm]
    exact (abs_add_le _ _).trans (add_le_add hs ht)
  calc |(value (x + y) : ℝ) - (s + t)| ≤ _ := abs_sub_le _ ((value x : ℝ) + value y) _
    _ ≤ ulp * (|s| + |t| + ex + ey) + (ex + ey) :=
        add_le_add (((add_rounds hx hy).near hfinite).trans
          (mul_le_mul_of_nonneg_left (abs_add_value_le hs ht) ulp_nonneg)) hinner
    _ = _ := add_comm _ _

/-- A sum of scalars that stand for `s` and `t`. -/
theorem sum_near (hx : x.isFinite = true) (hy : y.isFinite = true) (hs : |(value x : ℝ) - s| ≤ ex)
    (ht : |(value y : ℝ) - t| ≤ ey) (hmax : |s| + |t| + ex + ey < 2 ^ 127) :
    (x + y).isFinite = true
      ∧ |(value (x + y) : ℝ) - (s + t)| ≤ ex + ey + ulp * (|s| + |t| + ex + ey) :=
  have hfinite := (add_near hx hy ((abs_add_value_le hs ht).trans_lt hmax)).1
  ⟨hfinite, sum_near_of_finite hfinite hx hy hs ht⟩

/-- A difference of scalars that stand for `s` and `t`. -/
theorem difference_near (hx : x.isFinite = true) (hy : y.isFinite = true)
    (hs : |(value x : ℝ) - s| ≤ ex) (ht : |(value y : ℝ) - t| ≤ ey)
    (hmax : |s| + |t| + ex + ey < 2 ^ 127) :
    (x - y).isFinite = true
      ∧ |(value (x - y) : ℝ) - (s - t)| ≤ ex + ey + ulp * (|s| + |t| + ex + ey) := by
  have hsize : |(value x : ℝ) - value y| ≤ |s| + |t| + ex + ey := by
    have h₁ := abs_sub (value x : ℝ) (value y)
    have h₂ := abs_sub_abs_le_abs_sub (value x : ℝ) s
    have h₃ := abs_sub_abs_le_abs_sub (value y : ℝ) t
    linarith
  obtain ⟨hfinite, hnear⟩ := sub_near hx hy (hsize.trans_lt hmax)
  refine ⟨hfinite, ?_⟩
  have hinner : |(value x : ℝ) - value y - (s - t)| ≤ ex + ey := by
    rw [sub_sub_sub_comm]
    exact (abs_sub _ _).trans (add_le_add hs ht)
  calc |(value (x - y) : ℝ) - (s - t)| ≤ _ := abs_sub_le _ ((value x : ℝ) - value y) _
    _ ≤ ulp * (|s| + |t| + ex + ey) + (ex + ey) :=
        add_le_add (hnear.trans (mul_le_mul_of_nonneg_left hsize ulp_nonneg)) hinner
    _ = _ := add_comm _ _

end Scalar

/-! ## Vectors -/

namespace Vec3

open Scalar (ulp_nonneg tiny_nonneg)

/-- No coordinate is infinite or NaN. -/
structure IsFinite (a : Vec3) : Prop where
  x : a.x.isFinite = true
  y : a.y.isFinite = true
  z : a.z.isFinite = true

instance (a : Vec3) : Decidable a.IsFinite :=
  decidable_of_iff (a.x.isFinite = true ∧ a.y.isFinite = true ∧ a.z.isFinite = true)
    ⟨fun h => ⟨h.1, h.2.1, h.2.2⟩, fun h => ⟨h.x, h.y, h.z⟩⟩

/-- The exact coordinates of a vector. -/
def exact (a : Vec3) : Offset ℚ := ⟨value a.x, value a.y, value a.z⟩

/-- Each coordinate of `d` is off by at most one unit in the last place. -/
structure Rounds (d e : Offset ℝ) : Prop where
  x : |d.x - e.x| ≤ ulp * |e.x|
  y : |d.y - e.y| ≤ ulp * |e.y|
  z : |d.z - e.z| ≤ ulp * |e.z|

variable {a b : Vec3}

/-- **Differences round in every coordinate.** -/
theorem sub_rounds (ha : a.IsFinite) (hb : b.IsFinite)
    (hmax : (a.exact.real - b.exact.real).length < 2 ^ 127) :
    (a - b).IsFinite ∧ Rounds (a - b).exact.real (a.exact.real - b.exact.real) := by
  obtain ⟨hx, hx'⟩ := Scalar.sub_near ha.x hb.x ((Offset.abs_x_le _).trans_lt hmax)
  obtain ⟨hy, hy'⟩ := Scalar.sub_near ha.y hb.y ((Offset.abs_y_le _).trans_lt hmax)
  obtain ⟨hz, hz'⟩ := Scalar.sub_near ha.z hb.z ((Offset.abs_z_le _).trans_lt hmax)
  exact ⟨⟨hx, hy, hz⟩, ⟨hx', hy', hz'⟩⟩

theorem Rounds.length_sub_le {d e : Offset ℝ} (h : Rounds d e) :
    (d - e).length ≤ ulp * e.length := by
  have hlength := Offset.length_le_of_errors (d := d - e) (e := e) ulp_nonneg le_rfl
    (by rw [add_zero]; exact h.x) (by rw [add_zero]; exact h.y) (by rw [add_zero]; exact h.z)
  linarith

/-! ## Products -/

theorem abs_mul_sub_mul_le {s t s' t' : ℝ} (hs : |s - s'| ≤ ulp * |s'|)
    (ht : |t - t'| ≤ ulp * |t'|) : |s * t - s' * t'| ≤ (2 * ulp + ulp ^ 2) * |s' * t'| := by
  have hsplit : s * t - s' * t' = (s - s') * (t - t') + (s - s') * t' + s' * (t - t') := by ring
  have h₁ : |(s - s') * (t - t')| ≤ ulp * |s'| * (ulp * |t'|) := by
    rw [abs_mul]
    exact mul_le_mul hs ht (abs_nonneg _) (by have := ulp_nonneg; positivity)
  have h₂ : |(s - s') * t'| ≤ ulp * |s'| * |t'| := by
    rw [abs_mul]
    exact mul_le_mul_of_nonneg_right hs (abs_nonneg _)
  have h₃ : |s' * (t - t')| ≤ |s'| * (ulp * |t'|) := by
    rw [abs_mul]
    exact mul_le_mul_of_nonneg_left ht (abs_nonneg _)
  rw [hsplit, abs_mul s' t']
  refine (abs_add_three _ _ _).trans ?_
  linarith

/-- One coordinate of a cross product. -/
theorem mul_sub_mul_near {p q r s : Float32} {p' q' r' s' : ℝ} (hp : p.isFinite = true)
    (hq : q.isFinite = true) (hr : r.isFinite = true) (hs : s.isFinite = true)
    (hp' : |(value p : ℝ) - p'| ≤ ulp * |p'|) (hq' : |(value q : ℝ) - q'| ≤ ulp * |q'|)
    (hr' : |(value r : ℝ) - r'| ≤ ulp * |r'|) (hs' : |(value s : ℝ) - s'| ≤ ulp * |s'|)
    (hmax : |p' * q'| ≤ 2 ^ 120) (hmax' : |r' * s'| ≤ 2 ^ 120) :
    (p * q - r * s).isFinite = true
      ∧ |(value (p * q - r * s) : ℝ) - (p' * q' - r' * s')|
        ≤ 401 / 100 * ulp * (|p' * q'| + |r' * s'|) + 3 * tiny := by
  -- one product
  have hproduct : ∀ {p q : Float32} {p' q' : ℝ}, p.isFinite = true → q.isFinite = true →
      |(value p : ℝ) - p'| ≤ ulp * |p'| → |(value q : ℝ) - q'| ≤ ulp * |q'| →
      |p' * q'| ≤ 2 ^ 120 → (p * q).isFinite = true
        ∧ |(value (p * q) : ℝ) - p' * q'| ≤ 3001 / 1000 * ulp * |p' * q'| + tiny := by
    intro p q p' q' hp hq hp' hq' hmax
    have hexact := abs_mul_sub_mul_le hp' hq'
    have hsize : |(value p : ℝ) * value q| ≤ (1 + 2 * ulp + ulp ^ 2) * |p' * q'| := by
      have := abs_sub_abs_le_abs_sub ((value p : ℝ) * value q) (p' * q')
      linarith
    obtain ⟨hfinite, hnear⟩ := Scalar.product_near hp hq (by unfold ulp at hsize; linarith)
    refine ⟨hfinite, ?_⟩
    have hsum := abs_sub_le (value (p * q) : ℝ) (value p * value q) (p' * q')
    have hrounded := mul_le_mul_of_nonneg_left hsize ulp_nonneg
    have := abs_nonneg (p' * q')
    unfold ulp at *
    linarith
  obtain ⟨hfinite, hnear⟩ := hproduct hp hq hp' hq' hmax
  obtain ⟨hfinite', hnear'⟩ := hproduct hr hs hr' hs' hmax'
  have hpq := abs_nonneg (p' * q')
  have hrs := abs_nonneg (r' * s')
  obtain ⟨hdifference, herror⟩ := Scalar.difference_near hfinite hfinite' hnear hnear' (by
    unfold ulp tiny
    linarith)
  refine ⟨hdifference, herror.trans ?_⟩
  unfold ulp tiny
  linarith

/-- The length of what a cross product is off by. -/
theorem cross_near {d e : Offset ℝ} (ha : a.IsFinite) (hb : b.IsFinite)
    (had : Rounds a.exact.real d) (hbe : Rounds b.exact.real e)
    (hmax : d.length * e.length ≤ 2 ^ 120) :
    (a.cross b).IsFinite ∧ ((a.cross b).exact.real - d.cross e).length
      ≤ 6015 / 1000 * ulp * (d.length * e.length) + 6 * tiny := by
  have hle : ∀ {s t : ℝ}, |s| ≤ d.length → |t| ≤ e.length → |s * t| ≤ 2 ^ 120 := by
    intro s t hs ht
    rw [abs_mul]
    exact (mul_le_mul hs ht (abs_nonneg _) d.length_nonneg).trans hmax
  have hle' : ∀ {s t : ℝ}, |s| ≤ e.length → |t| ≤ d.length → |s * t| ≤ 2 ^ 120 := by
    intro s t hs ht
    rw [mul_comm]
    exact hle ht hs
  obtain ⟨hx, hx'⟩ := mul_sub_mul_near ha.y hb.z hb.y ha.z had.y hbe.z hbe.y had.z
    (hle d.abs_y_le e.abs_z_le) (hle' e.abs_y_le d.abs_z_le)
  obtain ⟨hy, hy'⟩ := mul_sub_mul_near ha.z hb.x hb.z ha.x had.z hbe.x hbe.z had.x
    (hle d.abs_z_le e.abs_x_le) (hle' e.abs_z_le d.abs_x_le)
  obtain ⟨hz, hz'⟩ := mul_sub_mul_near ha.x hb.y hb.x ha.y had.x hbe.y hbe.x had.y
    (hle d.abs_x_le e.abs_y_le) (hle' e.abs_x_le d.abs_y_le)
  refine ⟨⟨hx, hy, hz⟩, ?_⟩
  have hproducts := Offset.length_products_le d e
  have := ulp_nonneg
  have := tiny_nonneg
  have habs : ∀ s t : ℝ, |(|s| + |t|)| = |s| + |t| := fun s t => abs_of_nonneg (by positivity)
  have hlength := Offset.length_le_of_errors (d := (a.cross b).exact.real - d.cross e)
    (e := ⟨|d.y * e.z| + |e.y * d.z|, |d.z * e.x| + |e.z * d.x|, |d.x * e.y| + |e.x * d.y|⟩)
    (k := 401 / 100 * ulp) (t := 3 * tiny) (by positivity) (by positivity)
    (by rw [habs]; exact hx') (by rw [habs]; exact hy') (by rw [habs]; exact hz')
  calc ((a.cross b).exact.real - d.cross e).length ≤ _ := hlength
    _ ≤ 401 / 100 * ulp * (3 / 2 * (d.length * e.length)) + 2 * (3 * tiny) :=
        by gcongr
    _ = _ := by ring

/-- **Scalar products round in proportion to the lengths.** -/
theorem dot_near (ha : a.IsFinite) (hb : b.IsFinite)
    (hmax : a.exact.real.length * b.exact.real.length ≤ 2 ^ 120) :
    (a.dot b).isFinite = true
      ∧ |(value (a.dot b) : ℝ) - a.exact.real.dot b.exact.real|
        ≤ 4 * ulp * (a.exact.real.length * b.exact.real.length) + 5 * tiny := by
  have hsum := Offset.sum_abs_le a.exact.real b.exact.real
  have hdot : a.exact.real.dot b.exact.real
      = value a.x * value b.x + value a.y * value b.y + value a.z * value b.z := rfl
  rw [hdot]
  change |(value a.x : ℝ) * value b.x| + |(value a.y : ℝ) * value b.y|
    + |(value a.z : ℝ) * value b.z| ≤ _ at hsum
  generalize a.exact.real.length * b.exact.real.length = l at hsum hmax ⊢
  have hx₀ := abs_nonneg ((value a.x : ℝ) * value b.x)
  have hy₀ := abs_nonneg ((value a.y : ℝ) * value b.y)
  have hz₀ := abs_nonneg ((value a.z : ℝ) * value b.z)
  obtain ⟨hx, hx'⟩ := Scalar.product_near ha.x hb.x (by linarith)
  obtain ⟨hy, hy'⟩ := Scalar.product_near ha.y hb.y (by linarith)
  obtain ⟨hz, hz'⟩ := Scalar.product_near ha.z hb.z (by linarith)
  generalize (value a.x : ℝ) * value b.x = x at *
  generalize (value a.y : ℝ) * value b.y = y at *
  generalize (value a.z : ℝ) * value b.z = z at *
  obtain ⟨hxy, hxy'⟩ := Scalar.sum_near hx hy hx' hy' (by
    unfold ulp tiny
    linarith)
  have hsize := abs_add_le x y
  obtain ⟨hxyz, hxyz'⟩ := Scalar.sum_near hxy hz hxy' hz' (by
    unfold ulp tiny
    linarith)
  refine ⟨hxyz, hxyz'.trans ?_⟩
  unfold ulp tiny
  linarith

/-! ## Lengths and unit vectors -/

theorem length_near (ha : a.IsFinite) (hlo : 1 / 2 ^ 50 ≤ a.exact.real.length)
    (hhi : a.exact.real.length ≤ 2 ^ 60) :
    a.length.isFinite = true
      ∧ |(value a.length : ℝ) - a.exact.real.length| ≤ 6 * ulp * a.exact.real.length := by
  have hsq := a.exact.real.sq_length
  have hpos : 0 < a.exact.real.length := lt_of_lt_of_le (by positivity) hlo
  obtain ⟨hfinite, hnear⟩ := dot_near ha ha
    ((mul_le_mul hhi hhi hpos.le (by positivity)).trans (by norm_num))
  change |(value (a.dot a) : ℝ) - a.exact.real.lengthSq| ≤ _ at hnear
  rw [← hsq] at hnear
  generalize a.exact.real.length = l at *
  -- the square is large enough for the least scalar not to matter
  have hlarge : 1 / 2 ^ 100 ≤ l ^ 2 := by
    calc (1 : ℝ) / 2 ^ 100 = (1 / 2 ^ 50) ^ 2 := by norm_num
      _ ≤ l ^ 2 := by gcongr
  have hsquare : |(value (a.dot a) : ℝ) - l ^ 2| ≤ 9 / 2 * ulp * l ^ 2 := by
    unfold ulp tiny at *
    linarith
  have hnonneg : (0 : ℝ) ≤ value (a.dot a) := by
    have := (abs_le.mp hsquare).1
    have := sq_nonneg l
    unfold ulp at *
    linarith
  have hroot : |√(value (a.dot a)) - l| ≤ 9 / 2 * ulp * l := by
    have hroot₀ := Real.sqrt_nonneg (value (a.dot a) : ℝ)
    have hfactor : |√(value (a.dot a)) - l| * (√(value (a.dot a)) + l)
        = |(value (a.dot a) : ℝ) - l ^ 2| := by
      rw [← abs_of_nonneg (add_nonneg hroot₀ hpos.le), ← abs_mul]
      congr 1
      have := Real.sq_sqrt hnonneg
      linarith
    have hle : |√(value (a.dot a)) - l| * l ≤ 9 / 2 * ulp * l * l := by
      have := mul_nonneg (abs_nonneg (√(value (a.dot a)) - l)) hroot₀
      linarith
    exact le_of_mul_le_mul_right hle hpos
  obtain ⟨hroundFinite, hround⟩ := Scalar.sqrt_near hfinite (by exact_mod_cast hnonneg)
  refine ⟨hroundFinite, ?_⟩
  have h₁ := abs_sub_le (value a.length : ℝ) (√(value (a.dot a))) l
  have h₂ := (abs_le.mp hroot).2
  change |(value a.length : ℝ) - √(value (a.dot a))| ≤ _ at hround
  unfold ulp at *
  linarith

/-- The reciprocal of a length. -/
theorem reciprocal_near (ha : a.IsFinite) (hlo : 1 / 2 ^ 50 ≤ a.exact.real.length)
    (hhi : a.exact.real.length ≤ 2 ^ 60) :
    (1 / a.length).isFinite = true ∧ 0 < value (1 / a.length)
      ∧ |(value (1 / a.length) : ℝ) * a.exact.real.length - 1| ≤ 8 * ulp := by
  have hpos : 0 < a.exact.real.length := lt_of_lt_of_le (by positivity) hlo
  obtain ⟨hfinite, hnear⟩ := length_near ha hlo hhi
  generalize a.exact.real.length = l at *
  obtain ⟨hnear₁, hnear₂⟩ := abs_le.mp hnear
  have hlength : (0 : ℝ) < value a.length := by
    unfold ulp at *
    linarith
  have hsize : 1 / 2 ^ 61 ≤ 1 / (value a.length : ℝ) := by
    refine one_div_le_one_div_of_le hlength ?_
    unfold ulp at *
    linarith
  have hsize' : 1 / (value a.length : ℝ) ≤ 2 ^ 51 := by
    rw [div_le_iff₀ hlength]
    unfold ulp at *
    linarith
  have habs : |1 / (value a.length : ℝ)| = 1 / value a.length := abs_of_pos (by positivity)
  obtain ⟨hquotientFinite, hquotient⟩ := Scalar.div_near Scalar.isFinite_one hfinite
    (by exact_mod_cast hlength.ne') (by
      rw [Scalar.value_one, Rat.cast_one, habs]
      linarith)
  rw [Scalar.value_one, Rat.cast_one, habs] at hquotient
  have hquotient' : |(value (1 / a.length) : ℝ) - 1 / value a.length|
      ≤ ulp * (1 / value a.length) := by
    refine hquotient.trans (max_le le_rfl ?_)
    unfold ulp tiny
    linarith
  -- both factors of `(1 / length) * l = ((1 / length) * length) * (l / length)` are almost one
  have hfirst : |(value (1 / a.length) : ℝ) * value a.length - 1| ≤ ulp := by
    have hscaled := mul_le_mul_of_nonneg_right hquotient' hlength.le
    rw [← abs_of_pos hlength, ← abs_mul, abs_of_pos hlength, sub_mul, mul_assoc,
      one_div_mul_cancel hlength.ne', mul_one] at hscaled
    exact hscaled
  have hsecond : |l / value a.length - 1| ≤ 601 / 100 * ulp := by
    rw [div_sub_one hlength.ne', abs_div, abs_of_pos hlength, div_le_iff₀ hlength, abs_sub_comm]
    unfold ulp at *
    linarith
  refine ⟨hquotientFinite, ?_, ?_⟩
  · have := (abs_le.mp hquotient').1
    have hpos' : (0 : ℝ) < value (1 / a.length) := by
      unfold ulp at *
      linarith
    exact_mod_cast hpos'
  · have hsplit : (value (1 / a.length) : ℝ) * l - 1
        = (value (1 / a.length) * value a.length - 1) * (l / value a.length)
          + (l / value a.length - 1) := by
      field_simp
      ring
    rw [hsplit]
    refine (abs_add_le _ _).trans ?_
    rw [abs_mul]
    have h₁ := abs_sub_abs_le_abs_sub (l / value a.length) 1
    rw [abs_one] at h₁
    have h₂ : |(value (1 / a.length) : ℝ) * value a.length - 1| * |l / value a.length|
        ≤ ulp * (101 / 100) := by
      refine mul_le_mul hfirst ?_ (abs_nonneg _) ulp_nonneg
      unfold ulp at *
      linarith
    have := ulp_nonneg
    linarith

/-- **The unit vector along a vector** is a multiple of it, up to two units in the last place. -/
theorem normalized?_near (ha : a.IsFinite) (hlo : 1 / 2 ^ 50 ≤ a.exact.real.length)
    (hhi : a.exact.real.length ≤ 2 ^ 60) :
    ∃ (n : Vec3) (k : ℝ), a.normalized? = some n ∧ n.IsFinite ∧ 0 < k
      ∧ |k * a.exact.real.length - 1| ≤ 8 * ulp
      ∧ (n.exact.real - k * a.exact.real).length ≤ 2 * ulp := by
  obtain ⟨hfinite, hpos, hnear⟩ := reciprocal_near ha hlo hhi
  have hdefined : a.normalized? = some (a * (1 / a.length)) := by
    have hlt : 0 < 1 / a.length := (Scalar.zero_lt_iff hfinite).mpr hpos
    unfold normalized?
    dsimp only
    rw [hfinite, decide_eq_true hlt]
    rfl
  generalize 1 / a.length = r at *
  have hpos' : (0 : ℝ) < value r := by exact_mod_cast hpos
  -- no coordinate is much larger than one
  have hcoordinate : ∀ {s : Float32}, s.isFinite = true → |(value s : ℝ)| ≤ a.exact.real.length →
      (s * r).isFinite = true
        ∧ |(value (s * r) : ℝ) - value r * value s| ≤ ulp * value r * |(value s : ℝ)| + tiny := by
    intro s hs hle
    have hsize : |(value s : ℝ) * value r| ≤ 2 := by
      have := (abs_le.mp hnear).2
      rw [abs_mul, abs_of_pos hpos']
      unfold ulp at *
      nlinarith
    obtain ⟨hfinite', hnear'⟩ := Scalar.product_near hs hfinite (hsize.trans_lt (by norm_num))
    refine ⟨hfinite', ?_⟩
    rw [mul_comm (value r : ℝ)]
    refine hnear'.trans_eq ?_
    rw [abs_mul, abs_of_pos hpos']
    ring
  obtain ⟨hx, hx'⟩ := hcoordinate ha.x a.exact.real.abs_x_le
  obtain ⟨hy, hy'⟩ := hcoordinate ha.y a.exact.real.abs_y_le
  obtain ⟨hz, hz'⟩ := hcoordinate ha.z a.exact.real.abs_z_le
  refine ⟨_, value r, hdefined, ⟨hx, hy, hz⟩, hpos', hnear, ?_⟩
  have hlength := Offset.length_le_of_errors
    (d := (a * r).exact.real - (value r : ℝ) * a.exact.real) (e := a.exact.real)
    (mul_nonneg ulp_nonneg hpos'.le) tiny_nonneg hx' hy' hz'
  have := (abs_le.mp hnear).2
  unfold ulp tiny at *
  linarith

/-- A vector of zeros has no direction. -/
theorem normalized?_of_zero (ha : a.IsFinite) (h : a.exact = ⟨0, 0, 0⟩) :
    a.normalized? = none := by
  have hsquare : ∀ {s : Float32}, s.isFinite = true → value s = 0 → s * s = 0 := by
    intro s hs hzero
    obtain ⟨sign, hunpack⟩ := Scalar.unpack_of_value_eq_zero hs hzero
    have hproduct : s * s = ⟨Float32.Model.pack (Float.Model.UnpackedFloat.mul
        Float.Model.Format.binary32 s.toModel.unpack s.toModel.unpack)⟩ := rfl
    rw [hproduct, hunpack]
    cases sign <;> rfl
  obtain ⟨hx, hy, hz⟩ := (Offset.mk.injEq _ _ _ _ _ _).mp h
  have hdot : a.dot a = 0 := by
    unfold dot
    rw [hsquare ha.x hx, hsquare ha.y hy, hsquare ha.z hz]
    decide
  have hundefined : ¬((1 / (0 : Float32).sqrt).isFinite && decide (0 < 1 / (0 : Float32).sqrt))
      = true := by
    decide +kernel
  unfold normalized? length
  rw [hdot]
  dsimp only
  rw [if_neg hundefined]

end Vec3

end Facet
