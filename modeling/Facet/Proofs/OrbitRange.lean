import Facet.OrbitCamera
import Facet.Proofs.SpecialValues

/-!
# The range of the orbit camera

Every motion of the camera but a zoom ends with a displacement of the eye from the target that is
read back into polar form. The distance is clamped on the way and stays within its bounds whatever
the motions are. The polar angle is clamped too, but clamping passes NaN through, and the height of
the displacement was divided by its length before: where both are zero, or both infinite, the
displacement has no polar angle (`Undirected`) and `phi` is NaN until the next placement. These are
the only exceptions.

How accurate the angles are plays no part. Arc cosines and powers are taken to be NaN only where
they should be, and the directions of steps to be no longer than `Vec3.normalizedOr_small` says.
-/

namespace Facet

open Scalar (value Positive)

namespace CameraConfig

variable {config : CameraConfig}

/-- Bounds of the distance that make sense. -/
structure Bounded (config : CameraConfig) : Prop where
  low : 0 < config.minDistance
  ordered : config.minDistance ≤ config.maxDistance
  high : config.maxDistance.isFinite = true

instance (config : CameraConfig) : Decidable config.Bounded :=
  decidable_of_iff (0 < config.minDistance ∧ config.minDistance ≤ config.maxDistance
      ∧ config.maxDistance.isFinite = true)
    ⟨fun ⟨hlow, hordered, hhigh⟩ => ⟨hlow, hordered, hhigh⟩,
      fun ⟨hlow, hordered, hhigh⟩ => ⟨hlow, hordered, hhigh⟩⟩

theorem Bounded.isFinite_minDistance (h : config.Bounded) : config.minDistance.isFinite = true :=
  Scalar.isFinite_of_bounds Scalar.isFinite_zero h.high (Scalar.le_of_lt h.low) h.ordered

/-- A finite placement besides, and a zoom step that makes sense. -/
structure Usable (config : CameraConfig) : Prop extends config.Bounded where
  origin : config.origin.IsFinite
  target : config.target.IsFinite
  zoomLow : 0 < config.zoomStep
  zoomHigh : config.zoomStep < 1

instance (config : CameraConfig) : Decidable config.Usable :=
  decidable_of_iff (config.Bounded ∧ config.origin.IsFinite ∧ config.target.IsFinite
      ∧ 0 < config.zoomStep ∧ config.zoomStep < 1)
    ⟨fun ⟨hbounded, ho, ht, hz, hz'⟩ => ⟨hbounded, ho, ht, hz, hz'⟩,
      fun ⟨hbounded, ho, ht, hz, hz'⟩ => ⟨hbounded, ho, ht, hz, hz'⟩⟩

end CameraConfig

namespace OrbitCamera

variable {c : OrbitCamera} {offset : Vec3}

/-! ## The polar form -/

/-- The height of the displacement over its length is a quotient of infinities or of zeros. -/
def Undirected (offset : Vec3) : Prop :=
  offset.y.isInf = true ∨ ((offset.y == 0) = true ∧ (offset.length == 0) = true)

instance (offset : Vec3) : Decidable (Undirected offset) :=
  inferInstanceAs (Decidable (_ ∨ _ ∧ _))

/-- The angle is at least the margin away from both poles. -/
def OffPoles (phi : Float32) : Prop := poleMargin ≤ phi ∧ phi ≤ Scalar.pi - poleMargin

instance (phi : Float32) : Decidable (OffPoles phi) := inferInstanceAs (Decidable (_ ∧ _))

theorem isNaN_height_iff (h : offset.Defined) :
    (offset.y / offset.length).isNaN = true ↔ Undirected offset := by
  rw [Scalar.isNaN_div_iff h.y (Vec3.not_nan_length h)]
  unfold Undirected
  exact or_congr_left (and_iff_left_of_imp (Vec3.isInf_length h))

/-- **A displacement with a direction has a polar angle off the poles.** -/
theorem polarAngle_offPoles (h : offset.Defined) (hdirected : ¬Undirected offset) :
    OffPoles (polarAngle offset) := by
  have hheight : (offset.y / offset.length).isNaN = false :=
    eq_false_of_ne_true (mt (isNaN_height_iff h).mp hdirected)
  have hone : (-1 : Float32) ≤ 1 := by decide
  have hmargins : poleMargin ≤ Scalar.pi - poleMargin := by decide
  obtain ⟨hlo, hhi⟩ := Scalar.clamp_bounds hone hheight
  exact Scalar.clamp_bounds hmargins (Scalar.not_nan_acos hlo hhi)

/-- **The others have none.** -/
theorem polarAngle_undirected (h : offset.Defined) (hundirected : Undirected offset) :
    (polarAngle offset).isNaN = true := by
  have hheight := (isNaN_height_iff h).mpr hundirected
  unfold polarAngle
  dsimp only
  rw [Scalar.clamp_of_nan hheight]
  have hangle := Scalar.acos_of_nan hheight
  rwa [Scalar.clamp_of_nan hangle]

/-! ## Placements -/

/-- The camera with its eye at a displacement from the target. -/
def placed (c : OrbitCamera) (offset : Vec3) : OrbitCamera :=
  { c with
    distance := Scalar.clamp c.config.minDistance c.config.maxDistance offset.length
    phi := polarAngle offset
    theta := Scalar.atan2 offset.x offset.z }

theorem clampDistance_eq (h : c.config.minDistance ≤ c.config.maxDistance) (d : Float32) :
    c.clampDistance d = .ok (Scalar.clamp c.config.minDistance c.config.maxDistance d) := by
  unfold clampDistance Scalar.clamp?
  rw [if_pos h]

theorem setOffset_eq (h : c.config.minDistance ≤ c.config.maxDistance) (offset : Vec3) :
    c.setOffset offset = .ok (c.placed offset) := by
  unfold setOffset
  rw [clampDistance_eq h]
  rfl

/-- The distance is within bounds that make sense. -/
structure InBounds (c : OrbitCamera) : Prop where
  bounded : c.config.Bounded
  low : c.config.minDistance ≤ c.distance
  high : c.distance ≤ c.config.maxDistance

theorem placed_inBounds (h : c.config.Bounded) (hoffset : offset.Defined) :
    (c.placed offset).InBounds := by
  obtain ⟨hlo, hhi⟩ := Scalar.clamp_bounds h.ordered (Vec3.not_nan_length hoffset)
  exact ⟨h, hlo, hhi⟩

theorem InBounds.isFinite_distance (h : c.InBounds) : c.distance.isFinite = true :=
  Scalar.isFinite_of_bounds h.bounded.isFinite_minDistance h.bounded.high h.low h.high

theorem InBounds.distance_pos (h : c.InBounds) : 0 < value c.distance := by
  have hmin := h.bounded.isFinite_minDistance
  have hlow := (Scalar.zero_lt_iff hmin).mp h.bounded.low
  exact hlow.trans_le ((Scalar.le_iff hmin h.isFinite_distance).mp h.low)

/-! ## Displacements -/

/-- Where a new origin displaces the eye to. -/
def originOffset (c : OrbitCamera) (origin : Vec3) : Vec3 :=
  if (origin - c.config.target).isZero then ({} : CameraConfig).origin - c.config.target
  else origin - c.config.target

/-- The direction of the eye, as seen from the target, after a step to the side and upwards. -/
def outward (c : OrbitCamera) (sideways upward : Float32) : Vec3 :=
  (c.origin - c.config.target + c.basis.2.1 * sideways + c.basis.2.2 * upward).normalizedOr
    (-c.basis.1)

/-- Where a step displaces the eye to: its forward part is taken off the distance. -/
def stepOffset (c : OrbitCamera) (direction : Vec3) (dt : Float32) : Vec3 :=
  c.outward (direction.x * dt) (direction.y * dt) * (c.distance - direction.z * dt)

theorem setOrigin_eq (c : OrbitCamera) (origin : Vec3) :
    (c.setOrigin origin).1 = c.setOffset (c.originOffset origin) := by
  unfold setOrigin originOffset
  dsimp only
  split <;> rfl

theorem moveBy_eq (c : OrbitCamera) (direction : Vec3) (dt : Float32) :
    c.moveBy direction dt = c.setOffset (c.stepOffset direction dt) := by
  unfold moveBy stepOffset outward Vec3.normalizedOr
  obtain ⟨forward, right, up⟩ := c.basis
  dsimp only
  generalize Vec3.normalized? _ = unit
  cases unit <;> rfl

theorem forward_small (c : OrbitCamera) : c.basis.1.Small :=
  Vec3.normalizedOr_small (by decide +kernel)

theorem outward_small (c : OrbitCamera) (sideways upward : Float32) :
    (c.outward sideways upward).Small :=
  Vec3.normalizedOr_small c.forward_small.neg

theorem originOffset_defined (h : c.config.Usable) {origin : Vec3} (horigin : origin.IsFinite) :
    (c.originOffset origin).Defined := by
  unfold originOffset
  split
  · exact Vec3.sub_defined (by decide) h.target
  · exact Vec3.sub_defined horigin h.target

/-! ## Ordinary arguments -/

/-- A finite scalar of at most a million. -/
def Ordinary (x : Float32) : Prop := x.isFinite = true ∧ |value x| ≤ 10 ^ 6

instance (x : Float32) : Decidable (Ordinary x) := inferInstanceAs (Decidable (_ ∧ _))

/-- The product of two of them is far from overflowing. -/
theorem Ordinary.mul {x y : Float32} (hx : Ordinary x) (hy : Ordinary y) :
    (x * y).isFinite = true ∧ |(value (x * y) : ℝ)| ≤ 2 ^ 41 := by
  have hx' : |(value x : ℝ)| ≤ 10 ^ 6 := by exact_mod_cast hx.2
  have hy' : |(value y : ℝ)| ≤ 10 ^ 6 := by exact_mod_cast hy.2
  have hsize : |(value x : ℝ) * value y| ≤ 10 ^ 12 := by
    rw [abs_mul]
    calc |(value x : ℝ)| * |(value y : ℝ)| ≤ 10 ^ 6 * 10 ^ 6 :=
          mul_le_mul hx' hy' (abs_nonneg _) (by positivity)
      _ = 10 ^ 12 := by norm_num
  obtain ⟨hfinite, hle⟩ := Scalar.mul_le_size hx.1 hy.1 hsize (by norm_num)
  refine ⟨hfinite, hle.trans ?_⟩
  unfold Scalar.ulp Scalar.tiny
  norm_num

/-- A distance less an ordinary step does not overflow, however large the bounds are. -/
theorem InBounds.isFinite_distance_sub (h : c.InBounds) {step : Float32}
    (hstep : step.isFinite = true) (hsize : |(value step : ℝ)| ≤ 2 ^ 41) :
    (c.distance - step).isFinite = true := by
  refine (Scalar.sub_rounds h.isFinite_distance hstep).finite ?_
  have hdistance := Scalar.abs_value_le h.isFinite_distance
  have htriangle := abs_sub (value c.distance : ℝ) (value step)
  unfold Scalar.overflow
  linarith

theorem stepOffset_defined (h : c.InBounds) {direction : Vec3} {dt : Float32}
    (hz : Ordinary direction.z) (hdt : Ordinary dt) : (c.stepOffset direction dt).Defined := by
  obtain ⟨hfinite, hsize⟩ := hz.mul hdt
  exact Vec3.mul_defined (c.outward_small _ _).toIsFinite (h.isFinite_distance_sub hfinite hsize)

/-! ## Zooming -/

theorem zoom_eq (h : c.config.minDistance ≤ c.config.maxDistance) (lines : Float32) :
    c.zoom lines = .ok { c with
      distance := Scalar.clamp c.config.minDistance c.config.maxDistance
        (c.distance * Scalar.pow (1 - c.config.zoomStep) lines) } := by
  unfold zoom
  rw [clampDistance_eq h]

/-- What remains of the distance after one line of the wheel is a positive fraction. -/
theorem positive_zoomBase {config : CameraConfig} (h : config.Usable) :
    Positive (1 - config.zoomStep).toModel.unpack := by
  have hstep : config.zoomStep.isFinite = true :=
    Scalar.isFinite_of_bounds Scalar.isFinite_zero Scalar.isFinite_one
      (Scalar.le_of_lt h.zoomLow) (Scalar.le_of_lt h.zoomHigh)
  have hlow := (Scalar.zero_lt_iff hstep).mp h.zoomLow
  have hhigh := (Scalar.lt_iff hstep Scalar.isFinite_one).mp h.zoomHigh
  rw [Scalar.value_one] at hhigh
  have hlow' : (0 : ℝ) < value config.zoomStep := by exact_mod_cast hlow
  have hhigh' : (value config.zoomStep : ℝ) < 1 := by exact_mod_cast hhigh
  have hsize : |((value (1 : Float32) : ℚ) : ℝ) - value config.zoomStep|
      = 1 - value config.zoomStep := by
    rw [Scalar.value_one, Rat.cast_one]
    exact abs_of_pos (by linarith)
  obtain ⟨hfinite, hnear⟩ := Scalar.sub_near Scalar.isFinite_one hstep
    (by rw [hsize]; linarith)
  rw [hsize, Scalar.value_one, Rat.cast_one] at hnear
  have hpos : (0 : ℝ) < value (1 - config.zoomStep) := by
    have := (abs_le.mp hnear).1
    unfold Scalar.ulp at this
    linarith
  exact Scalar.positive_of_value_pos hfinite (by exact_mod_cast hpos)

theorem zoomed_defined (h : c.InBounds) (husable : c.config.Usable) {lines : Float32}
    (hlines : lines.isNaN = false) :
    (c.distance * Scalar.pow (1 - c.config.zoomStep) lines).isNaN = false :=
  Scalar.not_nan_mul h.isFinite_distance
    (Scalar.not_nan_pow (positive_zoomBase husable) hlines) (.inl h.distance_pos.ne')

/-! ## Motions -/

/-- A call that moves the camera. -/
inductive Motion where
  | setOrigin (origin : Vec3)
  | moveBy (direction : Vec3) (dt : Float32)
  | zoom (lines : Float32)

namespace Motion

/-- Every number that the call is given is ordinary. -/
def Ordinary : Motion → Prop
  | .setOrigin p => OrbitCamera.Ordinary p.x ∧ OrbitCamera.Ordinary p.y ∧ OrbitCamera.Ordinary p.z
  | .moveBy d dt => OrbitCamera.Ordinary d.x ∧ OrbitCamera.Ordinary d.y
      ∧ OrbitCamera.Ordinary d.z ∧ OrbitCamera.Ordinary dt
  | .zoom lines => OrbitCamera.Ordinary lines

instance : (m : Motion) → Decidable m.Ordinary
  | .setOrigin _ => inferInstanceAs (Decidable (_ ∧ _ ∧ _))
  | .moveBy _ _ => inferInstanceAs (Decidable (_ ∧ _ ∧ _ ∧ _))
  | .zoom _ => inferInstanceAs (Decidable (OrbitCamera.Ordinary _))

def perform (c : OrbitCamera) : Motion → Except Fault OrbitCamera
  | .setOrigin origin => (c.setOrigin origin).1
  | .moveBy direction dt => c.moveBy direction dt
  | .zoom lines => c.zoom lines

/-- The displacement that the polar form is computed from; a zoom leaves the old one. -/
def offset? (c : OrbitCamera) : Motion → Option Vec3
  | .setOrigin origin => some (c.originOffset origin)
  | .moveBy direction dt => some (c.stepOffset direction dt)
  | .zoom _ => none

end Motion

/-- The camera was placed at a displacement, and may have been zoomed since. -/
structure PlacedAt (c : OrbitCamera) (offset : Vec3) : Prop extends c.InBounds where
  usable : c.config.Usable
  defined : offset.Defined
  phi : c.phi = polarAngle offset

theorem placed_placedAt (h : c.config.Usable) (hoffset : offset.Defined) :
    (c.placed offset).PlacedAt offset :=
  ⟨placed_inBounds h.toBounded hoffset, h, hoffset, rfl⟩

/-- **One motion**: it succeeds, and its displacement decides the polar angle from then on. -/
theorem Motion.perform_placedAt {m : Motion} (h : c.PlacedAt offset) (hm : m.Ordinary) :
    ∃ c', m.perform c = .ok c' ∧ c'.config = c.config
      ∧ c'.PlacedAt ((m.offset? c).getD offset) := by
  have husable := h.usable
  cases m with
  | setOrigin p =>
      have hdefined := originOffset_defined husable ⟨hm.1.1, hm.2.1.1, hm.2.2.1⟩
      exact ⟨_, (setOrigin_eq c p).trans (setOffset_eq husable.ordered _), rfl,
        placed_placedAt husable hdefined⟩
  | moveBy d dt =>
      have hdefined := stepOffset_defined h.toInBounds hm.2.2.1 hm.2.2.2
      exact ⟨_, (moveBy_eq c d dt).trans (setOffset_eq husable.ordered _), rfl,
        placed_placedAt husable hdefined⟩
  | zoom lines =>
      have hdefined := zoomed_defined h.toInBounds husable (Scalar.isNaN_eq_false hm.1)
      obtain ⟨hlo, hhi⟩ := Scalar.clamp_bounds husable.ordered hdefined
      exact ⟨_, zoom_eq husable.ordered lines, rfl,
        ⟨⟨h.bounded, hlo, hhi⟩, husable, h.defined, h.phi⟩⟩

/-! ## Runs -/

/-- The displacement of the last placement of a run. -/
def lastOffset (c : OrbitCamera) (offset : Vec3) : List Motion → Vec3
  | [] => offset
  | m :: ms =>
    match m.perform c with
    | .ok c' => c'.lastOffset ((m.offset? c).getD offset) ms
    | .error _ => offset

theorem perform_all_placedAt {motions : List Motion} (h : c.PlacedAt offset)
    (hm : ∀ m ∈ motions, m.Ordinary) :
    ∃ c', motions.foldlM Motion.perform c = .ok c' ∧ c'.config = c.config
      ∧ c'.PlacedAt (c.lastOffset offset motions) := by
  induction motions generalizing c offset with
  | nil => exact ⟨c, rfl, rfl, h⟩
  | cons m ms ih =>
      obtain ⟨hhead, htail⟩ := List.forall_mem_cons.mp hm
      obtain ⟨c₁, hstep, hconfig₁, h₁⟩ := Motion.perform_placedAt h hhead
      obtain ⟨c₂, hrun, hconfig₂, h₂⟩ := ih h₁ htail
      refine ⟨c₂, ?_, hconfig₂.trans hconfig₁, ?_⟩
      · rw [List.foldlM_cons, hstep]
        exact hrun
      · rw [lastOffset, hstep]
        exact h₂

/-- A camera before its first placement. -/
def unplaced (config : CameraConfig) : OrbitCamera := { config }

/-- The displacement of the configured origin. -/
def initialOffset (config : CameraConfig) : Vec3 := (unplaced config).originOffset config.origin

theorem ofConfig_eq {config : CameraConfig} (h : config.Usable) :
    (ofConfig config).1 = .ok ((unplaced config).placed (initialOffset config)) := by
  have hplaced : (ofConfig config).1 = (unplaced config).setOffset (initialOffset config) :=
    setOrigin_eq (unplaced config) config.origin
  rw [hplaced]
  exact setOffset_eq (c := unplaced config) h.ordered _

/-- A camera is made for a configuration and then moved. -/
def run (config : CameraConfig) (motions : List Motion) : Except Fault OrbitCamera := do
  let c ← (ofConfig config).1
  motions.foldlM Motion.perform c

/-- The displacement of its last placement. -/
def runOffset (config : CameraConfig) (motions : List Motion) : Vec3 :=
  ((unplaced config).placed (initialOffset config)).lastOffset (initialOffset config) motions

/-- **A camera never fails and keeps its distance within the bounds, and its polar angle is off the
poles, unless the displacement of the last placement had none.** -/
theorem staysInRange_after {config : CameraConfig} {motions : List Motion} (h : config.Usable)
    (hm : ∀ m ∈ motions, m.Ordinary) :
    ∃ c, run config motions = .ok c ∧ c.config = config
      ∧ config.minDistance ≤ c.distance ∧ c.distance ≤ config.maxDistance
      ∧ (¬Undirected (runOffset config motions) → OffPoles c.phi)
      ∧ (Undirected (runOffset config motions) → c.phi.isNaN = true) := by
  have hinitial := originOffset_defined (c := unplaced config) h h.origin
  obtain ⟨c, hrun, hconfig, hplaced⟩ :=
    perform_all_placedAt (placed_placedAt (c := unplaced config) h hinitial) hm
  have hconfig' : c.config = config := hconfig
  refine ⟨c, ?_, hconfig', hconfig' ▸ hplaced.low, hconfig' ▸ hplaced.high, ?_, ?_⟩
  · unfold run
    rw [ofConfig_eq h]
    exact hrun
  · intro hdirected
    rw [hplaced.phi]
    exact polarAngle_offPoles hplaced.defined hdirected
  · intro hundirected
    rw [hplaced.phi]
    exact polarAngle_undirected hplaced.defined hundirected

/-- To the front, a step to the side and up, and two lines closer. -/
def tour : List Motion := [.setOrigin ⟨0, 0, 4⟩, .moveBy ⟨0.5, 0.3, 0⟩ 1, .zoom 2]

theorem staysInRange_tour :
    CameraConfig.Usable {} ∧ (∀ m ∈ tour, m.Ordinary) ∧ ¬Undirected (runOffset {} tour)
      ∧ ∃ c, run {} tour = .ok c ∧ c.config = {}
        ∧ ({} : CameraConfig).minDistance ≤ c.distance
        ∧ c.distance ≤ ({} : CameraConfig).maxDistance ∧ OffPoles c.phi := by
  have husable : CameraConfig.Usable {} := by decide
  have hordinary : ∀ m ∈ tour, m.Ordinary := by decide +kernel
  have hdirected : ¬Undirected (runOffset {} tour) := by decide +kernel
  obtain ⟨c, hrun, hconfig, hlow, hhigh, hphi, -⟩ := staysInRange_after husable hordinary
  exact ⟨husable, hordinary, hdirected, c, hrun, hconfig, hlow, hhigh, hphi hdirected⟩

/-- A move by exactly the distance, and an origin that falls back onto the target, leave the polar
angle undefined. -/
theorem onTarget_loses_phi :
    (CameraConfig.Usable {}
      ∧ (∀ m ∈ [Motion.setOrigin ⟨0, 0, 4⟩, .moveBy ⟨0, 0, 4⟩ 1], m.Ordinary)
      ∧ ((run {} [.setOrigin ⟨0, 0, 4⟩, .moveBy ⟨0, 0, 4⟩ 1]).toOption.any fun c =>
        c.phi.isNaN && c.origin.x.isNaN) = true)
    ∧ (CameraConfig.Usable { target := ⟨1, 1, 2⟩ }
      ∧ ((run { target := ⟨1, 1, 2⟩ } []).toOption.any fun c => c.phi.isNaN) = true) := by
  decide +kernel

/-! ## Displacements with a direction -/

/-- Neither tiny nor huge, a displacement has a direction. -/
theorem not_undirected (h : offset.IsFinite) (hlo : 1 / 2 ^ 50 ≤ offset.exact.real.length)
    (hhi : offset.exact.real.length ≤ 2 ^ 60) : ¬Undirected offset := by
  have hpos : 0 < offset.exact.real.length := lt_of_lt_of_le (by positivity) hlo
  obtain ⟨hfinite, hnear⟩ := Vec3.length_near h hlo hhi
  rintro (hinf | ⟨-, hzero⟩)
  · obtain ⟨s, hs⟩ := Scalar.unpack_of_isInf hinf
    have hy := h.y
    change offset.y.toModel.unpack.isFinite = true at hy
    rw [hs] at hy
    exact absurd hy Bool.false_ne_true
  · obtain ⟨s, hs⟩ := Scalar.isZero_iff.mp hzero
    have hlength : value offset.length = 0 := by
      unfold value
      rw [hs]
      rfl
    rw [hlength, Rat.cast_zero, zero_sub, abs_neg, abs_of_pos hpos] at hnear
    unfold Scalar.ulp at hnear
    linarith

end OrbitCamera

end Facet
