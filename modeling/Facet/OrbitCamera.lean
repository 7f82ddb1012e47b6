import Facet.Fault
import Facet.Log
import Facet.Matrix

/-!
# The orbit camera

A camera that looks at a fixed target from a point on a sphere round it. The eye is kept in polar
form: `phi` is the angle from the upward axis, `theta` the angle round it, and the distance is
held between two bounds. Every motion is turned into a displacement of the eye from the target
and read back into polar form (`setOffset`).

Bounds that are no interval make any change of the distance a fault; the camera is then left as
it was.
-/

namespace Facet

/-- Placement and tuning of a camera. -/
structure CameraConfig where
  /-- Where the eye begins. -/
  origin : Vec3 := ⟨1, 1, 2⟩
  /-- The point looked at. -/
  target : Vec3 := Vec3.zero
  /-- The vertical field of view in radians; 45 degrees. -/
  fovY : Float32 := Float32.ofBits 0x3f490fdb
  near : Float32 := 0.05
  far : Float32 := 100
  minDistance : Float32 := 0.25
  maxDistance : Float32 := 50
  /-- Travel per dragged pixel, as a fraction of the distance. -/
  dragSensitivity : Float32 := 0.01
  /-- The fraction of the distance that one wheel line removes. -/
  zoomStep : Float32 := 0.1
  /-- Travel per second while an arrow key is held, in distances. -/
  keySpeed : Float32 := 1

/-- A camera in polar form. -/
structure OrbitCamera where
  config : CameraConfig
  distance : Float32 := 1
  phi : Float32 := Scalar.pi / 2
  theta : Float32 := 0

namespace OrbitCamera

/-- How far `phi` stays away from the poles, where the view direction would have no right side. -/
def poleMargin : Float32 := 1e-3

/-- A distance moved into the configured bounds. -/
def clampDistance (c : OrbitCamera) (d : Float32) : Except Fault Float32 :=
  match Scalar.clamp? c.config.minDistance c.config.maxDistance d with
  | some d => .ok d
  | none => .error .clampBounds

/-- The polar angle of a displacement, kept off the poles. -/
def polarAngle (offset : Vec3) : Float32 :=
  let height := Scalar.clamp (-1) 1 (offset.y / offset.length)
  Scalar.clamp poleMargin (Scalar.pi - poleMargin) (Scalar.acos height)

/-- Places the eye at a displacement from the target, its length clamped to the bounds. -/
def setOffset (c : OrbitCamera) (offset : Vec3) : Except Fault OrbitCamera :=
  match c.clampDistance offset.length with
  | .error e => .error e
  | .ok distance =>
    .ok { c with
      distance
      phi := polarAngle offset
      theta := Scalar.atan2 offset.x offset.z }

/-- The eye. -/
def origin (c : OrbitCamera) : Vec3 :=
  let sinPhi := Scalar.sin c.phi
  let cosPhi := Scalar.cos c.phi
  let sinTheta := Scalar.sin c.theta
  let cosTheta := Scalar.cos c.theta
  c.config.target + (⟨sinPhi * sinTheta, cosPhi, sinPhi * cosTheta⟩ : Vec3) * c.distance

/-- The unit vectors forward, right and up of the present view. -/
def basis (c : OrbitCamera) : Vec3 × Vec3 × Vec3 :=
  let forward := (c.config.target - c.origin).normalizedOr Vec3.negUnitZ
  let right := (forward.cross Vec3.unitY).normalizedOr Vec3.unitX
  (forward, right, right.cross forward)

/-! ## Motion -/

/-- The line logged when an origin on the target is replaced. -/
def fallbackLine : Log.Line :=
  ⟨.debug, s!"camera origin on target; using default {({} : CameraConfig).origin.text}"⟩

/--
Places the eye at a point. The target itself has no direction from the target, so the default
origin stands in for it.
-/
def setOrigin (c : OrbitCamera) (origin : Vec3) : Except Fault OrbitCamera × List Log.Line :=
  let offset := origin - c.config.target
  if offset.isZero then
    (c.setOffset (({} : CameraConfig).origin - c.config.target), [fallbackLine])
  else (c.setOffset offset, [])

/-- A camera whose eye is at the configured origin. -/
def ofConfig (config : CameraConfig) : Except Fault OrbitCamera × List Log.Line :=
  ({ config } : OrbitCamera).setOrigin config.origin

/--
Moves the eye by `direction * dt`, given in view space: right, up, forward. The sideways part
keeps the distance, the forward part only changes it.
-/
def moveBy (c : OrbitCamera) (direction : Vec3) (dt : Float32) : Except Fault OrbitCamera :=
  let (forward, right, up) := c.basis
  let step := direction * dt
  let eye := c.origin - c.config.target
  let moved := eye + right * step.x + up * step.y
  let distance := c.distance - step.z
  match moved.normalized? with
  | some outward => c.setOffset (outward * distance)
  | none => c.setOffset (-forward * distance)

/-- Scales the distance by `(1 - zoomStep) ^ lines`. -/
def zoom (c : OrbitCamera) (lines : Float32) : Except Fault OrbitCamera :=
  match c.clampDistance (c.distance * Scalar.pow (1 - c.config.zoomStep) lines) with
  | .error e => .error e
  | .ok distance => .ok { c with distance }

/-! ## Matrices -/

/-- From space to the eye. -/
def view (c : OrbitCamera) : Mat4 := Mat4.lookAt c.origin c.config.target Vec3.unitY

/-- From the eye to the image; an aspect ratio that is not positive and finite counts as one. -/
def projection (c : OrbitCamera) (aspect : Float32) : Mat4 :=
  let usable := if aspect.isFinite && 0 < aspect then aspect else 1
  Mat4.perspective c.config.fovY usable c.config.near c.config.far

/-- From space to the image. -/
def viewProjection (c : OrbitCamera) (aspect : Float32) : Mat4 := c.projection aspect * c.view

end OrbitCamera

end Facet
