import Facet.Fault

/-!
# The frame clock

Durations in whole nanoseconds, and the clock that turns the time between two frames into a frame
time: bounded from both sides, summed up, and counted.
-/

namespace Facet

/-- A span of time. -/
structure Duration where
  seconds : UInt64
  /-- Less than a thousand million. -/
  nanos : UInt32
deriving DecidableEq, Repr

namespace Duration

/-- Nanoseconds in a second. -/
def nanosPerSecond : Nat := 1000000000

/-- The duration of seconds and nanoseconds, of which a full second's worth is carried over. -/
def ofParts (seconds : UInt64) (nanos : UInt32) : Except Fault Duration :=
  let carried := seconds.toNat + nanos.toNat / nanosPerSecond
  if carried < UInt64.size then
    .ok ⟨UInt64.ofNat carried, UInt32.ofNat (nanos.toNat % nanosPerSecond)⟩
  else .error .durationOverflow

/-- The whole duration in nanoseconds. -/
def toNanos (d : Duration) : Nat := d.seconds.toNat * nanosPerSecond + d.nanos.toNat

/-- The duration moved between two bounds. -/
def clamp (d least greatest : Duration) : Duration :=
  if d.toNanos < least.toNanos then least
  else if greatest.toNanos < d.toNanos then greatest
  else d

/-- The duration in seconds, seconds and nanoseconds rounded apart. -/
def toScalar (d : Duration) : Float32 := d.seconds.toFloat32 + d.nanos.toFloat32 / 1000000000

/-- The duration in seconds, in double precision. -/
def toDouble (d : Duration) : Float := d.seconds.toFloat + d.nanos.toFloat / 1000000000

end Duration

/-- What a frame knows about time. -/
structure FrameTime where
  /-- Seconds since the last frame. -/
  dt : Float32
  /-- Seconds since the clock was made. -/
  elapsed : Float
  index : UInt64

/-- A clock for frames. -/
structure FrameClock where
  elapsed : Float := 0
  /-- The index of the next frame. -/
  index : UInt64 := 0
  /-- The least and the greatest time between frames: 100 microseconds, 250 milliseconds. -/
  least : Duration := ⟨0, 100000⟩
  greatest : Duration := ⟨0, 250000000⟩

namespace FrameClock

/-- A clock with bounds, which must be in order. -/
def withBounds (least greatest : Duration) : Except Fault FrameClock :=
  if least.toNanos ≤ greatest.toNanos then .ok { least, greatest } else .error .clockBounds

/-- A time between frames, moved between the bounds. -/
def clamp (c : FrameClock) (d : Duration) : Duration := d.clamp c.least c.greatest

/-- Counts a frame after exactly the given time. -/
def advance (c : FrameClock) (d : Duration) : FrameTime × FrameClock :=
  let elapsed := c.elapsed + d.toDouble
  ({ dt := d.toScalar, elapsed, index := c.index }, { c with elapsed, index := c.index + 1 })

/-- Counts a frame after the time that passed, moved between the bounds. -/
def tick (c : FrameClock) (passed : Duration) : FrameTime × FrameClock := c.advance (c.clamp passed)

end FrameClock

end Facet
