/-!
# Trace resolution

The ray tracer writes one 16-byte pixel per point of its image into a buffer whose size the device
limits. A surface too large for that is traced at a lower resolution of the same aspect.
-/

namespace Facet

/-- A size in whole pixels. -/
structure Extent where
  width : UInt32
  height : UInt32
deriving DecidableEq, Repr

namespace Extent

/-- Whether neither side is zero. -/
def isDrawable (e : Extent) : Bool := e.width != 0 && e.height != 0

/-- The ratio of width to height, one for a size that is not drawable. -/
def aspect (e : Extent) : Float32 :=
  if e.isDrawable then e.width.toFloat32 / e.height.toFloat32 else 1

/-- The size with zero sides raised to one. -/
def atLeastOne (e : Extent) : Extent := ⟨max e.width 1, max e.height 1⟩

/-- The number of pixels. -/
def area (e : Extent) : UInt64 := e.width.toUInt64 * e.height.toUInt64

end Extent

namespace Trace

/-- The size of a pixel in device memory. -/
def pixelSize : UInt64 := 16

/-- A side scaled and rounded down, at least one. -/
def scaleSide (side : UInt32) (scale : Float) : UInt32 := max (side.toFloat * scale).toUInt32 1

/--
The resolution for a surface when the pixel buffer may have `maxBytes` bytes: that of the surface
if it fits, otherwise both sides scaled by the square root of the shortage. Never zero.
-/
def fitResolution (surface : Extent) (maxBytes : UInt64) : Extent :=
  let full := surface.atLeastOne
  let maxPixels := max (maxBytes / pixelSize) 1
  if full.area ≤ maxPixels then full
  else
    let scale := (maxPixels.toFloat / full.area.toFloat).sqrt
    ⟨scaleSide full.width scale, scaleSide full.height scale⟩

end Trace

end Facet
