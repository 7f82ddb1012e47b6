import Facet.Scalar.Elementary
import Facet.Vector

/-!
# Colours

Linear colours with straight alpha, and the decoding of the non-linear bytes in which colours are
usually written down.
-/

namespace Facet

/-- A linear colour. -/
structure Color where
  r : Float32
  g : Float32
  b : Float32
  a : Float32
deriving DecidableEq

namespace Color

/-- An opaque colour. -/
def rgb (r g b : Float32) : Color := ⟨r, g, b, 1⟩

def black : Color := rgb 0 0 0

def white : Color := rgb 1 1 1

/-- The linear value of an sRGB component: a straight piece near zero, a power above it. -/
def linear (c : Float32) : Float32 :=
  if c ≤ 0.04045 then c / 12.92 else Scalar.pow ((c + 0.055) / 1.055) 2.4

/-- The colour of four bytes, of which alpha is linear already. -/
def ofSrgbBytes (r g b a : UInt8) : Color :=
  { r := linear (r.toFloat32 / 255)
    g := linear (g.toFloat32 / 255)
    b := linear (b.toFloat32 / 255)
    a := a.toFloat32 / 255 }

def toVec4 (c : Color) : Vec4 := ⟨c.r, c.g, c.b, c.a⟩

def toList (c : Color) : List Float32 := c.toVec4.toList

/-- The same colour with an alpha of one. -/
def opaqueVec4 (c : Color) : Vec4 := ⟨c.r, c.g, c.b, 1⟩

/-- The components in double precision. -/
def toDoubles (c : Color) : List Float := c.toList.map Float32.toFloat

end Color

/-- How bodies are shown. -/
structure RenderSettings where
  drawFaces : Bool := true
  drawEdges : Bool := true
  /-- Whether the image is traced instead of drawn. -/
  rayTracing : Bool := false
  clearColor : Color := Color.black
  faceColor : Color := ⟨0.5, 0.5, 0.5, 0.5⟩
  edgeColor : Color := Color.rgb 0 0 1
  /-- The binding index that triangles are uploaded to and traced from. -/
  triangleBinding : UInt32 := 1

end Facet
