import Facet.Face.EarClipping
import Facet.Scalar.Elementary

/-!
# Solids

Closed polyhedra ready to be shown: a cube, a pyramid and a hexagonal prism. Every face is wound
counter-clockwise seen from outside, so that each edge is run through once in either direction.
-/

namespace Facet.Solid

/-- The faces of rings of corners, in order; the first ring that makes no face decides the error. -/
def ofRings : List (List Vec3) → Except FaceError (List Face)
  | [] => .ok []
  | ring :: rings =>
    match Face.ofCorners ring with
    | .error e => .error e
    | .ok face =>
      match ofRings rings with
      | .error e => .error e
      | .ok faces => .ok (face :: faces)

/-- The rings of a cube with edges of length `size`: front, back, right, left, top, bottom. -/
def cubeRings (center : Vec3) (size : Float32) : List (List Vec3) :=
  let h := size / 2
  let p (x y z : Float32) : Vec3 := center + ⟨x * h, y * h, z * h⟩
  [ [p (-1) (-1) 1, p 1 (-1) 1, p 1 1 1, p (-1) 1 1],
    [p 1 (-1) (-1), p (-1) (-1) (-1), p (-1) 1 (-1), p 1 1 (-1)],
    [p 1 (-1) 1, p 1 (-1) (-1), p 1 1 (-1), p 1 1 1],
    [p (-1) (-1) (-1), p (-1) (-1) 1, p (-1) 1 1, p (-1) 1 (-1)],
    [p (-1) 1 1, p 1 1 1, p 1 1 (-1), p (-1) 1 (-1)],
    [p (-1) (-1) (-1), p 1 (-1) (-1), p 1 (-1) 1, p (-1) (-1) 1] ]

/-- A cube. -/
def cube (center : Vec3) (size : Float32) : Except FaceError (List Face) :=
  ofRings (cubeRings center size)

/-- The rings of a pyramid on a square base, as high as the base is wide: base first, then sides. -/
def pyramidRings (center : Vec3) (size : Float32) : List (List Vec3) :=
  let h := size / 2
  let p (x z : Float32) : Vec3 := center + ⟨x * h, -h, z * h⟩
  let apex := center + ⟨0, h, 0⟩
  let a := p (-1) 1
  let b := p 1 1
  let c := p 1 (-1)
  let d := p (-1) (-1)
  [ [d, c, b, a], [a, b, apex], [b, c, apex], [c, d, apex], [d, a, apex] ]

/-- A pyramid. -/
def pyramid (center : Vec3) (size : Float32) : Except FaceError (List Face) :=
  ofRings (pyramidRings center size)

/-- The corners of a regular hexagon at height `y`, counter-clockwise seen from above. -/
def hexagon (center : Vec3) (radius y : Float32) : List Vec3 :=
  (List.range 6).map fun k =>
    let a := Scalar.tau * Float32.ofNat k / 6
    center + ⟨radius * Scalar.cos a, y, -radius * Scalar.sin a⟩

/-- The side faces between two rings of equally many corners. -/
def sides (bottom top : List Vec3) : List (List Vec3) :=
  let next (ring : List Vec3) := ring.drop 1 ++ ring.take 1
  ((bottom.zip (next bottom)).zip ((next top).zip top)).map fun quad =>
    [quad.1.1, quad.1.2, quad.2.1, quad.2.2]

/-- The rings of an upright hexagonal prism: top, bottom, then the sides. -/
def hexPrismRings (center : Vec3) (radius height : Float32) : List (List Vec3) :=
  let h := height / 2
  let top := hexagon center radius h
  let bottom := hexagon center radius (-h)
  top :: bottom.reverse :: sides bottom top

/-- An upright hexagonal prism. -/
def hexPrism (center : Vec3) (radius height : Float32) : Except FaceError (List Face) :=
  ofRings (hexPrismRings center radius height)

/-- A named solid. -/
structure Shape where
  name : String
  faces : List Face

/-- The triangles of a shape. -/
def Shape.triangles (s : Shape) : Except FaceError (List Face) := Face.triangulateAll s.faces

/-- A cube, a pyramid and a prism side by side. -/
def demo : Except FaceError (List Shape) := do
  return [
    { name := "cube", faces := ← cube ⟨-1.5, 0, 0⟩ 1 },
    { name := "pyramid", faces := ← pyramid ⟨0, 0, 0⟩ 1 },
    { name := "hex prism", faces := ← hexPrism ⟨1.5, 0, 0⟩ 0.5 1 } ]

end Facet.Solid
