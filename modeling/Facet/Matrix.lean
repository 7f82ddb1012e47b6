import Facet.Scalar.Elementary
import Facet.Vector

/-!
# Matrices

Four-by-four matrices by columns: the view and the projection of a camera, and the inverse that
takes a point of the image back into space. The operations stand for those of the same library as
the vectors', in its order of evaluation. What is proved of a matrix is where its entries go; no
proof relies on how accurate they are.
-/

namespace Facet

/-- A four-by-four matrix, column by column. -/
structure Mat4 where
  col0 : Vec4
  col1 : Vec4
  col2 : Vec4
  col3 : Vec4
deriving DecidableEq, Inhabited

namespace Mat4

/-- The sixteen entries, column by column. -/
def toList (m : Mat4) : List Float32 :=
  m.col0.toList ++ m.col1.toList ++ m.col2.toList ++ m.col3.toList

/-- The image of a vector, the columns added from the left. -/
def apply (m : Mat4) (v : Vec4) : Vec4 :=
  m.col0 * v.x + m.col1 * v.y + m.col2 * v.z + m.col3 * v.w

/-- The product, column by column. -/
instance : Mul Mat4 :=
  ⟨fun a b => ⟨a.apply b.col0, a.apply b.col1, a.apply b.col2, a.apply b.col3⟩⟩

/-- Every entry scaled. -/
def scale (m : Mat4) (s : Float32) : Mat4 := ⟨m.col0 * s, m.col1 * s, m.col2 * s, m.col3 * s⟩

/-- The view from `eye` towards `center`, right-handed, with `up` pointing upwards in the image. -/
def lookAt (eye center up : Vec3) : Mat4 :=
  let f := (center - eye).normalize
  let s := (f.cross up).normalize
  let u := s.cross f
  { col0 := ⟨s.x, u.x, -f.x, 0⟩
    col1 := ⟨s.y, u.y, -f.y, 0⟩
    col2 := ⟨s.z, u.z, -f.z, 0⟩
    col3 := ⟨-(eye.dot s), -(eye.dot u), eye.dot f, 1⟩ }

/-- The right-handed perspective projection onto depths from zero to one. -/
def perspective (fovY aspect near far : Float32) : Mat4 :=
  let half := fovY * 0.5
  let h := Scalar.cos half / Scalar.sin half
  let w := h / aspect
  let r := far / (near - far)
  { col0 := ⟨w, 0, 0, 0⟩
    col1 := ⟨0, h, 0, 0⟩
    col2 := ⟨0, 0, r, -1⟩
    col3 := ⟨0, 0, r * near, 0⟩ }

/--
The inverse, as the adjugate times the reciprocal of the determinant. The determinant's four
terms are added in pairs, the first with the third. A singular matrix divides by zero and gives
infinite and undefined entries.
-/
def inverse (m : Mat4) : Mat4 :=
  let a := m.col0
  let b := m.col1
  let c := m.col2
  let d := m.col3
  -- the two-by-two minors of the last three columns, one vector per pair of rows
  let minors (p q : Vec4 → Float32) : Vec4 :=
    let last := p c * q d - p d * q c
    ⟨last, last, p b * q d - p d * q b, p b * q c - p c * q b⟩
  let zw := minors Vec4.z Vec4.w
  let yw := minors Vec4.y Vec4.w
  let yz := minors Vec4.y Vec4.z
  let xw := minors Vec4.x Vec4.w
  let xz := minors Vec4.x Vec4.z
  let xy := minors Vec4.x Vec4.y
  let rowX : Vec4 := ⟨b.x, a.x, a.x, a.x⟩
  let rowY : Vec4 := ⟨b.y, a.y, a.y, a.y⟩
  let rowZ : Vec4 := ⟨b.z, a.z, a.z, a.z⟩
  let rowW : Vec4 := ⟨b.w, a.w, a.w, a.w⟩
  let even : Vec4 := ⟨1, -1, 1, -1⟩
  let odd : Vec4 := ⟨-1, 1, -1, 1⟩
  let adjugate : Mat4 :=
    { col0 := (rowY * zw - rowZ * yw + rowW * yz) * even
      col1 := (rowX * zw - rowZ * xw + rowW * xz) * odd
      col2 := (rowX * yw - rowY * xw + rowW * xy) * even
      col3 := (rowX * yz - rowY * xz + rowZ * xy) * odd }
  let determinant := (a.x * adjugate.col0.x + a.z * adjugate.col2.x)
    + (a.y * adjugate.col1.x + a.w * adjugate.col3.x)
  adjugate.scale (1 / determinant)

end Mat4

end Facet
