import Facet.Bytes
import Facet.Face

/-!
# Triangle records

The packed form of a triangle in device memory: the normal and the corners, each padded to four
scalars with a zero. Before records are uploaded they are checked against their own geometry: a
normal should be orthogonal to every edge that has a direction (`deviation`).
-/

namespace Facet

/-- A triangle of sixteen scalars, 64 bytes. -/
structure TriangleRecord where
  normal : Vec4
  first : Vec4
  second : Vec4
  third : Vec4
deriving DecidableEq

namespace TriangleRecord

/-- The size of a record in device memory. -/
def byteSize : Nat := 64

/-- The largest deviation that passes for orthogonal. -/
def tolerance : Float32 := 1e-3

/-- The record of zeros. -/
def zero : TriangleRecord := ⟨⟨0, 0, 0, 0⟩, ⟨0, 0, 0, 0⟩, ⟨0, 0, 0, 0⟩, ⟨0, 0, 0, 0⟩⟩

/-- The normal and the first three corners of a face. -/
def ofFace (f : Face) : TriangleRecord :=
  { normal := Vec4.extend f.normal 0
    first := Vec4.extend (f.corner 0) 0
    second := Vec4.extend (f.corner 1) 0
    third := Vec4.extend (f.corner 2) 0 }

/-- A corner, without its padding. -/
def corner (r : TriangleRecord) : Fin 3 → Vec3
  | 0 => r.first.truncate
  | 1 => r.second.truncate
  | 2 => r.third.truncate

/-- The corner with the given number, if there is one. -/
def corner? (r : TriangleRecord) (i : Nat) : Option Vec3 :=
  if h : i < 3 then some (r.corner ⟨i, h⟩) else none

/-- The three edges, from each corner to the next. -/
def edges (r : TriangleRecord) : List Vec3 :=
  [r.corner 1 - r.corner 0, r.corner 2 - r.corner 1, r.corner 0 - r.corner 2]

/-- The larger of two deviations, where NaN counts as the largest. -/
def worse (worst d : Float32) : Float32 := if d.isNaN || worst < d then d else worst

/-- `|n · e|` for every edge that has a direction. -/
def deviations (r : TriangleRecord) : List Float32 :=
  (r.edges.filterMap Vec3.normalized?).map fun e => (r.normal.truncate.dot e).abs

/-- How far the normal leans from the triangle's own: the worst of the deviations, at least zero. -/
def deviation (r : TriangleRecord) : Float32 := r.deviations.foldl worse 0

/-- Whether the deviation is undefined or above a tolerance. -/
def isMisaligned (tolerance : Float32) (r : TriangleRecord) : Bool :=
  r.deviation.isNaN || tolerance < r.deviation

/-- The indices of the misaligned records. -/
def misaligned (tolerance : Float32) (records : List TriangleRecord) : List Nat :=
  (records.zipIdx.filter fun entry => entry.1.isMisaligned tolerance).map Prod.snd

def toList (r : TriangleRecord) : List Float32 :=
  r.normal.toList ++ r.first.toList ++ r.second.toList ++ r.third.toList

/-- The 64 bytes of a record. -/
def bytes (r : TriangleRecord) : List UInt8 := Bytes.ofScalars r.toList

/-- The bytes of a row of records, packed without gaps. -/
def image (records : List TriangleRecord) : List UInt8 := records.flatMap bytes

theorem length_bytes (r : TriangleRecord) : r.bytes.length = byteSize := rfl

theorem length_image (records : List TriangleRecord) :
    (image records).length = byteSize * records.length := by
  induction records with
  | nil => rfl
  | cons r rs ih =>
    simp only [image, List.flatMap_cons, List.length_append, List.length_cons] at ih ⊢
    rw [ih, length_bytes, Nat.mul_succ, Nat.add_comm]

end TriangleRecord

end Facet
