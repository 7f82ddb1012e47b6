import Facet.Vector

/-!
# Faces

A face is a planar polygon: a ring of at least three corners and the normal that decides which
way round the ring counts as forwards. The normal is taken on trust when it is given, and derived
from the first three corners otherwise.
-/

namespace Facet

/-- Why a face cannot be built or split. -/
inductive FaceError where
  /-- A ring needs at least three corners. -/
  | tooFewCorners (count : Nat)
  /-- The first three corners lie on a line, or their plane is lost to rounding. -/
  | degenerate
  /-- Every candidate ear of what is left of the ring is wound against the normal. -/
  | noValidEar (remaining attempts : Nat)
deriving DecidableEq, Repr

/-- The name of the kind of error. -/
def FaceError.kind : FaceError → String
  | .tooFewCorners _ => "TooFewNodes"
  | .degenerate => "Degenerate"
  | .noValidEar _ _ => "NoValidEar"

/-- The text shown to the user. -/
def FaceError.message : FaceError → String
  | .tooFewCorners count => s!"face must have at least 3 nodes (got {count})"
  | .degenerate => "face normal is undefined: first three nodes are collinear"
  | .noValidEar remaining attempts =>
    s!"no ear matches the face normal after {attempts} attempts ({remaining} nodes left)"

/-- A polygon: its corners in ring order, and its normal. -/
structure Face where
  normal : Vec3
  corners : List Vec3
  three_le : 3 ≤ corners.length
deriving DecidableEq

namespace Face

/-- The unit normal of the plane through three corners; it points to where they run
counter-clockwise. -/
def planeNormal? (a b c : Vec3) : Option Vec3 := ((a - b).cross (b - c)).normalized?

/-- The normal that the first three corners of a ring define. -/
def ringNormal? : List Vec3 → Option Vec3
  | a :: b :: c :: _ => planeNormal? a b c
  | _ => none

/-- The face with the given corners and normal; the normal is not checked. -/
def withNormal (corners : List Vec3) (normal : Vec3) : Except FaceError Face :=
  if h : 3 ≤ corners.length then .ok { normal, corners, three_le := h }
  else .error (.tooFewCorners corners.length)

/-- The face with the given corners, its normal derived from the first three. -/
def ofCorners (corners : List Vec3) : Except FaceError Face :=
  if h : 3 ≤ corners.length then
    match ringNormal? corners with
    | some normal => .ok { normal, corners, three_le := h }
    | none => .error .degenerate
  else .error (.tooFewCorners corners.length)

/-- The number of corners. -/
def size (f : Face) : Nat := f.corners.length

def isTriangle (f : Face) : Bool := f.size == 3

/-- Whether the ring is empty, which no face's ring is. -/
def isEmpty (f : Face) : Bool := f.corners.isEmpty

/-- One of the first three corners. -/
def corner (f : Face) (i : Fin 3) : Vec3 := f.corners.get (i.castLE f.three_le)

theorem isEmpty_eq_false (f : Face) : f.isEmpty = false := by
  have h := f.three_le
  cases hc : f.corners with
  | nil => simp [hc] at h
  | cons _ _ => simp [isEmpty, hc]

end Face

end Facet
