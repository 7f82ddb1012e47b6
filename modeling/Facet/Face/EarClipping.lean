import Facet.Face

/-!
# Ear clipping

A ring is split into triangles by cutting off one ear after the other: three consecutive members
of the ring, of which the middle one is then taken out. Candidates are tried round the ring
(`Ear.seek`); one that a test rejects moves the start on by one, and a full round of rejections
ends the attempt.

`Ear.split` knows nothing of geometry. It works on a ring of any type and with any test, so that
what it does can be followed on ring positions as well as on corners. `Face.triangulate` supplies
the test: an ear must not be wound against the face's normal.
-/

namespace Facet

/-- Three members of a ring in ring order. -/
structure Ear (α : Type) where
  first : α
  middle : α
  last : α
deriving DecidableEq

namespace Ear

variable {α β : Type}

def map (f : α → β) (e : Ear α) : Ear β := ⟨f e.first, f e.middle, f e.last⟩

def toList (e : Ear α) : List α := [e.first, e.middle, e.last]

/-- The candidate ear of a ring at a start index, which wraps round. -/
def candidate (ring : List α) (h : 0 < ring.length) (start : Nat) : Ear α :=
  { first := ring.get ⟨start % ring.length, Nat.mod_lt _ h⟩
    middle := ring.get ⟨(start + 1) % ring.length, Nat.mod_lt _ h⟩
    last := ring.get ⟨(start + 2) % ring.length, Nat.mod_lt _ h⟩ }

/-- A ring of exactly three members, as one ear. -/
def whole : List α → List (Ear α)
  | [a, b, c] => [⟨a, b, c⟩]
  | _ => []

/-- A ring of `remaining` members on which `attempts` candidates in a row were rejected. -/
structure Stuck where
  remaining : Nat
  attempts : Nat
deriving DecidableEq, Repr

/--
The index of the first ear that passes, among the next `tries` candidates from `start` on. The
candidates rejected on the way are added to `attempts`.
-/
def seek (rejects : Ear α → Bool) (ring : List α) (h : 0 < ring.length) :
    (tries start attempts : Nat) → Except Stuck Nat
  | 0, _, attempts => .error ⟨ring.length, attempts⟩
  | tries + 1, start, attempts =>
    if rejects (candidate ring h start) then
      seek rejects ring h tries ((start + 1) % ring.length) (attempts + 1)
    else .ok start

/--
Splits a ring into ears, beginning with the candidate at `start`. At most `cuts` ears are cut off
before the rest is taken for the last one; every member of the ring is candidate once per cut.
-/
def clip (rejects : Ear α → Bool) :
    (cuts : Nat) → (ring : List α) → (start : Nat) → Except Stuck (List (Ear α))
  | 0, ring, _ => .ok (whole ring)
  | cuts + 1, ring, start =>
    if h : 3 < ring.length then
      match seek rejects ring (by omega) ring.length start 0 with
      | .error stuck => .error stuck
      | .ok i =>
        let shorter := ring.eraseIdx ((i + 1) % ring.length)
        match clip rejects cuts shorter ((i + 1) % shorter.length) with
        | .error stuck => .error stuck
        | .ok ears => .ok (candidate ring (by omega) i :: ears)
    else .ok (whole ring)

/-- Splits a ring into ears; a ring of `n + 3` members takes `n` cuts. -/
def split (rejects : Ear α → Bool) (ring : List α) : Except Stuck (List (Ear α)) :=
  clip rejects (ring.length - 3) ring 0

end Ear

namespace Face

/-- How far an ear turns along a normal: positive for a left turn, negative for a right turn. -/
def winding (normal : Vec3) (e : Ear Vec3) : Float32 :=
  ((e.middle - e.first).cross (e.last - e.middle)).dot normal

/-- The triangle of an ear, with its own normal, or `parent` where the ear's corners define none. -/
def ofEar (parent : Vec3) (e : Ear Vec3) : Face :=
  { normal := (planeNormal? e.first e.middle e.last).getD parent
    corners := e.toList
    three_le := Nat.le_refl 3 }

/--
Splits a face into triangles.

An ear is refused only when its winding is negative; a winding of zero or NaN passes. The last
three corners form a triangle without a test.
-/
def triangulate (f : Face) : Except FaceError (List Face) :=
  match Ear.split (fun e => winding f.normal e < 0) f.corners with
  | .ok ears => .ok (ears.map (ofEar f.normal))
  | .error stuck => .error (.noValidEar stuck.remaining stuck.attempts)

/-- Splits every face, keeping their order; the first that cannot be split decides the error. -/
def triangulateAll : List Face → Except FaceError (List Face)
  | [] => .ok []
  | f :: fs =>
    match f.triangulate with
    | .error e => .error e
    | .ok triangles =>
      match triangulateAll fs with
      | .error e => .error e
      | .ok more => .ok (triangles ++ more)

end Face

end Facet
