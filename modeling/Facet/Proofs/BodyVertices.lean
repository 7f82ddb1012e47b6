import Facet.Body
import Facet.Proofs.Triangulation

/-!
# The vertices of a body

A body goes to the device as two bare rows of scalars, and only the order of the scalars says which
face and which corner each belongs to. The outlines take two vertices for every corner: the corner,
and the one after it in the *same* face, which for the last corner is the first.

Both rows are written one face after the other, so a fact about one ring carries over to the row of
all rings. For one ring it is that the starts of its sides are its corners and their ends are its
corners rotated (`everySecond_ends`, `everySecond_ends_tail`).
-/

namespace Facet

/-! ## Reading a row -/

section Rows

variable {α : Type}

/-- The groups of three of a row; up to two members left over at the end are ignored. -/
def groups : List α → List (List α)
  | a :: b :: c :: rest => [a, b, c] :: groups rest
  | _ => []

/-- The first of a row, the third, and so on. -/
def everySecond : List α → List α
  | a :: _ :: rest => a :: everySecond rest
  | [a] => [a]
  | [] => []

/-- The segments of a row of scalars, each six of them: its start and its end. -/
def segments : List Float32 → List (Vec3 × Vec3)
  | a :: b :: c :: x :: y :: z :: rest => (⟨a, b, c⟩, ⟨x, y, z⟩) :: segments rest
  | _ => []

/-- The ends of the given segments, in turn. -/
def ends (sides : List (α × α)) : List α := sides.flatMap fun side => [side.1, side.2]

theorem everySecond_cons (a : α) : ∀ rest : List α,
    everySecond (a :: rest) = a :: everySecond rest.tail
  | [] => rfl
  | _ :: _ => rfl

theorem everySecond_ends : ∀ sides : List (α × α), everySecond (ends sides) = sides.map Prod.fst
  | [] => rfl
  | side :: sides => by
      show side.1 :: everySecond (ends sides) = side.1 :: sides.map Prod.fst
      rw [everySecond_ends sides]

theorem everySecond_ends_tail : ∀ sides : List (α × α),
    everySecond (ends sides).tail = sides.map Prod.snd
  | [] => rfl
  | side :: sides => by
      show everySecond (side.2 :: ends sides) = side.2 :: sides.map Prod.snd
      rw [everySecond_cons, everySecond_ends_tail sides]

theorem everySecond_map {β : Type} (g : α → β) : ∀ row : List α,
    everySecond (row.map g) = (everySecond row).map g
  | [] => rfl
  | [_] => rfl
  | a :: _ :: rest => congrArg (g a :: ·) (everySecond_map g rest)

end Rows

theorem groups_coordinates : ∀ vs : List Vec3,
    groups (vs.flatMap Vec3.toList) = vs.map Vec3.toList
  | [] => rfl
  | v :: vs => congrArg (v.toList :: ·) (groups_coordinates vs)

theorem segments_coordinates : ∀ sides : List (Vec3 × Vec3),
    segments ((ends sides).flatMap Vec3.toList) = sides
  | [] => rfl
  | side :: sides => congrArg (side :: ·) (segments_coordinates sides)

theorem length_coordinates (vs : List Vec3) : (vs.flatMap Vec3.toList).length = 3 * vs.length := by
  induction vs with
  | nil => rfl
  | cons v vs ih =>
      rw [List.flatMap_cons, List.length_append, ih, List.length_cons]
      show 3 + 3 * vs.length = _
      omega

/-! ## Rings -/

namespace Face

/-- The corner after a corner, round the ring. -/
def next (f : Face) (i : Fin f.corners.length) : Fin f.corners.length :=
  ⟨(i + 1) % f.corners.length, Nat.mod_lt _ (Nat.lt_of_lt_of_le (by decide) f.three_le)⟩

/-- The closed cycle of segments round a face. -/
def cycle (f : Face) : List (Vec3 × Vec3) :=
  List.ofFn fun i => (f.corners.get i, f.corners.get (f.next i))

/-- The face whose ring begins one corner later. -/
def rotated (f : Face) : Face :=
  { f with
    corners := f.corners.rotate 1
    three_le := by rw [List.length_rotate]; exact f.three_le }

end Face

namespace Body

theorem rotate_eq_rotate_one {α : Type} (ring : List α) : rotate ring = ring.rotate 1 := by
  cases ring with
  | nil => rfl
  | cons a rest => rw [rotate, List.rotate_cons_succ, List.rotate_zero]

theorem outline_eq_ringSides (corners : List Vec3) : outline corners = Ear.ringSides corners := by
  rw [outline, rotate_eq_rotate_one, Ear.ringSides]

theorem outline_eq_cycle (f : Face) : outline f.corners = f.cycle := by
  rw [outline_eq_ringSides, Face.cycle]
  refine List.ext_getElem ?_ ?_
  · rw [Ear.length_ringSides, List.length_ofFn]
  · intro i hi hi'
    simp [Ear.ringSides, List.getElem_rotate, Face.next]

theorem map_fst_outline (corners : List Vec3) : (outline corners).map Prod.fst = corners := by
  rw [outline_eq_ringSides, Ear.ringSides]
  exact List.map_fst_zip (by rw [List.length_rotate])

theorem map_snd_outline (corners : List Vec3) :
    (outline corners).map Prod.snd = corners.rotate 1 := by
  rw [outline_eq_ringSides, Ear.ringSides]
  exact List.map_snd_zip (by rw [List.length_rotate])

/-! ## Both rows -/

/-- How many corners the faces have together. -/
def cornerCount (b : Body) : Nat := (b.faces.map Face.size).sum

/-- The body whose faces begin one corner later each. -/
def rotated (b : Body) : Body := { b with faces := b.faces.map Face.rotated }

/-- All corners, and all sides, face by face. -/
def allCorners (b : Body) : List Vec3 := b.faces.flatMap Face.corners
def allSides (b : Body) : List (Vec3 × Vec3) := b.faces.flatMap fun f => outline f.corners

theorem triangleVertices_eq (b : Body) : b.triangleVertices = b.allCorners.flatMap Vec3.toList :=
  List.flatMap_assoc.symm

theorem edgeVertices_eq (b : Body) :
    b.edgeVertices = (ends b.allSides).flatMap Vec3.toList := by
  rw [edgeVertices, allSides, ends, List.flatMap_assoc, List.flatMap_assoc]
  refine List.flatMap_congr fun f _ => List.flatMap_congr fun side _ => ?_
  simp

theorem length_allCorners (b : Body) : b.allCorners.length = b.cornerCount := by
  rw [allCorners, List.length_flatMap]
  rfl

theorem map_fst_allSides (b : Body) : b.allSides.map Prod.fst = b.allCorners := by
  rw [allSides, List.map_flatMap]
  exact List.flatMap_congr fun f _ => map_fst_outline f.corners

theorem map_snd_allSides (b : Body) : b.allSides.map Prod.snd = b.rotated.allCorners := by
  rw [allSides, List.map_flatMap, allCorners, rotated, List.flatMap_map]
  exact List.flatMap_congr fun f _ => map_snd_outline f.corners

theorem length_triangleVertices (b : Body) : b.triangleVertices.length = 3 * b.cornerCount := by
  rw [triangleVertices_eq, length_coordinates, length_allCorners]

theorem length_edgeVertices (b : Body) : b.edgeVertices.length = 6 * b.cornerCount := by
  have hsides : b.allSides.length = b.cornerCount := by
    rw [← length_allCorners, ← map_fst_allSides, List.length_map]
  have hends : (ends b.allSides).length = 2 * b.allSides.length := by
    rw [ends, List.length_flatMap]
    simp [Nat.mul_comm]
  rw [edgeVertices_eq, length_coordinates, hends, hsides]
  omega

/-- The outlines of a body, against its corners. -/
structure OutlinesFaces (b : Body) : Prop where
  length_eq : b.edgeVertices.length = 2 * b.triangleVertices.length
  /-- The vertices in even places are the corners. -/
  starts_eq : (everySecond (groups b.edgeVertices)).flatten = b.triangleVertices
  /-- Those in odd places are the corners of the faces begun one later. -/
  ends_eq : (everySecond (groups b.edgeVertices).tail).flatten = b.rotated.triangleVertices
  /-- The segments are one closed cycle round each face, and no others. -/
  segments_eq : segments b.edgeVertices = b.faces.flatMap Face.cycle

/-- **The outlines of a body go once round each of its faces.** -/
theorem outlinesFaces (b : Body) : OutlinesFaces b := by
  have hgroups : groups b.edgeVertices = (ends b.allSides).map Vec3.toList := by
    rw [edgeVertices_eq, groups_coordinates]
  refine ⟨?_, ?_, ?_, ?_⟩
  · rw [length_edgeVertices, length_triangleVertices]
    omega
  · rw [hgroups, everySecond_map, everySecond_ends, map_fst_allSides, ← List.flatMap_def,
      triangleVertices_eq]
  · rw [hgroups, ← List.map_tail, everySecond_map, everySecond_ends_tail, map_snd_allSides,
      ← List.flatMap_def, triangleVertices_eq]
  · rw [edgeVertices_eq, segments_coordinates, allSides]
    exact List.flatMap_congr fun f _ => outline_eq_cycle f

end Body

end Facet
