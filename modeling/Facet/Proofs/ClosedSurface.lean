import Facet.Face.Solid
import Facet.Proofs.Triangulation

/-!
# Closed surfaces

A list of faces is a closed surface, consistently oriented, when every edge is run through as often
in one direction as in the other. Positions are compared bit for bit: corners that rounding has
brought together are one position, and zeros of different sign are two.

Splitting faces keeps the *surplus* of every edge, the difference between its two directions,
because a diagonal is a side of two ears that run through it in opposite directions
(`Ear.Clipped.exists_diagonals`). That a solid has no surplus to begin with is a fact about its
net, the rings of its corners' names, and does not depend on where the corners are: `Closed.map`
carries it from names to positions.
-/

namespace Facet

variable {α β : Type}

/-! ## Surplus -/

/-- How much more often an edge is run through from `p` to `q` than back. -/
def surplus [DecidableEq α] (edges : List (α × α)) (p q : α) : Int :=
  (edges.countP fun e => e = (p, q)) - (edges.countP fun e => e = (q, p))

section

variable [DecidableEq α]

theorem surplus_append (edges edges' : List (α × α)) (p q : α) :
    surplus (edges ++ edges') p q = surplus edges p q + surplus edges' p q := by
  simp only [surplus, List.countP_append]
  omega

theorem surplus_perm {edges edges' : List (α × α)} (h : edges.Perm edges') (p q : α) :
    surplus edges p q = surplus edges' p q := by
  rw [surplus, surplus, h.countP_eq, h.countP_eq]

/-- Run backwards, every edge counts the other way. -/
theorem surplus_map_swap (edges : List (α × α)) (p q : α) :
    surplus (edges.map Prod.swap) p q = -surplus edges p q := by
  have hback : ∀ p q : α, (edges.map Prod.swap).countP (fun e => e = (p, q))
      = edges.countP fun e => e = (q, p) := by
    intro p q
    rw [List.countP_map]
    refine List.countP_congr fun e _ => ?_
    have hswap : e.swap = (p, q) ↔ e = (q, p) :=
      ⟨fun h => by rw [← e.swap_swap, h]; rfl, fun h => by rw [h]; rfl⟩
    simp [hswap]
  rw [surplus, surplus, hback, hback]
  omega

end

/-! ## Splitting faces -/

/-- **Cutting ears keeps the surplus of every edge.** -/
theorem Ear.Clipped.surplus_sides [DecidableEq α] {ring : List α} {ears : List (Ear α)}
    (h : Ear.Clipped ring ears) (p q : α) :
    surplus (ears.flatMap Ear.sides) p q = surplus (Ear.ringSides ring) p q := by
  obtain ⟨diagonals, -, hperm⟩ := h.exists_diagonals
  calc surplus (ears.flatMap Ear.sides) p q
      = surplus (Ear.ringSides ring ++ (diagonals ++ diagonals.map Prod.swap)) p q :=
        surplus_perm hperm p q
    _ = surplus (Ear.ringSides ring) p q := by
        rw [surplus_append, surplus_append, surplus_map_swap]
        omega

namespace Face

/-- The directed sides of the rings of faces. -/
def directedEdges (faces : List Face) : List (Vec3 × Vec3) :=
  faces.flatMap fun f => Ear.ringSides f.corners

/-- How often the faces run from one position straight to another, positions being told apart by
their bits. -/
def edgeCount (faces : List Face) (p q : Vec3) : Nat :=
  (directedEdges faces).countP fun e => e = (p, q)

theorem directedEdges_append (faces faces' : List Face) :
    directedEdges (faces ++ faces') = directedEdges faces ++ directedEdges faces' :=
  List.flatMap_append

theorem surplus_triangulate {f : Face} {triangles : List Face}
    (h : f.triangulate = .ok triangles) (p q : Vec3) :
    surplus (directedEdges triangles) p q = surplus (directedEdges [f]) p q := by
  rw [triangulate] at h
  split at h
  · rename_i ears hsplit
    injection h with h; subst h
    have hears : directedEdges (ears.map (ofEar f.normal)) = ears.flatMap Ear.sides := by
      rw [directedEdges, List.flatMap_map]
      rfl
    have hface : directedEdges [f] = Ear.ringSides f.corners := List.flatMap_singleton _ _
    rw [hears, hface]
    exact (Ear.split_clipped f.three_le hsplit).surplus_sides p q
  · exact absurd h (by simp)

theorem surplus_triangulateAll : ∀ {faces triangles : List Face},
    triangulateAll faces = .ok triangles → ∀ p q,
      surplus (directedEdges triangles) p q = surplus (directedEdges faces) p q
  | [], triangles, h, p, q => by
      injection h with h
      rw [← h]
  | f :: fs, triangles, h, p, q => by
      rw [triangulateAll] at h
      split at h
      · exact absurd h (by simp)
      · rename_i first hfirst
        split at h
        · exact absurd h (by simp)
        · rename_i more hmore
          injection h with h; subst h
          rw [← List.singleton_append, directedEdges_append, directedEdges_append, surplus_append,
            surplus_append, surplus_triangulate hfirst, surplus_triangulateAll hmore]

end Face

/-! ## Closed nets -/

/-- The rings run through every edge as often in one direction as in the other. -/
def Closed (rings : List (List α)) : Prop :=
  (rings.flatMap Ear.ringSides).Perm ((rings.flatMap Ear.ringSides).map Prod.swap)

instance [DecidableEq α] (rings : List (List α)) : Decidable (Closed rings) :=
  inferInstanceAs (Decidable (List.Perm _ _))

theorem ringSides_map (f : α → β) (ring : List α) :
    Ear.ringSides (ring.map f) = (Ear.ringSides ring).map (Prod.map f f) := by
  rw [Ear.ringSides, Ear.ringSides, ← List.map_rotate, List.zip_map]

/-- A net stays closed wherever its corners are put, in one place or apart. -/
theorem Closed.map {net : List (List α)} (h : Closed net) (f : α → β) :
    Closed (net.map (List.map f)) := by
  have hsides : (net.map (List.map f)).flatMap Ear.ringSides
      = (net.flatMap Ear.ringSides).map (Prod.map f f) := by
    rw [List.flatMap_map, List.map_flatMap]
    simp only [ringSides_map]
  have hswap : (Prod.map f f ∘ Prod.swap : α × α → β × β) = Prod.swap ∘ Prod.map f f := rfl
  rw [Closed, hsides, List.map_map, ← hswap, ← List.map_map]
  exact List.Perm.map (Prod.map f f) h

theorem Closed.surplus_eq_zero [DecidableEq α] {rings : List (List α)} (h : Closed rings)
    (p q : α) : surplus (rings.flatMap Ear.ringSides) p q = 0 := by
  have hback := surplus_perm h p q
  rw [surplus_map_swap] at hback
  omega

namespace Solid

/-! ## The three solids -/

/-- The corners of a cube, named by the side they lie on in each direction. -/
def cubeNet : List (List (Bool × Bool × Bool)) :=
  [ [(false, false, true), (true, false, true), (true, true, true), (false, true, true)],
    [(true, false, false), (false, false, false), (false, true, false), (true, true, false)],
    [(true, false, true), (true, false, false), (true, true, false), (true, true, true)],
    [(false, false, false), (false, false, true), (false, true, true), (false, true, false)],
    [(false, true, true), (true, true, true), (true, true, false), (false, true, false)],
    [(false, false, false), (true, false, false), (true, false, true), (false, false, true)] ]

/-- Where the corner of a name is. -/
def cubeCorner (center : Vec3) (size : Float32) (c : Bool × Bool × Bool) : Vec3 :=
  let side (b : Bool) : Float32 := (if b then 1 else -1) * (size / 2)
  center + ⟨side c.1, side c.2.1, side c.2.2⟩

theorem cubeRings_closed (center : Vec3) (size : Float32) : Closed (cubeRings center size) := by
  have hnet : cubeRings center size = cubeNet.map (List.map (cubeCorner center size)) := rfl
  have hclosed : Closed cubeNet := by decide +kernel
  rw [hnet]
  exact hclosed.map _

/-- The corners of a pyramid: the base counter-clockwise seen from above, then the apex. -/
def pyramidNet : List (List (Fin 5)) :=
  [[3, 2, 1, 0], [0, 1, 4], [1, 2, 4], [2, 3, 4], [3, 0, 4]]

def pyramidCorner (center : Vec3) (size : Float32) : Fin 5 → Vec3 :=
  let h := size / 2
  let base (x z : Float32) : Vec3 := center + ⟨x * h, -h, z * h⟩
  ![base (-1) 1, base 1 1, base 1 (-1), base (-1) (-1), center + ⟨0, h, 0⟩]

theorem pyramidRings_closed (center : Vec3) (size : Float32) :
    Closed (pyramidRings center size) := by
  have hnet : pyramidRings center size = pyramidNet.map (List.map (pyramidCorner center size)) :=
    rfl
  have hclosed : Closed pyramidNet := by decide +kernel
  rw [hnet]
  exact hclosed.map _

/-- The corners of a prism on hexagons: on top or not, and the place in the ring. -/
def prismNet : List (List (Bool × Nat)) :=
  (List.range 6).map (true, ·) :: ((List.range 6).map (false, ·)).reverse
    :: (List.range 6).map fun k =>
      [(false, k), (false, (k + 1) % 6), (true, (k + 1) % 6), (true, k)]

def prismCorner (center : Vec3) (radius height : Float32) (c : Bool × Nat) : Vec3 :=
  let a := Scalar.tau * Float32.ofNat c.2 / 6
  let y := if c.1 then height / 2 else -(height / 2)
  center + ⟨radius * Scalar.cos a, y, -radius * Scalar.sin a⟩

theorem hexPrismRings_closed (center : Vec3) (radius height : Float32) :
    Closed (hexPrismRings center radius height) := by
  have hnet : hexPrismRings center radius height
      = prismNet.map (List.map (prismCorner center radius height)) := rfl
  have hclosed : Closed prismNet := by decide +kernel
  rw [hnet]
  exact hclosed.map _

theorem corners_ofRings : ∀ {rings : List (List Vec3)} {faces : List Face},
    ofRings rings = .ok faces → faces.map Face.corners = rings
  | [], faces, h => by
      injection h with h
      rw [← h]
      rfl
  | ring :: rings, faces, h => by
      rw [ofRings] at h
      split at h
      · exact absurd h (by simp)
      · rename_i face hface
        split at h
        · exact absurd h (by simp)
        · rename_i more hmore
          injection h with h; subst h
          have hcorners : face.corners = ring := by
            rw [Face.ofCorners] at hface
            split at hface
            · split at hface
              · injection hface with hface; subst hface
                rfl
              · exact absurd hface (by simp)
            · exact absurd hface (by simp)
          rw [List.map_cons, hcorners, corners_ofRings hmore]

/-- The faces of one of the three solids. -/
inductive IsSolid : List Face → Prop where
  | cube {center : Vec3} {size : Float32} {faces : List Face} :
      cube center size = .ok faces → IsSolid faces
  | pyramid {center : Vec3} {size : Float32} {faces : List Face} :
      pyramid center size = .ok faces → IsSolid faces
  | hexPrism {center : Vec3} {radius height : Float32} {faces : List Face} :
      hexPrism center radius height = .ok faces → IsSolid faces

theorem IsSolid.surplus_eq_zero {faces : List Face} (h : IsSolid faces) (p q : Vec3) :
    surplus (Face.directedEdges faces) p q = 0 := by
  have hrings : ∀ rings, Closed rings → ofRings rings = .ok faces →
      surplus (Face.directedEdges faces) p q = 0 := by
    intro rings hclosed hfaces
    have hedges : Face.directedEdges faces = rings.flatMap Ear.ringSides := by
      rw [← corners_ofRings hfaces, List.flatMap_map]
      rfl
    rw [hedges]
    exact hclosed.surplus_eq_zero p q
  cases h with
  | cube hfaces => exact hrings _ (cubeRings_closed _ _) hfaces
  | pyramid hfaces => exact hrings _ (pyramidRings_closed _ _) hfaces
  | hexPrism hfaces => exact hrings _ (hexPrismRings_closed _ _ _) hfaces

/--
**Splitting faces opens no surface and closes none**: between any two positions the triangles have
the surplus of the faces. The triangles of a cube, a pyramid or a prism are a closed surface,
whatever its size and place.
-/
theorem triangulateAll_keeps_surplus {faces triangles : List Face}
    (h : Face.triangulateAll faces = .ok triangles) :
    (∀ p q, (Face.edgeCount triangles p q : Int) - Face.edgeCount triangles q p
        = Face.edgeCount faces p q - Face.edgeCount faces q p)
      ∧ (IsSolid faces → ∀ p q, Face.edgeCount triangles p q = Face.edgeCount triangles q p) := by
  have hsame := Face.surplus_triangulateAll h
  refine ⟨hsame, ?_⟩
  intro hsolid p q
  have hzero : (Face.edgeCount triangles p q : Int) - Face.edgeCount triangles q p = 0 :=
    (hsame p q).trans (hsolid.surplus_eq_zero p q)
  omega

/-- A prism beside the origin is split into twenty triangles that close up. -/
theorem hexPrism_closes_up :
    ∃ faces triangles, hexPrism ⟨1.5, 0, 0⟩ 0.5 1 = .ok faces
      ∧ Face.triangulateAll faces = .ok triangles ∧ triangles.length = 20
      ∧ (∀ p q, (Face.edgeCount triangles p q : Int) - Face.edgeCount triangles q p
        = Face.edgeCount faces p q - Face.edgeCount faces q p)
      ∧ ∀ p q, Face.edgeCount triangles p q = Face.edgeCount triangles q p := by
  have hlength : ((hexPrism ⟨1.5, 0, 0⟩ 0.5 1).bind Face.triangulateAll).map List.length
      = .ok 20 := by decide +kernel
  cases hfaces : hexPrism ⟨1.5, 0, 0⟩ 0.5 1 with
  | error e => rw [hfaces] at hlength; exact absurd hlength (by simp [Except.bind, Except.map])
  | ok faces =>
      rw [hfaces] at hlength
      change (Face.triangulateAll faces).map List.length = .ok 20 at hlength
      cases htriangles : Face.triangulateAll faces with
      | error e => rw [htriangles] at hlength; exact absurd hlength (by simp [Except.map])
      | ok triangles =>
          rw [htriangles] at hlength
          injection hlength with hlength
          obtain ⟨hkeeps, hcloses⟩ := triangulateAll_keeps_surplus htriangles
          exact ⟨faces, triangles, rfl, htriangles, hlength, hkeeps, hcloses (.hexPrism hfaces)⟩

end Solid

end Facet
