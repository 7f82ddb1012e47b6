import Mathlib
import Facet.Face.EarClipping

/-!
# Splitting many faces

`triangulateAll` splits one face after the other, and the first that cannot be split ends it
(`triangulateAll_eq_ok_iff`, `triangulateAll_eq_error_iff`).

Splitting the triangles once more changes nothing. That is not so for the faces one starts with: a
triangle that was given a normal loses it to the one its corners define. What comes out is
`Finished`, and being finished is exactly what it takes to be left alone
(`triangulate_eq_self_iff`): the normal is that of the corners, or else the corners define none
and the normal, wherever it was inherited from, is the one to fall back on.
-/

namespace Facet.Face

variable {f t : Face} {faces triangles ts : List Face}

/-! ## One face -/

/-- A triangle that has the normal of its own corners, wherever these define one. -/
structure Finished (f : Face) : Prop where
  size_eq : f.size = 3
  normal_eq : (ringNormal? f.corners).getD f.normal = f.normal

/-- A triangle is one ear as it is, so at most its normal changes. -/
theorem triangulate_of_size_eq (h : f.size = 3) :
    f.triangulate = .ok [{ f with normal := (ringNormal? f.corners).getD f.normal }] := by
  obtain ⟨normal, corners, three_le⟩ := f
  obtain ⟨a, b, c, rfl⟩ := List.length_eq_three.mp h
  rfl

theorem mem_triangulate (h : f.triangulate = .ok ts) (ht : t ∈ ts) : ∃ e, t = ofEar f.normal e := by
  rw [triangulate] at h
  split at h
  · cases h
    obtain ⟨e, -, rfl⟩ := List.mem_map.mp ht
    exact ⟨e, rfl⟩
  · exact absurd h (by simp)

theorem normal_ofEar (parent : Vec3) (e : Ear Vec3) :
    (ofEar parent e).normal = (ringNormal? (ofEar parent e).corners).getD parent := rfl

theorem finished_ofEar (parent : Vec3) (e : Ear Vec3) : (ofEar parent e).Finished := by
  refine ⟨rfl, ?_⟩
  rw [normal_ofEar]
  -- with a normal of their own the corners ask for no other, and without one the parent's stays
  cases ringNormal? (ofEar parent e).corners <;> rfl

/-- **The faces that splitting leaves alone are the finished ones.** -/
theorem triangulate_eq_self_iff : f.triangulate = .ok [f] ↔ f.Finished := by
  constructor
  · intro h
    obtain ⟨e, he⟩ := mem_triangulate h List.mem_cons_self
    rw [he]
    exact finished_ofEar f.normal e
  · intro h
    rw [triangulate_of_size_eq h.size_eq, h.normal_eq]

/-! ## Face by face -/

theorem triangulateAll_eq_ok_iff : ∀ {faces triangles : List Face},
    triangulateAll faces = .ok triangles
      ↔ ∃ parts, List.Forall₂ (fun f ts => f.triangulate = .ok ts) faces parts
        ∧ triangles = parts.flatten
  | [], triangles => by
      rw [triangulateAll]
      constructor
      · intro h
        cases h
        exact ⟨[], .nil, rfl⟩
      · rintro ⟨parts, hparts, rfl⟩
        cases hparts
        rfl
  | f :: fs, triangles => by
      rw [triangulateAll]
      constructor
      · intro h
        cases hfirst : f.triangulate with
        | error e => rw [hfirst] at h; exact absurd h (by simp)
        | ok ts =>
            cases hmore : triangulateAll fs with
            | error e => rw [hfirst, hmore] at h; exact absurd h (by simp)
            | ok more =>
                rw [hfirst, hmore] at h
                cases h
                obtain ⟨parts, hparts, rfl⟩ := triangulateAll_eq_ok_iff.mp hmore
                exact ⟨ts :: parts, .cons hfirst hparts, rfl⟩
      · rintro ⟨_, _ | ⟨hfirst, hrest⟩, rfl⟩
        have hmore := triangulateAll_eq_ok_iff.mpr ⟨_, hrest, rfl⟩
        rw [hfirst, hmore]
        rfl

theorem exists_triangulateAll : ∀ faces : List Face,
    (∃ triangles, triangulateAll faces = .ok triangles)
      ↔ ∀ f ∈ faces, ∃ ts, f.triangulate = .ok ts
  | [] => by simp [triangulateAll]
  | f :: fs => by
      rw [List.forall_mem_cons, ← exists_triangulateAll fs, triangulateAll]
      cases f.triangulate with
      | error e => simp
      | ok ts => cases triangulateAll fs <;> simp

/-- **The first face that cannot be split decides the error.** -/
theorem triangulateAll_eq_error_iff {e : FaceError} : ∀ {faces : List Face},
    triangulateAll faces = .error e
      ↔ ∃ before f after, faces = before ++ f :: after
        ∧ (∀ g ∈ before, ∃ ts, g.triangulate = .ok ts) ∧ f.triangulate = .error e
  | [] => by simp [triangulateAll]
  | f :: fs => by
      rw [triangulateAll]
      constructor
      · intro h
        cases hfirst : f.triangulate with
        | error e' =>
            rw [hfirst] at h
            cases h
            exact ⟨[], f, fs, rfl, nofun, hfirst⟩
        | ok ts =>
            cases hmore : triangulateAll fs with
            | ok more => rw [hfirst, hmore] at h; exact absurd h (by simp)
            | error e' =>
                rw [hfirst, hmore] at h
                cases h
                obtain ⟨before, g, after, rfl, hbefore, hg⟩ := triangulateAll_eq_error_iff.mp hmore
                exact ⟨f :: before, g, after, rfl, List.forall_mem_cons.mpr ⟨⟨ts, hfirst⟩, hbefore⟩,
                  hg⟩
      · rintro ⟨before, g, after, heq, hbefore, hg⟩
        cases before with
        | nil =>
            cases heq
            rw [hg]
        | cons first before =>
            obtain ⟨rfl, rfl⟩ := List.cons.inj (heq.trans (List.cons_append ..))
            obtain ⟨⟨ts, hfirst⟩, hbefore⟩ := List.forall_mem_cons.mp hbefore
            rw [hfirst, triangulateAll_eq_error_iff.mpr ⟨before, g, after, rfl, hbefore, hg⟩]

/-- Every triangle of a list of split faces is an ear of one of them. -/
theorem mem_triangulateAll (h : triangulateAll faces = .ok triangles) :
    ∀ t ∈ triangles, ∃ f ∈ faces, ∃ ts, f.triangulate = .ok ts ∧ t ∈ ts := by
  intro t ht
  obtain ⟨parts, hparts, rfl⟩ := triangulateAll_eq_ok_iff.mp h
  obtain ⟨ts, hts, htmem⟩ := List.mem_flatten.mp ht
  obtain ⟨i, hi, rfl⟩ := List.mem_iff_getElem.mp hts
  obtain ⟨hlength, hsplit⟩ := List.forall₂_iff_get.mp hparts
  exact ⟨faces[i], List.getElem_mem _, _, hsplit i (by omega) hi, htmem⟩

theorem triangulateAll_of_finished (h : ∀ f ∈ faces, f.Finished) :
    triangulateAll faces = .ok faces := by
  refine triangulateAll_eq_ok_iff.mpr ⟨faces.map fun f => [f], ?_, ?_⟩
  · rw [List.forall₂_map_right_iff, List.forall₂_same]
    exact fun f hf => triangulate_eq_self_iff.mpr (h f hf)
  · rw [← List.flatMap_def, List.flatMap_singleton']

/-- How splitting a list of faces comes out. -/
structure SplitsEach (faces : List Face) : Prop where
  ok_iff : (∃ triangles, triangulateAll faces = .ok triangles)
    ↔ ∀ f ∈ faces, ∃ ts, f.triangulate = .ok ts
  /-- The error is that of the first face that cannot be split. -/
  error_iff : ∀ e, triangulateAll faces = .error e
    ↔ ∃ before f after, faces = before ++ f :: after
      ∧ (∀ g ∈ before, ∃ ts, g.triangulate = .ok ts) ∧ f.triangulate = .error e
  /-- The triangles are those of the single faces, in the order of the faces. -/
  concatenates : ∀ triangles, triangulateAll faces = .ok triangles
    ↔ ∃ parts, List.Forall₂ (fun f ts => f.triangulate = .ok ts) faces parts
      ∧ triangles = parts.flatten
  /-- Each is a triangle, with its own normal or that of the face it was cut off. -/
  triangle : ∀ triangles, triangulateAll faces = .ok triangles → ∀ t ∈ triangles,
    t.size = 3 ∧ ∃ f ∈ faces, t.normal = (ringNormal? t.corners).getD f.normal
  /-- Splitting the triangles gives the same triangles, with the same normals and corners. -/
  again : ∀ triangles, triangulateAll faces = .ok triangles →
    triangulateAll triangles = .ok triangles

/-- **Splitting a list of faces is splitting each, and once is enough.** -/
theorem triangulateAll_splitsEach (faces : List Face) : SplitsEach faces where
  ok_iff := exists_triangulateAll faces
  error_iff _ := triangulateAll_eq_error_iff
  concatenates _ := triangulateAll_eq_ok_iff
  triangle triangles h t ht := by
    obtain ⟨f, hf, ts, hts, htmem⟩ := mem_triangulateAll h t ht
    obtain ⟨e, rfl⟩ := mem_triangulate hts htmem
    exact ⟨rfl, f, hf, normal_ofEar f.normal e⟩
  again triangles h := by
    refine triangulateAll_of_finished ?_
    intro t ht
    obtain ⟨f, hf, ts, hts, htmem⟩ := mem_triangulateAll h t ht
    obtain ⟨e, rfl⟩ := mem_triangulate hts htmem
    exact finished_ofEar f.normal e

/-- The first triangle loses the normal it was given, the second has none of its own. -/
example : (triangulateAll [⟨⟨0, 0, 2⟩, [⟨0, 0, 0⟩, ⟨1, 0, 0⟩, ⟨0, 1, 0⟩], by decide⟩,
    ⟨⟨0, 0, 2⟩, [⟨0, 0, 0⟩, ⟨1, 0, 0⟩, ⟨2, 0, 0⟩], by decide⟩]).map (List.map normal)
      = .ok [⟨0, 0, 1⟩, ⟨0, 0, 2⟩] := by decide +kernel

end Facet.Face
