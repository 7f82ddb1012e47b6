import Facet.Proofs.BodyVertices
import Facet.Proofs.FloatModel
import Facet.Proofs.SharedTriangles

/-!
# Triangle records in device memory

The rasteriser draws a body from its row of vertices, the tracer from its records, and the two are
written independently. A record has sixteen scalars to a triangle where the row of vertices has
nine, and the tracer's shader finds a record by its position alone.

`readAt?` reads as the shader does. It finds each record of an image under its own position,
whatever follows in the buffer (`readAt?_image_append`), because a record takes 64 bytes and every
scalar comes back from its bit pattern (`ofBits_toBits`), NaN as the one NaN there is. Together with
what a record takes from its face this says that both ways of drawing see one geometry
(`SameGeometry`).
-/

namespace Facet

/-! ## Scalars and their bits -/

/-- A scalar is its bit pattern. -/
theorem Scalar.ofBits_toBits (x : Float32) : Float32.ofBits x.toBits = x := by
  obtain ⟨bits, hvalid⟩ := x
  have hsame := pack_unpack_of_valid (by decide) hvalid
  show Float32.ofModel (Float32.Model.ofBits bits) = _
  simp only [Float32.Model.ofBits, Float32.Model.pack, hsame, UInt32.ofBitVec_toBitVec]

namespace Bytes

theorem scalars_ofScalars (xs : List Float32) : scalars (ofScalars xs) = xs := by
  rw [scalars, words_ofScalars, List.map_map]
  exact (List.map_congr_left fun x _ => Scalar.ofBits_toBits x).trans (List.map_id xs)

end Bytes

namespace TriangleRecord

/-! ## Reading records back -/

/-- The record of sixteen scalars. -/
def ofScalars? : List Float32 → Option TriangleRecord
  | [nx, ny, nz, nw, px, py, pz, pw, qx, qy, qz, qw, sx, sy, sz, sw] =>
      some ⟨⟨nx, ny, nz, nw⟩, ⟨px, py, pz, pw⟩, ⟨qx, qy, qz, qw⟩, ⟨sx, sy, sz, sw⟩⟩
  | _ => none

/-- The record at a position of a byte row, if the row goes on that long. -/
def readAt? (bytes : List UInt8) (i : Nat) : Option TriangleRecord :=
  ofScalars? (Bytes.scalars ((bytes.drop (byteSize * i)).take byteSize))

theorem ofScalars?_toList (r : TriangleRecord) : ofScalars? r.toList = some r := rfl

theorem image_cons (r : TriangleRecord) (records : List TriangleRecord) :
    image (r :: records) = r.bytes ++ image records := List.flatMap_cons

theorem image_eq (records : List TriangleRecord) :
    image records = Bytes.ofScalars (records.flatMap toList) := by
  rw [image, Bytes.ofScalars, List.flatMap_assoc]
  rfl

/-- **A record is read back from its own position**, whatever comes after the records. -/
theorem readAt?_image_append (rest : List UInt8) : ∀ {records : List TriangleRecord} {i : Nat},
    i < records.length → readAt? (image records ++ rest) i = records[i]?
  | r :: records, 0, _ => by
      rw [readAt?, Nat.mul_zero, List.drop_zero, image_cons, List.append_assoc,
        List.take_left' (length_bytes r), bytes, Bytes.scalars_ofScalars, ofScalars?_toList]
      rfl
  | r :: records, i + 1, h => by
      have hnext := readAt?_image_append rest (Nat.lt_of_succ_lt_succ h)
      rw [readAt?] at hnext
      rw [readAt?, image_cons, List.append_assoc, Nat.mul_succ, Nat.add_comm, ← List.drop_drop,
        List.drop_left' (length_bytes r), hnext]
      rfl

theorem readAt?_image (records : List TriangleRecord) (i : Nat) :
    readAt? (image records) i = records[i]? := by
  by_cases h : i < records.length
  · have hread := readAt?_image_append [] h
    rwa [List.append_nil] at hread
  · -- past the last record there is nothing to read
    have hend : (image records).length ≤ byteSize * i := by
      rw [length_image]
      exact Nat.mul_le_mul_left byteSize (by omega)
    rw [readAt?, List.drop_eq_nil_of_le hend, List.getElem?_eq_none (by omega)]
    rfl

/-! ## What a record takes from a face -/

/-- The three corners. -/
def corners (r : TriangleRecord) : List Vec3 := List.ofFn r.corner

/-- The coordinates of the corners, without their padding. -/
def coordinates (r : TriangleRecord) : List Float32 := r.corners.flatMap Vec3.toList

/-- The record has the normal of a face and its first three corners, each padded with zero. -/
structure Packs (f : Face) (r : TriangleRecord) : Prop where
  normal_eq : r.normal.truncate = f.normal
  corners_eq : r.corners = f.corners.take 3
  padding : ∀ v ∈ [r.normal, r.first, r.second, r.third], v.w = 0

theorem packs_ofFace (f : Face) : Packs f (ofFace f) := by
  refine ⟨rfl, ?_, ?_⟩
  · obtain ⟨normal, corners, three_le⟩ := f
    match corners, three_le with
    | _ :: _ :: _ :: _, _ => rfl
  · simp [ofFace, Vec4.extend]

theorem coordinates_ofFace {f : Face} (h : f.isTriangle = true) :
    (ofFace f).coordinates = f.corners.flatMap Vec3.toList := by
  have hsize : f.corners.length = 3 := by simpa [Face.isTriangle, Face.size] using h
  rw [coordinates, (packs_ofFace f).corners_eq, ← hsize, List.take_length]

end TriangleRecord

namespace Body

open TriangleRecord

/-- The records `all` are those in `out` and then the body's, in the geometry that the row of
vertices has. -/
structure SameGeometry (b : Body) (out all : List TriangleRecord) : Prop where
  kept : all.take out.length = out
  length_eq : all.length = out.length + b.faces.length
  /-- One record per face, in the order of the faces. -/
  packs : ∀ i f, b.faces[i]? = some f → ∃ r, all[out.length + i]? = some r ∧ Packs f r
  coordinates_eq : (∀ f ∈ b.faces, f.isTriangle = true) →
    (all.drop out.length).flatMap coordinates = b.triangleVertices
  /-- Word for word, the image is the bit patterns of the scalars. -/
  words_image : Bytes.words (image all) = (all.flatMap toList).map Float32.toBits
  readAt?_image : ∀ i, readAt? (image all) i = all[i]?
  /-- A reader of the shared buffer finds each record under its position after an upload, also
  where the buffer is longer and has held other records. -/
  readAt?_shared : ∀ (shared : SharedTriangles) (binding : UInt32) (d : Device),
    ∃ buffer, ((Registry.Upload.mk binding all).into shared d).1.buffer.held = some buffer
      ∧ ∀ i < all.length, readAt? buffer.bytes i = all[i]?

theorem coordinates_records {b : Body} (h : ∀ f ∈ b.faces, f.isTriangle = true) :
    b.records.flatMap coordinates = b.triangleVertices := by
  rw [records, List.flatMap_map, triangleVertices]
  exact List.flatMap_congr fun f hf => coordinates_ofFace (h f hf)

/-- **The tracer sees the triangles that the rasteriser draws.** -/
theorem appendRecords_sameGeometry (b : Body) (out : List TriangleRecord) :
    SameGeometry b out (b.appendRecords out) := by
  refine ⟨?_, ?_, ?_, ?_, ?_, TriangleRecord.readAt?_image _, ?_⟩
  · rw [appendRecords, List.take_left]
  · rw [appendRecords, List.length_append, records, List.length_map]
  · intro i f hf
    refine ⟨ofFace f, ?_, packs_ofFace f⟩
    rw [appendRecords, List.getElem?_append_right (Nat.le_add_right _ _), Nat.add_sub_cancel_left,
      records, List.getElem?_map, hf]
    rfl
  · intro htriangles
    rw [appendRecords, List.drop_left]
    exact coordinates_records htriangles
  · rw [image_eq, Bytes.words_ofScalars]
  · intro shared binding d
    obtain ⟨buffer, hheld, -, -, himage⟩ :=
      Registry.triangleBinding?_into ⟨binding, b.appendRecords out⟩ shared d
    refine ⟨buffer, hheld, ?_⟩
    intro i hi
    obtain ⟨rest, hrest⟩ := himage
    rw [Buffer.bytes, ← hrest, List.append_assoc]
    exact readAt?_image_append _ hi

end Body

end Facet
