import Facet.Proofs.BodyVertices
import Facet.Proofs.BufferLedger

/-!
# The two streams of a body

A body is uploaded when its triangles are; nobody asks the edges. An upload writes both streams over
what they were, without a look at what they held, so it is right only as long as the two go
together: a stream left behind by the other would lose its buffer.

What a call leaves does not depend on what it found. A release leaves the body as it was made
(`release_eq`), an upload leaves both streams as the faces have them (`upload_holds`), and so the
last call alone decides between all and nothing (`allOrNothing_after`). An upload over an earlier
one is a release and then an upload (`upload_eq_upload_release`), and that is where the old buffers
go, before there are new ones.
-/

namespace Facet

/-- The stream has the given coordinates: their bytes in its buffer, their vertices in its count. -/
structure VertexStream.Holds (s : VertexStream) (coordinates : List Float32) : Prop where
  bytes_eq : ∃ buffer, s.buffer.held = some buffer ∧ buffer.size = 4 * coordinates.length
    ∧ buffer.bytes = Bytes.ofScalars coordinates
  vertexCount_eq : s.vertexCount = UInt32.ofNat (coordinates.length / 3)

theorem VertexStream.upload_holds (s : VertexStream) (coordinates : List Float32) (d : Device) :
    (s.upload coordinates d).1.Holds coordinates := by
  refine ⟨⟨_, rfl, Bytes.length_ofScalars coordinates, ?_⟩, rfl⟩
  -- the buffer is as long as what it is made with, so no zeros follow
  show Bytes.ofScalars coordinates ++ List.replicate
    ((Bytes.ofScalars coordinates).length - (Bytes.ofScalars coordinates).length) 0
      = Bytes.ofScalars coordinates
  rw [Nat.sub_self, List.replicate_zero, List.append_nil]

namespace Body

/-! ## One call -/

variable {b : Body}

/-- An upload leaves both streams with the coordinates of the faces. -/
theorem upload_holds (b : Body) (d : Device) :
    (b.upload d).1.triangles.Holds b.triangleVertices
      ∧ (b.upload d).1.edges.Holds b.edgeVertices :=
  ⟨VertexStream.upload_holds _ _ _, VertexStream.upload_holds _ _ _⟩

/-- A release destroys the buffers that are held, that of the triangles first. -/
theorem release_events (b : Body) (d : Device) :
    (b.release d).2.events = d.events ++ b.bufferIds.map .destroyed := by
  have hstream : ∀ (s : VertexStream) (d : Device),
      (s.release d).2.events = d.events ++ s.buffer.ids.map .destroyed := by
    intro s d
    rw [VertexStream.release, Device.release, Holder.take, Holder.ids]
    cases s.buffer.held with
    | none => exact (List.append_nil _).symm
    | some buffer => rfl
  rw [bufferIds, List.map_append, ← List.append_assoc, ← hstream b.triangles d]
  exact hstream b.edges _

theorem upload_events_of_not_isUploaded (h : b.isUploaded = false) (d : Device) :
    (b.upload d).2.events = d.events ++ [.created d.created, .created (d.created + 1)] := by
  rw [upload, h]
  exact List.append_assoc _ _ _

/-- **An upload over an earlier one destroys what it finds before it creates anything.** -/
theorem upload_events_of_isUploaded (h : b.isUploaded = true) (d : Device) :
    (b.upload d).2.events = d.events ++ b.bufferIds.map .destroyed
      ++ [.created d.created, .created (d.created + 1)] := by
  obtain ⟨hcreated, -, -⟩ := b.release_ledger (noteReupload d)
  rw [upload_eq_upload_release h, upload_events_of_not_isUploaded (isUploaded_release b _),
    release_events, hcreated]
  rfl

/-! ## Any number of calls -/

/-- A call that moves the streams. -/
inductive StreamCall where
  | upload
  | release
deriving DecidableEq

def StreamCall.perform (c : StreamCall) (b : Body) (d : Device) : Body × Device :=
  match c with
  | .upload => b.upload d
  | .release => b.release d

/-- The body after calls, each on the device as the call finds it: others may have worked on it
since the call before. -/
def after (b : Body) (calls : List (StreamCall × Device)) : Body :=
  calls.foldl (fun b call => (call.1.perform b call.2).1) b

/-- The state of a body made of `faces` whose last call was `last?`. -/
structure AllOrNothing (faces : List Face) (last? : Option StreamCall) (b : Body) : Prop where
  faces_eq : b.faces = faces
  isUploaded_iff : b.isUploaded = true ↔ last? = some .upload
  triangles_iff : b.triangles.buffer.isHolding = true ↔ last? = some .upload
  edges_iff : b.edges.buffer.isHolding = true ↔ last? = some .upload
  /-- On the device, the streams have the vertices of the faces: one for each corner, and two. -/
  on_device : b.isUploaded = true →
    b.triangles.Holds b.triangleVertices ∧ b.edges.Holds b.edgeVertices
      ∧ b.triangles.vertexCount = UInt32.ofNat b.cornerCount
      ∧ b.edges.vertexCount = UInt32.ofNat (2 * b.cornerCount)
  off_device : b.isUploaded = false → b.triangles.vertexCount = 0 ∧ b.edges.vertexCount = 0
  /-- An upload over an earlier one destroys both buffers, and then creates two others. -/
  replaces : b.isUploaded = true → ∃ triangles edges,
    b.triangles.buffer.held = some triangles ∧ b.edges.buffer.held = some edges
      ∧ ∀ d, (b.upload d).2.events = d.events ++ [.destroyed triangles.id, .destroyed edges.id,
          .created d.created, .created (d.created + 1)]
        ∧ (b.upload d).1.bufferIds = [d.created, d.created + 1]

variable {faces : List Face} {last? : Option StreamCall}

/-- A body without buffers is as it was made. -/
theorem allOrNothing_ofFaces (faces : List Face) {last? : Option StreamCall}
    (hlast : last? ≠ some .upload) : AllOrNothing faces last? (ofFaces faces) where
  faces_eq := rfl
  isUploaded_iff := iff_of_false Bool.false_ne_true hlast
  triangles_iff := iff_of_false Bool.false_ne_true hlast
  edges_iff := iff_of_false Bool.false_ne_true hlast
  on_device h := absurd h Bool.false_ne_true
  off_device _ := ⟨rfl, rfl⟩
  replaces h := absurd h Bool.false_ne_true

theorem allOrNothing_upload (b : Body) (d : Device) :
    AllOrNothing b.faces (some .upload) (b.upload d).1 := by
  have hfaces : (b.upload d).1.faces = b.faces := Registry.faces_upload b d
  obtain ⟨htriangles, hedges⟩ := b.upload_holds d
  have hcount : (b.upload d).1.cornerCount = b.cornerCount := by rw [cornerCount, hfaces]; rfl
  have hthree : b.triangleVertices.length / 3 = b.cornerCount := by
    rw [length_triangleVertices]
    omega
  have hsix : b.edgeVertices.length / 3 = 2 * b.cornerCount := by
    rw [length_edgeVertices]
    omega
  refine ⟨hfaces, by simp [isUploaded, (Registry.onDevice_upload b d).1],
    by simp [(Registry.onDevice_upload b d).1], by simp [(Registry.onDevice_upload b d).2],
    ?_, ?_, ?_⟩
  · intro _
    refine ⟨?_, ?_, ?_, ?_⟩
    · rw [triangleVertices, hfaces]
      exact htriangles
    · rw [edgeVertices, hfaces]
      exact hedges
    · rw [htriangles.vertexCount_eq, hthree, hcount]
    · rw [hedges.vertexCount_eq, hsix, hcount]
  · intro hoff
    exact absurd (hoff.symm.trans (Registry.onDevice_upload b d).1) Bool.false_ne_true
  · intro hon
    obtain ⟨triangles, htri, -⟩ := htriangles.bytes_eq
    obtain ⟨edges, hedge, -⟩ := hedges.bytes_eq
    refine ⟨triangles, edges, htri, hedge, ?_⟩
    intro d'
    refine ⟨?_, (upload_new _ d').2⟩
    rw [upload_events_of_isUploaded hon, bufferIds, Holder.ids, Holder.ids, htri, hedge,
      List.append_assoc]
    rfl

/-- **What a call leaves depends on the call alone.** -/
theorem AllOrNothing.perform (h : AllOrNothing faces last? b) (c : StreamCall) (d : Device) :
    AllOrNothing faces (some c) (c.perform b d).1 := by
  cases c with
  | upload =>
      have hupload := allOrNothing_upload b d
      rwa [h.faces_eq] at hupload
  | release =>
      rw [StreamCall.perform, release_eq, h.faces_eq]
      exact allOrNothing_ofFaces faces (by decide)

/-- **A body is all on the device or all off it**, as its last call has it, after any calls. -/
theorem allOrNothing_after (faces : List Face) (calls : List (StreamCall × Device)) :
    AllOrNothing faces (calls.getLast?.map Prod.fst) ((ofFaces faces).after calls) := by
  induction calls using List.reverseRecOn with
  | nil => exact allOrNothing_ofFaces faces (by decide)
  | append_singleton calls call ih =>
      rw [after, List.foldl_append, List.getLast?_concat]
      exact ih.perform call.1 call.2

end Body

end Facet
