import Facet.Proofs.SharedTriangles

/-!
# Collecting triangle records

Collecting the records of some bodies ends in one of three ways, and an earlier one hides the later:
a handle that is not live, a normal off its plane, or one record for every face of every body that
was asked for (`Collects`). The walk over the bodies has one equation (`gather_eq`), which leaves
the check of the normals as the only thing to look into. Packing collects first and stores
afterwards.

A list may name a body twice and a body may have no faces; nothing here depends on that, and so
lists can be cut in two and collected part by part.
-/

namespace Facet

namespace TriangleRecord

theorem misaligned_eq_nil {tolerance : Float32} {records : List TriangleRecord} :
    misaligned tolerance records = [] ↔ ∀ r ∈ records, r.isMisaligned tolerance = false := by
  rw [misaligned, List.map_eq_nil_iff, List.filter_eq_nil_iff]
  constructor
  · intro h r hr
    obtain ⟨i, hi, rfl⟩ := List.mem_iff_getElem.mp hr
    have hmem := List.mk_mem_zipIdx_iff_getElem?.mpr (List.getElem?_eq_getElem hi)
    simpa using h (records[i], i) hmem
  · intro h entry hentry
    rw [h entry.1 (List.fst_mem_of_mem_zipIdx hentry)]
    exact Bool.false_ne_true

end TriangleRecord

namespace Registry

open TriangleRecord (tolerance)

variable {r : Registry} {ids ids' : List Handle} {records : List TriangleRecord} {d d' : Device}

/-! ## The walk over the bodies -/

/-- The first of some handles that is not live. -/
def firstUnknown? (r : Registry) (ids : List Handle) : Option Handle :=
  ids.find? fun id => (r.body? id).isNone

/-- The records of the bodies under some handles, body by body and face by face. -/
def recordsOf (r : Registry) (ids : List Handle) : List TriangleRecord :=
  (ids.filterMap r.body?).flatMap fun body => body.faces.map TriangleRecord.ofFace

theorem firstUnknown?_eq_none : r.firstUnknown? ids = none ↔ ∀ id ∈ ids, r.body? id ≠ none := by
  simp [firstUnknown?, Option.isNone_iff_eq_none]

theorem firstUnknown?_append :
    r.firstUnknown? (ids ++ ids') = (r.firstUnknown? ids).or (r.firstUnknown? ids') :=
  List.find?_append

theorem recordsOf_append : r.recordsOf (ids ++ ids') = r.recordsOf ids ++ r.recordsOf ids' := by
  rw [recordsOf, List.filterMap_append, List.flatMap_append]
  rfl

/-- **The walk stops at the first handle that is not live, and else misses nothing.** -/
theorem gather_eq (r : Registry) : ∀ ids : List Handle,
    r.gather ids = match r.firstUnknown? ids with
      | some id => .error (.unknownBody id)
      | none => .ok (r.recordsOf ids)
  | [] => rfl
  | id :: ids => by
      rw [gather, gather_eq r ids]
      cases hbody : r.body? id with
      | none => simp [firstUnknown?, hbody]
      | some body =>
          have hfirst : r.firstUnknown? (id :: ids) = r.firstUnknown? ids := by
            simp [firstUnknown?, hbody]
          rw [hfirst]
          cases r.firstUnknown? ids with
          | some id' => rfl
          | none => simp [recordsOf, hbody, Body.records]

/-! ## The check of the normals -/

/-- Everything `collect` can do. -/
inductive Collects (r : Registry) (ids : List Handle) (d : Device) :
    Except Failure (List TriangleRecord) × Device → Prop where
  | unknown {id : Handle} :
      r.firstUnknown? ids = some id →
      Collects r ids d (.error (.error (.unknownBody id)), d)
  /-- A record is off its plane; that is logged, and nothing else happens. -/
  | misaligned {t : TriangleRecord} (text : String) :
      r.firstUnknown? ids = none → t ∈ r.recordsOf ids → t.isMisaligned tolerance = true →
      Collects r ids d (.error (.fault .misalignedNormals), d.note .warn text)
  | collected :
      r.firstUnknown? ids = none → (∀ t ∈ r.recordsOf ids, t.isMisaligned tolerance = false) →
      Collects r ids d (.ok (r.recordsOf ids), d)

theorem collects (r : Registry) (ids : List Handle) (d : Device) :
    Collects r ids d (r.collect ids d) := by
  rw [collect, gather_eq]
  cases hfirst : r.firstUnknown? ids with
  | some id => exact .unknown hfirst
  | none =>
      dsimp only
      split
      · rename_i hnil
        exact .collected hfirst (TriangleRecord.misaligned_eq_nil.mp hnil)
      · -- had every record passed, there would be no index to report
        rename_i hcons
        have hne : TriangleRecord.misaligned tolerance (r.recordsOf ids) ≠ [] := by simp [hcons]
        rw [Ne, TriangleRecord.misaligned_eq_nil] at hne
        push Not at hne
        obtain ⟨t, ht, hmisaligned⟩ := hne
        exact .misaligned _ hfirst ht (by simpa using hmisaligned)

theorem collect_of_unknown {id : Handle} (h : r.firstUnknown? ids = some id) (d : Device) :
    r.collect ids d = (.error (.error (.unknownBody id)), d) := by
  rw [collect, gather_eq, h]

/-- With live bodies the outcome is settled by the records alone. -/
theorem collect_of_aligned (h : r.firstUnknown? ids = none)
    (haligned : ∀ t ∈ r.recordsOf ids, t.isMisaligned tolerance = false) (d : Device) :
    r.collect ids d = (.ok (r.recordsOf ids), d) := by
  have hcollects := r.collects ids d
  generalize r.collect ids d = outcome at hcollects
  cases hcollects with
  | unknown hsome => exact absurd (h.symm.trans hsome) (by simp)
  | misaligned _ _ ht hmisaligned => exact absurd (haligned _ ht) (by simp [hmisaligned])
  | collected => rfl

theorem collect_eq_ok_iff : (r.collect ids d).1 = .ok records
    ↔ r.firstUnknown? ids = none ∧ (∀ t ∈ r.recordsOf ids, t.isMisaligned tolerance = false)
      ∧ records = r.recordsOf ids := by
  constructor
  · intro h
    have hcollects := r.collects ids d
    generalize r.collect ids d = outcome at h hcollects
    cases hcollects with
    | unknown => exact absurd h (by simp)
    | misaligned => exact absurd h (by simp)
    | collected hfirst haligned => exact ⟨hfirst, haligned, (Except.ok.inj h).symm⟩
  · rintro ⟨hfirst, haligned, rfl⟩
    rw [collect_of_aligned hfirst haligned]

/-! ## Packing what was collected -/

theorem packBodies_of_ok (h : r.collect ids d = (.ok records, d')) (binding : UInt32) :
    r.packBodies binding ids d = (.ok (UInt32.ofNat records.length),
      { r with shared := (Upload.into ⟨binding, records⟩ r.shared d').1 },
      (Upload.into ⟨binding, records⟩ r.shared d').2) := by
  rw [packBodies, h]
  rfl

theorem packBodies_of_error {f : Failure} (h : r.collect ids d = (.error f, d'))
    (binding : UInt32) : r.packBodies binding ids d = (.error f, r, d') := by
  rw [packBodies, h]

/-- Packing fails where collecting does. -/
theorem packBodies_eq_error_iff {binding : UInt32} {f : Failure} :
    (r.packBodies binding ids d).1 = .error f ↔ (r.collect ids d).1 = .error f := by
  cases hcollect : r.collect ids d with
  | mk answer d' =>
      cases answer with
      | ok records => simp [packBodies_of_ok hcollect]
      | error f' => simp [packBodies_of_error hcollect]

/-- What comes of collecting the records of bodies, and of packing them. -/
structure CollectsInOrder (r : Registry) : Prop where
  /-- The first handle that is not live is the error, whatever the normals are. -/
  unknown : ∀ ids d id, r.firstUnknown? ids = some id →
    r.collect ids d = (.error (.error (.unknownBody id)), d)
  /-- With live handles only, one record off its plane is a fault. -/
  misaligned : ∀ ids d, (∀ id ∈ ids, r.body? id ≠ none) →
    (∃ t ∈ r.recordsOf ids, t.deviation.isNaN = true ∨ tolerance < t.deviation) →
    (r.collect ids d).1 = .error (.fault .misalignedNormals)
  /-- Otherwise there is one record for every face of every body that was asked for. -/
  collected : ∀ ids d, (∀ id ∈ ids, r.body? id ≠ none) →
    (∀ t ∈ r.recordsOf ids, ¬(t.deviation.isNaN = true ∨ tolerance < t.deviation)) →
    r.collect ids d = (.ok (r.recordsOf ids), d)
  /-- Two lists can be collected together exactly when each can be. -/
  append_iff : ∀ ids ids' d records, (r.collect (ids ++ ids') d).1 = .ok records
    ↔ ∃ front back, (r.collect ids d).1 = .ok front ∧ (r.collect ids' d).1 = .ok back
      ∧ records = front ++ back
  /-- What was collected is what the shared buffer begins with after packing. -/
  packed : ∀ binding ids d records, (r.collect ids d).1 = .ok records →
    (r.packBodies binding ids d).1 = .ok (UInt32.ofNat records.length)
      ∧ ∃ b, (r.packBodies binding ids d).2.1.triangleBinding? = some b ∧ b.binding = binding
        ∧ b.triangleCount = UInt32.ofNat records.length
        ∧ b.buffer.bytes.take (64 * records.length) = TriangleRecord.image records
  /-- Packing everything is packing the bodies of the order. -/
  pack_eq : ∀ binding d, r.pack binding d = r.packBodies binding r.order d

theorem isMisaligned_iff {t : TriangleRecord} :
    t.isMisaligned tolerance = true ↔ t.deviation.isNaN = true ∨ tolerance < t.deviation := by
  rw [TriangleRecord.isMisaligned, Bool.or_eq_true, decide_eq_true_iff]

/-- **Unknown handles come before misaligned normals, and those before any record.** -/
theorem collect_inOrder (r : Registry) : CollectsInOrder r where
  unknown _ d _ h := collect_of_unknown h d
  misaligned ids d hlive hoff := by
    obtain ⟨t, ht, hoff⟩ := hoff
    have hcollects := r.collects ids d
    generalize r.collect ids d = outcome at hcollects ⊢
    cases hcollects with
    | unknown hsome => exact absurd ((firstUnknown?_eq_none.mpr hlive).symm.trans hsome) (by simp)
    | misaligned => rfl
    | collected _ haligned => exact absurd (isMisaligned_iff.mpr hoff) (by simp [haligned t ht])
  collected ids d hlive haligned := by
    refine collect_of_aligned (firstUnknown?_eq_none.mpr hlive) (fun t ht => ?_) d
    rw [← Bool.not_eq_true, isMisaligned_iff]
    exact haligned t ht
  append_iff ids ids' d records := by
    simp only [collect_eq_ok_iff, firstUnknown?_append, recordsOf_append, Option.or_eq_none_iff,
      List.forall_mem_append]
    constructor
    · rintro ⟨⟨hfirst, hfirst'⟩, ⟨haligned, haligned'⟩, rfl⟩
      exact ⟨_, _, ⟨hfirst, haligned, rfl⟩, ⟨hfirst', haligned', rfl⟩, rfl⟩
    · rintro ⟨_, _, ⟨hfirst, haligned, rfl⟩, ⟨hfirst', haligned', rfl⟩, rfl⟩
      exact ⟨⟨hfirst, hfirst'⟩, ⟨haligned, haligned'⟩, rfl⟩
  packed binding ids d records h := by
    have hcollect : r.collect ids d = (.ok records, (r.collect ids d).2) := by rw [← h]
    obtain ⟨b, hheld, hbinding, hcount, himage⟩ :=
      triangleBinding?_into ⟨binding, records⟩ r.shared (r.collect ids d).2
    rw [packBodies_of_ok hcollect]
    refine ⟨rfl, _, congrArg (Option.map _) hheld, hbinding, hcount, ?_⟩
    rw [← TriangleRecord.byteSize, ← TriangleRecord.length_image]
    exact bytes_take_of_prefix himage
  pack_eq _ _ := rfl

end Registry

end Facet
