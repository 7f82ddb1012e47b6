import Facet.Proofs.RegistryOrder

/-!
# No buffer leaks

A registry and its bodies create device buffers and retire them on five paths: a second upload of
a body, its release, its destruction, growth of the shared buffer, and the end of the registry.
The one place that could lose a buffer is the upload of a vertex stream, which overwrites its
holder without looking; that the holder is empty by then rests on a body being all on the device
or all off it, over its whole history.

The bookkeeping is a conservation law. `Balanced` says of a piece of work that what it destroyed,
together with what is held after it, is what was held before it together with what it created.
Work on one holder is balanced for that holder alone, and everything else rides along
(`Balanced.frame`), so the law climbs from holders to streams, bodies, the registry and runs.
-/

namespace Facet

/-! ## Balanced work -/

/-- The number of the buffer in a holder, if there is one. -/
def Holder.ids (h : Holder Buffer) : List Nat := (h.held.map Buffer.id).toList

/-- Between two states of a device nothing was lost and nothing destroyed that was not held:
`before` and `after` are the buffers held by whoever did the work. -/
structure Device.Balanced (d d' : Device) (before after : List Nat) : Prop where
  created_le : d.created ≤ d'.created
  conserved : ∃ gone, d'.destroyed = d.destroyed ++ gone
    ∧ (gone ++ after).Perm (before ++ List.range' d.created (d'.created - d.created))

namespace Device

variable {d d' d'' : Device} {before between after : List Nat}

/-- Work that neither creates nor destroys. -/
theorem Balanced.of_eq (hcreated : d'.created = d.created) (hdestroyed : d'.destroyed = d.destroyed)
    (ids : List Nat) : Balanced d d' ids ids := by
  refine ⟨hcreated.ge, [], by rw [hdestroyed, List.append_nil], ?_⟩
  rw [hcreated, Nat.sub_self, List.range'_zero, List.append_nil, List.nil_append]

theorem balanced_note (d : Device) (level : Log.Level) (text : String) (ids : List Nat) :
    d.Balanced (d.note level text) ids ids := .of_eq (by rfl) (by rfl) ids

/-- Work that destroys all it held. -/
theorem Balanced.of_destroyed {ids : List Nat} (hcreated : d'.created = d.created)
    (hdestroyed : d'.destroyed = d.destroyed ++ ids) : Balanced d d' ids [] := by
  refine ⟨hcreated.ge, ids, hdestroyed, ?_⟩
  rw [hcreated, Nat.sub_self, List.range'_zero]

/-- Work that creates one buffer and keeps it. -/
theorem Balanced.of_created (hcreated : d'.created = d.created + 1)
    (hdestroyed : d'.destroyed = d.destroyed) : Balanced d d' [] [d.created] := by
  refine ⟨by omega, [], by rw [hdestroyed, List.append_nil], ?_⟩
  have hone : d'.created - d.created = 1 := by omega
  rw [hone]
  exact List.Perm.refl _

theorem Balanced.trans (h : Balanced d d' before between) (h' : Balanced d' d'' between after) :
    Balanced d d'' before after := by
  obtain ⟨hle, gone, hgone, hperm⟩ := h
  obtain ⟨hle', gone', hgone', hperm'⟩ := h'
  refine ⟨hle.trans hle', gone ++ gone', by rw [hgone', hgone, List.append_assoc], ?_⟩
  have hrange : List.range' d.created (d''.created - d.created)
      = List.range' d.created (d'.created - d.created)
        ++ List.range' d'.created (d''.created - d'.created) := by
    rw [show d''.created - d.created
        = (d'.created - d.created) + (d''.created - d'.created) by omega,
      ← List.range'_append_1, show d.created + (d'.created - d.created) = d'.created by omega]
  rw [hrange]
  calc (gone ++ gone' ++ after).Perm (gone ++ (gone' ++ after)) := by rw [List.append_assoc]
    _ |>.Perm (gone ++ (between ++ List.range' d'.created (d''.created - d'.created))) :=
        hperm'.append_left gone
    _ |>.Perm (before ++ (List.range' d.created (d'.created - d.created)
          ++ List.range' d'.created (d''.created - d'.created))) := by
        rw [← List.append_assoc, ← List.append_assoc]
        exact hperm.append_right _

/-- Buffers that the work does not touch ride along. -/
theorem Balanced.frame (h : Balanced d d' before after) (others : List Nat) :
    Balanced d d' (before ++ others) (after ++ others) := by
  obtain ⟨hle, gone, hgone, hperm⟩ := h
  refine ⟨hle, gone, hgone, ?_⟩
  calc (gone ++ (after ++ others)).Perm (gone ++ after ++ others) := by rw [List.append_assoc]
    _ |>.Perm (before ++ List.range' d.created (d'.created - d.created) ++ others) :=
        hperm.append_right others
    _ |>.Perm (before ++ others ++ List.range' d.created (d'.created - d.created)) := by
        rw [List.append_assoc, List.append_assoc]
        exact List.perm_append_comm.append_left before

theorem Balanced.perm {before' after' : List Nat} (h : Balanced d d' before after)
    (hbefore : before'.Perm before) (hafter : after'.Perm after) :
    Balanced d d' before' after' := by
  obtain ⟨hle, gone, hgone, hperm⟩ := h
  exact ⟨hle, gone, hgone,
    (hafter.append_left gone).trans (hperm.trans (hbefore.symm.append_right _))⟩

theorem Balanced.frame_left (h : Balanced d d' before after) (others : List Nat) :
    Balanced d d' (others ++ before) (others ++ after) :=
  (h.frame others).perm List.perm_append_comm List.perm_append_comm

/-! ## Holders, streams and bodies -/

theorem release_ledger (d : Device) (h : Holder Buffer) :
    (d.release h).2.2.created = d.created
      ∧ (d.release h).2.2.destroyed = d.destroyed ++ h.ids
      ∧ (d.release h).2.1.ids = [] := by
  rw [release, Holder.take, Holder.ids]
  cases h.held with
  | none => exact ⟨rfl, (List.append_nil _).symm, rfl⟩
  | some buffer => exact ⟨rfl, rfl, rfl⟩

end Device

namespace VertexStream

/-- An upload is balanced where the stream is empty; elsewhere it would lose a buffer. -/
theorem upload_balanced {s : VertexStream} (hempty : s.buffer.ids = []) (coordinates : List Float32)
    (d : Device) :
    d.Balanced (s.upload coordinates d).2 s.buffer.ids (s.upload coordinates d).1.buffer.ids := by
  rw [hempty]
  exact .of_created rfl rfl

theorem release_eq (s : VertexStream) (d : Device) : (s.release d).1 = {} := by
  rw [release, Device.release, Holder.take]
  cases s.buffer.held <;> rfl

end VertexStream

namespace Body

/-- The buffers of both streams. -/
def bufferIds (b : Body) : List Nat := b.triangles.buffer.ids ++ b.edges.buffer.ids

theorem release_ledger (b : Body) (d : Device) :
    (b.release d).2.created = d.created
      ∧ (b.release d).2.destroyed = d.destroyed ++ b.bufferIds
      ∧ (b.release d).1.bufferIds = [] := by
  obtain ⟨hcreated, hdestroyed, hempty⟩ := d.release_ledger b.triangles.buffer
  obtain ⟨hcreated', hdestroyed', hempty'⟩ :=
    (d.release b.triangles.buffer).2.2.release_ledger b.edges.buffer
  refine ⟨hcreated'.trans hcreated, ?_, ?_⟩
  · show ((d.release b.triangles.buffer).2.2.release b.edges.buffer).2.2.destroyed = _
    rw [hdestroyed', hdestroyed, List.append_assoc]
    rfl
  · show (d.release b.triangles.buffer).2.1.ids
      ++ ((d.release b.triangles.buffer).2.2.release b.edges.buffer).2.1.ids = []
    rw [hempty, hempty']
    rfl

theorem release_balanced (b : Body) (d : Device) :
    d.Balanced (b.release d).2 b.bufferIds (b.release d).1.bufferIds := by
  obtain ⟨hcreated, hdestroyed, hempty⟩ := b.release_ledger d
  rw [hempty]
  exact .of_destroyed hcreated hdestroyed

/-- A release leaves the body as it was made. -/
theorem release_eq (b : Body) (d : Device) : (b.release d).1 = ofFaces b.faces := by
  rw [release, VertexStream.release_eq, VertexStream.release_eq]
  rfl

theorem isUploaded_release (b : Body) (d : Device) : (b.release d).1.isUploaded = false := by
  rw [release_eq]
  rfl

/-- The device as an upload over an earlier one finds it: with a word about that in the log. -/
def noteReupload (d : Device) : Device :=
  d.note .debug "body re-uploaded without release; dropping previous buffers"

/-- An upload over an earlier one is a release and then an upload. -/
theorem upload_eq_upload_release {b : Body} (h : b.isUploaded = true) (d : Device) :
    b.upload d
      = (b.release (noteReupload d)).1.upload (b.release (noteReupload d)).2 := by
  conv_rhs => rw [upload, isUploaded_release]
  rw [upload, h]
  rfl

/-- The buffers of an upload are two new ones: those that the device creates next. -/
theorem upload_new (b : Body) (d : Device) :
    (b.upload d).2.created = d.created + 2
      ∧ (b.upload d).1.bufferIds = [d.created, d.created + 1] := by
  have hoff : ∀ (c : Body) (d : Device), c.isUploaded = false →
      (c.upload d).2.created = d.created + 2
        ∧ (c.upload d).1.bufferIds = [d.created, d.created + 1] := by
    intro c d hc
    rw [upload, hc]
    exact ⟨rfl, rfl⟩
  cases h : b.isUploaded with
  | false => exact hoff b d h
  | true =>
      have hcreated : (b.release (noteReupload d)).2.created = d.created := (b.release_ledger _).1
      rw [upload_eq_upload_release h, ← hcreated]
      exact hoff _ _ (isUploaded_release b (noteReupload d))

end Body

namespace Registry

open Device (Balanced)

/-- Both vertex streams hold a buffer, or neither does. -/
def Settled (b : Body) : Prop := OnDevice b ∨ OffDevice b

theorem ids_eq_nil {h : Holder Buffer} (hempty : h.isHolding = false) : h.ids = [] := by
  rw [Holder.isHolding, Option.isSome_eq_false_iff, Option.isNone_iff_eq_none] at hempty
  rw [Holder.ids, hempty]
  rfl

/-- From empty holders on, the two streams create one buffer each. -/
theorem upload_balanced_of_offDevice {b : Body} (hb : OffDevice b) (d : Device) :
    d.Balanced (b.upload d).2 b.bufferIds (b.upload d).1.bufferIds := by
  have hoff : b.isUploaded = false := hb.1
  have htriangles := (VertexStream.upload_balanced (ids_eq_nil hb.1) b.triangleVertices d).frame
    b.edges.buffer.ids
  have hedges := (VertexStream.upload_balanced (ids_eq_nil hb.2) b.edgeVertices
    (b.triangles.upload b.triangleVertices d).2).frame_left
      (b.triangles.upload b.triangleVertices d).1.buffer.ids
  rw [Body.upload, hoff]
  exact htriangles.trans hedges

/-- **An upload loses no buffer of a settled body.** -/
theorem upload_balanced {b : Body} (hb : Settled b) (d : Device) :
    d.Balanced (b.upload d).2 b.bufferIds (b.upload d).1.bufferIds := by
  rcases hb with hon | hoff
  · -- on the device: both old buffers go before the new ones come
    have hnote : d.Balanced (Body.noteReupload d) b.bufferIds b.bufferIds :=
      d.balanced_note .debug _ b.bufferIds
    have hfree := hnote.trans (b.release_balanced (Body.noteReupload d))
    rw [Body.upload_eq_upload_release hon.1]
    exact hfree.trans (upload_balanced_of_offDevice (offDevice_release b _) _)
  · exact upload_balanced_of_offDevice hoff d

/-! ## The bodies of a registry -/

/-- The buffers of the body that may be in a slot. -/
def slotIds (entry : Option Body) : List Nat := entry.toList.flatMap Body.bufferIds

/-- The buffers of all live bodies, by increasing slot. -/
def bodyIds (s : SlotStore Body) : List Nat := s.toList.flatMap fun e => e.2.bufferIds

/-- Every buffer that the registry and its bodies hold. -/
def bufferIds (r : Registry) : List Nat := r.shared.buffer.ids ++ bodyIds r.bodies

/-- A change under one handle leaves the buffers of the other bodies as they are. -/
theorem exists_otherIds {s s' : SlotStore Body} (h : s.WellFormed) (h' : s'.WellFormed)
    {id : Handle} {entry : Option Body} (hget : s'.get? = Function.update s.get? id entry) :
    ∃ others, (bodyIds s).Perm (slotIds (s.get? id) ++ others)
      ∧ (bodyIds s').Perm (slotIds entry ++ others) := by
  have hslot : ∀ o : Option Body, (o.map fun b => (id, b)).toList.flatMap
      (fun e : Handle × Body => e.2.bufferIds) = slotIds o := by
    intro o
    cases o <;> rfl
  obtain ⟨others, hbefore, hafter⟩ := h.exists_others h' hget
  have hbefore := hbefore.flatMap_right fun e => e.2.bufferIds
  have hafter := hafter.flatMap_right fun e => e.2.bufferIds
  rw [List.flatMap_append, hslot] at hbefore hafter
  exact ⟨_, hbefore, hafter⟩

/-- Work on the body under one handle, seen from the registry. -/
theorem balanced_of_update {r r' : Registry} {d d' : Device} {id : Handle} {entry : Option Body}
    (hwf : r.bodies.WellFormed) (hwf' : r'.bodies.WellFormed)
    (hbody : r'.body? = Function.update r.body? id entry) (hshared : r'.shared = r.shared)
    (hwork : d.Balanced d' (slotIds (r.body? id)) (slotIds entry)) :
    d.Balanced d' r.bufferIds r'.bufferIds := by
  obtain ⟨others, hbefore, hafter⟩ := exists_otherIds hwf hwf' hbody
  rw [bufferIds, bufferIds, hshared]
  exact ((hwork.frame others).perm hbefore hafter).frame_left r.shared.buffer.ids

/-! ## The shared buffer -/

theorem grow_balanced (required : Nat) (s : SharedTriangles) (d : Device) :
    d.Balanced (s.grow required d).2 s.buffer.ids (s.grow required d).1.buffer.ids := by
  obtain ⟨hcreated, hdestroyed, -⟩ := d.release_ledger s.buffer
  have hfree : d.Balanced (d.release s.buffer).2.2 s.buffer.ids [] :=
    .of_destroyed hcreated hdestroyed
  have hmake : (d.release s.buffer).2.2.Balanced (s.grow required d).2 []
      (s.grow required d).1.buffer.ids := .of_created rfl rfl
  exact hfree.trans hmake

theorem reserve_balanced (count : Nat) (s : SharedTriangles) (d : Device) :
    d.Balanced (s.reserve count d).2 s.buffer.ids (s.reserve count d).1.buffer.ids := by
  rw [SharedTriangles.reserve]
  split
  · exact grow_balanced (max count 1) s d
  · exact .of_eq (by rfl) (by rfl) _

theorem into_balanced (u : Upload) (s : SharedTriangles) (d : Device) :
    d.Balanced (u.into s d).2 s.buffer.ids (u.into s d).1.buffer.ids := by
  have hwrite : (u.into s d).1.buffer.ids = (s.reserve u.records.length d).1.buffer.ids := by
    rw [Upload.into, SharedTriangles.store, Holder.ids, Option.map_map]
    rfl
  rw [hwrite]
  exact (reserve_balanced u.records.length s d).trans (.of_eq (by rfl) (by rfl) _)

/-! ## Every call is balanced -/

/-- A registry whose bodies are settled. -/
structure Tidy (r : Registry) : Prop where
  wellFormed : r.bodies.WellFormed
  settled : ∀ id body, r.body? id = some body → Settled body

/-- Work on a registry that leaves its bodies settled and is balanced for its buffers. -/
structure Tended (r : Registry) (d : Device) (r' : Registry) (d' : Device) : Prop
    extends Tidy r' where
  balanced : d.Balanced d' r.bufferIds r'.bufferIds

variable {d₀ d d' d'' : Device} {r r' r'' : Registry}

theorem Tidy.ledger_eq (h : Tidy r) (hcreated : d'.created = d.created)
    (hdestroyed : d'.destroyed = d.destroyed) : Tended r d r d' :=
  ⟨h, .of_eq hcreated hdestroyed _⟩

theorem Tended.trans (h : Tended r d r' d') (h' : Tended r' d' r'' d'') : Tended r d r'' d'' :=
  ⟨h'.toTidy, h.balanced.trans h'.balanced⟩

theorem Tidy.update (h : Tidy r) {id : Handle} {entry : Option Body}
    (hwf : r'.bodies.WellFormed) (hbody : r'.body? = Function.update r.body? id entry)
    (hshared : r'.shared = r.shared) (hsettled : ∀ body, entry = some body → Settled body)
    (hwork : d.Balanced d' (slotIds (r.body? id)) (slotIds entry)) : Tended r d r' d' := by
  refine ⟨⟨hwf, ?_⟩, balanced_of_update h.wellFormed hwf hbody hshared hwork⟩
  intro id' body hlive
  rw [hbody, Function.update_apply] at hlive
  split at hlive
  · exact hsettled body hlive
  · exact h.settled id' body hlive

/-- Balanced work on one body that leaves it settled. -/
def Careful (act : Body → Device → Body × Device) : Prop :=
  ∀ b d, Settled b → Settled (act b d).1 ∧ d.Balanced (act b d).2 b.bufferIds (act b d).1.bufferIds

theorem careful_upload : Careful Body.upload :=
  fun b d hb => ⟨.inl (onDevice_upload b d), upload_balanced hb d⟩

theorem careful_release : Careful Body.release :=
  fun b d _ => ⟨.inr (offDevice_release b d), b.release_balanced d⟩

theorem slotIds_some (b : Body) : slotIds (some b) = b.bufferIds := by
  rw [slotIds, Option.toList_some, List.flatMap_singleton]

theorem Tidy.onBody {act : Body → Device → Body × Device} (hact : Careful act)
    (state : Registry × Device) (h : Tidy state.1) (id : Handle) :
    Tended state.1 state.2 (Registry.onBody act state id).1 (Registry.onBody act state id).2 := by
  have hupdate := body?_onBody act state id
  cases hbody : state.1.body? id with
  | none =>
      rw [Registry.onBody, hbody]
      exact h.ledger_eq rfl rfl
  | some body =>
      obtain ⟨hsettled, hwork⟩ := hact body state.2 (h.settled id body hbody)
      rw [hbody, Option.map_some] at hupdate
      rw [Registry.onBody, hbody] at hupdate ⊢
      refine h.update (h.wellFormed.modify id _) hupdate rfl ?_ ?_
      · intro body' heq
        exact Option.some.inj heq ▸ hsettled
      · rw [hbody, slotIds_some, slotIds_some]
        exact hwork

theorem Tidy.walk {act : Body → Device → Body × Device} (hact : Careful act) :
    ∀ (ids : List Handle) (state : Registry × Device), Tidy state.1 →
      Tended state.1 state.2 (ids.foldl (Registry.onBody act) state).1
        (ids.foldl (Registry.onBody act) state).2
  | [], _, h => h.ledger_eq rfl rfl
  | id :: ids, state, h =>
      have hhead := Tidy.onBody hact state h id
      hhead.trans (Tidy.walk hact ids _ hhead.toTidy)

/-- A creation leaves the device's buffers alone, whether or not there is room. -/
theorem create_ledger (h : r.bodies.WellFormed) (faces : List Face) (d : Device) :
    (r.create faces d).2.2.created = d.created
      ∧ (r.create faces d).2.2.destroyed = d.destroyed := by
  rw [Registry.create]
  dsimp only
  rcases h.create_cases lifecycle faces (d.noteAll (polygonWarning? faces).toList) with
    ⟨id, bodies, hrun, -⟩ | ⟨hrun, -⟩
  · rw [hrun]
    exact ⟨rfl, rfl⟩
  · rw [hrun]
    exact ⟨rfl, rfl⟩

/-- A destruction destroys the buffers of its body and no others; an unknown body has none. -/
theorem destroy_ledger (h : r.bodies.WellFormed) (id : Handle) (d : Device) :
    (r.destroy id d).2.2.created = d.created
      ∧ (r.destroy id d).2.2.destroyed = d.destroyed ++ slotIds (r.body? id) := by
  rw [Registry.destroy]
  rcases h.destroy_cases lifecycle id d with ⟨body, bodies, hrun, hlive, -⟩ | ⟨hrun, hfree⟩
  · have hbody : r.body? id = some body := hlive
    obtain ⟨hcreated, hdestroyed, -⟩ := body.release_ledger d
    rw [hrun, hbody, slotIds_some]
    exact ⟨hcreated, hdestroyed⟩
  · have hbody : r.body? id = none := hfree
    rw [hrun, hbody]
    exact ⟨rfl, (List.append_nil _).symm⟩

theorem Tidy.create (h : Tidy r) (faces : List Face) (d : Device) :
    Tended r d (r.create faces d).2.1 (r.create faces d).2.2 := by
  obtain ⟨hcreated, hdestroyed⟩ := create_ledger h.wellFormed faces d
  rcases create_cases h.wellFormed faces d with
    ⟨id, r', d', hrun, -, hfree, -, hbody, -, hshared, -, hwf⟩ | ⟨d', hrun, -⟩
  · rw [hrun] at hcreated hdestroyed ⊢
    -- a new body holds nothing yet
    refine h.update hwf hbody hshared ?_ ?_
    · intro body heq
      obtain rfl := Option.some.inj heq
      exact .inr ⟨rfl, rfl⟩
    · rw [hfree, slotIds_some]
      exact .of_eq hcreated hdestroyed []
  · rw [hrun] at hcreated hdestroyed ⊢
    exact h.ledger_eq hcreated hdestroyed

/-- Its handle is free afterwards, if it was not before. -/
theorem body?_destroy (h : r.bodies.WellFormed) (id : Handle) (d : Device) :
    (r.destroy id d).2.1.body? = Function.update r.body? id none := by
  rcases destroy_cases h id d with ⟨r', d', hrun, -, hbody, -⟩ | ⟨hrun, hfree⟩
  · rw [hrun, hbody]
  · rw [hrun, ← hfree, Function.update_eq_self]

theorem Tidy.destroy (h : Tidy r) (id : Handle) (d : Device) :
    Tended r d (r.destroy id d).2.1 (r.destroy id d).2.2 := by
  obtain ⟨hcreated, hdestroyed⟩ := destroy_ledger h.wellFormed id d
  rcases destroy_cases h.wellFormed id d with
    ⟨r', d', hrun, -, hbody, -, hshared, -, hwf⟩ | ⟨hrun, -⟩
  · rw [hrun] at hcreated hdestroyed ⊢
    exact h.update hwf hbody hshared nofun (.of_destroyed hcreated hdestroyed)
  · rw [hrun]
    exact h.ledger_eq rfl rfl

theorem collect_ledger (ids : List Handle) (r : Registry) (d : Device) :
    (r.collect ids d).2.created = d.created ∧ (r.collect ids d).2.destroyed = d.destroyed := by
  have hcollects := r.collects ids d
  generalize r.collect ids d = outcome at hcollects ⊢
  cases hcollects with
  | unknown | misaligned | collected => exact ⟨rfl, rfl⟩

theorem Tidy.collect (h : Tidy r) (ids : List Handle) (d : Device) :
    Tended r d r (r.collect ids d).2 :=
  h.ledger_eq (collect_ledger ids r d).1 (collect_ledger ids r d).2

theorem Tidy.packBodies (h : Tidy r) (binding : UInt32) (ids : List Handle) (d : Device) :
    Tended r d (r.packBodies binding ids d).2.1 (r.packBodies binding ids d).2.2 := by
  have hcollect := h.collect ids d
  rw [Registry.packBodies]
  split
  · rename_i failure d' heq
    rw [heq] at hcollect
    exact hcollect
  · rename_i records d' heq
    rw [heq] at hcollect
    have hwork := into_balanced ⟨binding, records⟩ r.shared d'
    exact ⟨⟨h.wellFormed, h.settled⟩, hcollect.balanced.trans (hwork.frame (bodyIds r.bodies))⟩

theorem Tidy.uploadAll (h : Tidy r) (d : Device) :
    Tended r d (r.uploadAll d).1 (r.uploadAll d).2 :=
  Tidy.walk careful_upload r.order (r, d) h

/-- **Every call is balanced**, whatever it answers. -/
theorem Tidy.perform (h : Tidy r) (c : Call) (d : Device) :
    Tended r d (c.perform r d).2.1 (c.perform r d).2.2 := by
  cases c with
  | create faces => exact h.create faces d
  | destroy id => exact h.destroy id d
  | upload id => exact Tidy.onBody careful_upload (r, d) h id
  | release id => exact Tidy.onBody careful_release (r, d) h id
  | uploadAll => exact h.uploadAll d
  | releaseAll => exact Tidy.walk careful_release _ (r, d) h
  | collect ids => exact h.collect ids d
  | packBodies binding ids => exact h.packBodies binding ids d
  | pack binding => exact h.packBodies binding r.order d

/-- A registry whose bodies are settled and whose buffers balance those of its device since `d₀`. -/
structure Accounted (d₀ : Device) (r : Registry) (d : Device) : Prop where
  wellFormed : r.bodies.WellFormed
  settled : ∀ id body, r.body? id = some body → Settled body
  balanced : d₀.Balanced d [] r.bufferIds

/-- A registry without bodies that has packed nothing holds no buffer. -/
theorem bufferIds_empty (capacity : Nat) (hcapacity : capacity < UInt32.size) :
    (Registry.empty capacity).bufferIds = [] := by
  have hnone : (SlotStore.empty capacity : SlotStore Body).toList = [] := by
    rw [(SlotStore.wellFormed_empty hcapacity).toList_eq]
    rfl
  show [] ++ (SlotStore.empty capacity : SlotStore Body).toList.flatMap _ = []
  rw [hnone]
  rfl

theorem tidy_empty (capacity : Nat) (hcapacity : capacity < UInt32.size) :
    Tidy (Registry.empty capacity) where
  wellFormed := SlotStore.wellFormed_empty hcapacity
  settled id body h := by
    have hempty : (Registry.empty capacity).body? id = none :=
      SlotStore.slot_empty capacity id.index
    exact absurd (hempty.symm.trans h) (by simp)

theorem accounted_start (capacity : UInt32) (d : Device) :
    Accounted d (Run.start capacity d).registry d := by
  have htidy := tidy_empty _ capacity.toNat_lt
  refine ⟨htidy.wellFormed, htidy.settled, ?_⟩
  show d.Balanced d [] (Registry.empty capacity.toNat).bufferIds
  rw [bufferIds_empty _ capacity.toNat_lt]
  exact .of_eq (by rfl) (by rfl) []

theorem Accounted.tend (h : Accounted d₀ r d) (hwork : Tended r d r' d') : Accounted d₀ r' d' :=
  ⟨hwork.wellFormed, hwork.settled, h.balanced.trans hwork.balanced⟩

theorem accounted_after (capacity : UInt32) (d : Device) (calls : List Call) :
    Accounted d ((Run.start capacity d).after calls).registry
      ((Run.start capacity d).after calls).device :=
  Run.after_induction (P := fun run => Accounted d run.registry run.device)
    (accounted_start capacity d)
    (fun run c h => h.tend (Tidy.perform ⟨h.wellFormed, h.settled⟩ c run.device)) calls

/-- An upload of a live body creates two buffers, one for each of its streams. -/
theorem upload_creates {id : Handle} (hlive : r.body? id ≠ none) (d : Device) :
    (r.upload id d).2.created = d.created + 2
      ∧ ∃ body, (r.upload id d).1.body? id = some body ∧ OnDevice body := by
  obtain ⟨body, hbody⟩ := Option.ne_none_iff_exists'.mp hlive
  constructor
  · rw [upload, Registry.onBody, hbody]
    exact (body.upload_new d).1
  · refine ⟨(body.upload d).1, ?_, onDevice_upload body d⟩
    rw [upload, body?_onBody, Function.update_self, hbody]
    rfl

/-! ## The end of a registry -/

theorem disposeAll_ledger : ∀ (entries : List (Handle × Body)) (d : Device),
    (entries.foldl (fun d e => lifecycle.dispose e.2 d) d).created = d.created
      ∧ (entries.foldl (fun d e => lifecycle.dispose e.2 d) d).destroyed
        = d.destroyed ++ entries.flatMap fun e => e.2.bufferIds
  | [], d => ⟨rfl, (List.append_nil _).symm⟩
  | e :: entries, d => by
      obtain ⟨hcreated, hdestroyed, -⟩ := e.2.release_ledger d
      obtain ⟨hcreated', hdestroyed'⟩ := disposeAll_ledger entries (lifecycle.dispose e.2 d)
      refine ⟨hcreated'.trans hcreated, hdestroyed'.trans ?_⟩
      show (e.2.release d).2.destroyed ++ _ = _
      rw [hdestroyed, List.flatMap_cons, List.append_assoc]

/-- The registry destroys what it holds: the shared buffer, then the bodies' by slot. -/
theorem dispose_ledger (r : Registry) (d : Device) :
    (r.dispose d).created = d.created ∧ (r.dispose d).destroyed = d.destroyed ++ r.bufferIds := by
  obtain ⟨hcreated, hdestroyed, -⟩ := d.release_ledger r.shared.buffer
  rw [dispose]
  generalize hfreed : (if (d.release r.shared.buffer).1 then _ else _ : Device) = freed
  have hcreated' : freed.created = d.created := by
    rw [← hfreed]
    split <;> exact hcreated
  have hdestroyed' : freed.destroyed = d.destroyed ++ r.shared.buffer.ids := by
    rw [← hfreed]
    split <;> exact hdestroyed
  obtain ⟨hcreated'', hdestroyed''⟩ := disposeAll_ledger r.bodies.toList freed
  refine ⟨hcreated''.trans hcreated', hdestroyed''.trans ?_⟩
  rw [hdestroyed', bufferIds, bodyIds, List.append_assoc]

/-! ## What follows -/

/-- The buffers destroyed since an earlier state of a device. -/
def destroyedSince (d₀ d : Device) : List Nat := d.destroyed.drop d₀.destroyed.length

/-- Where the buffers of a registry are at any moment of a run, and where they go if it ends
there. The run began on `d₀`, so its buffers are those numbered from `d₀.created` on. -/
structure BuffersAccounted (d₀ : Device) (run : Run) : Prop where
  /-- A body is all on the device or all off it. -/
  settled : ∀ id body, run.registry.body? id = some body → OnDevice body ∨ OffDevice body
  /-- An upload puts both streams of a live body there, in buffers of their own. -/
  upload_creates : ∀ id, run.registry.body? id ≠ none →
    (run.step (.upload id)).device.created = run.device.created + 2
      ∧ ∃ body, (run.step (.upload id)).registry.body? id = some body ∧ OnDevice body
  /-- Creating a body neither makes a buffer nor destroys one. -/
  create_keeps : ∀ faces, (run.step (.create faces)).device.created = run.device.created
    ∧ (run.step (.create faces)).device.destroyed = run.device.destroyed
  /-- Destroying a body retires it with its buffers and leaves the others alone. -/
  destroy_retires : ∀ id, (run.step (.destroy id)).device.created = run.device.created
    ∧ (run.step (.destroy id)).device.destroyed
      = run.device.destroyed ++ slotIds (run.registry.body? id)
    ∧ (run.step (.destroy id)).registry.body? = Function.update run.registry.body? id none
  destroyed_prefix : d₀.destroyed <+: run.device.destroyed
  destroyed_nodup : (destroyedSince d₀ run.device).Nodup
  /-- Only buffers of the run are destroyed. -/
  destroyed_created : ∀ n ∈ destroyedSince d₀ run.device,
    d₀.created ≤ n ∧ n < run.device.created
  /-- The buffers created and not destroyed are exactly those of the shared holder and of the two
  streams of every live body. -/
  live_iff_held : ∀ n,
    (d₀.created ≤ n ∧ n < run.device.created ∧ n ∉ destroyedSince d₀ run.device)
      ↔ (∃ b, run.registry.shared.buffer.held = some b ∧ b.id = n)
        ∨ ∃ id body b, run.registry.body? id = some body
          ∧ (body.triangles.buffer.held = some b ∨ body.edges.buffer.held = some b) ∧ b.id = n
  /-- No two holders hold one buffer. -/
  held_nodup : run.registry.bufferIds.Nodup
  /-- At the end the shared buffer is destroyed first, then those of the bodies by slot. -/
  end_order : (run.registry.dispose run.device).destroyed = run.device.destroyed
    ++ (run.registry.shared.buffer.ids ++ run.registry.bodies.toList.flatMap fun e =>
      e.2.triangles.buffer.ids ++ e.2.edges.buffer.ids)
  /-- The walk over the slots meets every live body, by increasing slot. -/
  slots_sorted : run.registry.bodies.toList.Pairwise fun a b => a.1.index < b.1.index
  mem_slots : ∀ id body, (id, body) ∈ run.registry.bodies.toList
    ↔ run.registry.body? id = some body
  /-- By the end every buffer of the run has been destroyed exactly once. -/
  end_once : ∀ n, (destroyedSince d₀ (run.registry.dispose run.device)).count n
    = if d₀.created ≤ n ∧ n < (run.registry.dispose run.device).created then 1 else 0

theorem mem_ids {h : Holder Buffer} {n : Nat} : n ∈ h.ids ↔ ∃ b, h.held = some b ∧ b.id = n := by
  rw [Holder.ids, Option.mem_toList, Option.map_eq_some_iff]

theorem Accounted.mem_bufferIds (h : Accounted d₀ r d) {n : Nat} :
    n ∈ r.bufferIds ↔ (∃ b, r.shared.buffer.held = some b ∧ b.id = n)
      ∨ ∃ id body b, r.body? id = some body
        ∧ (body.triangles.buffer.held = some b ∨ body.edges.buffer.held = some b) ∧ b.id = n := by
  rw [bufferIds, bodyIds, List.mem_append, mem_ids, List.mem_flatMap]
  refine or_congr Iff.rfl ⟨?_, ?_⟩
  · intro hbody
    obtain ⟨⟨id, body⟩, hmem, hn⟩ := hbody
    have hlive : r.body? id = some body := h.wellFormed.mem_toList.mp hmem
    rcases List.mem_append.mp hn with hn | hn
    · obtain ⟨b, hb, hid⟩ := mem_ids.mp hn
      exact ⟨id, body, b, hlive, .inl hb, hid⟩
    · obtain ⟨b, hb, hid⟩ := mem_ids.mp hn
      exact ⟨id, body, b, hlive, .inr hb, hid⟩
  · intro hbody
    obtain ⟨id, body, b, hlive, hb, hid⟩ := hbody
    refine ⟨(id, body), h.wellFormed.mem_toList.mpr hlive, List.mem_append.mpr ?_⟩
    rcases hb with hb | hb
    · exact .inl (mem_ids.mpr ⟨b, hb, hid⟩)
    · exact .inr (mem_ids.mpr ⟨b, hb, hid⟩)

/-- Of the buffers created since `d₀`, each has been destroyed once or is held once. -/
theorem destroyedSince_append_held {held : List Nat} (h : d₀.Balanced d [] held) :
    d.destroyed = d₀.destroyed ++ destroyedSince d₀ d
      ∧ (destroyedSince d₀ d ++ held).Nodup
      ∧ ∀ n, n ∈ destroyedSince d₀ d ++ held ↔ d₀.created ≤ n ∧ n < d.created := by
  obtain ⟨hle, gone, hgone, hperm⟩ := h
  have hsince : destroyedSince d₀ d = gone := by
    rw [destroyedSince, hgone, List.drop_left]
  rw [List.nil_append] at hperm
  rw [hsince]
  refine ⟨hgone, hperm.nodup_iff.mpr (List.nodup_range' _), ?_⟩
  intro n
  rw [hperm.mem_iff, List.mem_range'_1]
  omega

/-- Those created and not destroyed are those held. -/
theorem live_iff_mem_held {held : List Nat} (h : d₀.Balanced d [] held) (n : Nat) :
    (d₀.created ≤ n ∧ n < d.created ∧ n ∉ destroyedSince d₀ d) ↔ n ∈ held := by
  obtain ⟨-, hnodup, hrange⟩ := destroyedSince_append_held h
  rw [List.nodup_append'] at hnodup
  obtain ⟨-, -, hdisjoint⟩ := hnodup
  constructor
  · intro hn
    obtain ⟨hge, hlt, hlive⟩ := hn
    exact (List.mem_append.mp ((hrange n).mpr ⟨hge, hlt⟩)).resolve_left hlive
  · intro hn
    obtain ⟨hge, hlt⟩ := (hrange n).mp (List.mem_append_right _ hn)
    exact ⟨hge, hlt, fun hmem => hdisjoint hmem hn⟩

/-- Whoever destroys what is held leaves every buffer destroyed exactly once. -/
theorem count_destroyedSince {held : List Nat} (h : d₀.Balanced d [] held)
    (hcreated : d'.created = d.created) (hdestroyed : d'.destroyed = d.destroyed ++ held)
    (n : Nat) :
    (destroyedSince d₀ d').count n = if d₀.created ≤ n ∧ n < d'.created then 1 else 0 := by
  obtain ⟨hsplit, hnodup, hrange⟩ := destroyedSince_append_held h
  have hend : destroyedSince d₀ d' = destroyedSince d₀ d ++ held := by
    rw [destroyedSince, hdestroyed, hsplit, List.append_assoc, List.drop_left]
  rw [hend, hcreated, List.Nodup.count hnodup]
  exact if_congr (hrange n) rfl rfl

theorem Accounted.buffersAccounted {run : Run}
    (h : Accounted d₀ run.registry run.device) : BuffersAccounted d₀ run := by
  obtain ⟨hsplit, hnodup, hrange⟩ := destroyedSince_append_held h.balanced
  obtain ⟨hcreated, hdestroyed⟩ := dispose_ledger run.registry run.device
  refine ⟨h.settled, fun id hlive => upload_creates hlive run.device,
    fun faces => create_ledger h.wellFormed faces run.device, ?_, ⟨_, hsplit.symm⟩,
    hnodup.of_append_left, ?_, ?_, hnodup.of_append_right, hdestroyed, h.wellFormed.toList_sorted,
    fun id body => h.wellFormed.mem_toList, count_destroyedSince h.balanced hcreated hdestroyed⟩
  · intro id
    obtain ⟨hkept, hretired⟩ := destroy_ledger h.wellFormed id run.device
    exact ⟨hkept, hretired, body?_destroy h.wellFormed id run.device⟩
  · intro n hn
    exact (hrange n).mp (List.mem_append_left _ hn)
  · intro n
    rw [live_iff_mem_held h.balanced, h.mem_bufferIds]

/-- **No run of a registry loses a buffer or destroys one twice**, wherever it ends. -/
theorem buffersAccounted_after (capacity : UInt32) (d : Device) (calls : List Call) :
    BuffersAccounted d ((Run.start capacity d).after calls) :=
  (accounted_after capacity d calls).buffersAccounted

end Registry

end Facet
