import Facet.Proofs.BufferLedger
import Facet.Proofs.TracedBuffers
import Facet.Viewer

/-!
# What a setup leaves

A setup makes the renderers, uploads every body and packs their triangles. Three objects must agree
on one binding index from then on: the settings that asked for it, the registry that packed the
triangles there, and the tracer that reads them. `Bound` is what they agree on.

That no body is uploaded twice is seen from the numbers of its buffers (`UploadedOnce`). An upload
makes two, so the body whose turn comes after `k` others has the two that follow `2 * k` of the
setup. One more upload, of whichever body, would have moved them if it came before, and would be
left over in the count if it came after.
-/

namespace Facet

open Registry (OrderInv OnDevice SameBodies)
open Trace (Tracer)

/-! ## What setting up does to a registry -/

namespace Registry

def faceCount (r : Registry) : Nat := (r.bodies.toList.map fun entry => entry.2.faces.length).sum

/-- A registry whose order lists its live bodies, whatever has happened to it. -/
def Listed (r : Registry) : Prop := ∃ births, OrderInv { registry := r, device := {}, births }

variable {r r' : Registry}

theorem OrderInv.listed {run : Run} (h : OrderInv run) : Listed run.registry :=
  ⟨run.births, h.wellFormed, h.mem_order, h.sorted, h.latest⟩

theorem Listed.of_sameBodies (h : Listed r) (hsame : SameBodies r r') : Listed r' := by
  obtain ⟨births, hinv⟩ := h
  exact ⟨births, hinv.kept rfl hsame⟩

theorem listed_empty (capacity : UInt32) : Listed (Registry.empty capacity.toNat) :=
  (orderInv_start capacity {}).listed

theorem Listed.nodup (h : Listed r) : r.order.Nodup := by
  obtain ⟨births, hinv⟩ := h
  exact hinv.nodup

theorem Listed.mem_order (h : Listed r) (id : Handle) : id ∈ r.order ↔ r.body? id ≠ none := by
  obtain ⟨births, hinv⟩ := h
  exact hinv.mem_order id

theorem length_gather {ids : List Handle} {records : List TriangleRecord}
    (h : r.gather ids = .ok records) :
    records.length = ((ids.filterMap r.body?).map fun b => b.faces.length).sum := by
  rw [gather_eq] at h
  split at h
  · exact absurd h (by simp)
  · cases h
    rw [recordsOf, List.length_flatMap]
    simp only [List.length_map]

theorem Listed.sum_order (h : Listed r) :
    ((r.order.filterMap r.body?).map fun b => b.faces.length).sum = r.faceCount := by
  obtain ⟨births, hinv⟩ := h
  -- count over the slots instead, where every body stands with its handle
  have hwalk : (r.bodies.toList.map Prod.fst).filterMap r.body? = r.bodies.toList.map Prod.snd := by
    rw [List.filterMap_map, ← List.filterMap_eq_map]
    refine List.filterMap_congr ?_
    intro entry hentry
    exact hinv.wellFormed.mem_toList.mp hentry
  have hperm := (hinv.handles_perm.filterMap r.body?).map fun b => b.faces.length
  rw [← hperm.sum_eq, hwalk, List.map_map]
  rfl

/-- A walk leaves alone the bodies that it does not meet. -/
theorem body?_foldl_onBody (act : Body → Device → Body × Device) {id : Handle} :
    ∀ {ids : List Handle} (state : Registry × Device), id ∉ ids →
      (ids.foldl (onBody act) state).1.body? id = state.1.body? id
  | [], _, _ => rfl
  | i :: ids, state, hmem => by
      rw [List.mem_cons, not_or] at hmem
      rw [List.foldl_cons, body?_foldl_onBody act _ hmem.2, body?_onBody,
        Function.update_of_ne hmem.1]

/-- Every body of `r` is in `r'` after one upload. They were uploaded in their order, the first when
the device had made `made` buffers, and nothing else made a buffer in between. When all was done it
had made `made'`: what is more than two for each body is a new buffer for the triangles. -/
structure UploadedOnce (r : Registry) (made : Nat) (r' : Registry) (made' : Nat) : Prop where
  bodies : ∀ id body, r.body? id = some body → ∃ k d, r.order[k]? = some id
    ∧ d.created = made + 2 * k ∧ r'.body? id = some (body.upload d).1
    ∧ (body.upload d).1.bufferIds = [made + 2 * k, made + 2 * k + 1]
  count : made' + r.shared.generation = made + 2 * r.size + r'.shared.generation

/-- A turn of a live body makes two buffers, and those to come are as live as before. -/
theorem upload_turn {i : Handle} {ids : List Handle} {state : Registry × Device}
    (hlive : ∀ id ∈ i :: ids, state.1.body? id ≠ none) :
    (onBody Body.upload state i).2.created = state.2.created + 2
      ∧ ∀ id ∈ ids, (onBody Body.upload state i).1.body? id ≠ none := by
  have hsame := (upload_onlyStreams i state.1 state.2).toSameBodies
  refine ⟨(upload_creates (hlive i List.mem_cons_self) state.2).1, ?_⟩
  intro id hid
  exact mt (hsame.body?_eq_none id).mp (hlive id (List.mem_cons_of_mem i hid))

/-- Every body of a walk has its turn, after the two buffers of each body before it. -/
theorem body?_foldl_upload :
    ∀ {ids : List Handle}, ids.Nodup → ∀ (state : Registry × Device),
      (∀ id ∈ ids, state.1.body? id ≠ none) → ∀ k id, ids[k]? = some id →
        ∃ d : Device, d.created = state.2.created + 2 * k
          ∧ (ids.foldl (onBody Body.upload) state).1.body? id
            = (state.1.body? id).map fun b => (b.upload d).1
  | [], _, _, _, _, _, hk => absurd hk (by simp)
  | i :: ids, hnodup, state, hlive, k, id, hk => by
      obtain ⟨hi, hids⟩ := List.nodup_cons.mp hnodup
      obtain ⟨hmade, hlive'⟩ := upload_turn hlive
      rw [List.foldl_cons]
      cases k with
      | zero =>
          obtain rfl : i = id := by simpa using hk
          refine ⟨state.2, rfl, ?_⟩
          rw [body?_foldl_onBody Body.upload _ hi, body?_onBody, Function.update_self]
      | succ k =>
          have hk' : ids[k]? = some id := by simpa using hk
          have hne : id ≠ i := fun heq => hi (heq ▸ List.mem_of_getElem? hk')
          obtain ⟨d, hd, hupload⟩ := body?_foldl_upload hids (onBody Body.upload state i) hlive' k
            id hk'
          refine ⟨d, by omega, ?_⟩
          rw [hupload, body?_onBody, Function.update_of_ne hne]

/-- Each live body of a walk makes two buffers. -/
theorem created_foldl_upload :
    ∀ {ids : List Handle} (state : Registry × Device), (∀ id ∈ ids, state.1.body? id ≠ none) →
      (ids.foldl (onBody Body.upload) state).2.created = state.2.created + 2 * ids.length
  | [], _, _ => rfl
  | i :: ids, state, hlive => by
      obtain ⟨hmade, hlive'⟩ := upload_turn hlive
      rw [List.foldl_cons, created_foldl_upload _ hlive', hmade, List.length_cons]
      omega

theorem Listed.uploadAll (h : Listed r) (d : Device) :
    Listed (r.uploadAll d).1
      ∧ UploadedOnce r d.created (r.uploadAll d).1 (r.uploadAll d).2.created
      ∧ ∀ id body, (r.uploadAll d).1.body? id = some body → OnDevice body := by
  have hmade := created_foldl_upload (r, d) fun id hid => (h.mem_order id).mp hid
  have hshared := (uploadAll_onlyStreams r d).shared_eq
  refine ⟨h.of_sameBodies (uploadAll_onlyStreams r d).toSameBodies, ⟨?_, ?_⟩, ?_⟩
  · intro id body hbody
    have hmem : id ∈ r.order := (h.mem_order id).mpr (by rw [hbody]; simp)
    obtain ⟨k, hk⟩ := List.getElem?_of_mem hmem
    obtain ⟨d', hd', hupload⟩ := body?_foldl_upload h.nodup (r, d)
      (fun id hid => (h.mem_order id).mp hid) k id hk
    rw [hbody, Option.map_some] at hupload
    exact ⟨k, d', hk, hd', hupload, by rw [(body.upload_new d').2, hd']⟩
  · rw [hshared]
    exact congrArg (· + r.shared.generation) hmade
  · refine foldl_onBody_all onDevice_upload r.order (r, d) ?_
    intro id body hbody
    exact .inl ((h.mem_order id).mpr (by rw [hbody]; simp))

theorem uploadOf?_eq_some {binding : UInt32} {ids : List Handle} {u : Upload}
    (h : r.uploadOf? binding ids = some u) :
    r.gather ids = .ok u.records ∧ u.binding = binding := by
  rw [uploadOf?] at h
  split at h
  · rename_i hgather
    obtain rfl := Option.some.inj h
    exact ⟨hgather, rfl⟩
  · exact absurd h (by simp)

/-- Whenever the shared triangles make a buffer they begin a generation. -/
theorem into_created (u : Upload) (s : SharedTriangles) (d : Device) :
    (u.into s d).2.created + s.generation = d.created + (u.into s d).1.generation := by
  have hreserve : (s.reserve u.records.length d).2.created + s.generation
      = d.created + (s.reserve u.records.length d).1.generation := by
    rw [SharedTriangles.reserve]
    split
    · have hfreed := (d.release_ledger s.buffer).1
      show (d.release s.buffer).2.2.created + 1 + s.generation = d.created + (s.generation + 1)
      omega
    · rfl
  exact hreserve

/-- Everything packing all bodies can do: count every face, or meet a normal off its plane. -/
theorem Listed.pack_cases (h : Listed r) (binding : UInt32) (d : Device) :
    (∃ count shared d' b, r.pack binding d = (.ok count, { r with shared }, d')
      ∧ ({ r with shared } : Registry).triangleBinding? = some b ∧ b.binding = binding
      ∧ b.triangleCount = UInt32.ofNat r.faceCount
      ∧ d'.created + r.shared.generation = d.created + shared.generation)
    ∨ ∃ f d', r.pack binding d = (.error (.fault f), r, d') := by
  rcases packBodies_cases r binding r.order d with ⟨u, hu, hpack⟩ | ⟨failure, d', hpack⟩
  · obtain ⟨hgather, hbinding⟩ := uploadOf?_eq_some hu
    obtain ⟨b, hheld, hbound, hcount, -⟩ := triangleBinding?_into u r.shared d
    rw [length_gather hgather, h.sum_order] at hcount
    refine .inl ⟨_, _, _, _, hpack, congrArg (Option.map _) hheld, ?_, hcount, into_created u _ d⟩
    exact hbound.trans hbinding
  · cases failure with
    | error e =>
        refine absurd ?_ (packBodies_of_live (fun id hid => (h.mem_order id).mp hid) binding d e)
        rw [hpack]
    | fault f => exact .inr ⟨f, d', hpack⟩

end Registry

namespace Viewer

/-! ## Setting up -/

/-- What the settings, the registry and the tracer agree on once there are renderers. -/
structure Bound (registry : Registry) (binding : UInt32) (t : Tracer) : Prop where
  packed : ∃ b, registry.triangleBinding? = some b ∧ b.binding = binding
    ∧ b.triangleCount = UInt32.ofNat registry.faceCount
  uploaded : ∀ id body, registry.body? id = some body → OnDevice body
  reads : t.bindings.triangles = binding
  groups : Trace.GroupsInv registry.shared t
  unwarned : t.warned = false

/-- Everything `setup` can do: leave renderers that agree with the registry, or give them back. -/
theorem setup_cases {v : Viewer} (h : v.registry.Listed) (d : Device) :
    (∃ r registry d', v.setup d = (.ok r, { v with registry }, d') ∧ registry.Listed
      ∧ Bound registry v.settings.triangleBinding r.tracer ∧ r.tracer.pixels.ids = []
      ∧ Registry.UploadedOnce v.registry (d.created + 4) registry d'.created)
    ∨ ∃ f registry d', v.setup d = (.error (.fault f), { v with registry }, d')
      ∧ registry.Listed := by
  unfold setup load Renderers.create
  dsimp only
  have hmade : (Tracer.create v.settings.triangleBinding (MeshPasses.create d).2).2.created
      = d.created + 4 := rfl
  generalize hcreated : Tracer.create v.settings.triangleBinding (MeshPasses.create d).2 = tracer
    at hmade ⊢
  obtain ⟨hlisted, honce, huploaded⟩ := h.uploadAll tracer.2
  rw [hmade] at honce
  rcases hlisted.pack_cases v.settings.triangleBinding (v.registry.uploadAll tracer.2).2 with
    ⟨count, shared, d', b, hpack, hpacked, hbinding, hcount, hmade'⟩ | ⟨f, d', hpack⟩
  · rw [hpack]
    -- packing replaces the shared triangles and nothing else of the registry
    have hlisted' : Registry.Listed { (v.registry.uploadAll tracer.2).1 with shared } :=
      hlisted.of_sameBodies ⟨rfl, fun _ => rfl, id⟩
    have honce' := honce.count
    refine .inl ⟨_, _, _, rfl, hlisted', ⟨⟨b, hpacked, hbinding, hcount⟩, huploaded, ?_, ?_, ?_⟩,
      ?_, honce.bodies, ?_⟩
    · rw [← hcreated]; rfl
    · rw [← hcreated]; exact Trace.groupsInv_create _ _
    · rw [← hcreated]; rfl
    · rw [← hcreated]; rfl
    · show d'.created + v.registry.shared.generation
        = d.created + 4 + 2 * v.registry.size + shared.generation
      omega
  · rw [hpack]
    exact .inr ⟨f, _, _, rfl, hlisted⟩

end Viewer

end Facet
