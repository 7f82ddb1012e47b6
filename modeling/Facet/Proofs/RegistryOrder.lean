import Facet.Proofs.RecordCollection

/-!
# The order of creation

A registry keeps its bodies in a slot store and their handles in a list, and updates the two
separately. The store hands a freed handle out again, so one handle may stand for several bodies
in the course of time; the list must drop it when the body goes and take it back at the end.

`OrderInv` ties the two together through the births recorded by `Run`: a handle is in the list
exactly when the store holds a body under it, and the list is sorted by the *latest* birth of each
handle. Everything a client can observe of the order follows.
-/

namespace Facet.Registry

/-! ## The latest birth under a handle -/

/-- The latest birth under a handle, with its place among all births. -/
def latest? (births : List Birth) (id : Handle) : Option (Birth × Nat) :=
  births.zipIdx.reverse.find? fun entry => entry.1.id = id

/-- One handle's latest birth came before another's. -/
def BornBefore (births : List Birth) (a b : Handle) : Prop :=
  ∃ x y, latest? births a = some x ∧ latest? births b = some y ∧ x.2 < y.2

theorem latest?_snoc (births : List Birth) (b : Birth) (id : Handle) :
    latest? (births ++ [b]) id
      = if b.id = id then some (b, births.length) else latest? births id := by
  rw [latest?, List.zipIdx_append, List.reverse_append, List.find?_append]
  by_cases h : b.id = id
  · simp [h]
  · simp [h, latest?]

theorem latest?_lt {births : List Birth} {id : Handle} {x : Birth × Nat}
    (h : latest? births id = some x) : x.2 < births.length := by
  have hmem := List.mem_reverse.mp (List.mem_of_find?_eq_some h)
  have := List.snd_lt_add_of_mem_zipIdx hmem
  omega

theorem BornBefore.irrefl {births : List Birth} {a b : Handle} (h : BornBefore births a b) :
    a ≠ b := by
  intro hab
  subst hab
  obtain ⟨x, y, hx, hy, hlt⟩ := h
  obtain rfl := Option.some.inj (hx.symm.trans hy)
  exact Nat.lt_irrefl _ hlt

/-- A birth under another handle changes neither side. -/
theorem BornBefore.snoc {births : List Birth} {a b : Handle} (h : BornBefore births a b)
    {birth : Birth} (ha : birth.id ≠ a) (hb : birth.id ≠ b) :
    BornBefore (births ++ [birth]) a b := by
  obtain ⟨x, y, hx, hy, hlt⟩ := h
  exact ⟨x, y, by rw [latest?_snoc, if_neg ha, hx], by rw [latest?_snoc, if_neg hb, hy], hlt⟩

/-! ## The invariant -/

/-- The order lists the live handles by latest birth, and every body has its faces of birth. -/
structure OrderInv (run : Run) : Prop where
  wellFormed : run.registry.bodies.WellFormed
  mem_order : ∀ id, id ∈ run.registry.order ↔ run.registry.body? id ≠ none
  sorted : run.registry.order.Pairwise (BornBefore run.births)
  latest : ∀ id body, run.registry.body? id = some body →
    ∃ k, latest? run.births id = some (⟨id, body.faces⟩, k)

theorem orderInv_start (capacity : UInt32) (d : Device) : OrderInv (Run.start capacity d) where
  wellFormed := Run.wellFormed_start capacity d
  mem_order id := by
    show id ∈ ([] : List Handle) ↔ (SlotStore.empty capacity.toNat).slot id.index ≠ none
    simp [SlotStore.slot_empty]
  sorted := List.Pairwise.nil
  latest id body h := by
    have hempty : (Run.start capacity d).registry.body? id = none :=
      SlotStore.slot_empty capacity.toNat id.index
    exact absurd (hempty.symm.trans h) (by simp)

theorem OrderInv.born {run run' : Run} (h : OrderInv run) {id : Handle} {faces : List Face}
    (hbirths : run'.births = run.births ++ [⟨id, faces⟩])
    (hfree : run.registry.body? id = none)
    (hbody : run'.registry.body?
      = Function.update run.registry.body? id (some (Body.ofFaces faces)))
    (horder : run'.registry.order = run.registry.order ++ [id])
    (hwf : run'.registry.bodies.WellFormed) : OrderInv run' := by
  have hfresh : id ∉ run.registry.order := fun hmem => (h.mem_order id).mp hmem hfree
  refine ⟨hwf, ?_, ?_, ?_⟩
  · intro id'
    rw [horder, hbody, Function.update_apply, List.mem_append, List.mem_singleton]
    -- the new handle, or one that was there
    split
    · rename_i heq; simp [heq]
    · rename_i hne; simp [hne, h.mem_order]
  · rw [horder, hbirths, List.pairwise_append]
    refine ⟨?_, List.pairwise_singleton _ _, ?_⟩
    · refine h.sorted.imp_of_mem ?_
      intro a b ha hb hab
      have hida : id ≠ a := by intro heq; exact hfresh (heq ▸ ha)
      have hidb : id ≠ b := by intro heq; exact hfresh (heq ▸ hb)
      exact hab.snoc hida hidb
    · -- every older birth has a smaller place than the new one
      intro a ha b hb
      obtain rfl := List.mem_singleton.mp hb
      obtain ⟨body, hlive⟩ := Option.ne_none_iff_exists'.mp ((h.mem_order a).mp ha)
      obtain ⟨k, hk⟩ := h.latest a body hlive
      have hne : b ≠ a := by intro heq; exact hfresh (heq ▸ ha)
      refine ⟨(⟨a, body.faces⟩, k), (⟨b, faces⟩, run.births.length), ?_, ?_, latest?_lt hk⟩
      · rw [latest?_snoc, if_neg hne, hk]
      · rw [latest?_snoc, if_pos rfl]
  · intro id' body hlive
    rw [hbody, Function.update_apply] at hlive
    rw [hbirths, latest?_snoc]
    split at hlive
    · rename_i heq; subst heq
      injection hlive with hlive; subst hlive
      exact ⟨_, if_pos rfl⟩
    · rename_i hne
      obtain ⟨k, hk⟩ := h.latest id' body hlive
      exact ⟨k, by rw [if_neg (Ne.symm hne), hk]⟩

theorem OrderInv.gone {run run' : Run} (h : OrderInv run) {id : Handle}
    (hbirths : run'.births = run.births)
    (hbody : run'.registry.body? = Function.update run.registry.body? id none)
    (horder : run'.registry.order = run.registry.order.filter (· != id))
    (hwf : run'.registry.bodies.WellFormed) : OrderInv run' := by
  refine ⟨hwf, ?_, ?_, ?_⟩
  · intro id'
    rw [horder, hbody, Function.update_apply, List.mem_filter, h.mem_order]
    split
    · rename_i heq; simp [heq]
    · rename_i hne; simp [hne]
  · -- the handles that stay keep their places among the births
    rw [horder, hbirths]
    exact h.sorted.filter _
  · intro id' body hlive
    rw [hbody, Function.update_apply] at hlive
    rw [hbirths]
    split at hlive
    · exact absurd hlive (by simp)
    · exact h.latest id' body hlive

theorem OrderInv.kept {run run' : Run} (h : OrderInv run) (hbirths : run'.births = run.births)
    (hsame : SameBodies run.registry run'.registry) : OrderInv run' := by
  refine ⟨hsame.wellFormed h.wellFormed, ?_, ?_, ?_⟩
  · intro id
    rw [hsame.order_eq, h.mem_order, Ne, Ne, hsame.body?_eq_none]
  · rw [hsame.order_eq, hbirths]
    exact h.sorted
  · intro id body hlive
    have hfaces := hsame.faces_eq id
    rw [hlive, Option.map_some] at hfaces
    obtain ⟨before, hbefore, heq⟩ := Option.map_eq_some_iff.mp hfaces.symm
    rw [hbirths, ← heq]
    exact h.latest id before hbefore

/-- **Preserved by every call.** -/
theorem orderInv_step {run : Run} (h : OrderInv run) (c : Call) : OrderInv (run.step c) := by
  cases Run.bodyStep h.wellFormed c with
  | born id faces hbirths hfree hbody horder hwf => exact h.born hbirths hfree hbody horder hwf
  | gone id hbirths hbody horder hwf => exact h.gone hbirths hbody horder hwf
  | kept hbirths hsame => exact h.kept hbirths hsame

theorem orderInv_after (capacity : UInt32) (d : Device) (calls : List Call) :
    OrderInv ((Run.start capacity d).after calls) :=
  Run.after_induction (orderInv_start capacity d) (fun _ c h => orderInv_step h c) calls

/-! ## What follows -/

theorem OrderInv.nodup {run : Run} (h : OrderInv run) : run.registry.order.Nodup :=
  h.sorted.imp BornBefore.irrefl

/-- The walk over the slots and the walk over the order meet the same handles. -/
theorem OrderInv.handles_perm {run : Run} (h : OrderInv run) :
    (run.registry.bodies.toList.map Prod.fst).Perm run.registry.order := by
  rw [List.perm_ext_iff_of_nodup h.wellFormed.handles_nodup h.nodup]
  intro id
  rw [h.mem_order, body?, Option.ne_none_iff_exists', List.mem_map]
  constructor
  · intro h'
    obtain ⟨⟨id', body⟩, hmem, rfl⟩ := h'
    exact ⟨body, h.wellFormed.mem_toList.mp hmem⟩
  · intro h'
    obtain ⟨body, hbody⟩ := h'
    exact ⟨(id, body), h.wellFormed.mem_toList.mpr hbody, rfl⟩

theorem OrderInv.size_eq {run : Run} (h : OrderInv run) :
    run.registry.size = run.registry.bodies.size := by
  rw [h.wellFormed.size_eq, ← List.length_map (f := Prod.fst), h.handles_perm.length_eq, size]

/-- Packing live bodies never meets an unknown one; only the check of the normals can stop it. -/
theorem packBodies_of_live {r : Registry} {ids : List Handle} (h : ∀ id ∈ ids, r.body? id ≠ none)
    (binding : UInt32) (d : Device) (e : RegistryError) :
    (r.packBodies binding ids d).1 ≠ .error (.error e) := by
  intro hfailed
  have herror := packBodies_eq_error_iff.mp hfailed
  have hcollects := r.collects ids d
  generalize r.collect ids d = outcome at herror hcollects
  cases hcollects with
  | unknown hsome => exact absurd ((firstUnknown?_eq_none.mpr h).symm.trans hsome) (by simp)
  | misaligned | collected => exact absurd herror (by simp)

/-- A walk that acts on every body brings each of them where the action leaves it. -/
theorem foldl_onBody_all {act : Body → Device → Body × Device} {P : Body → Prop}
    (hact : ∀ b d, P (act b d).1) :
    ∀ (ids : List Handle) (state : Registry × Device),
      (∀ id body, state.1.body? id = some body → id ∈ ids ∨ P body) →
      ∀ id body, (ids.foldl (onBody act) state).1.body? id = some body → P body
  | [], _, h, id, body, hbody => (h id body hbody).resolve_left (by simp)
  | i :: ids, state, h, id, body, hbody => by
      refine foldl_onBody_all hact ids (onBody act state i) ?_ id body hbody
      intro id' body' hbody'
      rw [body?_onBody, Function.update_apply] at hbody'
      split at hbody'
      · obtain ⟨before, -, rfl⟩ := Option.map_eq_some_iff.mp hbody'
        exact .inr (hact before state.2)
      · rename_i hne
        rcases h id' body' hbody' with hmem | hP
        · exact .inl ((List.mem_cons.mp hmem).resolve_left hne)
        · exact .inr hP

/-- Both vertex streams hold a buffer. -/
def OnDevice (b : Body) : Prop :=
  b.triangles.buffer.isHolding = true ∧ b.edges.buffer.isHolding = true

/-- Neither vertex stream holds a buffer. -/
def OffDevice (b : Body) : Prop :=
  b.triangles.buffer.isHolding = false ∧ b.edges.buffer.isHolding = false

theorem onDevice_upload (b : Body) (d : Device) : OnDevice (b.upload d).1 := ⟨rfl, rfl⟩

theorem offDevice_release (b : Body) (d : Device) : OffDevice (b.release d).1 := by
  have hempty : ∀ (s : VertexStream) (d : Device), (s.release d).1.buffer.isHolding = false := by
    intro s d
    rw [VertexStream.release, Device.release, Holder.take]
    cases s.buffer.held <;> rfl
  exact ⟨hempty _ _, hempty _ _⟩

/-- A walk over all live handles leaves every live body, and no other, where the action takes it. -/
theorem exists_after_walk {act : Body → Device → Body × Device} {P : Body → Prop}
    (hfaces : ∀ b d, (act b d).1.faces = b.faces) (hact : ∀ b d, P (act b d).1) {r : Registry}
    {ids : List Handle} (hids : ∀ id, r.body? id ≠ none → id ∈ ids) (d : Device) {id : Handle}
    (hlive : r.body? id ≠ none) :
    ∃ body, (ids.foldl (onBody act) (r, d)).1.body? id = some body ∧ P body := by
  have hsame := (foldl_onBody_onlyStreams hfaces ids (r, d)).toSameBodies
  obtain ⟨body, hbody⟩ := Option.ne_none_iff_exists'.mp ((hsame.body?_eq_none id).not.mpr hlive)
  refine ⟨body, hbody, foldl_onBody_all hact ids (r, d) ?_ id body hbody⟩
  intro id' body' hbody'
  exact .inl (hids id' (by rw [hbody']; simp))

/-- What a client can rely on at any moment of a run. -/
structure ListsLiveBodies (run : Run) : Prop where
  nodup : run.registry.order.Nodup
  /-- The order has exactly the handles that are live in the store. -/
  mem_iff_live : ∀ id, id ∈ run.registry.order ↔ run.registry.bodies.contains id = true
  /-- The order is that of the latest creation of each handle. -/
  sorted : run.registry.order.Pairwise (BornBefore run.births)
  size_eq : run.registry.size = run.registry.bodies.size
  body_isSome : ∀ id, (run.registry.body? id).isSome = true ↔ id ∈ run.registry.order
  /-- A body holds the faces of the latest creation under its handle. -/
  faces_eq : ∀ id body, run.registry.body? id = some body →
    ∃ k, latest? run.births id = some (⟨id, body.faces⟩, k)
  /-- A new body takes a free handle and goes to the end, with its faces; there is one unless every
  handle is live, and then nothing changes. -/
  creates : ∀ faces d,
    (∃ id r' d', run.registry.create faces d = (.ok id, r', d') ∧ id ∉ run.registry.order
      ∧ r'.order = run.registry.order ++ [id]
      ∧ r'.body? = Function.update run.registry.body? id (some (Body.ofFaces faces)))
    ∨ ∃ d', run.registry.create faces d
        = (.error (.full run.registry.bodies.capacity), run.registry, d')
      ∧ ∀ id, id.index < run.registry.bodies.capacity → id ∈ run.registry.order
  /-- A live body that is destroyed goes, and the others stay in their order; of an unknown one
  nothing changes. -/
  destroys : ∀ id d,
    (∃ r' d', run.registry.destroy id d = (.ok (), r', d') ∧ id ∈ run.registry.order
      ∧ r'.order = run.registry.order.filter (· != id)
      ∧ r'.body? = Function.update run.registry.body? id none)
    ∨ run.registry.destroy id d = (.error (.unknownBody id), run.registry, d)
      ∧ id ∉ run.registry.order
  /-- Packing everything meets no unknown body and no other refusal. -/
  pack_ne_error : ∀ binding d e, (run.registry.pack binding d).1 ≠ .error (.error e)
  /-- The walk over the slots and the walk over the order meet the same handles. -/
  same_walk : (run.registry.bodies.toList.map Prod.fst).Perm run.registry.order
  uploadAll_reaches : ∀ d id, run.registry.body? id ≠ none →
    ∃ body, (run.registry.uploadAll d).1.body? id = some body ∧ OnDevice body
  releaseAll_reaches : ∀ d id, run.registry.body? id ≠ none →
    ∃ body, (run.registry.releaseAll d).1.body? id = some body ∧ OffDevice body

theorem OrderInv.not_mem_order {run : Run} (h : OrderInv run) {id : Handle} :
    id ∉ run.registry.order ↔ run.registry.body? id = none := by
  rw [h.mem_order, not_not]

theorem OrderInv.listsLiveBodies {run : Run} (h : OrderInv run) : ListsLiveBodies run where
  nodup := h.nodup
  mem_iff_live id := by
    rw [h.mem_order, SlotStore.contains, Option.isSome_iff_ne_none, body?]
  sorted := h.sorted
  size_eq := h.size_eq
  body_isSome id := by rw [h.mem_order, Option.isSome_iff_ne_none]
  faces_eq := h.latest
  creates faces d := by
    rcases create_cases h.wellFormed faces d with
      ⟨id, r', d', hrun, -, hfree, -, hbody, horder, -⟩ | ⟨d', hrun, hfull⟩
    · exact .inl ⟨id, r', d', hrun, h.not_mem_order.mpr hfree, horder, hbody⟩
    · exact .inr ⟨d', hrun, fun id hid => (h.mem_order id).mpr (hfull id hid)⟩
  destroys id d := by
    rcases destroy_cases h.wellFormed id d with
      ⟨r', d', hrun, hlive, hbody, horder, -⟩ | ⟨hrun, hfree⟩
    · exact .inl ⟨r', d', hrun, (h.mem_order id).mpr hlive, horder, hbody⟩
    · exact .inr ⟨hrun, h.not_mem_order.mpr hfree⟩
  pack_ne_error binding d e :=
    packBodies_of_live (fun id hid => (h.mem_order id).mp hid) binding d e
  same_walk := h.handles_perm
  uploadAll_reaches d _ hlive :=
    exists_after_walk faces_upload onDevice_upload (fun id hid => (h.mem_order id).mpr hid) d hlive
  releaseAll_reaches d _ hlive :=
    exists_after_walk faces_release offDevice_release
      (fun id hid => h.handles_perm.mem_iff.mpr ((h.mem_order id).mpr hid)) d hlive

/-- **Every run of a registry lists its live bodies in the order of their creation.** -/
theorem listsLiveBodies_after (capacity : UInt32) (d : Device) (calls : List Call) :
    ListsLiveBodies ((Run.start capacity d).after calls) :=
  (orderInv_after capacity d calls).listsLiveBodies

end Facet.Registry
