import Facet.Proofs.RegistryOrder

/-!
# Calls that fail

A call on a registry fails when every slot is taken, at a handle that is not live, be it the last of
many, or at a normal off its plane. Up to there the call has only looked: the registry is what it
was before, and all that the device has got is warnings in its log (`perform_of_failed`).

Nothing reads the log back. Runs on two devices that differ in their logs alone give the same
answers and come to the same registry (`Run.Alike.after`), so a call that failed might as well not
have been made.
-/

namespace Facet

/-! ## Nothing depends on the log -/

namespace Device

/-- The second device differs from the first at most in its log. -/
def SameMemory (d d' : Device) : Prop := ∃ lines, d' = { d with log := lines }

variable {d d' : Device}

theorem SameMemory.note (h : SameMemory d d') (level : Log.Level) (text : String) :
    SameMemory (d.note level text) (d'.note level text) := by
  obtain ⟨lines, rfl⟩ := h
  exact ⟨_, rfl⟩

theorem SameMemory.release (h : SameMemory d d') (holder : Holder Buffer) :
    (d'.release holder).2.1 = (d.release holder).2.1
      ∧ SameMemory (d.release holder).2.2 (d'.release holder).2.2 := by
  obtain ⟨lines, rfl⟩ := h
  rw [Device.release, Device.release, Holder.take]
  cases holder.held with
  | none => exact ⟨rfl, lines, rfl⟩
  | some buffer => exact ⟨rfl, lines, rfl⟩

end Device

open Device (SameMemory)

variable {d d' : Device}

theorem Body.release_congr (h : SameMemory d d') (b : Body) :
    (b.release d').1 = (b.release d).1 ∧ SameMemory (b.release d).2 (b.release d').2 := by
  obtain ⟨htriangles, hd⟩ := h.release b.triangles.buffer
  obtain ⟨hedges, hd'⟩ := hd.release b.edges.buffer
  refine ⟨?_, hd'⟩
  simp only [Body.release, VertexStream.release]
  rw [htriangles, hedges]

theorem Body.upload_congr (h : SameMemory d d') (b : Body) :
    (b.upload d').1 = (b.upload d).1 ∧ SameMemory (b.upload d).2 (b.upload d').2 := by
  rw [Body.upload, Body.upload]
  dsimp only
  split
  · obtain ⟨hb, lines, hd⟩ := release_congr (h.note _ _) b
    rw [hb, hd]
    exact ⟨rfl, lines, rfl⟩
  · obtain ⟨lines, rfl⟩ := h
    exact ⟨rfl, lines, rfl⟩

namespace Registry

variable {act : Body → Device → Body × Device}

theorem onBody_congr
    (hact : ∀ b {d d'}, SameMemory d d' →
      (act b d').1 = (act b d).1 ∧ SameMemory (act b d).2 (act b d').2)
    (h : SameMemory d d') (r : Registry) (id : Handle) :
    (onBody act (r, d') id).1 = (onBody act (r, d) id).1
      ∧ SameMemory (onBody act (r, d) id).2 (onBody act (r, d') id).2 := by
  rw [onBody, onBody]
  dsimp only
  cases r.body? id with
  | none => exact ⟨rfl, h⟩
  | some body =>
      obtain ⟨hbody, hmemory⟩ := hact body h
      refine ⟨?_, hmemory⟩
      dsimp only
      rw [hbody]

theorem foldl_onBody_congr
    (hact : ∀ b {d d'}, SameMemory d d' →
      (act b d').1 = (act b d).1 ∧ SameMemory (act b d).2 (act b d').2) :
    ∀ (ids : List Handle) {d d' : Device} (_ : SameMemory d d') (r : Registry),
      (ids.foldl (onBody act) (r, d')).1 = (ids.foldl (onBody act) (r, d)).1
        ∧ SameMemory (ids.foldl (onBody act) (r, d)).2 (ids.foldl (onBody act) (r, d')).2
  | [], _, _, h, _ => ⟨rfl, h⟩
  | id :: ids, d, d', h, r => by
      obtain ⟨hr, hmemory⟩ := onBody_congr hact h r id
      have hnext := foldl_onBody_congr hact ids hmemory (onBody act (r, d) id).1
      rwa [← hr, Prod.mk.eta, hr, Prod.mk.eta] at hnext

theorem create_congr (h : SameMemory d d') (faces : List Face) (r : Registry) :
    (r.create faces d').1 = (r.create faces d).1
      ∧ (r.create faces d').2.1 = (r.create faces d).2.1
      ∧ SameMemory (r.create faces d).2.2 (r.create faces d').2.2 := by
  obtain ⟨lines, rfl⟩ := h
  rw [create, create]
  simp only [SlotStore.create]
  cases r.bodies.reserve with
  | none => exact ⟨rfl, rfl, _, rfl⟩
  | some reserved => exact ⟨rfl, rfl, _, rfl⟩

theorem destroy_congr (h : SameMemory d d') (id : Handle) (r : Registry) :
    (r.destroy id d').1 = (r.destroy id d).1
      ∧ (r.destroy id d').2.1 = (r.destroy id d).2.1
      ∧ SameMemory (r.destroy id d).2.2 (r.destroy id d').2.2 := by
  rw [destroy, destroy]
  simp only [SlotStore.destroy]
  cases r.bodies.get? id with
  | none => exact ⟨rfl, rfl, h⟩
  | some body => exact ⟨rfl, rfl, (Body.release_congr h body).2.note _ _⟩

theorem collect_congr (h : SameMemory d d') (ids : List Handle) (r : Registry) :
    (r.collect ids d').1 = (r.collect ids d).1
      ∧ SameMemory (r.collect ids d).2 (r.collect ids d').2 := by
  rw [collect, collect]
  cases r.gather ids with
  | error e => exact ⟨rfl, h⟩
  | ok records =>
      dsimp only
      cases TriangleRecord.misaligned TriangleRecord.tolerance records with
      | nil => exact ⟨rfl, h⟩
      | cons first rest => exact ⟨rfl, h.note _ _⟩

theorem into_congr (h : SameMemory d d') (u : Upload) (s : SharedTriangles) :
    (u.into s d').1 = (u.into s d).1 ∧ SameMemory (u.into s d).2 (u.into s d').2 := by
  rw [Upload.into, Upload.into, SharedTriangles.reserve, SharedTriangles.reserve]
  split
  · -- a new buffer gets its number from the device, and the log has no say in that
    obtain ⟨hfreed, lines, hmemory⟩ := h.release s.buffer
    simp only [SharedTriangles.grow, SharedTriangles.store]
    rw [hfreed, hmemory]
    exact ⟨rfl, _, rfl⟩
  · exact ⟨rfl, h.note _ _⟩

theorem packBodies_congr (h : SameMemory d d') (binding : UInt32) (ids : List Handle)
    (r : Registry) :
    (r.packBodies binding ids d').1 = (r.packBodies binding ids d).1
      ∧ (r.packBodies binding ids d').2.1 = (r.packBodies binding ids d).2.1
      ∧ SameMemory (r.packBodies binding ids d).2.2 (r.packBodies binding ids d').2.2 := by
  obtain ⟨hanswer, hmemory⟩ := collect_congr h ids r
  generalize hrun : r.collect ids d = run at hanswer hmemory
  generalize hrun' : r.collect ids d' = run' at hanswer hmemory
  obtain ⟨answer, e⟩ := run
  obtain ⟨answer', e'⟩ := run'
  obtain rfl : answer' = answer := hanswer
  cases answer' with
  | error f =>
      rw [packBodies_of_error hrun, packBodies_of_error hrun']
      exact ⟨rfl, rfl, hmemory⟩
  | ok records =>
      obtain ⟨hshared, hmemory⟩ := into_congr hmemory ⟨binding, records⟩ r.shared
      rw [packBodies_of_ok hrun, packBodies_of_ok hrun', hshared]
      exact ⟨rfl, rfl, hmemory⟩

/-- **A call answers and acts the same, whatever has been logged.** -/
theorem perform_congr (h : SameMemory d d') (c : Call) (r : Registry) :
    (c.perform r d').1 = (c.perform r d).1 ∧ (c.perform r d').2.1 = (c.perform r d).2.1
      ∧ SameMemory (c.perform r d).2.2 (c.perform r d').2.2 := by
  cases c with
  | create faces =>
      obtain ⟨hanswer, hafter⟩ := create_congr h faces r
      exact ⟨congrArg Answer.created hanswer, hafter⟩
  | destroy id =>
      obtain ⟨hanswer, hafter⟩ := destroy_congr h id r
      exact ⟨congrArg Answer.destroyed hanswer, hafter⟩
  | upload id => exact ⟨rfl, onBody_congr (fun b _ _ h => b.upload_congr h) h r id⟩
  | release id => exact ⟨rfl, onBody_congr (fun b _ _ h => b.release_congr h) h r id⟩
  | uploadAll => exact ⟨rfl, foldl_onBody_congr (fun b _ _ h => b.upload_congr h) _ h r⟩
  | releaseAll => exact ⟨rfl, foldl_onBody_congr (fun b _ _ h => b.release_congr h) _ h r⟩
  | collect ids =>
      obtain ⟨hanswer, hmemory⟩ := collect_congr h ids r
      exact ⟨congrArg Answer.collected hanswer, rfl, hmemory⟩
  | packBodies binding ids =>
      obtain ⟨hanswer, hafter⟩ := packBodies_congr h binding ids r
      exact ⟨congrArg Answer.packed hanswer, hafter⟩
  | pack binding =>
      obtain ⟨hanswer, hafter⟩ := packBodies_congr h binding r.order r
      exact ⟨congrArg Answer.packed hanswer, hafter⟩

namespace Run

/-- What a run answers to the calls that are still to come. -/
def answers : Run → List Call → List Answer
  | _, [] => []
  | run, c :: calls => (c.perform run.registry run.device).1 :: answers (run.step c) calls

/-- The second run has come to the same as the first, but for the log. -/
structure Alike (run run' : Run) : Prop where
  registry_eq : run'.registry = run.registry
  memory : SameMemory run.device run'.device
  births_eq : run'.births = run.births
  uploads_eq : run'.uploads = run.uploads

variable {run run' : Run}

theorem Alike.step (h : Alike run run') (c : Call) :
    (c.perform run'.registry run'.device).1 = (c.perform run.registry run.device).1
      ∧ Alike (run.step c) (run'.step c) := by
  obtain ⟨registry', device', births', uploads'⟩ := run'
  obtain ⟨rfl, hmemory, rfl, rfl⟩ := h
  obtain ⟨hanswer, hregistry, hmemory⟩ := perform_congr hmemory c run.registry
  refine ⟨hanswer, hregistry, hmemory, ?_, ?_⟩
  · rw [Run.step, Run.step, hanswer]
  · rw [Run.step, Run.step, hanswer]

theorem Alike.after (h : Alike run run') (calls : List Call) :
    run'.answers calls = run.answers calls ∧ Alike (run.after calls) (run'.after calls) := by
  induction calls generalizing run run' with
  | nil => exact ⟨rfl, h⟩
  | cons c calls ih =>
      obtain ⟨hanswer, hnext⟩ := h.step c
      obtain ⟨hanswers, hlast⟩ := ih hnext
      refine ⟨?_, hlast⟩
      rw [answers, answers, hanswer, hanswers]

end Run

/-! ## What a failing call does -/

/-- The answers that tell of a failure. -/
inductive Answer.Failed : Answer → Prop where
  | created (e : RegistryError) : Failed (.created (.error e))
  | destroyed (e : RegistryError) : Failed (.destroyed (.error e))
  | collected (f : Failure) : Failed (.collected (.error f))
  | packed (f : Failure) : Failed (.packed (.error f))

/-- The second device has been warned some more, and is otherwise as it was. -/
def Warned (d d' : Device) : Prop :=
  ∃ lines, d' = d.noteAll lines ∧ ∀ line ∈ lines, line.level = .warn

theorem warned_refl (d : Device) : Warned d d := by
  refine ⟨[], ?_, by simp⟩
  rw [Device.noteAll, List.append_nil]

theorem warned_note (d : Device) (text : String) : Warned d (d.note .warn text) :=
  ⟨[⟨.warn, text⟩], rfl, by simp⟩

theorem create_of_error {faces : List Face} {r : Registry} {e : RegistryError}
    (h : (r.create faces d).1 = .error e) :
    (r.create faces d).2.1 = r ∧ Warned d (r.create faces d).2.2 := by
  rw [create] at h ⊢
  simp only [SlotStore.create] at h ⊢
  cases hreserve : r.bodies.reserve with
  | some reserved => rw [hreserve] at h; exact absurd h (by simp)
  | none =>
      refine ⟨rfl, _, rfl, ?_⟩
      intro line hline
      obtain ⟨f, -, rfl⟩ := Option.map_eq_some_iff.mp (Option.mem_toList.mp hline)
      rfl

theorem destroy_of_error {id : Handle} {r : Registry} {e : RegistryError}
    (h : (r.destroy id d).1 = .error e) :
    (r.destroy id d).2.1 = r ∧ Warned d (r.destroy id d).2.2 := by
  rw [destroy] at h ⊢
  simp only [SlotStore.destroy] at h ⊢
  cases hget : r.bodies.get? id with
  | some body => rw [hget] at h; exact absurd h (by simp)
  | none => exact ⟨rfl, warned_refl d⟩

theorem collect_of_error {ids : List Handle} {r : Registry} {f : Failure}
    (h : (r.collect ids d).1 = .error f) : Warned d (r.collect ids d).2 := by
  have hcollects := r.collects ids d
  generalize r.collect ids d = outcome at h hcollects ⊢
  cases hcollects with
  | unknown => exact warned_refl d
  | misaligned text => exact warned_note d text
  | collected => exact absurd h (by simp)

theorem packBodies_of_failed {binding : UInt32} {ids : List Handle} {r : Registry} {f : Failure}
    (h : (r.packBodies binding ids d).1 = .error f) :
    (r.packBodies binding ids d).2.1 = r ∧ Warned d (r.packBodies binding ids d).2.2 := by
  have hcollect : r.collect ids d = (.error f, (r.collect ids d).2) := by
    rw [← packBodies_eq_error_iff.mp h]
  have hwarned := collect_of_error (packBodies_eq_error_iff.mp h)
  rw [packBodies_of_error hcollect]
  exact ⟨rfl, hwarned⟩

/-- **A call that fails has changed nothing**, and has logged nothing but warnings. -/
theorem perform_of_failed {c : Call} {r : Registry} (h : (c.perform r d).1.Failed) :
    (c.perform r d).2.1 = r ∧ Warned d (c.perform r d).2.2 := by
  generalize ha : (c.perform r d).1 = a at h
  cases c with
  | create faces =>
      cases h with
      | created e => exact create_of_error (Answer.created.inj ha)
      | destroyed | collected | packed => exact Answer.noConfusion ha
  | destroy id =>
      cases h with
      | destroyed e => exact destroy_of_error (Answer.destroyed.inj ha)
      | created | collected | packed => exact Answer.noConfusion ha
  | upload | release | uploadAll | releaseAll => cases h <;> exact Answer.noConfusion ha
  | collect ids =>
      cases h with
      | collected f => exact ⟨rfl, collect_of_error (Answer.collected.inj ha)⟩
      | created | destroyed | packed => exact Answer.noConfusion ha
  | packBodies binding ids =>
      cases h with
      | packed f => exact packBodies_of_failed (Answer.packed.inj ha)
      | created | destroyed | collected => exact Answer.noConfusion ha
  | pack binding =>
      cases h with
      | packed f => exact packBodies_of_failed (Answer.packed.inj ha)
      | created | destroyed | collected => exact Answer.noConfusion ha

theorem Run.step_of_failed {run : Run} {c : Call}
    (h : (c.perform run.registry run.device).1.Failed) :
    (run.step c).registry = run.registry ∧ (run.step c).births = run.births
      ∧ (run.step c).uploads = run.uploads ∧ Warned run.device (run.step c).device := by
  obtain ⟨hregistry, hwarned⟩ := perform_of_failed h
  -- only successes are entered among the births and the uploads
  have hbirth : c.birth? (c.perform run.registry run.device).1 = none := by
    generalize (c.perform run.registry run.device).1 = a at h ⊢
    cases h <;> cases c <;> rfl
  have hupload : c.upload? run.registry (c.perform run.registry run.device).1 = none := by
    refine upload?_eq_none ?_
    intro count heq
    rw [heq] at h
    cases h
  refine ⟨hregistry, ?_, ?_, hwarned⟩
  · rw [Run.step, hbirth, Option.toList_none, List.append_nil]
  · rw [Run.step, hupload, Option.toList_none, List.append_nil]

/-! ## When a call fails -/

/-- Why the records of some bodies cannot be collected. -/
inductive Uncollectable (r : Registry) (ids : List Handle) : Failure → Prop where
  | unknown {id : Handle} :
      ids.find? (fun id => id ∉ r.order) = some id →
      Uncollectable r ids (.error (.unknownBody id))
  | misaligned {t : TriangleRecord} :
      (∀ id ∈ ids, id ∈ r.order) → t ∈ r.recordsOf ids →
      t.isMisaligned TriangleRecord.tolerance = true →
      Uncollectable r ids (.fault .misalignedNormals)

/-- Which calls fail, and with which answer. -/
inductive Refused (r : Registry) : Call → Answer → Prop where
  | create {faces : List Face} :
      r.size = r.bodies.capacity →
      Refused r (.create faces) (.created (.error (.full r.bodies.capacity)))
  | destroy {id : Handle} :
      id ∉ r.order → Refused r (.destroy id) (.destroyed (.error (.unknownBody id)))
  | collect {ids : List Handle} {f : Failure} :
      Uncollectable r ids f → Refused r (.collect ids) (.collected (.error f))
  | packBodies {binding : UInt32} {ids : List Handle} {f : Failure} :
      Uncollectable r ids f → Refused r (.packBodies binding ids) (.packed (.error f))
  | pack {binding : UInt32} {f : Failure} :
      Uncollectable r r.order f → Refused r (.pack binding) (.packed (.error f))

theorem OrderInv.size_eq_capacity_iff {run : Run} (h : OrderInv run) :
    run.registry.size = run.registry.bodies.capacity
      ↔ ∀ id : Handle, id.index < run.registry.bodies.capacity → id ∈ run.registry.order := by
  have hnodup : (run.registry.order.map Handle.index).Nodup :=
    h.nodup.map fun _ _ heq => Handle.index_inj.mp heq
  have hsub : run.registry.order.map Handle.index ⊆ List.range run.registry.bodies.capacity := by
    intro i hi
    obtain ⟨id, hid, rfl⟩ := List.mem_map.mp hi
    have hlt := h.wellFormed.index_lt ((h.mem_order id).mp hid)
    exact List.mem_range.mpr (Nat.lt_of_lt_of_le hlt h.wellFormed.highWater_le)
  rw [size, ← List.length_map (f := Handle.index)]
  constructor
  · -- as many different numbers as there are, so all of them
    intro hlength id hid
    have hperm := (hnodup.subperm hsub).perm_of_length_le (by rw [hlength, List.length_range])
    obtain ⟨id', hid', heq⟩ := List.mem_map.mp (hperm.mem_iff.mpr (List.mem_range.mpr hid))
    exact Handle.index_inj.mp heq ▸ hid'
  · intro hall
    refine Nat.le_antisymm ?_ ?_
    · simpa using (hnodup.subperm hsub).length_le
    · have hback : List.range run.registry.bodies.capacity
          ⊆ run.registry.order.map Handle.index := by
        intro i hi
        have hlt := List.mem_range.mp hi
        have hindex : (Handle.ofIndex i).index = i :=
          Handle.index_ofIndex (Nat.lt_trans hlt h.wellFormed.capacity_lt)
        exact List.mem_map.mpr ⟨Handle.ofIndex i, hall _ (by rwa [hindex]), hindex⟩
      simpa using (List.nodup_range.subperm hback).length_le

theorem OrderInv.collect_eq_error_iff {run : Run} (h : OrderInv run) (ids : List Handle)
    (d : Device) (f : Failure) :
    (run.registry.collect ids d).1 = .error f ↔ Uncollectable run.registry ids f := by
  have hfirst : run.registry.firstUnknown? ids
      = ids.find? fun id => id ∉ run.registry.order := by
    refine congrArg (List.find? · ids) (funext fun id => ?_)
    rw [Bool.eq_iff_iff, decide_eq_true_iff, h.mem_order, not_not, Option.isNone_iff_eq_none]
  have hlive : run.registry.firstUnknown? ids = none ↔ ∀ id ∈ ids, id ∈ run.registry.order := by
    simp only [firstUnknown?_eq_none, h.mem_order]
  have hcollects := run.registry.collects ids d
  generalize run.registry.collect ids d = outcome at hcollects ⊢
  constructor
  · intro hf
    cases hcollects with
    | unknown hid => cases hf; exact .unknown (hfirst ▸ hid)
    | misaligned _ hnone ht hoff => cases hf; exact .misaligned (hlive.mp hnone) ht hoff
    | collected => exact absurd hf (by simp)
  · intro hf
    cases hf with
    | unknown hid =>
        rw [← hfirst] at hid
        cases hcollects with
        | unknown hid' => rw [Option.some.inj (hid'.symm.trans hid)]
        | misaligned _ hnone | collected hnone => exact absurd (hnone.symm.trans hid) (by simp)
    | misaligned hall ht hoff =>
        have hnone := hlive.mpr hall
        cases hcollects with
        | unknown hid => exact absurd (hnone.symm.trans hid) (by simp)
        | misaligned => rfl
        | collected _ haligned => exact absurd (haligned _ ht) (by simp [hoff])

theorem OrderInv.create_eq_error_iff {run : Run} (h : OrderInv run) (faces : List Face)
    (d : Device) (e : RegistryError) : (run.registry.create faces d).1 = .error e
      ↔ e = .full run.registry.bodies.capacity
        ∧ run.registry.size = run.registry.bodies.capacity := by
  rw [h.size_eq_capacity_iff]
  rcases create_cases h.wellFormed faces d with
    ⟨id, r', d', hrun, hlt, hfree, -⟩ | ⟨d', hrun, hfull⟩
  · rw [hrun]
    constructor
    · intro heq
      exact absurd heq (by simp)
    · rintro ⟨-, hall⟩
      exact absurd hfree ((h.mem_order id).mp (hall id hlt))
  · rw [hrun]
    constructor
    · intro heq
      exact ⟨(Except.error.inj heq).symm, fun id hid => (h.mem_order id).mpr (hfull id hid)⟩
    · rintro ⟨rfl, -⟩
      rfl

theorem OrderInv.destroy_eq_error_iff {run : Run} (h : OrderInv run) (id : Handle)
    (d : Device) (e : RegistryError) : (run.registry.destroy id d).1 = .error e
      ↔ e = .unknownBody id ∧ id ∉ run.registry.order := by
  rw [h.mem_order, not_not]
  rcases destroy_cases h.wellFormed id d with ⟨r', d', hrun, hlive, -⟩ | ⟨hrun, hgone⟩
  · rw [hrun]
    constructor
    · intro heq
      exact absurd heq (by simp)
    · rintro ⟨-, hgone⟩
      exact absurd hgone hlive
  · rw [hrun]
    constructor
    · intro heq
      exact ⟨(Except.error.inj heq).symm, hgone⟩
    · rintro ⟨rfl, -⟩
      rfl

/-- **Which calls fail can be told from the order, the slots and the records.** -/
theorem OrderInv.failed_iff {run : Run} (h : OrderInv run) (c : Call) (a : Answer) (d : Device) :
    (c.perform run.registry d).1 = a ∧ a.Failed ↔ Refused run.registry c a := by
  constructor
  · rintro ⟨ha, hfailed⟩
    cases hfailed with
    | created e =>
        cases c with
        | create faces =>
            obtain ⟨rfl, hfull⟩ := (h.create_eq_error_iff faces d e).mp (Answer.created.inj ha)
            exact .create hfull
        | _ => exact Answer.noConfusion ha
    | destroyed e =>
        cases c with
        | destroy id =>
            obtain ⟨rfl, hgone⟩ := (h.destroy_eq_error_iff id d e).mp (Answer.destroyed.inj ha)
            exact .destroy hgone
        | _ => exact Answer.noConfusion ha
    | collected f =>
        cases c with
        | collect ids =>
            exact .collect ((h.collect_eq_error_iff ids d f).mp (Answer.collected.inj ha))
        | _ => exact Answer.noConfusion ha
    | packed f =>
        cases c with
        | packBodies binding ids =>
            have hcollect := packBodies_eq_error_iff.mp (Answer.packed.inj ha)
            exact .packBodies ((h.collect_eq_error_iff ids d f).mp hcollect)
        | pack binding =>
            have hcollect := packBodies_eq_error_iff.mp (Answer.packed.inj ha)
            exact .pack ((h.collect_eq_error_iff _ d f).mp hcollect)
        | _ => exact Answer.noConfusion ha
  · intro hrefused
    cases hrefused with
    | @create faces hfull =>
        have herror := (h.create_eq_error_iff faces d _).mpr ⟨rfl, hfull⟩
        exact ⟨congrArg Answer.created herror, .created _⟩
    | @destroy id hgone =>
        have herror := (h.destroy_eq_error_iff id d _).mpr ⟨rfl, hgone⟩
        exact ⟨congrArg Answer.destroyed herror, .destroyed _⟩
    | collect hwhy =>
        have herror := (h.collect_eq_error_iff _ d _).mpr hwhy
        exact ⟨congrArg Answer.collected herror, .collected _⟩
    | packBodies hwhy | pack hwhy =>
        have herror := (h.collect_eq_error_iff _ d _).mpr hwhy
        exact ⟨congrArg Answer.packed (packBodies_eq_error_iff.mpr herror), .packed _⟩

/-- What a failing call can and cannot do at some moment of a run. -/
structure FailsCleanly (run : Run) : Prop where
  /-- A call fails with the slots full, at a handle off the order, or at a misaligned record. -/
  failed_iff : ∀ c a, (c.perform run.registry run.device).1 = a ∧ a.Failed
    ↔ Refused run.registry c a
  /-- The registry stays as it was, and the device but for warnings in its log. -/
  unchanged : ∀ c, (c.perform run.registry run.device).1.Failed →
    (run.step c).registry = run.registry ∧ Warned run.device (run.step c).device
  /-- No later call answers or acts otherwise than without the failing one. -/
  unnoticed : ∀ c, (c.perform run.registry run.device).1.Failed → ∀ calls,
    (run.step c).answers calls = run.answers calls
      ∧ Run.Alike (run.after calls) ((run.step c).after calls)

/-- **A call that fails leaves no trace**, at any moment of any run. -/
theorem failsCleanly_after (capacity : UInt32) (d : Device) (calls : List Call) :
    FailsCleanly ((Run.start capacity d).after calls) := by
  have hinv := orderInv_after capacity d calls
  generalize (Run.start capacity d).after calls = run at hinv
  refine ⟨fun c a => hinv.failed_iff c a run.device, ?_, ?_⟩
  · intro c h
    obtain ⟨hregistry, -, -, hwarned⟩ := Run.step_of_failed h
    exact ⟨hregistry, hwarned⟩
  · intro c h later
    obtain ⟨hregistry, hbirths, huploads, hwarned⟩ := Run.step_of_failed h
    have halike : Run.Alike run (run.step c) := by
      obtain ⟨lines, hdevice, -⟩ := hwarned
      exact ⟨hregistry, ⟨_, hdevice⟩, hbirths, huploads⟩
    exact halike.after later

end Registry

end Facet
