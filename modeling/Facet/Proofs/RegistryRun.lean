import Facet.Proofs.SlotStore
import Facet.Registry

/-!
# A registry at work

`Run` is a registry with its device and a record of what has happened to it: which bodies were
created, and which uploads of triangles succeeded. The record is proof-only state. Nothing reads
it back; it lets a later module speak of "the order of creation" and "the last upload".

Every call falls into one of four kinds, and each kind has one lemma that says all it can do:
`create_cases`, `destroy_cases`, `packBodies_cases`, and `OnlyStreams` for the calls that move
vertex streams between the bodies and the device and touch nothing else.
-/

namespace Facet.Registry

/-! ## Calls and runs -/

/-- A call on a registry. -/
inductive Call where
  | create (faces : List Face)
  | destroy (id : Handle)
  | upload (id : Handle)
  | release (id : Handle)
  | uploadAll
  | releaseAll
  | collect (ids : List Handle)
  | packBodies (binding : UInt32) (ids : List Handle)
  | pack (binding : UInt32)

/-- What a call gives back. -/
inductive Answer where
  | created (result : Except RegistryError Handle)
  | destroyed (result : Except RegistryError Unit)
  | collected (result : Except Failure (List TriangleRecord))
  | packed (result : Except Failure UInt32)
  | done

/-- One call. -/
def Call.perform (c : Call) (r : Registry) (d : Device) : Answer × Registry × Device :=
  match c with
  | .create faces =>
    let made := r.create faces d
    (.created made.1, made.2)
  | .destroy id =>
    let gone := r.destroy id d
    (.destroyed gone.1, gone.2)
  | .upload id => (.done, r.upload id d)
  | .release id => (.done, r.release id d)
  | .uploadAll => (.done, r.uploadAll d)
  | .releaseAll => (.done, r.releaseAll d)
  | .collect ids =>
    let got := r.collect ids d
    (.collected got.1, r, got.2)
  | .packBodies binding ids =>
    let sent := r.packBodies binding ids d
    (.packed sent.1, sent.2)
  | .pack binding =>
    let sent := r.pack binding d
    (.packed sent.1, sent.2)

/-- A body as it was created. -/
structure Birth where
  id : Handle
  faces : List Face

/-- The triangles that an upload has put into the shared buffer, and where it bound them. -/
structure Upload where
  binding : UInt32
  records : List TriangleRecord

/-- The body a call has created, if its answer says so. -/
def Call.birth? : Call → Answer → Option Birth
  | .create faces, .created (.ok id) => some ⟨id, faces⟩
  | _, _ => none

/-- The records that an upload of the given bodies packs. -/
def uploadOf? (r : Registry) (binding : UInt32) (ids : List Handle) : Option Upload :=
  match r.gather ids with
  | .ok records => some ⟨binding, records⟩
  | .error _ => none

/-- The shared buffer, and the device, after one more upload. -/
def Upload.into (u : Upload) (s : SharedTriangles) (d : Device) : SharedTriangles × Device :=
  let reserved := s.reserve u.records.length d
  reserved.1.store u.records u.binding reserved.2

/-- What a call on `r` has uploaded, if its answer says that it has. -/
def Call.upload? (r : Registry) : Call → Answer → Option Upload
  | .packBodies binding ids, .packed (.ok _) => r.uploadOf? binding ids
  | .pack binding, .packed (.ok _) => r.uploadOf? binding r.order
  | _, _ => none

/-- A registry, its device, and what has happened so far, the latest last. -/
structure Run where
  registry : Registry
  device : Device
  /-- The bodies created, those destroyed since included. -/
  births : List Birth := []
  /-- The successful uploads to the shared buffer. -/
  uploads : List Upload := []

namespace Run

/-- Before the first call. -/
def start (capacity : UInt32) (d : Device) : Run :=
  { registry := Registry.empty capacity.toNat, device := d }

def step (run : Run) (c : Call) : Run :=
  let answered := c.perform run.registry run.device
  { registry := answered.2.1
    device := answered.2.2
    births := run.births ++ (c.birth? answered.1).toList
    uploads := run.uploads ++ (c.upload? run.registry answered.1).toList }

def after (run : Run) (calls : List Call) : Run := calls.foldl step run

/-- What holds at the start and is kept by every call holds after every run. -/
theorem after_induction {P : Run → Prop} {run : Run} (h : P run)
    (hstep : ∀ run c, P run → P (run.step c)) (calls : List Call) : P (run.after calls) := by
  induction calls generalizing run with
  | nil => exact h
  | cons c calls ih => exact ih (hstep run c h)

end Run

/-! ## Calls that only move vertex streams -/

/-- The second registry has the bodies of the first: the same handles in the same order, with the
same faces. Their vertex streams may differ. -/
structure SameBodies (r r' : Registry) : Prop where
  order_eq : r'.order = r.order
  faces_eq : ∀ id, (r'.body? id).map Body.faces = (r.body? id).map Body.faces
  wellFormed : r.bodies.WellFormed → r'.bodies.WellFormed

/-- The second registry differs from the first at most in the vertex streams of its bodies. -/
structure OnlyStreams (r r' : Registry) : Prop extends SameBodies r r' where
  shared_eq : r'.shared = r.shared

theorem OnlyStreams.refl (r : Registry) : OnlyStreams r r := ⟨⟨rfl, fun _ => rfl, id⟩, rfl⟩

theorem OnlyStreams.trans {r r' r'' : Registry} (h : OnlyStreams r r') (h' : OnlyStreams r' r'') :
    OnlyStreams r r'' where
  order_eq := h'.order_eq.trans h.order_eq
  faces_eq id := (h'.faces_eq id).trans (h.faces_eq id)
  wellFormed hr := h'.wellFormed (h.wellFormed hr)
  shared_eq := h'.shared_eq.trans h.shared_eq

theorem SameBodies.body?_eq_none {r r' : Registry} (h : SameBodies r r') (id : Handle) :
    r'.body? id = none ↔ r.body? id = none := by
  rw [← Option.map_eq_none_iff (f := Body.faces), h.faces_eq, Option.map_eq_none_iff]

/-- What `act` leaves of a live body is found under its handle; the other bodies stay. -/
theorem body?_onBody (act : Body → Device → Body × Device) (state : Registry × Device)
    (id : Handle) :
    (onBody act state id).1.body?
      = Function.update state.1.body? id ((state.1.body? id).map fun b => (act b state.2).1) := by
  cases hbody : state.1.body? id with
  | none => rw [onBody, hbody, Option.map_none, Function.update_eq_self_iff.mpr hbody.symm]
  | some body =>
      rw [onBody, hbody]
      show (state.1.bodies.modify id fun _ => (act body state.2).1).get? = _
      rw [SlotStore.get?_modify, show state.1.bodies.get? id = some body from hbody]
      rfl

theorem onBody_onlyStreams {act : Body → Device → Body × Device}
    (hact : ∀ b d, (act b d).1.faces = b.faces) (state : Registry × Device) (id : Handle) :
    OnlyStreams state.1 (onBody act state id).1 := by
  have hfaces : ∀ id', ((onBody act state id).1.body? id').map Body.faces
      = (state.1.body? id').map Body.faces := by
    intro id'
    rw [body?_onBody, Function.update_apply]
    split
    · rename_i heq; subst heq
      cases state.1.body? id' with
      | none => rfl
      | some body => simp [hact]
    · rfl
  refine ⟨⟨?_, hfaces, ?_⟩, ?_⟩
  · rw [onBody]; split <;> rfl
  · intro h
    rw [onBody]
    split
    · exact h
    · exact h.modify id _
  · rw [onBody]; split <;> rfl

theorem foldl_onBody_onlyStreams {act : Body → Device → Body × Device}
    (hact : ∀ b d, (act b d).1.faces = b.faces) :
    ∀ (ids : List Handle) (state : Registry × Device),
      OnlyStreams state.1 (ids.foldl (onBody act) state).1
  | [], state => .refl state.1
  | id :: ids, state =>
      (onBody_onlyStreams hact state id).trans (foldl_onBody_onlyStreams hact ids _)

theorem faces_release (b : Body) (d : Device) : (b.release d).1.faces = b.faces := rfl

theorem faces_upload (b : Body) (d : Device) : (b.upload d).1.faces = b.faces := by
  rw [Body.upload]
  dsimp only
  split <;> rfl

theorem upload_onlyStreams (id : Handle) (r : Registry) (d : Device) :
    OnlyStreams r (r.upload id d).1 := onBody_onlyStreams faces_upload (r, d) id

theorem release_onlyStreams (id : Handle) (r : Registry) (d : Device) :
    OnlyStreams r (r.release id d).1 := onBody_onlyStreams faces_release (r, d) id

theorem uploadAll_onlyStreams (r : Registry) (d : Device) : OnlyStreams r (r.uploadAll d).1 :=
  foldl_onBody_onlyStreams faces_upload r.order (r, d)

theorem releaseAll_onlyStreams (r : Registry) (d : Device) : OnlyStreams r (r.releaseAll d).1 :=
  foldl_onBody_onlyStreams faces_release _ (r, d)

/-! ## Creating and destroying bodies -/

/-- Everything `create` can do: a body under the lowest free handle, last in the order, or none. -/
theorem create_cases {r : Registry} (h : r.bodies.WellFormed) (faces : List Face) (d : Device) :
    (∃ id r' d', r.create faces d = (.ok id, r', d')
      ∧ id.index < r.bodies.capacity ∧ r.body? id = none
      ∧ (∀ id', id'.index < id.index → r.body? id' ≠ none)
      ∧ r'.body? = Function.update r.body? id (some (Body.ofFaces faces))
      ∧ r'.order = r.order ++ [id] ∧ r'.shared = r.shared
      ∧ r'.bodies.capacity = r.bodies.capacity ∧ r'.bodies.WellFormed)
    ∨ ∃ d', r.create faces d = (.error (.full r.bodies.capacity), r, d')
      ∧ ∀ id, id.index < r.bodies.capacity → r.body? id ≠ none := by
  rw [create]
  rcases h.create_cases lifecycle faces (d.noteAll (polygonWarning? faces).toList) with
    ⟨id, bodies, hrun, hlt, hfree, hlowest, hget, hcapacity, hwf⟩ | ⟨hrun, hfull⟩
  · dsimp only
    rw [hrun]
    exact .inl ⟨id, _, _, rfl, hlt, hfree, hlowest, hget, rfl, rfl, hcapacity, hwf⟩
  · dsimp only
    rw [hrun]
    exact .inr ⟨_, rfl, hfull⟩

/-- Everything `destroy` can do: a live body goes, from the order too, or the call is refused. -/
theorem destroy_cases {r : Registry} (h : r.bodies.WellFormed) (id : Handle) (d : Device) :
    (∃ r' d', r.destroy id d = (.ok (), r', d')
      ∧ r.body? id ≠ none
      ∧ r'.body? = Function.update r.body? id none
      ∧ r'.order = r.order.filter (· != id) ∧ r'.shared = r.shared
      ∧ r'.bodies.capacity = r.bodies.capacity ∧ r'.bodies.WellFormed)
    ∨ (r.destroy id d = (.error (.unknownBody id), r, d) ∧ r.body? id = none) := by
  rw [destroy]
  rcases h.destroy_cases lifecycle id d with
    ⟨body, bodies, hrun, hlive, hget, hcapacity, hwf⟩ | ⟨hrun, hfree⟩
  · rw [hrun]
    have hlive' : r.body? id ≠ none := by
      rw [body?, hlive]; simp
    exact .inl ⟨_, _, rfl, hlive', hget, rfl, rfl, hcapacity, hwf⟩
  · rw [hrun]
    exact .inr ⟨rfl, hfree⟩

/-! ## Uploading triangles -/

/-- Everything `packBodies` can do: store the gathered records, or fail and change nothing. -/
theorem packBodies_cases (r : Registry) (binding : UInt32) (ids : List Handle) (d : Device) :
    (∃ u, r.uploadOf? binding ids = some u
      ∧ r.packBodies binding ids d = (.ok (UInt32.ofNat u.records.length),
        { r with shared := (u.into r.shared d).1 }, (u.into r.shared d).2))
    ∨ ∃ failure d', r.packBodies binding ids d = (.error failure, r, d') := by
  rw [packBodies, uploadOf?, collect]
  cases r.gather ids with
  | error e => exact .inr ⟨_, _, rfl⟩
  | ok records =>
      dsimp only
      split
      · rename_i hcollect
        split at hcollect
        · exact absurd hcollect (by simp)
        · exact .inr ⟨_, _, rfl⟩
      · rename_i hcollect
        split at hcollect
        · cases hcollect
          exact .inl ⟨⟨binding, records⟩, rfl, rfl⟩
        · exact absurd hcollect (by simp)

theorem upload?_eq_none {r : Registry} {c : Call} {a : Answer}
    (h : ∀ count, a ≠ .packed (.ok count)) : c.upload? r a = none := by
  rw [Call.upload?.eq_def]
  split
  · exact absurd rfl (h _)
  · exact absurd rfl (h _)
  · rfl

theorem shared_create (faces : List Face) (r : Registry) (d : Device) :
    (r.create faces d).2.1.shared = r.shared := by
  rw [create]
  dsimp only
  split <;> rfl

theorem shared_destroy (id : Handle) (r : Registry) (d : Device) :
    (r.destroy id d).2.1.shared = r.shared := by
  rw [destroy]
  split <;> rfl

namespace Run

/-- Packing every body is packing the bodies of the order. -/
theorem step_pack (run : Run) (binding : UInt32) :
    run.step (.pack binding) = run.step (.packBodies binding run.registry.order) := by
  simp only [step, Call.perform, pack, Call.birth?]
  cases (run.registry.packBodies binding run.registry.order run.device).1 <;> rfl

/-- What a call did to the shared buffer: one upload, or nothing. -/
inductive SharedStep (run : Run) (c : Call) : Prop where
  | uploaded (u : Upload) :
      (c.perform run.registry run.device).1 = .packed (.ok (UInt32.ofNat u.records.length)) →
      (run.step c).uploads = run.uploads ++ [u] →
      (run.step c).registry.shared = (u.into run.registry.shared run.device).1 →
      SharedStep run c
  | untouched :
      (∀ count, (c.perform run.registry run.device).1 ≠ .packed (.ok count)) →
      (run.step c).uploads = run.uploads →
      (run.step c).registry.shared = run.registry.shared →
      SharedStep run c

theorem sharedStep_of_answer {run : Run} {c : Call}
    (h : ∀ count, (c.perform run.registry run.device).1 ≠ .packed (.ok count))
    (hshared : (c.perform run.registry run.device).2.1.shared = run.registry.shared) :
    SharedStep run c := by
  refine .untouched h ?_ hshared
  rw [step, upload?_eq_none h, Option.toList_none, List.append_nil]

theorem sharedStep_packBodies (run : Run) (binding : UInt32) (ids : List Handle) :
    SharedStep run (.packBodies binding ids) := by
  rcases packBodies_cases run.registry binding ids run.device with
    ⟨u, hu, hpack⟩ | ⟨failure, d', hpack⟩
  · refine .uploaded u ?_ ?_ ?_
    · rw [Call.perform, hpack]
    · simp only [step, Call.perform, hpack, Call.upload?, hu, Option.toList_some]
    · rw [step, Call.perform, hpack]
  · refine sharedStep_of_answer ?_ ?_
    · intro count; simp [Call.perform, hpack]
    · rw [Call.perform, hpack]

/-- **A call uploads once, or leaves the shared buffer alone.** -/
theorem sharedStep (run : Run) (c : Call) : SharedStep run c := by
  cases c with
  | create faces =>
      exact sharedStep_of_answer (fun _ => Answer.noConfusion) (shared_create faces _ _)
  | destroy id => exact sharedStep_of_answer (fun _ => Answer.noConfusion) (shared_destroy id _ _)
  | upload id =>
      exact sharedStep_of_answer (fun _ => Answer.noConfusion)
        (upload_onlyStreams id _ _).shared_eq
  | release id =>
      exact sharedStep_of_answer (fun _ => Answer.noConfusion)
        (release_onlyStreams id _ _).shared_eq
  | uploadAll =>
      exact sharedStep_of_answer (fun _ => Answer.noConfusion) (uploadAll_onlyStreams _ _).shared_eq
  | releaseAll =>
      exact sharedStep_of_answer (fun _ => Answer.noConfusion)
        (releaseAll_onlyStreams _ _).shared_eq
  | collect ids => exact sharedStep_of_answer (fun _ => Answer.noConfusion) rfl
  | packBodies binding ids => exact sharedStep_packBodies run binding ids
  | pack binding =>
      cases sharedStep_packBodies run binding run.registry.order with
      | uploaded u hanswer huploads hshared =>
          rw [← step_pack] at huploads hshared
          exact .uploaded u hanswer huploads hshared
      | untouched hanswer huploads hshared =>
          rw [← step_pack] at huploads hshared
          exact .untouched hanswer huploads hshared

/-- What a call did to the bodies: a birth, a death, or neither. -/
inductive BodyStep (run : Run) (c : Call) : Prop where
  | born (id : Handle) (faces : List Face) :
      (run.step c).births = run.births ++ [⟨id, faces⟩] →
      run.registry.body? id = none →
      (run.step c).registry.body?
        = Function.update run.registry.body? id (some (Body.ofFaces faces)) →
      (run.step c).registry.order = run.registry.order ++ [id] →
      (run.step c).registry.bodies.WellFormed →
      BodyStep run c
  | gone (id : Handle) :
      (run.step c).births = run.births →
      (run.step c).registry.body? = Function.update run.registry.body? id none →
      (run.step c).registry.order = run.registry.order.filter (· != id) →
      (run.step c).registry.bodies.WellFormed →
      BodyStep run c
  | kept :
      (run.step c).births = run.births →
      SameBodies run.registry (run.step c).registry →
      BodyStep run c

theorem sameBodies_packBodies (r : Registry) (binding : UInt32) (ids : List Handle) (d : Device) :
    SameBodies r (r.packBodies binding ids d).2.1 := by
  rcases packBodies_cases r binding ids d with ⟨u, -, hpack⟩ | ⟨failure, d', hpack⟩
  · rw [hpack]; exact ⟨rfl, fun _ => rfl, id⟩
  · rw [hpack]; exact ⟨rfl, fun _ => rfl, id⟩

/-- **A call creates one body, destroys one, or keeps them all.** -/
theorem bodyStep {run : Run} (h : run.registry.bodies.WellFormed) (c : Call) :
    BodyStep run c := by
  cases c with
  | create faces =>
      rcases create_cases h faces run.device with
        ⟨id, r', d', hrun, _, hfree, _, hbody, horder, _, _, hwf⟩ | ⟨d', hrun, _⟩
      · have hstep : (run.step (.create faces)).registry = r' := by
          rw [step, Call.perform, hrun]
        refine .born id faces ?_ hfree ?_ ?_ ?_
        · simp only [step, Call.perform, hrun, Call.birth?, Option.toList_some]
        · rw [hstep, hbody]
        · rw [hstep, horder]
        · rw [hstep]; exact hwf
      · have hstep : (run.step (.create faces)).registry = run.registry := by
          rw [step, Call.perform, hrun]
        refine .kept ?_ ?_
        · simp [step, Call.perform, hrun, Call.birth?]
        · rw [hstep]; exact (OnlyStreams.refl _).toSameBodies
  | destroy id =>
      have hbirths : (run.step (.destroy id)).births = run.births := by
        simp [step, Call.birth?]
      rcases destroy_cases h id run.device with
        ⟨r', d', hrun, _, hbody, horder, _, _, hwf⟩ | ⟨hrun, _⟩
      · have hstep : (run.step (.destroy id)).registry = r' := by
          rw [step, Call.perform, hrun]
        refine .gone id hbirths ?_ ?_ ?_
        · rw [hstep, hbody]
        · rw [hstep, horder]
        · rw [hstep]; exact hwf
      · have hstep : (run.step (.destroy id)).registry = run.registry := by
          rw [step, Call.perform, hrun]
        refine .kept hbirths ?_
        rw [hstep]; exact (OnlyStreams.refl _).toSameBodies
  | upload id =>
      exact .kept (by simp [step, Call.birth?]) (upload_onlyStreams id _ _).toSameBodies
  | release id =>
      exact .kept (by simp [step, Call.birth?]) (release_onlyStreams id _ _).toSameBodies
  | uploadAll =>
      exact .kept (by simp [step, Call.birth?]) (uploadAll_onlyStreams _ _).toSameBodies
  | releaseAll =>
      exact .kept (by simp [step, Call.birth?]) (releaseAll_onlyStreams _ _).toSameBodies
  | collect ids => exact .kept (by simp [step, Call.birth?]) (OnlyStreams.refl _).toSameBodies
  | packBodies binding ids =>
      exact .kept (by simp [step, Call.birth?]) (sameBodies_packBodies _ binding ids _)
  | pack binding =>
      exact .kept (by simp [step, Call.birth?]) (sameBodies_packBodies _ binding _ _)

theorem wellFormed_start (capacity : UInt32) (d : Device) :
    (start capacity d).registry.bodies.WellFormed :=
  SlotStore.wellFormed_empty capacity.toNat_lt

end Run

end Facet.Registry
