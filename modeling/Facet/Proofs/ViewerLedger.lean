import Facet.Proofs.BufferLedger
import Facet.Proofs.ViewerRun

/-!
# What a viewer gives back

A viewer's buffers have several owners: each program of the mesh passes has one for its uniforms,
the tracer has its parameters and its pixels, the registry has the shared triangles, and every
uploaded body has two streams. They also go by several ways, among them a setup that is refused a
shader or fails half way. The conservation law of `Device.Balanced` holds for all of this work, so
that at any moment the buffers made and not destroyed are those in `Viewer.bufferIds`, and the exit,
which destroys exactly these, leaves none.
-/

namespace Facet

open Device (Balanced)
open Registry (Tidy destroyedSince)
open Trace (Tracer)

/-! ## The mesh passes -/

namespace MeshPasses

def bufferIds (m : MeshPasses) : List Nat := [m.faces.buffer.id, m.edges.buffer.id]

theorem create_balanced (d : Device) :
    d.Balanced (MeshPasses.create d).2 [] (MeshPasses.create d).1.bufferIds := by
  have hfaces : d.Balanced (Program.create facesLabel layout d).2 [] [d.created] :=
    .of_created rfl rfl
  have hedges : (Program.create facesLabel layout d).2.Balanced (MeshPasses.create d).2 []
      [(Program.create facesLabel layout d).2.created] := .of_created rfl rfl
  exact hfaces.trans (hedges.frame_left [d.created])

theorem dispose_ledger (m : MeshPasses) (d : Device) :
    (m.dispose d).created = d.created
      ∧ (m.dispose d).destroyed = d.destroyed ++ m.bufferIds := by
  refine ⟨rfl, ?_⟩
  show d.destroyed ++ [m.faces.buffer.id] ++ [m.edges.buffer.id] = _
  rw [List.append_assoc]
  rfl

theorem stage_id (viewProj : Mat4) (color : Color) (p : Program) :
    (stage viewProj color p).2.buffer.id = p.buffer.id := by
  have hset : ∀ (p : Program) (name : String) (value : UniformValue),
      (p.setUniform name value).2.buffer = p.buffer := fun _ _ _ => rfl
  have hflush : ∀ p : Program, p.flush.buffer.id = p.buffer.id := by
    intro p
    unfold Program.flush
    split <;> rfl
  have hcamera := hset p "view_proj" (.mat4 viewProj)
  unfold stage
  split
  · rename_i heq
    rw [← hcamera, heq]
  · rename_i p₁ heq
    have hcolor := hset p₁ "color" (.vec4 color.toVec4)
    rw [heq] at hcamera
    rw [← hcamera]
    dsimp only
    split
    · rename_i heq'
      rw [← hcolor, heq']
    · rename_i heq'
      rw [hflush, ← hcolor, heq']

/-- Staging a frame writes to the buffers there are. -/
theorem tryPrepare_bufferIds (m : MeshPasses) (viewProj : Mat4) (settings : RenderSettings) :
    (m.tryPrepare viewProj settings).2.bufferIds = m.bufferIds := by
  have hfaces := stage_id viewProj settings.faceColor m.faces
  unfold tryPrepare
  dsimp only
  split
  · rename_i heq
    rw [heq] at hfaces
    rw [bufferIds, bufferIds, hfaces]
  · rename_i heq
    rw [heq] at hfaces
    rw [bufferIds, bufferIds, hfaces, stage_id]

end MeshPasses

/-! ## The tracer -/

namespace Trace.Tracer

/-- The tracer's buffers, in the order in which it destroys them. -/
def bufferIds (t : Tracer) : List Nat := t.pixels.ids ++ (t.params.ids ++ t.presentParams.ids)

theorem create_balanced (binding : UInt32) (d : Device) :
    d.Balanced (create binding d).2 [] (create binding d).1.bufferIds := by
  have hparams : d.Balanced (d.createBuffer TraceParams.byteSize).2 [] [d.created] :=
    .of_created rfl rfl
  have hpresent : (d.createBuffer TraceParams.byteSize).2.Balanced (create binding d).2 []
      [(d.createBuffer TraceParams.byteSize).2.created] := .of_created rfl rfl
  exact hparams.trans (hpresent.frame_left [d.created])

theorem release_ledger (t : Tracer) (d : Device) :
    (t.release d).2.created = d.created
      ∧ (t.release d).2.destroyed = d.destroyed ++ t.bufferIds
      ∧ (t.release d).1.bufferIds = [] := by
  obtain ⟨hcreated, hdestroyed, hempty⟩ := d.release_ledger t.pixels
  obtain ⟨hcreated', hdestroyed', hempty'⟩ := (d.release t.pixels).2.2.release_ledger t.params
  obtain ⟨hcreated'', hdestroyed'', hempty''⟩ :=
    ((d.release t.pixels).2.2.release t.params).2.2.release_ledger t.presentParams
  refine ⟨hcreated''.trans (hcreated'.trans hcreated), ?_, ?_⟩
  · show (((d.release t.pixels).2.2.release t.params).2.2.release t.presentParams).2.2.destroyed = _
    rw [hdestroyed'', hdestroyed', hdestroyed, bufferIds, List.append_assoc, List.append_assoc]
  · show (d.release t.pixels).2.1.ids ++ (((d.release t.pixels).2.2.release t.params).2.1.ids
      ++ (((d.release t.pixels).2.2.release t.params).2.2.release t.presentParams).2.1.ids) = []
    rw [hempty, hempty', hempty'']
    rfl

/-- A tracer that has been released has nothing left to release. -/
theorem release_released (t : Tracer) (d d' : Device) :
    ((t.release d).1.release d').2 = d' := by
  have hempty : ∀ (d : Device) (h : Holder Buffer), (d.release h).2.1 = {} := by
    intro d h
    unfold Device.release Holder.take
    cases h.held <;> rfl
  unfold release
  dsimp only
  rw [hempty, hempty, hempty]
  rfl

/-- Frames replace the pixels and nothing else. -/
theorem ensurePixels_balanced (resolution : Extent) (t : Tracer) (d : Device) :
    d.Balanced (t.ensurePixels resolution d).2 t.bufferIds
      (t.ensurePixels resolution d).1.bufferIds := by
  unfold ensurePixels
  split
  · exact .of_eq rfl rfl _
  · obtain ⟨hcreated, hdestroyed, -⟩ := d.release_ledger t.pixels
    have hfree : d.Balanced (d.release t.pixels).2.2 t.pixels.ids [] :=
      .of_destroyed hcreated hdestroyed
    have hmake : (d.release t.pixels).2.2.Balanced
        ((d.release t.pixels).2.2.createBuffer (resolution.area * pixelSize).toNat).2 []
        [(d.release t.pixels).2.2.created] := .of_created rfl rfl
    have hnote := ((d.release t.pixels).2.2.createBuffer
      (resolution.area * pixelSize).toNat).2.balanced_note .debug
        s!"ray tracer output resized to {resolution.width}x{resolution.height}"
        [(d.release t.pixels).2.2.created]
    exact ((hfree.trans hmake).trans hnote).frame (t.params.ids ++ t.presentParams.ids)

theorem ensureGroups_bufferIds (triangles : TriangleBinding) (t : Tracer) :
    (t.ensureGroups triangles).bufferIds = t.bufferIds := by
  obtain ⟨hpixels, hparams, hpresent⟩ := ensureGroups_buffers triangles t
  rw [bufferIds, bufferIds, hpixels, hparams, hpresent]

theorem record_bufferIds (surface : Extent) (triangles : TriangleBinding) (view : View)
    (settings : RenderSettings) (t : Tracer) :
    (t.record surface triangles view settings).2.bufferIds = t.bufferIds := by
  obtain ⟨hpixels, hparams, hpresent⟩ := record_buffers surface triangles view settings t
  rw [bufferIds, bufferIds, hpixels, hparams, hpresent]

theorem render_balanced (surface : Extent) (triangles : TriangleBinding) (view : View)
    (settings : RenderSettings) (t : Tracer) (d : Device) :
    d.Balanced (t.render surface triangles view settings d).2.2 t.bufferIds
      (t.render surface triangles view settings d).2.1.bufferIds := by
  unfold render
  split
  · split
    · exact .of_eq (by rfl) (by rfl) _
    · exact .of_eq (by rfl) (by rfl) _
  · dsimp only
    rw [record_bufferIds, ensureGroups_bufferIds]
    exact ensurePixels_balanced _ t d

end Trace.Tracer

/-! ## The renderers -/

namespace Renderers

/-- The buffers of the renderers, in the order in which they are given back. -/
def bufferIds (r : Renderers) : List Nat := r.tracer.bufferIds ++ r.mesh.bufferIds

theorem dispose_ledger (r : Renderers) (d : Device) :
    (r.dispose d).created = d.created
      ∧ (r.dispose d).destroyed = d.destroyed ++ r.bufferIds := by
  obtain ⟨hcreated, hdestroyed, -⟩ := r.tracer.release_ledger d
  obtain ⟨hcreated', hdestroyed'⟩ := r.mesh.dispose_ledger (r.tracer.release d).2
  refine ⟨hcreated'.trans hcreated, ?_⟩
  show (r.mesh.dispose (r.tracer.release d).2).destroyed = _
  rw [hdestroyed', hdestroyed, bufferIds, List.append_assoc]

/-- A released tracer that goes on to be dropped destroys nothing more. -/
theorem dispose_eq_dropped (r : Renderers) (d : Device) :
    ((r.tracer.release d).1.release (r.mesh.dispose (r.tracer.release d).2)).2 = r.dispose d :=
  r.tracer.release_released d _

/-- Mesh passes that are given back leave nothing behind. -/
theorem withdrawn_balanced (d : Device) : d.Balanced (withdrawn d) [] [] := by
  obtain ⟨hcreated, hdestroyed⟩ :=
    (MeshPasses.create d).1.dispose_ledger (MeshPasses.create d).2
  exact (MeshPasses.create_balanced d).trans (.of_destroyed hcreated hdestroyed)

end Renderers

namespace Screen

/-- What drawing keeps balanced, rendering a frame does. -/
theorem render_balanced {State : Type} (ids : State → List Nat)
    {draw : Extent → State → Device → State × Device}
    (hdraw : ∀ size state (d : Device), d.Balanced (draw size state d).2 (ids state)
      (ids (draw size state d).1))
    (failure : Option SurfaceError) (s : Screen) (state : State) (d : Device) :
    d.Balanced (s.render failure draw state d).2.2.2 (ids state)
      (ids (s.render failure draw state d).2.2.1) := by
  unfold render
  split
  · exact .of_eq (by rfl) (by rfl) _
  · cases failure with
    | none => exact hdraw s.size state d
    | some e =>
        obtain ⟨hcreated, hdestroyed⟩ := handleError_ledger e (s.call (.acquire (some e))) d
        exact .of_eq hcreated hdestroyed _

end Screen

/-! ## Frames -/

namespace Viewer

/-- Every buffer that a viewer holds, in the order in which it gives them back. -/
def bufferIds (v : Viewer) : List Nat :=
  v.renderers.elim [] Renderers.bufferIds ++ v.registry.bufferIds

theorem bufferIds_some {v : Viewer} {r : Renderers} (h : v.renderers = some r) :
    v.bufferIds = r.bufferIds ++ v.registry.bufferIds := by
  rw [bufferIds, h]
  rfl

theorem bufferIds_none {v : Viewer} (h : v.renderers = none) :
    v.bufferIds = v.registry.bufferIds := by
  rw [bufferIds, h]
  rfl

/-- Work of a viewer that leaves its bodies settled and is balanced for its buffers. -/
structure Tended (v : Viewer) (d : Device) (v' : Viewer) (d' : Device) : Prop where
  tidy : Tidy v'.registry
  balanced : d.Balanced d' v.bufferIds v'.bufferIds

variable {v : Viewer} {d : Device}

/-- A setup makes the renderers' buffers, and destroys them again if it fails. -/
theorem setup_ledger (v : Viewer) (h : Tidy v.registry) (d : Device) :
    (∃ r registry d', v.setup d = (.ok r, { v with registry }, d') ∧ Tidy registry
      ∧ d.Balanced d' v.registry.bufferIds (r.bufferIds ++ registry.bufferIds))
    ∨ ∃ failure registry d', v.setup d = (.error failure, { v with registry }, d')
      ∧ Tidy registry ∧ d.Balanced d' v.registry.bufferIds registry.bufferIds := by
  have hmesh := MeshPasses.create_balanced d
  have htracer := Tracer.create_balanced v.settings.triangleBinding (MeshPasses.create d).2
  unfold setup load Renderers.create
  dsimp only
  generalize MeshPasses.create d = mesh at hmesh htracer ⊢
  generalize Tracer.create v.settings.triangleBinding mesh.2 = tracer at htracer ⊢
  let renderers : Renderers := ⟨mesh.1, tracer.1⟩
  have hmade : d.Balanced tracer.2 [] renderers.bufferIds :=
    hmesh.trans (htracer.frame mesh.1.bufferIds)
  -- the bodies are uploaded and packed while the renderers' buffers ride along
  have hupload := h.uploadAll tracer.2
  have hpack := hupload.toTidy.packBodies v.settings.triangleBinding
    (v.registry.uploadAll tracer.2).1.order (v.registry.uploadAll tracer.2).2
  have hworked := (hmade.frame v.registry.bufferIds).trans
    ((hupload.trans hpack).balanced.frame_left renderers.bufferIds)
  have htidy := hpack.toTidy
  rw [← Registry.pack] at hworked htidy
  generalize (v.registry.uploadAll tracer.2).1.pack v.settings.triangleBinding
    (v.registry.uploadAll tracer.2).2 = packed at htidy hworked ⊢
  obtain ⟨result, registry, d'⟩ := packed
  cases result with
  | ok triangles =>
      exact .inl ⟨renderers, registry, _, rfl, htidy, hworked.trans (.of_eq (by rfl) (by rfl) _)⟩
  | error failure =>
      obtain ⟨hcreated, hdestroyed⟩ := renderers.dispose_ledger d'
      have hgiven : d'.Balanced (renderers.dispose d') renderers.bufferIds [] :=
        .of_destroyed hcreated hdestroyed
      exact .inr ⟨failure, registry, _, rfl, htidy, hworked.trans (hgiven.frame registry.bufferIds)⟩

/-- So does a setup whose shaders are refused. -/
theorem trySetup_ledger (v : Viewer) (compiler : ShaderCompiler) (h : Tidy v.registry)
    (d : Device) :
    (∃ r registry d', v.trySetup compiler d = (.ok r, { v with registry }, d') ∧ Tidy registry
      ∧ d.Balanced d' v.registry.bufferIds (r.bufferIds ++ registry.bufferIds))
    ∨ ∃ failure registry d', v.trySetup compiler d = (.error failure, { v with registry }, d')
      ∧ Tidy registry ∧ d.Balanced d' v.registry.bufferIds registry.bufferIds := by
  rcases v.trySetup_cases compiler d with ⟨-, htry⟩ | ⟨e, d', -, htry, hleft⟩
  · rw [htry]
    rcases setup_ledger v h d with
      ⟨r, registry, d', hsetup, htidy, hwork⟩ | ⟨failure, registry, d', hsetup, htidy, hwork⟩
    · rw [hsetup]
      exact .inl ⟨r, registry, d', rfl, htidy, hwork⟩
    · rw [hsetup]
      exact .inr ⟨_, registry, d', rfl, htidy, hwork⟩
  · refine .inr ⟨_, v.registry, d', htry, h, ?_⟩
    have hbalanced : d.Balanced d' [] [] := by
      rcases hleft with rfl | rfl
      · exact .of_eq rfl rfl []
      · exact Renderers.withdrawn_balanced d
    exact hbalanced.frame v.registry.bufferIds

theorem draw_balanced (registry : Registry) (settings : RenderSettings) (view : Trace.View)
    (size : Extent) (r : Renderers) (d : Device) :
    d.Balanced (draw registry settings view size r d).2 r.bufferIds
      (draw registry settings view size r d).1.bufferIds := by
  unfold draw
  split
  · rename_i triangles _ _
    exact (r.tracer.render_balanced size triangles view settings d).frame r.mesh.bufferIds
  · exact .of_eq (by rfl) (by rfl) _

theorem present_tended (v : Viewer) (h : Tidy v.registry) (r : Renderers)
    (failure : Option SurfaceError) (s : Screen) (d : Device) :
    Tidy (v.present r failure s d).2.1.registry
      ∧ d.Balanced (v.present r failure s d).2.2.2 (r.bufferIds ++ v.registry.bufferIds)
        (v.present r failure s d).2.1.bufferIds := by
  have hmesh := r.mesh.tryPrepare_bufferIds (v.camera.viewProjection s.size.aspect) v.settings
  unfold present
  dsimp only
  generalize r.mesh.tryPrepare (v.camera.viewProjection s.size.aspect) v.settings = tried at hmesh ⊢
  obtain ⟨answer, mesh⟩ := tried
  have hprepared : r.bufferIds = Renderers.bufferIds { r with mesh } := by
    rw [Renderers.bufferIds, Renderers.bufferIds, ← hmesh]
  rw [hprepared]
  cases answer with
  | error e =>
      refine ⟨h, ?_⟩
      rw [bufferIds_some rfl]
      exact .of_eq (by rfl) (by rfl) _
  | ok =>
      have hrender := Screen.render_balanced Renderers.bufferIds
        (draw_balanced v.registry v.settings
          ⟨v.camera.viewProjection s.size.aspect, v.camera.origin⟩) failure s { r with mesh } d
      exact ⟨h, hrender.frame v.registry.bufferIds⟩

/-! ## Frames -/

variable (v : Viewer) (compiler : ShaderCompiler) (held : Held) (input : InputFrame) (dt : Float32)
  (failure : Option SurfaceError) (s : Screen) (d : Device)

theorem Kept.bufferIds_eq {v v' : Viewer} (h : Kept v v') : v'.bufferIds = v.bufferIds := by
  rw [bufferIds, bufferIds, h.renderers_eq, h.registry_eq]

variable {v}

/-- **Every frame is balanced**, however it ends. -/
theorem onFrame_tended (h : Tidy v.registry) :
    Tended v d (v.onFrame compiler held input dt failure s d).2.1
      (v.onFrame compiler held input dt failure s d).2.2.2 := by
  rcases onFrame_cases v compiler held input dt failure s d with
    ⟨-, control, v', d', hframe, hkept, hcreated, hdestroyed⟩ |
      ⟨v₁, d₁, -, hkept, hcreated, hdestroyed, hframe⟩
  · rw [hframe]
    refine ⟨hkept.registry_eq.symm ▸ h, ?_⟩
    dsimp only
    rw [hkept.bufferIds_eq]
    exact .of_eq hcreated hdestroyed _
  · rw [hframe]
    have htidy : Tidy v₁.registry := hkept.registry_eq.symm ▸ h
    have hquiet : d.Balanced d₁ v.bufferIds v₁.bufferIds := by
      rw [hkept.bufferIds_eq]
      exact .of_eq hcreated hdestroyed _
    unfold ensureRenderers
    cases hrenderers : v₁.renderers with
    | some r =>
        obtain ⟨htidy', hwork⟩ := present_tended v₁ htidy r failure s d₁
        rw [bufferIds_some hrenderers] at hquiet
        exact ⟨htidy', hquiet.trans hwork⟩
    | none =>
        rw [bufferIds_none hrenderers] at hquiet
        dsimp only
        rcases trySetup_ledger v₁ compiler htidy d₁ with
          ⟨r, registry, d', hsetup, htidy', hwork⟩ | ⟨e, registry, d', hsetup, htidy', hwork⟩
        · rw [hsetup]
          obtain ⟨htidy'', hwork'⟩ := present_tended { v₁ with registry } htidy' r failure s d'
          exact ⟨htidy'', (hquiet.trans hwork).trans hwork'⟩
        · -- nothing is left of the renderers; the bodies stay uploaded
          rw [hsetup]
          have hleft : d.Balanced d' v.bufferIds (bufferIds { v₁ with registry }) := by
            rw [bufferIds_none (v := { v₁ with registry }) hrenderers]
            exact hquiet.trans hwork
          cases e with
          | fault f => exact ⟨htidy', hleft⟩
          | error e => exact ⟨htidy', hleft.trans (.of_eq (by rfl) (by rfl) _)⟩

/-! ## The exit -/

theorem onExit_ledger (v : Viewer) (adapter : Adapter) (d : Device) :
    (v.onExit adapter d).2.created = d.created
      ∧ (v.onExit adapter d).2.destroyed = d.destroyed ++ v.bufferIds := by
  unfold onExit
  dsimp only
  cases hrenderers : v.renderers with
  | none =>
      rw [bufferIds_none hrenderers]
      exact v.registry.dispose_ledger d
  | some r =>
      obtain ⟨hcreated, hdestroyed⟩ := r.dispose_ledger d
      obtain ⟨hcreated', hdestroyed'⟩ := v.registry.dispose_ledger (r.dispose d)
      rw [bufferIds_some hrenderers, ← List.append_assoc, ← hdestroyed]
      exact ⟨hcreated'.trans hcreated, hdestroyed'⟩

/-- A viewer that has exited holds nothing. -/
theorem bufferIds_onExit (v : Viewer) (adapter : Adapter) (d : Device) :
    (v.onExit adapter d).1.bufferIds = [] :=
  Registry.bufferIds_empty SlotStore.defaultCapacity (by decide)

theorem tidy_onExit (v : Viewer) (adapter : Adapter) (d : Device) :
    Tidy (v.onExit adapter d).1.registry :=
  Registry.tidy_empty SlotStore.defaultCapacity (by decide)

/-! ## Setting up without bodies -/

theorem pack_of_empty {r : Registry} (h : r.order = []) (binding : UInt32) (d : Device) :
    ∃ shared d', r.pack binding d = (.ok 0, { r with shared }, d')
      ∧ ∃ b, ({ r with shared } : Registry).triangleBinding? = some b
        ∧ b.binding = binding ∧ b.triangleCount = 0 := by
  obtain ⟨b, hheld, hbinding, hcount, -⟩ := Registry.triangleBinding?_into ⟨binding, []⟩ r.shared d
  unfold Registry.pack Registry.packBodies Registry.collect
  rw [h]
  exact ⟨_, _, rfl, _, congrArg (Option.map _) hheld, hbinding, hcount⟩

theorem setup_of_empty {v : Viewer} (h : v.registry.order = []) (d : Device) :
    ∃ r shared d', v.setup d = (.ok r, { v with registry := { v.registry with shared } }, d')
      ∧ ∃ b, ({ v.registry with shared } : Registry).triangleBinding? = some b
        ∧ b.binding = v.settings.triangleBinding ∧ b.triangleCount = 0 := by
  have hupload : ∀ d, v.registry.uploadAll d = (v.registry, d) := by
    intro d
    unfold Registry.uploadAll
    rw [h]
    rfl
  unfold setup load
  dsimp only
  obtain ⟨shared, d', hpack, hbinding⟩ := pack_of_empty h v.settings.triangleBinding
    (Renderers.create v.settings.triangleBinding d).2
  rw [hupload, hpack]
  exact ⟨_, shared, _, rfl, hbinding⟩

/-- A frame of a viewer without renderers and without bodies meets no fault if it gets as far as
setting up. It has renderers then unless a shader is refused. -/
theorem onFrame_of_empty (hnone : v.renderers = none) (hempty : v.registry.order = [])
    (hready : (v.ready? held input dt d).isSome = true) :
    let ran := v.onFrame compiler held input dt failure s d
    ran.1.isOk = true ∧ ran.2.1.registry.order = []
      ∧ (ran.2.1.renderers.isSome = true ↔ v.accepted compiler = true)
      ∧ (v.accepted compiler = true → ∃ b, ran.2.1.registry.triangleBinding? = some b
        ∧ b.binding = ran.2.1.settings.triangleBinding ∧ b.triangleCount = 0) := by
  dsimp only
  rcases onFrame_cases v compiler held input dt failure s d with
    ⟨hstopped, -⟩ | ⟨v₁, d₁, -, hkept, -, -, hframe⟩
  · rw [hstopped] at hready
    exact absurd hready (by simp)
  · have hempty₁ : v₁.registry.order = [] := by rw [hkept.registry_eq, hempty]
    have hnone₁ : v₁.renderers = none := by rw [hkept.renderers_eq, hnone]
    rw [hframe, hkept.accepted_eq compiler]
    unfold ensureRenderers
    rw [hnone₁]
    dsimp only
    rcases v₁.trySetup_cases compiler d₁ with ⟨hvalid, htry⟩ | ⟨e, d', hvalid, htry, -⟩
    · obtain ⟨r, shared, d', hsetup, hpacked⟩ := setup_of_empty hempty₁ d₁
      obtain ⟨r', hr'⟩ := present_keeps { v₁ with registry := { v₁.registry with shared } } r
        failure s d'
      rw [hvalid, htry, hsetup]
      refine ⟨rfl, ?_, iff_of_true ?_ rfl, fun _ => ?_⟩
      · exact (congrArg (·.registry.order) hr').trans hempty₁
      · exact congrArg (·.renderers.isSome) hr'
      · dsimp only [Except.mapError]
        rw [hr']
        exact hpacked
    · rw [hvalid, htry]
      refine ⟨rfl, hempty₁, iff_of_false ?_ Bool.false_ne_true, nofun⟩
      rw [hnone₁]
      exact Bool.false_ne_true

theorem steer_idle (v : Viewer) (dt : Float32) : v.steer {} {} dt = .ok v := by
  have hstill : (orbitDirection {}).isZero = true := by decide +kernel
  have hunturned : ¬((({} : InputFrame).wheelLines != 0) = true) := by decide +kernel
  have hkeys : steerByKeys {} dt v.camera = .ok v.camera := by
    unfold steerByKeys
    dsimp only
    rw [if_pos hstill]
  have hdrag : steerByDrag {} {} v.camera = .ok v.camera := rfl
  have hwheel : steerByWheel {} v.camera = .ok v.camera := by
    unfold steerByWheel
    rw [if_neg hunturned]
  unfold steer
  rw [hkeys]
  dsimp only
  rw [hdrag]
  dsimp only
  rw [hwheel]

/-- A frame without input gets as far as the renderers. -/
theorem ready?_idle (v : Viewer) (dt : Float32) (d : Device) :
    (v.ready? {} {} dt d).isSome = true := by
  unfold ready?
  show ((v.steer {} {} dt).toOption.map fun v => (v, d.noteAll [])).isSome = true
  rw [steer_idle]
  rfl

/-! ## Runs -/

/-- At any moment of a run the buffers of its viewer balance those of its device since `d₀`. -/
structure LedgerInv (d₀ : Device) (run : Run) : Prop where
  tidy : Tidy run.viewer.registry
  balanced : d₀.Balanced run.device [] run.viewer.bufferIds

variable {d₀ : Device} {run : Run}

/-- **Preserved by every step.** -/
theorem ledgerInv_step (h : LedgerInv d₀ run) (step : Step) : LedgerInv d₀ (run.step step) := by
  cases step with
  | frame held input dt failure =>
      have hwork := onFrame_tended run.compiler held input dt failure run.screen run.device h.tidy
      exact ⟨hwork.tidy, h.balanced.trans hwork.balanced⟩
  | resize size => exact ⟨h.tidy, h.balanced⟩
  | exit =>
      refine ⟨tidy_onExit run.viewer run.screen.adapter run.device, h.balanced.trans ?_⟩
      obtain ⟨hcreated, hdestroyed⟩ := run.viewer.onExit_ledger run.screen.adapter run.device
      show run.device.Balanced _ _ (run.viewer.onExit run.screen.adapter run.device).1.bufferIds
      rw [bufferIds_onExit]
      exact .of_destroyed hcreated hdestroyed

theorem ledgerInv_run (h : LedgerInv d₀ run) (steps : List Step) :
    LedgerInv d₀ (run.after steps) := by
  induction steps generalizing run with
  | nil => exact h
  | cons step steps ih => exact ih (ledgerInv_step h step)

theorem ledgerInv_start (compiler : ShaderCompiler) (capacity : UInt32) (d : Device)
    (calls : List Registry.Call) (camera : OrbitCamera) (settings : RenderSettings)
    (screen : Screen) :
    LedgerInv d (Run.start compiler ((Registry.Run.start capacity d).after calls) camera settings
      screen) := by
  have h := Registry.accounted_after capacity d calls
  exact ⟨⟨h.wellFormed, h.settled⟩, h.balanced⟩

/-- A run without renderers and without bodies sets up in the next frame that gets that far, and
has renderers then unless a shader is refused. -/
theorem step_frame_of_empty (hnone : run.viewer.renderers = none)
    (hempty : run.viewer.registry.order = []) (hsetups : run.setups = 0) (hfaults : run.faults = 0)
    {held : Held} {input : InputFrame} {dt : Float32} (failure : Option SurfaceError)
    (hready : (run.viewer.ready? held input dt run.device).isSome = true) :
    let next := run.step (.frame held input dt failure)
    next.setups = 1 ∧ next.faults = 0 ∧ next.viewer.registry.order = []
      ∧ (next.viewer.renderers.isSome = true ↔ run.viewer.accepted run.compiler = true)
      ∧ (run.viewer.accepted run.compiler = true →
        ∃ b, next.viewer.registry.triangleBinding? = some b
          ∧ b.binding = next.viewer.settings.triangleBinding ∧ b.triangleCount = 0) := by
  have hsetsUp : run.viewer.setsUp held input dt run.device = true := by
    unfold setsUp
    rw [hready, hnone]
    rfl
  obtain ⟨hok, hviewer⟩ := onFrame_of_empty run.compiler held input dt failure run.screen run.device
    hnone hempty hready
  refine ⟨?_, ?_, hviewer⟩
  · show run.setups + (run.viewer.setsUp held input dt run.device).toNat = 1
    rw [hsetsUp, hsetups]
    rfl
  · show run.faults + (run.viewer.setsUp held input dt run.device && !(run.viewer.onFrame
      run.compiler held input dt failure run.screen run.device).1.isOk).toNat = 0
    rw [hok, hfaults, Bool.not_true, Bool.and_false]
    rfl

/-! ## What follows -/

/-- Where the buffers of a viewer are at any moment of a run, and where they go if it exits there.
The viewer's registry began on `d₀`, so its buffers are those numbered from `d₀.created` on. -/
structure GivesBack (d₀ : Device) (run : Run) : Prop where
  /-- The buffers created and not destroyed are those that the programs of the mesh passes, the
  tracer, the shared triangles and the bodies hold. -/
  live_iff_held : ∀ n,
    (d₀.created ≤ n ∧ n < run.device.created ∧ n ∉ destroyedSince d₀ run.device)
      ↔ n ∈ run.viewer.bufferIds
  /-- No two of them hold one buffer, and none holds a buffer that is gone. -/
  held_nodup : (destroyedSince d₀ run.device ++ run.viewer.bufferIds).Nodup
  /-- The exit destroys them all, the renderers' before the registry's, and makes none. -/
  exit_order : (run.step .exit).device.destroyed = run.device.destroyed ++ run.viewer.bufferIds
  exit_created : (run.step .exit).device.created = run.device.created
  /-- After it every buffer has been destroyed exactly once. -/
  exit_once : ∀ n, (destroyedSince d₀ (run.step .exit).device).count n
    = if d₀.created ≤ n ∧ n < (run.step .exit).device.created then 1 else 0
  /-- No renderers and no bodies are left. -/
  exit_empty : (run.step .exit).viewer.renderers = none
    ∧ (run.step .exit).viewer.registry = Registry.empty
  /-- The tracer, which was released by hand, releases nothing more when it is dropped. -/
  exit_dropped : ∀ r, run.viewer.renderers = some r → ∀ d,
    ((r.tracer.release d).1.release (r.mesh.dispose (r.tracer.release d).2)).2 = r.dispose d
  /-- A second exit changes nothing. -/
  exit_again : ((run.step .exit).step .exit).viewer = (run.step .exit).viewer
    ∧ ((run.step .exit).step .exit).device.destroyed = (run.step .exit).device.destroyed
    ∧ ((run.step .exit).step .exit).device.created = (run.step .exit).device.created
  /-- A later frame that gets to the renderers sets up once more, without a body or a triangle, and
  has renderers then just if the compiler accepts their shaders. -/
  sets_up_again : ∀ held input dt failure,
    ((run.step .exit).viewer.ready? held input dt (run.step .exit).device).isSome = true →
      let next := (run.step .exit).step (.frame held input dt failure)
      next.setups = 1 ∧ next.faults = 0 ∧ next.viewer.registry.order = []
        ∧ (next.viewer.renderers.isSome = true ↔ run.viewer.accepted run.compiler = true)
        ∧ (run.viewer.accepted run.compiler = true →
          ∃ b, next.viewer.registry.triangleBinding? = some b
            ∧ b.binding = next.viewer.settings.triangleBinding ∧ b.triangleCount = 0)
  /-- A frame without input does. -/
  idle_ready : ∀ dt,
    ((run.step .exit).viewer.ready? {} {} dt (run.step .exit).device).isSome = true

/-- **A viewer that exits leaves no buffer behind**, wherever in its life it does. -/
theorem givesBack_after (compiler : ShaderCompiler) (capacity : UInt32) (d : Device)
    (calls : List Registry.Call) (camera : OrbitCamera) (settings : RenderSettings)
    (screen : Screen) (steps : List Step) :
    GivesBack d ((Run.start compiler ((Registry.Run.start capacity d).after calls) camera settings
      screen).after steps) := by
  have hinv := ledgerInv_run (ledgerInv_start compiler capacity d calls camera settings screen)
    steps
  generalize (Run.start compiler ((Registry.Run.start capacity d).after calls) camera settings
    screen).after steps = run at hinv
  obtain ⟨hcreated, hdestroyed⟩ := run.viewer.onExit_ledger run.screen.adapter run.device
  obtain ⟨hcreated', hdestroyed'⟩ :=
    (run.step .exit).viewer.onExit_ledger run.screen.adapter (run.step .exit).device
  have hnothing : (run.step .exit).viewer.bufferIds = [] :=
    bufferIds_onExit run.viewer run.screen.adapter run.device
  rw [hnothing, List.append_nil] at hdestroyed'
  obtain ⟨-, hnodup, -⟩ := Registry.destroyedSince_append_held hinv.balanced
  exact ⟨Registry.live_iff_mem_held hinv.balanced, hnodup, hdestroyed, hcreated,
    Registry.count_destroyedSince hinv.balanced hcreated hdestroyed, ⟨rfl, rfl⟩,
    fun r _ d => r.dispose_eq_dropped d, ⟨rfl, hdestroyed', hcreated'⟩,
    fun _ _ _ failure hready => step_frame_of_empty rfl rfl rfl rfl failure hready,
    fun dt => ready?_idle _ dt _⟩

end Viewer

end Facet
