import Facet.Proofs.UniformFields
import Facet.Proofs.ViewerLedger

/-!
# What the mesh passes show

Each frame hands its camera and its two colours to two programs. On the way stand two look-ups by
name, a comparison of kinds, a comparison of bytes and a flag, and each of them can keep a value
from the device. That none ever does is seen from the bytes: the two fields of `MeshPasses.layout`
are the whole block, so a program that has staged a frame holds its 80 bytes and no others
(`splice_both`), and a flush leaves the device with what is staged.

`Ready` is what a program needs for that. It holds when the programs are created, every frame keeps
it, and so the viewer's exit for uniforms that could not be staged is never taken.
-/

namespace Facet

open UniformBlock (target? splice)

/-! ## Programs -/

namespace Program

/-- Only the program itself can be known of a program that is in step with an eager one. -/
theorem Mirrored.self {layout : UniformLayout} {p : Program} {e : Eager} (h : Mirrored layout p e) :
    Mirrored layout p ⟨p.uniforms.bytes, p.buffer.bytes⟩ :=
  { h with staged_eq := rfl, device_eq := rfl }

end Program

namespace MeshPasses

/-- The bytes of a frame's uniforms: the camera column by column, then the colour. -/
def uniformBytes (viewProj : Mat4) (color : Color) : List UInt8 :=
  Bytes.ofScalars viewProj.toList ++ Bytes.ofScalars color.toList

theorem length_uniformBytes (viewProj : Mat4) (color : Color) :
    (uniformBytes viewProj color).length = 80 := by
  rw [uniformBytes, List.length_append, Bytes.length_ofScalars, Bytes.length_ofScalars]
  rfl

/-- Two rows that together are as long as a block leave nothing else in it. -/
theorem splice_both {bytes data data' : List UInt8}
    (h : bytes.length = data.length + data'.length) :
    splice (splice bytes 0 data) data.length data' = data ++ data' := by
  have hfirst : splice bytes 0 data = data ++ bytes.drop data.length := by
    rw [splice, List.take_zero, List.nil_append, Nat.zero_add]
  have hend : (data ++ bytes.drop data.length).drop (data.length + data'.length) = [] := by
    refine List.drop_eq_nil_of_le ?_
    rw [List.length_append, List.length_drop]
    omega
  rw [hfirst, splice, List.take_left, hend, List.append_nil]

/-- A program of the mesh passes that can stage a frame and show it. -/
structure Ready (p : Program) : Prop where
  mirrored : Program.Mirrored layout p ⟨p.uniforms.bytes, p.buffer.bytes⟩
  length_eq : p.uniforms.bytes.length = layout.size

theorem ready_create (label : String) (d : Device) : Ready (Program.create label layout d).1 :=
  ⟨(Program.mirrored_start label layout d).self, List.length_replicate⟩

variable {p : Program}

/-- A value of the right kind is staged whatever the program holds. -/
theorem Ready.setUniform (h : Ready p) {name : String} {value : UniformValue} {f : UniformField}
    (htarget : target? layout name value = some f)
    (hroom : f.offset + value.bytes.length ≤ layout.size) :
    ∃ p', p.setUniform name value = (.ok (), p') ∧ Ready p'
      ∧ p'.uniforms.bytes = splice p.uniforms.bytes f.offset value.bytes := by
  have hset : p.uniforms.trySet name value = (.ok (), p.uniforms.written f value) :=
    UniformBlock.trySet_eq_written (by rw [h.mirrored.layout_eq]; exact htarget)
  have hstaged : p.setUniform name value
      = (.ok (), { p with uniforms := p.uniforms.written f value }) := by
    rw [Program.setUniform, hset]
  have hmirrored := (h.mirrored.set name value).2
  rw [Program.Call.perform, hstaged] at hmirrored
  refine ⟨_, hstaged, ⟨hmirrored.self, ?_⟩, rfl⟩
  show (splice p.uniforms.bytes f.offset value.bytes).length = layout.size
  rw [UniformBlock.length_splice (by rw [h.length_eq]; exact hroom), h.length_eq]

theorem Ready.flush (h : Ready p) :
    Ready p.flush ∧ p.flush.buffer.bytes = p.uniforms.bytes := by
  obtain ⟨hbuffer, hstaged, -⟩ := h.mirrored.bytes_flush
  exact ⟨⟨h.mirrored.flush.self, by rw [hstaged, h.length_eq]⟩, hbuffer⟩

/-- **Staging never fails**, and the device then holds the frame's bytes. -/
theorem Ready.stage (h : Ready p) (viewProj : Mat4) (color : Color) :
    ∃ p', MeshPasses.stage viewProj color p = (.ok (), p') ∧ Ready p'
      ∧ p'.buffer.bytes = uniformBytes viewProj color := by
  have hcamera : (UniformValue.mat4 viewProj).bytes.length = 64 := UniformValue.length_bytes _
  have hcolor : (UniformValue.vec4 color.toVec4).bytes.length = 16 := UniformValue.length_bytes _
  obtain ⟨p₁, hset₁, hready₁, hbytes₁⟩ := h.setUniform (f := ⟨"view_proj", .mat4, 0⟩)
    (by rfl : target? layout "view_proj" (.mat4 viewProj) = _) (by rw [hcamera]; decide)
  obtain ⟨p₂, hset₂, hready₂, hbytes₂⟩ := hready₁.setUniform (f := ⟨"color", .vec4, 64⟩)
    (by rfl : target? layout "color" (.vec4 color.toVec4) = _) (by rw [hcolor]; decide)
  obtain ⟨hready, hbuffer⟩ := hready₂.flush
  refine ⟨p₂.flush, ?_, hready, ?_⟩
  · rw [MeshPasses.stage, hset₁]
    dsimp only
    rw [hset₂]
  · rw [hbuffer, hbytes₂, hbytes₁]
    have hwhole : p.uniforms.bytes.length = (UniformValue.mat4 viewProj).bytes.length
        + (UniformValue.vec4 color.toVec4).bytes.length := by
      rw [h.length_eq, hcamera, hcolor]
      rfl
    have hboth := splice_both hwhole
    rw [hcamera] at hboth
    exact hboth

/-! ## Frames -/

/-- Both programs can stage a frame. -/
structure BothReady (m : MeshPasses) : Prop where
  faces : Ready m.faces
  edges : Ready m.edges

theorem bothReady_create (d : Device) : BothReady (create d).1 :=
  ⟨ready_create facesLabel d, ready_create edgesLabel _⟩

/-- What the device has of a frame, and which passes draw. -/
structure ShowsFrame (m : MeshPasses) (viewProj : Mat4) (settings : RenderSettings) : Prop where
  faces_bytes : m.faces.buffer.bytes = uniformBytes viewProj settings.faceColor
  edges_bytes : m.edges.buffer.bytes = uniformBytes viewProj settings.edgeColor
  length_eq : m.faces.buffer.bytes.length = 80 ∧ m.edges.buffer.bytes.length = 80
  drawFaces_eq : m.drawFaces = settings.drawFaces
  drawEdges_eq : m.drawEdges = settings.drawEdges

variable {m : MeshPasses}

theorem prepare_of_tryPrepare {m' : MeshPasses} {viewProj : Mat4} {settings : RenderSettings}
    {answer : Except ProgramError Unit} (h : m.tryPrepare viewProj settings = (answer, m')) :
    m.prepare viewProj settings = answer.map fun _ => m' := by
  rw [MeshPasses.prepare, h]

/-- **Every frame is staged and shown**, whatever the frames before it were. -/
theorem BothReady.tryPrepare (h : BothReady m) (viewProj : Mat4) (settings : RenderSettings) :
    ∃ m', m.tryPrepare viewProj settings = (.ok (), m') ∧ BothReady m'
      ∧ m'.ShowsFrame viewProj settings := by
  obtain ⟨faces, hstage, hready, hbytes⟩ := h.faces.stage viewProj settings.faceColor
  obtain ⟨edges, hstage', hready', hbytes'⟩ := h.edges.stage viewProj settings.edgeColor
  refine ⟨⟨faces, edges, settings.drawFaces, settings.drawEdges⟩, ?_, ⟨hready, hready'⟩,
    hbytes, hbytes', ⟨?_, ?_⟩, rfl, rfl⟩
  · unfold MeshPasses.tryPrepare
    dsimp only
    rw [hstage, hstage']
  · rw [hbytes, length_uniformBytes]
  · rw [hbytes', length_uniformBytes]

/-- The mesh passes after some frames. -/
def prepareAll (m : MeshPasses) (frames : List (Mat4 × RenderSettings)) :
    Except ProgramError MeshPasses :=
  frames.foldlM (fun m frame => m.prepare frame.1 frame.2) m

theorem BothReady.prepareAll (h : BothReady m) (frames : List (Mat4 × RenderSettings)) :
    ∃ m', m.prepareAll frames = .ok m' ∧ BothReady m' := by
  induction frames generalizing m with
  | nil => exact ⟨m, rfl, h⟩
  | cons frame frames ih =>
      obtain ⟨m₁, htried, hready, -⟩ := h.tryPrepare frame.1 frame.2
      obtain ⟨m', hrest, hready'⟩ := ih hready
      refine ⟨m', ?_, hready'⟩
      rw [MeshPasses.prepareAll, List.foldlM_cons, prepare_of_tryPrepare htried]
      exact hrest

end MeshPasses

/-! ## The viewer -/

namespace Viewer

open MeshPasses (BothReady)

/-- The mesh passes of a viewer that has any can stage a frame. -/
def MeshReady (v : Viewer) : Prop := ∀ r, v.renderers = some r → BothReady r.mesh

variable {v : Viewer}

theorem MeshReady.of_kept {v' : Viewer} (h : v.MeshReady) (hkept : Kept v v') : v'.MeshReady :=
  fun r hr => h r (hkept.renderers_eq ▸ hr)

/-- Setting up hands over mesh passes that are new, and leaves the viewer without any itself. -/
theorem setup_ready (v : Viewer) (d : Device) :
    (v.setup d).2.1.renderers = v.renderers
      ∧ ∀ r, (v.setup d).1 = .ok r → BothReady r.mesh := by
  unfold setup load
  dsimp only
  split
  · exact ⟨rfl, fun r hr => absurd hr (by simp)⟩
  · refine ⟨rfl, ?_⟩
    intro r hr
    rw [← Except.ok.inj hr]
    exact MeshPasses.bothReady_create d

theorem trySetup_ready (v : Viewer) (compiler : ShaderCompiler) (d : Device) :
    (v.trySetup compiler d).2.1.renderers = v.renderers
      ∧ ∀ r, (v.trySetup compiler d).1 = .ok r → BothReady r.mesh := by
  rcases v.trySetup_cases compiler d with ⟨-, htry⟩ | ⟨e, d', -, htry, -⟩
  · obtain ⟨hkept, hready⟩ := v.setup_ready d
    rw [htry]
    refine ⟨hkept, ?_⟩
    intro r hr
    refine hready r ?_
    generalize (v.setup d).1 = answer at hr ⊢
    cases answer with
    | error e => exact absurd hr (by simp [Except.mapError])
    | ok r' => rw [Except.ok.inj hr]
  · rw [htry]
    exact ⟨rfl, fun r hr => absurd hr (by simp)⟩

theorem MeshReady.ensureRenderers (h : v.MeshReady) (compiler : ShaderCompiler) (d : Device) :
    (v.ensureRenderers compiler d).2.1.MeshReady
      ∧ ∀ r, (v.ensureRenderers compiler d).1 = .ok r → BothReady r.mesh := by
  unfold Viewer.ensureRenderers
  cases hrenderers : v.renderers with
  | some r =>
      refine ⟨h, ?_⟩
      intro r' hr'
      rw [← Except.ok.inj hr']
      exact h r hrenderers
  | none =>
      obtain ⟨hnone, hready⟩ := v.trySetup_ready compiler d
      refine ⟨?_, hready⟩
      intro r hr
      rw [hnone, hrenderers] at hr
      exact absurd hr (by simp)

/-- Rendering touches the tracer of the renderers and not their mesh passes. -/
theorem render_mesh (registry : Registry) (settings : RenderSettings) (view : Trace.View)
    (failure : Option SurfaceError) (s : Screen) (r : Renderers) (d : Device) :
    (s.render failure (draw registry settings view) r d).2.2.1.mesh = r.mesh := by
  unfold Screen.render
  split
  · rfl
  · split
    · rfl
    · unfold draw
      dsimp only
      split <;> rfl

/-- Presenting when the uniforms are staged: what is left of it is rendering. -/
theorem present_eq {r : Renderers} {mesh : MeshPasses} (failure : Option SurfaceError)
    (s : Screen) (d : Device)
    (h : r.mesh.tryPrepare (v.camera.viewProjection s.size.aspect) v.settings = (.ok (), mesh)) :
    v.present r failure s d =
      let view : Trace.View := ⟨v.camera.viewProjection s.size.aspect, v.camera.origin⟩
      let rendered := s.render failure (draw v.registry v.settings view) { r with mesh } d
      (rendered.1, { v with renderers := some rendered.2.2.1 }, rendered.2.1, rendered.2.2.2) := by
  unfold present
  dsimp only
  rw [h]

/-- What a frame has at hand when it stages its uniforms, unless it has ended before that. -/
def staging? (v : Viewer) (compiler : ShaderCompiler) (held : Held) (input : InputFrame)
    (dt : Float32) (d : Device) : Option (Viewer × Renderers × Device) :=
  (v.ready? held input dt d).bind fun ready =>
    match ready.1.ensureRenderers compiler ready.2 with
    | (.ok r, v, d) => some (v, r, d)
    | (.error _, _) => none

variable (compiler : ShaderCompiler) (held : Held) (input : InputFrame) (dt : Float32)
  (failure : Option SurfaceError) (s : Screen) (d : Device)

/-- A frame presents what it has at hand when it stages its uniforms, or else has no renderers that
the viewer did not have before. -/
theorem MeshReady.onFrame_cases (h : v.MeshReady) :
    (v.staging? compiler held input dt d = none
      ∧ (v.onFrame compiler held input dt failure s d).2.1.MeshReady)
    ∨ ∃ v₁ r d₁, v.staging? compiler held input dt d = some (v₁, r, d₁) ∧ BothReady r.mesh
      ∧ v.onFrame compiler held input dt failure s d
        = (.ok (v₁.present r failure s d₁).1, (v₁.present r failure s d₁).2) := by
  unfold staging?
  rcases Viewer.onFrame_cases v compiler held input dt failure s d with
    ⟨hready, control, v', d', hframe, hkept, -⟩ | ⟨v₁, d₁, hready, hkept, -, -, hframe⟩
  · rw [hready, hframe]
    exact .inl ⟨rfl, h.of_kept hkept⟩
  · rw [hready, hframe, Option.bind_some]
    obtain ⟨hviewer, hmesh⟩ := (h.of_kept hkept).ensureRenderers compiler d₁
    dsimp only
    generalize v₁.ensureRenderers compiler d₁ = ensured at hviewer hmesh ⊢
    obtain ⟨answer, v₂, d₂⟩ := ensured
    cases answer with
    | ok r => exact .inr ⟨v₂, r, d₂, rfl, hmesh r rfl, rfl⟩
    | error e =>
        cases e with
        | fault f => exact .inl ⟨rfl, hviewer⟩
        | error e => exact .inl ⟨rfl, hviewer⟩

theorem MeshReady.onFrame (h : v.MeshReady) :
    (v.onFrame compiler held input dt failure s d).2.1.MeshReady := by
  rcases h.onFrame_cases compiler held input dt failure s d with
    ⟨-, hready⟩ | ⟨v₁, r, d₁, -, hmesh, hframe⟩
  · exact hready
  · obtain ⟨mesh, htried, hready, -⟩ :=
      hmesh.tryPrepare (v₁.camera.viewProjection s.size.aspect) v₁.settings
    rw [hframe, present_eq failure s d₁ htried]
    intro r' hr'
    rw [← Option.some.inj hr', render_mesh]
    exact hready

/-- **Preserved by every step.** -/
theorem MeshReady.step {run : Run} (h : run.viewer.MeshReady) (step : Step) :
    (run.step step).viewer.MeshReady := by
  cases step with
  | frame held input dt failure =>
      exact h.onFrame run.compiler held input dt failure run.screen run.device
  | resize size => exact h
  | exit => exact fun r hr => absurd hr (by simp [Run.step, onExit])

theorem MeshReady.after {run : Run} (h : run.viewer.MeshReady) (steps : List Step) :
    (run.after steps).viewer.MeshReady := by
  induction steps generalizing run with
  | nil => exact h
  | cons step steps ih => exact ih (h.step step)

/-- A frame that gets as far as its uniforms stages them, goes on to render, and leaves them on the
device. -/
def StagesUniforms (run : Run) : Prop :=
  ∀ held input dt failure v r d,
    run.viewer.staging? run.compiler held input dt run.device = some (v, r, d) →
    let viewProj := v.camera.viewProjection run.screen.size.aspect
    ∃ mesh, r.mesh.prepare viewProj v.settings = .ok mesh
      ∧ let rendered := run.screen.render failure
          (draw v.registry v.settings ⟨viewProj, v.camera.origin⟩) { r with mesh } d
        run.viewer.onFrame run.compiler held input dt failure run.screen run.device
          = (.ok rendered.1, { v with renderers := some rendered.2.2.1 }, rendered.2.1,
            rendered.2.2.2)
        ∧ rendered.2.2.1.mesh.ShowsFrame viewProj v.settings

theorem MeshReady.stagesUniforms {run : Run} (h : run.viewer.MeshReady) : StagesUniforms run := by
  intro held input dt failure v r d hstaging viewProj
  rcases h.onFrame_cases run.compiler held input dt failure run.screen run.device with
    ⟨hnone, -⟩ | ⟨v₁, r₁, d₁, hsome, hmesh, hframe⟩
  · exact absurd (hnone.symm.trans hstaging) (by simp)
  · obtain ⟨rfl, rfl, rfl⟩ : v₁ = v ∧ r₁ = r ∧ d₁ = d := by simpa using hsome.symm.trans hstaging
    obtain ⟨mesh, htried, -, hshows⟩ := hmesh.tryPrepare viewProj v₁.settings
    refine ⟨mesh, MeshPasses.prepare_of_tryPrepare htried, ?_, ?_⟩
    · rw [hframe, present_eq failure run.screen d₁ htried]
    · rw [render_mesh]
      exact hshows

end Viewer

/-- **The device shows the camera and the colours of the latest frame**, for any frames before it,
and no viewer ever ends for uniforms that it could not stage. -/
theorem MeshPasses.showsLatest :
    (∀ (d : Device) (frames : List (Mat4 × RenderSettings)) (viewProj : Mat4)
      (settings : RenderSettings), ∃ m m', (create d).1.prepareAll frames = .ok m
        ∧ m.prepare viewProj settings = .ok m' ∧ m'.ShowsFrame viewProj settings)
    ∧ ∀ (compiler : ShaderCompiler) (capacity : UInt32) (d : Device) (calls : List Registry.Call)
      (camera : OrbitCamera) (settings : RenderSettings) (screen : Screen)
      (steps : List Viewer.Step),
      Viewer.StagesUniforms ((Viewer.Run.start compiler
        ((Registry.Run.start capacity d).after calls) camera settings screen).after steps) := by
  constructor
  · intro d frames viewProj settings
    obtain ⟨m, hframes, hready⟩ := (bothReady_create d).prepareAll frames
    obtain ⟨m', htried, -, hshows⟩ := hready.tryPrepare viewProj settings
    exact ⟨m, m', hframes, prepare_of_tryPrepare htried, hshows⟩
  · intro compiler capacity d calls camera settings screen steps
    have hstart : (Viewer.Run.start compiler ((Registry.Run.start capacity d).after calls) camera
        settings screen).viewer.MeshReady := fun r hr => absurd hr (by simp [Viewer.Run.start])
    exact (hstart.after steps).stagesUniforms

end Facet
