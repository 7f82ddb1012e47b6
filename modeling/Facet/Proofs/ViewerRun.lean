import Facet.Proofs.KeyToggles
import Facet.Proofs.ShaderRefusal
import Facet.Proofs.SurfaceCalls
import Facet.Proofs.ViewerSetup

/-!
# A viewer's one setup

The viewer builds its renderers in the first frame that gets that far, and has them until it exits.
What settings, registry and tracer agreed on then must go on: keys change the settings, frames
change the tracer, and nothing may change the registry any more. So it is enough to know what one
frame can do. `onFrame_cases` says how far it gets and `FrameOutcome` what it does there.
-/

namespace Facet

open Registry (OnDevice)
open Trace (Tracer)

/-! ## The buffer that a first frame makes -/

namespace Trace.Tracer

variable {t : Tracer} {d : Device}

theorem ensurePixels_made (h : t.pixels.ids = []) (resolution : Extent) :
    (t.ensurePixels resolution d).2.created
      = d.created + (t.ensurePixels resolution d).1.pixels.ids.length := by
  unfold ensurePixels
  split
  · rw [h]
    rfl
  · exact congrArg (· + 1) (d.release_ledger t.pixels).1

/-- Making the groups replaces no buffer. -/
theorem ensureGroups_buffers (triangles : TriangleBinding) (t : Tracer) :
    (t.ensureGroups triangles).pixels = t.pixels ∧ (t.ensureGroups triangles).params = t.params
      ∧ (t.ensureGroups triangles).presentParams = t.presentParams := by
  unfold ensureGroups
  dsimp only
  split <;> split
  · exact ⟨rfl, rfl, rfl⟩
  · split <;> exact ⟨rfl, rfl, rfl⟩
  · exact ⟨rfl, rfl, rfl⟩
  · split <;> exact ⟨rfl, rfl, rfl⟩

/-- Recording a frame writes to its parameters and replaces no buffer. -/
theorem record_buffers (surface : Extent) (triangles : TriangleBinding) (view : View)
    (settings : RenderSettings) (t : Tracer) :
    let recorded := (t.record surface triangles view settings).2
    recorded.pixels = t.pixels ∧ recorded.params.ids = t.params.ids
      ∧ recorded.presentParams.ids = t.presentParams.ids := by
  unfold record
  dsimp only
  split
  · rename_i params presentParams hparams hpresent
    have hparamsId : t.params.ids = [params.id] := by
      rw [Holder.ids, hparams]
      rfl
    have hpresentId : t.presentParams.ids = [presentParams.id] := by
      rw [Holder.ids, hpresent]
      rfl
    rw [hparamsId, hpresentId]
    split <;> exact ⟨rfl, rfl, rfl⟩
  · exact ⟨rfl, rfl, rfl⟩

/-- A tracer without pixels makes a buffer for them in the first frame that it traces. -/
theorem render_made (h : t.pixels.ids = []) (surface : Extent) (triangles : TriangleBinding)
    (view : View) (settings : RenderSettings) :
    (t.render surface triangles view settings d).2.2.created
      = d.created + (t.render surface triangles view settings d).2.1.pixels.ids.length := by
  have hkept : d.created = d.created + t.pixels.ids.length := by
    rw [h]
    rfl
  unfold render
  split
  · split
    · exact hkept
    · exact hkept
  · dsimp only
    rw [(record_buffers ..).1, (ensureGroups_buffers ..).1]
    exact ensurePixels_made h _

end Trace.Tracer

/-- How many buffers of pixels there are. -/
def Renderers.pixelBuffers (r : Renderers) : Nat := r.tracer.pixels.ids.length

namespace Screen

theorem handleError_ledger (e : SurfaceError) (s : Screen) (d : Device) :
    (s.handleError e d).2.2.created = d.created
      ∧ (s.handleError e d).2.2.destroyed = d.destroyed := by
  unfold handleError
  cases SurfaceAction.classify e <;> exact ⟨rfl, rfl⟩

/-- Rendering makes the buffers that drawing makes; `held` counts them in the state, which has none
before. -/
theorem render_made {State : Type} (held : State → Nat)
    {draw : Extent → State → Device → State × Device} {state : State} {d : Device}
    (hnone : held state = 0)
    (hdraw : ∀ size, (draw size state d).2.created = d.created + held (draw size state d).1)
    (failure : Option SurfaceError) (s : Screen) :
    (s.render failure draw state d).2.2.2.created
      = d.created + held (s.render failure draw state d).2.2.1 := by
  have hkept : d.created = d.created + held state := by rw [hnone, Nat.add_zero]
  unfold render
  split
  · exact hkept
  · cases failure with
    | none => exact hdraw s.size
    | some e => exact (handleError_ledger e (s.call (.acquire (some e))) d).1.trans hkept

end Screen

namespace Viewer

/-! ## Presenting -/

/-- A frame was traced by `t`, on the screen's size and the viewer's camera and settings. -/
def Traced (t : Tracer) (size : Extent) (v : Viewer) (d : Device) : Prop :=
  ∃ triangles passes mesh t' d₁, v.registry.triangleBinding? = some triangles
    ∧ t.render size triangles ⟨v.camera.viewProjection size.aspect, v.camera.origin⟩ v.settings d₁
      = (some passes, t', d)
    ∧ v.renderers = some ⟨mesh, t'⟩
    ∧ Trace.Recorded (Trace.fitResolution size d₁.storageLimit.toUInt64) triangles passes t'

/-- The calls that a frame has made to the surface include an image acquired. -/
def Acquires (s s' : Screen) : Prop :=
  .acquire none ∈ s'.calls.drop s.calls.length

theorem not_acquires_self (s : Screen) : ¬ Acquires s s := by
  unfold Acquires
  rw [List.drop_length]
  exact List.not_mem_nil

theorem not_acquires_handleError (e : SurfaceError) (s : Screen) (d : Device) :
    ¬ Acquires s ((s.call (.acquire (some e))).handleError e d).2.1 := by
  obtain ⟨again, hagain, hscreen⟩ := Screen.handleError_cases e (s.call (.acquire (some e))) d
  have hcalls : ((s.call (.acquire (some e))).handleError e d).2.1.calls
      = s.calls ++ ([.acquire (some e)] ++ again) := by
    rw [hscreen, ← List.append_assoc]
    rfl
  unfold Acquires
  rw [hcalls, List.drop_left]
  rcases hagain with rfl | rfl <;> simp

theorem Bound.render {registry : Registry} {binding : UInt32} {t : Tracer}
    (h : Bound registry binding t) {triangles : TriangleBinding}
    (htriangles : registry.triangleBinding? = some triangles) (size : Extent) (view : Trace.View)
    (settings : RenderSettings) (d : Device) :
    ∃ passes t' d', t.render size triangles view settings d = (some passes, t', d')
      ∧ Trace.Recorded (Trace.fitResolution size d.storageLimit.toUInt64) triangles passes t'
      ∧ Bound registry binding t' := by
  obtain ⟨b, hpacked, hbinding, hcount⟩ := h.packed
  obtain rfl := Option.some.inj (htriangles.symm.trans hpacked)
  obtain ⟨hbuffer, hgeneration⟩ := Trace.triangleBinding?_eq_some htriangles
  have hmatch : triangles.binding = t.bindings.triangles := hbinding.trans h.reads.symm
  obtain ⟨passes, t', d', hrender, hrecorded, hgroups, hbindings, hwarned, -⟩ :=
    h.groups.render_matched hbuffer hgeneration hmatch size view settings d
  refine ⟨passes, t', d', hrender, hrecorded, h.packed, h.uploaded, ?_, hgroups, ?_⟩
  · rw [hbindings, h.reads]
  · rw [hwarned, h.unwarned]

theorem present_keeps (v : Viewer) (r : Renderers) (failure : Option SurfaceError) (s : Screen)
    (d : Device) : ∃ r', (v.present r failure s d).2.1 = { v with renderers := some r' } := by
  unfold present
  dsimp only
  split <;> exact ⟨_, rfl⟩

theorem draw_made {r : Renderers} (hpixels : r.tracer.pixels.ids = []) (registry : Registry)
    (settings : RenderSettings) (view : Trace.View) (size : Extent) (d : Device) :
    (draw registry settings view size r d).2.created
      = d.created + (draw registry settings view size r d).1.pixelBuffers := by
  unfold draw
  split
  · exact Tracer.render_made hpixels size _ view settings
  · rw [Renderers.pixelBuffers, hpixels]
    rfl

/-- With new renderers, presenting makes a buffer for their pixels if it traces. -/
theorem present_made {v : Viewer} {r r' : Renderers} (hpixels : r.tracer.pixels.ids = [])
    (failure : Option SurfaceError) (s : Screen) (d : Device)
    (hr' : (v.present r failure s d).2.1.renderers = some r') :
    (v.present r failure s d).2.2.2.created = d.created + r'.pixelBuffers := by
  unfold present at hr' ⊢
  dsimp only at hr' ⊢
  generalize r.mesh.tryPrepare (v.camera.viewProjection s.size.aspect) v.settings = tried at hr' ⊢
  obtain ⟨answer, mesh⟩ := tried
  cases answer with
  | error e =>
      obtain rfl := Option.some.inj hr'
      rw [Renderers.pixelBuffers, hpixels]
      rfl
  | ok =>
      obtain rfl := Option.some.inj hr'
      let renderers : Renderers := { r with mesh }
      have hfresh : renderers.tracer.pixels.ids = [] := hpixels
      exact Screen.render_made Renderers.pixelBuffers (congrArg List.length hfresh)
        (fun size => draw_made hfresh v.registry v.settings _ size d) failure s

/-- **Presenting keeps the agreement**, and traces if it acquires an image while tracing is on. -/
theorem present_cases {v : Viewer} {r : Renderers}
    (h : Bound v.registry v.settings.triangleBinding r.tracer) (failure : Option SurfaceError)
    (s : Screen) (d : Device) :
    ∃ r', (v.present r failure s d).2.1 = { v with renderers := some r' }
      ∧ Bound v.registry v.settings.triangleBinding r'.tracer
      ∧ (Acquires s (v.present r failure s d).2.2.1 → v.settings.rayTracing = true →
        Traced r.tracer s.size (v.present r failure s d).2.1 (v.present r failure s d).2.2.2) := by
  unfold present
  dsimp only
  obtain ⟨answer, mesh⟩ := r.mesh.tryPrepare (v.camera.viewProjection s.size.aspect) v.settings
  cases answer with
  | error e =>
      exact ⟨{ r with mesh }, rfl, h, fun hacquires => absurd hacquires (not_acquires_self s)⟩
  | ok =>
      dsimp only
      unfold Screen.render
      cases s.size.isDrawable with
      | false =>
          exact ⟨{ r with mesh }, rfl, h, fun hacquires => absurd hacquires (not_acquires_self s)⟩
      | true =>
          cases failure with
          | some e =>
              refine ⟨{ r with mesh }, rfl, h, fun hacquires => ?_⟩
              exact absurd hacquires (not_acquires_handleError e s d)
          | none =>
              -- an image was acquired; this is the one place where anything is drawn
              obtain ⟨triangles, hpacked, -⟩ := h.packed
              unfold draw
              simp only [Bool.not_true, Bool.false_eq_true, if_false, hpacked]
              cases hray : v.settings.rayTracing with
              | false => exact ⟨{ r with mesh }, rfl, h, fun _ hon => Bool.noConfusion hon⟩
              | true =>
                  dsimp only
                  obtain ⟨passes, t', d', hrender, hrecorded, hbound⟩ := h.render hpacked s.size
                    ⟨v.camera.viewProjection s.size.aspect, v.camera.origin⟩ v.settings d
                  rw [hrender]
                  refine ⟨⟨mesh, t'⟩, rfl, hbound, fun _ _ => ?_⟩
                  exact ⟨triangles, passes, mesh, t', d, hpacked, hrender, rfl, hrecorded⟩

/-! ## Frames -/

/-- Keys and steering change neither the registry, nor the renderers, nor the binding. -/
structure Kept (v v' : Viewer) : Prop where
  registry_eq : v'.registry = v.registry
  renderers_eq : v'.renderers = v.renderers
  binding_eq : v'.settings.triangleBinding = v.settings.triangleBinding

theorem kept_applyKeys (v : Viewer) (input : InputFrame) (d : Device) :
    Kept v (v.applyKeys input d).2.1 := by
  refine ⟨rfl, rfl, ?_⟩
  show (obeyAll v.settings _).1.triangleBinding = _
  rw [obeyAll_fst]
  rfl

theorem kept_steer {v v' : Viewer} {held : Held} {input : InputFrame} {dt : Float32}
    (h : v.steer held input dt = .ok v') : Kept v v' := by
  unfold steer at h
  split at h
  · cases h
  · split at h
    · cases h
    · split at h
      · cases h
      · injection h with h
        rw [← h]
        exact ⟨rfl, rfl, rfl⟩

variable (v : Viewer) (compiler : ShaderCompiler) (held : Held) (input : InputFrame) (dt : Float32)
  (failure : Option SurfaceError) (s : Screen) (d : Device)

/-- The viewer when a frame has obeyed the keys and steered, unless either has ended it. -/
def ready? : Option (Viewer × Device) :=
  match v.applyKeys input d with
  | (.exit, _) => none
  | (.proceed, v, d) => (v.steer held input dt).toOption.map fun v => (v, d)

/-- Whether a frame gets as far as setting up. -/
def setsUp : Bool := (v.ready? held input dt d).isSome && v.renderers.isNone

/-- Whether the compiler accepts the shaders of the viewer's renderers. -/
def accepted : Bool := (Renderers.validate compiler v.settings.triangleBinding).isOk

variable {v} in
theorem Kept.accepted_eq {v' : Viewer} (h : Kept v v') : v.accepted compiler
    = (Renderers.validate compiler v'.settings.triangleBinding).isOk := by
  rw [accepted, h.binding_eq]

/-- A frame either ends with the keys or the steering, or goes on to the renderers. -/
theorem onFrame_cases :
    (v.ready? held input dt d = none ∧ ∃ control v' d',
      v.onFrame compiler held input dt failure s d = (control, v', s, d')
        ∧ Kept v v' ∧ d'.created = d.created ∧ d'.destroyed = d.destroyed)
    ∨ ∃ v₁ d₁, v.ready? held input dt d = some (v₁, d₁)
        ∧ Kept v v₁ ∧ d₁.created = d.created ∧ d₁.destroyed = d.destroyed
        ∧ v.onFrame compiler held input dt failure s d =
          match v₁.ensureRenderers compiler d₁ with
          | (.error (.fault e), v, d) => (.error e, v, s, d)
          | (.error (.error e), v, d) => (.ok .exit, v, s, d.note .error e.message)
          | (.ok r, v, d) => (.ok (v.present r failure s d).1, (v.present r failure s d).2) := by
  have hkeys := kept_applyKeys v input d
  have hledger : (v.applyKeys input d).2.2.created = d.created
      ∧ (v.applyKeys input d).2.2.destroyed = d.destroyed := ⟨rfl, rfl⟩
  unfold ready? onFrame
  generalize v.applyKeys input d = applied at hkeys hledger ⊢
  obtain ⟨control, v₁, d₁⟩ := applied
  cases control with
  | exit => exact .inl ⟨rfl, _, _, _, rfl, hkeys, hledger⟩
  | proceed =>
      dsimp only at hkeys hledger ⊢
      cases hsteer : v₁.steer held input dt with
      | error e => exact .inl ⟨rfl, _, _, _, rfl, hkeys, hledger⟩
      | ok v₂ =>
          have hsteered := kept_steer hsteer
          exact .inr ⟨v₂, d₁, rfl, ⟨hsteered.registry_eq.trans hkeys.registry_eq,
            hsteered.renderers_eq.trans hkeys.renderers_eq,
            hsteered.binding_eq.trans hkeys.binding_eq⟩, hledger.1, hledger.2, rfl⟩

structure ViewerInv (v : Viewer) : Prop where
  listed : v.registry.Listed
  bound : ∀ r, v.renderers = some r → Bound v.registry v.settings.triangleBinding r.tracer

/-- Everything a frame can do to a viewer. -/
inductive FrameOutcome : Except Fault Control × Viewer × Screen × Device → Prop where
  /-- It ended before it looked at the renderers. -/
  | stopped {control : Except Fault Control} {v' : Viewer} {d' : Device} :
      v.setsUp held input dt d = false → Kept v v' → FrameOutcome (control, v', s, d')
  /-- A shader was refused, which ends the program. -/
  | refused {v' : Viewer} {d' : Device} :
      v.setsUp held input dt d = true → v.accepted compiler = false → v.renderers = none →
      Kept v v' → FrameOutcome (.ok .exit, v', s, d')
  /-- Setting up met a normal off its plane. -/
  | faulted {f : Fault} {v' : Viewer} {d' : Device} :
      v.setsUp held input dt d = true → v.accepted compiler = true → v.renderers = none →
      v'.renderers = none → v'.settings.triangleBinding = v.settings.triangleBinding →
      v'.registry.Listed → FrameOutcome (.error f, v', s, d')
  /-- It presented, with the renderers at hand. -/
  | presented {v₁ : Viewer} {r : Renderers} {d₁ : Device} :
      v.setsUp held input dt d = false → v.renderers = some r → Kept v v₁ →
      FrameOutcome (.ok (v₁.present r failure s d₁).1, (v₁.present r failure s d₁).2)
  /-- It presented, with renderers that it has set up. -/
  | built {v₁ : Viewer} {r : Renderers} {d₁ : Device} :
      v.setsUp held input dt d = true → v.accepted compiler = true → v.renderers = none →
      v₁.settings.triangleBinding = v.settings.triangleBinding →
      Registry.UploadedOnce v.registry (d.created + 4) v₁.registry d₁.created →
      v₁.registry.Listed → Bound v₁.registry v₁.settings.triangleBinding r.tracer →
      r.tracer.pixels.ids = [] →
      FrameOutcome (.ok (v₁.present r failure s d₁).1, (v₁.present r failure s d₁).2)

variable {v}

/-- **Every frame has one of the five outcomes.** -/
theorem onFrame_outcome (h : ViewerInv v) :
    FrameOutcome v compiler held input dt failure s d
      (v.onFrame compiler held input dt failure s d) := by
  rcases onFrame_cases v compiler held input dt failure s d with
    ⟨hready, control, v', d', hframe, hkept, -⟩ | ⟨v₁, d₁, hready, hkept, hcreated, -, hframe⟩
  · rw [hframe]
    refine .stopped ?_ hkept
    rw [setsUp, hready]
    rfl
  · -- the frame gets as far as the renderers, and sets up exactly if there are none
    have hsetsUp : v.setsUp held input dt d = v.renderers.isNone := by
      rw [setsUp, hready]
      rfl
    have haccepted := hkept.accepted_eq compiler
    rw [hframe]
    unfold ensureRenderers
    rw [hkept.renderers_eq]
    cases hrenderers : v.renderers with
    | some r =>
        rw [hrenderers] at hsetsUp
        exact .presented hsetsUp hrenderers hkept
    | none =>
        rw [hrenderers] at hsetsUp
        dsimp only
        rcases v₁.trySetup_cases compiler d₁ with ⟨hvalid, htry⟩ | ⟨e, d', hvalid, htry, -⟩
        · rw [hvalid] at haccepted
          rw [htry]
          rcases setup_cases (hkept.registry_eq.symm ▸ h.listed) d₁ with
            ⟨r, registry, d', hsetup, hlisted, hbound, hpixels, honce⟩ |
              ⟨f, registry, d', hsetup, hlisted⟩
          · rw [hsetup]
            rw [hkept.registry_eq, hcreated] at honce
            exact .built hsetsUp haccepted hrenderers hkept.binding_eq honce hlisted hbound hpixels
          · rw [hsetup]
            exact .faulted hsetsUp haccepted hrenderers (hkept.renderers_eq.trans hrenderers)
              hkept.binding_eq hlisted
        · rw [hvalid] at haccepted
          rw [htry]
          exact .refused hsetsUp haccepted hrenderers hkept

/-- No frame changes the binding. -/
theorem FrameOutcome.binding_eq {ran : Except Fault Control × Viewer × Screen × Device}
    (h : FrameOutcome v compiler held input dt failure s d ran) :
    ran.2.1.settings.triangleBinding = v.settings.triangleBinding := by
  cases h with
  | stopped _ hkept => exact hkept.binding_eq
  | refused _ _ _ hkept => exact hkept.binding_eq
  | faulted _ _ _ _ hbinding => exact hbinding
  | @presented v₁ r d₁ _ _ hkept =>
      obtain ⟨r', hviewer⟩ := present_keeps v₁ r failure s d₁
      dsimp only
      rw [hviewer]
      exact hkept.binding_eq
  | @built v₁ r d₁ _ _ _ hbinding =>
      obtain ⟨r', hviewer⟩ := present_keeps v₁ r failure s d₁
      dsimp only
      rw [hviewer]
      exact hbinding

/-! ## Runs -/

inductive Step where
  | frame (held : Held) (input : InputFrame) (dt : Float32) (failure : Option SurfaceError)
  | resize (size : Extent)
  | exit

structure Run where
  compiler : ShaderCompiler
  viewer : Viewer
  screen : Screen
  device : Device
  /-- How many frames have set up since the viewer began or last exited. -/
  setups : Nat := 0
  /-- How many of them have had a shader refused. -/
  refusals : Nat := 0
  /-- How many of them have met a fault. -/
  faults : Nat := 0

namespace Run

def start (compiler : ShaderCompiler) (model : Registry.Run) (camera : OrbitCamera)
    (settings : RenderSettings) (screen : Screen) : Run :=
  { compiler
    viewer := { registry := model.registry, camera, settings }
    screen
    device := model.device }

def step (run : Run) : Step → Run
  | .frame held input dt failure =>
    let ran := run.viewer.onFrame run.compiler held input dt failure run.screen run.device
    let setsUp := run.viewer.setsUp held input dt run.device
    { compiler := run.compiler
      viewer := ran.2.1
      screen := ran.2.2.1
      device := ran.2.2.2
      setups := run.setups + setsUp.toNat
      refusals := run.refusals + (setsUp && !run.viewer.accepted run.compiler).toNat
      faults := run.faults + (setsUp && !ran.1.isOk).toNat }
  | .resize size => { run with screen := run.screen.resize size }
  | .exit =>
    let exited := run.viewer.onExit run.screen.adapter run.device
    { run with viewer := exited.1, device := exited.2, setups := 0, refusals := 0, faults := 0 }

def after (run : Run) (steps : List Step) : Run := steps.foldl step run

end Run

structure RunInv (run : Run) : Prop where
  viewer : ViewerInv run.viewer
  setups_eq : run.setups = run.refusals + run.faults + run.viewer.renderers.isSome.toNat
  refusals_eq : run.viewer.accepted run.compiler = true → run.refusals = 0

variable {run : Run}

theorem ViewerInv.of_kept {v v' : Viewer} (h : ViewerInv v) (hkept : Kept v v') :
    ViewerInv v' := by
  refine ⟨hkept.registry_eq ▸ h.listed, ?_⟩
  intro r hr
  rw [hkept.registry_eq, hkept.binding_eq]
  exact h.bound r (hkept.renderers_eq ▸ hr)

theorem viewerInv_of_none {v : Viewer} (hlisted : v.registry.Listed) (hnone : v.renderers = none) :
    ViewerInv v :=
  ⟨hlisted, fun r hr => absurd (hnone.symm.trans hr) (by simp)⟩

theorem viewerInv_present {v : Viewer} {r : Renderers} (hlisted : v.registry.Listed)
    (hbound : Bound v.registry v.settings.triangleBinding r.tracer)
    (failure : Option SurfaceError) (s : Screen) (d : Device) :
    ViewerInv (v.present r failure s d).2.1
      ∧ (v.present r failure s d).2.1.renderers.isSome = true := by
  obtain ⟨r', hviewer, hbound', -⟩ := present_cases hbound failure s d
  rw [hviewer]
  refine ⟨⟨hlisted, ?_⟩, rfl⟩
  intro r'' hr''
  exact Option.some.inj hr'' ▸ hbound'

/-- **Preserved by every frame.** -/
theorem RunInv.frame (h : RunInv run) : RunInv (run.step (.frame held input dt failure)) := by
  have hcount := h.setups_eq
  have houtcome := onFrame_outcome run.compiler held input dt failure run.screen run.device h.viewer
  have hbinding := houtcome.binding_eq
  unfold Run.step
  dsimp only
  generalize run.viewer.onFrame run.compiler held input dt failure run.screen run.device = ran
    at houtcome hbinding ⊢
  -- the binding stays, so the compiler goes on accepting what it has accepted
  have hrefusals : ran.2.1.accepted run.compiler = true → run.refusals
      + (run.viewer.setsUp held input dt run.device && !run.viewer.accepted run.compiler).toNat
        = 0 := by
    intro haccepted
    rw [accepted, hbinding] at haccepted
    have haccepted' : run.viewer.accepted run.compiler = true := haccepted
    rw [h.refusals_eq haccepted', haccepted', Bool.not_true, Bool.and_false]
    rfl
  cases houtcome with
  | stopped hsetsUp hkept =>
      refine ⟨h.viewer.of_kept hkept, ?_, hrefusals⟩
      rw [hsetsUp, hkept.renderers_eq]
      exact hcount
  | refused hsetsUp hrefused hnone hkept =>
      refine ⟨h.viewer.of_kept hkept, ?_, hrefusals⟩
      rw [hsetsUp, hrefused, hkept.renderers_eq, hcount, hnone]
      exact Nat.add_right_comm run.refusals run.faults 1
  | faulted hsetsUp haccepted hnone hnone' _ hlisted =>
      refine ⟨viewerInv_of_none hlisted hnone', ?_, hrefusals⟩
      rw [hsetsUp, haccepted, hnone', hcount, hnone]
      rfl
  | presented hsetsUp hr hkept =>
      have hinv := h.viewer.of_kept hkept
      obtain ⟨hinv', hsome⟩ := viewerInv_present hinv.listed
        (hinv.bound _ (hkept.renderers_eq.trans hr)) failure run.screen _
      refine ⟨hinv', ?_, hrefusals⟩
      rw [hsetsUp, hsome, hcount, hr]
      rfl
  | built hsetsUp haccepted hnone _ honce hlisted hbound =>
      obtain ⟨hinv', hsome⟩ := viewerInv_present hlisted hbound failure run.screen _
      refine ⟨hinv', ?_, hrefusals⟩
      rw [hsetsUp, haccepted, hsome, hcount, hnone]
      rfl

/-- **Preserved by every step.** -/
theorem runInv_step (h : RunInv run) (step : Step) : RunInv (run.step step) := by
  cases step with
  | frame held input dt failure => exact h.frame held input dt failure
  | resize size => exact ⟨h.viewer, h.setups_eq, h.refusals_eq⟩
  | exit => exact ⟨viewerInv_of_none (Registry.listed_empty 100) rfl, rfl, fun _ => rfl⟩

theorem runInv_run (h : RunInv run) (steps : List Step) : RunInv (run.after steps) := by
  induction steps generalizing run with
  | nil => exact h
  | cons step steps ih => exact ih (runInv_step h step)

theorem runInv_after (compiler : ShaderCompiler) (capacity : UInt32) (d : Device)
    (calls : List Registry.Call) (camera : OrbitCamera) (settings : RenderSettings)
    (screen : Screen) (steps : List Step) :
    RunInv ((Run.start compiler ((Registry.Run.start capacity d).after calls) camera settings
      screen).after steps) := by
  have hlisted := (Registry.orderInv_after capacity d calls).listed
  exact runInv_run ⟨viewerInv_of_none hlisted rfl, rfl, fun _ => rfl⟩ steps

/-! ## What follows -/

/-- The second moment has the registry, the binding and the number of setups of the first, and
still has renderers. -/
structure Unchanged (run run' : Run) : Prop where
  renderers : run'.viewer.renderers.isSome = true
  registry_eq : run'.viewer.registry = run.viewer.registry
  binding_eq : run'.viewer.settings.triangleBinding = run.viewer.settings.triangleBinding
  setups_eq : run'.setups = run.setups

theorem RunInv.frame_unchanged (h : RunInv run) (hsome : run.viewer.renderers.isSome = true) :
    Unchanged run (run.step (.frame held input dt failure)) := by
  have houtcome := onFrame_outcome run.compiler held input dt failure run.screen run.device h.viewer
  unfold Run.step
  dsimp only
  generalize run.viewer.onFrame run.compiler held input dt failure run.screen run.device = ran
    at houtcome ⊢
  cases houtcome with
  | stopped hsetsUp hkept =>
      rw [hsetsUp]
      exact ⟨hkept.renderers_eq ▸ hsome, hkept.registry_eq, hkept.binding_eq, rfl⟩
  | refused _ _ hnone => exact absurd hsome (by rw [hnone]; simp)
  | faulted _ _ hnone => exact absurd hsome (by rw [hnone]; simp)
  | presented hsetsUp hr hkept =>
      have hinv := h.viewer.of_kept hkept
      obtain ⟨r', hviewer, -⟩ := present_cases (hinv.bound _ (hkept.renderers_eq.trans hr)) failure
        run.screen _
      rw [hsetsUp]
      refine ⟨?_, ?_, ?_, rfl⟩
      · rw [hviewer]; rfl
      · rw [hviewer]; exact hkept.registry_eq
      · rw [hviewer]; exact hkept.binding_eq
  | built _ _ hnone => exact absurd hsome (by rw [hnone]; simp)

theorem RunInv.unchanged (h : RunInv run) (hsome : run.viewer.renderers.isSome = true)
    {steps : List Step} (hexit : .exit ∉ steps) : Unchanged run (run.after steps) := by
  induction steps generalizing run with
  | nil => exact ⟨hsome, rfl, rfl, rfl⟩
  | cons step steps ih =>
      rw [List.mem_cons, not_or] at hexit
      have hnext : Unchanged run (run.step step) := by
        cases step with
        | frame held input dt failure => exact h.frame_unchanged held input dt failure hsome
        | resize size => exact ⟨hsome, rfl, rfl, rfl⟩
        | exit => exact absurd rfl hexit.1
      have hrest := ih (runInv_step h step) hnext.renderers hexit.2
      exact ⟨hrest.renderers, hrest.registry_eq.trans hnext.registry_eq,
        hrest.binding_eq.trans hnext.binding_eq, hrest.setups_eq.trans hnext.setups_eq⟩

theorem RunInv.frame_builds (h : RunInv run) (hnone : run.viewer.renderers = none) {r : Renderers}
    (hr : (run.step (.frame held input dt failure)).viewer.renderers = some r) :
    (run.step (.frame held input dt failure)).setups = run.setups + 1
      ∧ ∃ made, Registry.UploadedOnce run.viewer.registry (run.device.created + 4)
          (run.step (.frame held input dt failure)).viewer.registry made
        ∧ (run.step (.frame held input dt failure)).device.created = made + r.pixelBuffers := by
  have houtcome := onFrame_outcome run.compiler held input dt failure run.screen run.device h.viewer
  unfold Run.step at hr ⊢
  dsimp only at hr ⊢
  generalize run.viewer.onFrame run.compiler held input dt failure run.screen run.device = ran
    at *
  cases houtcome with
  | stopped _ hkept =>
      rw [hkept.renderers_eq, hnone] at hr
      exact absurd hr (by simp)
  | refused _ _ _ hkept =>
      rw [hkept.renderers_eq, hnone] at hr
      exact absurd hr (by simp)
  | faulted _ _ _ hnone' =>
      rw [hnone'] at hr
      exact absurd hr (by simp)
  | presented _ hsome => exact absurd (hsome.symm.trans hnone) (by simp)
  | @built v₁ r₁ d₁ hsetsUp _ _ _ honce _ hbound hpixels =>
      have hmade := present_made hpixels failure run.screen d₁ hr
      obtain ⟨r', hviewer, -⟩ := present_cases hbound failure run.screen d₁
      rw [hsetsUp]
      refine ⟨rfl, d₁.created, ?_, hmade⟩
      dsimp only
      rw [hviewer]
      exact honce

theorem RunInv.frame_traces (h : RunInv run)
    (hacquires : Acquires run.screen (run.step (.frame held input dt failure)).screen)
    (hon : (run.step (.frame held input dt failure)).viewer.settings.rayTracing = true) :
    ∃ t, (∀ r, run.viewer.renderers = some r → r.tracer = t)
      ∧ Traced t run.screen.size (run.step (.frame held input dt failure)).viewer
        (run.step (.frame held input dt failure)).device := by
  have houtcome := onFrame_outcome run.compiler held input dt failure run.screen run.device h.viewer
  unfold Run.step at hacquires hon ⊢
  dsimp only at hacquires hon ⊢
  generalize run.viewer.onFrame run.compiler held input dt failure run.screen run.device = ran
    at *
  cases houtcome with
  | stopped => exact absurd hacquires (not_acquires_self _)
  | refused => exact absurd hacquires (not_acquires_self _)
  | faulted => exact absurd hacquires (not_acquires_self _)
  | @presented v₁ r d₁ _ hr hkept =>
      have hinv := h.viewer.of_kept hkept
      obtain ⟨r', hviewer, -, htraced⟩ := present_cases
        (hinv.bound _ (hkept.renderers_eq.trans hr)) failure run.screen d₁
      dsimp only at hon
      rw [hviewer] at hon
      refine ⟨r.tracer, ?_, htraced hacquires hon⟩
      intro r₁ hr₁
      rw [Option.some.inj (hr₁.symm.trans hr)]
  | @built v₁ r d₁ _ _ hnone _ _ _ hbound =>
      obtain ⟨r', hviewer, -, htraced⟩ := present_cases hbound failure run.screen d₁
      dsimp only at hon
      rw [hviewer] at hon
      refine ⟨r.tracer, ?_, htraced hacquires hon⟩
      intro r₁ hr₁
      exact absurd (hr₁.symm.trans hnone) (by simp)

/-- What holds of a viewer at any moment. -/
structure SetsUpOnce (run : Run) : Prop where
  /-- Once there are renderers, registry, tracer and settings agree on the binding, every face is
  counted, every body is uploaded, and the tracer has met no other binding. -/
  agrees : ∀ r, run.viewer.renderers = some r →
    (∃ b, run.viewer.registry.triangleBinding? = some b
      ∧ b.binding = run.viewer.settings.triangleBinding
      ∧ b.triangleCount = UInt32.ofNat run.viewer.registry.faceCount)
    ∧ r.tracer.bindings.triangles = run.viewer.settings.triangleBinding
    ∧ (∀ id body, run.viewer.registry.body? id = some body → OnDevice body)
    ∧ r.tracer.warned = false
  /-- Every setup but those refused or faulted has left renderers, so there is one at most. -/
  setups_eq : run.setups
    = run.refusals + run.faults + if run.viewer.renderers.isSome then 1 else 0
  /-- None is refused by a compiler that accepts the shaders. -/
  refusals_eq : run.viewer.accepted run.compiler = true → run.refusals = 0
  /-- The frame in which the renderers appear uploads each body once: after the four buffers of the
  renderers every body in turn makes two, and has them afterwards. The frame makes no others but
  those of the triangles and the pixels. -/
  builds : ∀ held input dt failure r, run.viewer.renderers = none →
    (run.step (.frame held input dt failure)).viewer.renderers = some r →
      (run.step (.frame held input dt failure)).setups = run.setups + 1
        ∧ ∃ made, Registry.UploadedOnce run.viewer.registry (run.device.created + 4)
            (run.step (.frame held input dt failure)).viewer.registry made
          ∧ (run.step (.frame held input dt failure)).device.created = made + r.pixelBuffers
  /-- From then on, until it exits, nothing is set up or uploaded again. -/
  stays : ∀ steps, run.viewer.renderers.isSome = true → .exit ∉ steps →
    Unchanged run (run.after steps)
  /-- A frame that acquires an image while tracing is on is traced. -/
  traces : ∀ held input dt failure,
    Acquires run.screen (run.step (.frame held input dt failure)).screen →
    (run.step (.frame held input dt failure)).viewer.settings.rayTracing = true →
      ∃ t, (∀ r, run.viewer.renderers = some r → r.tracer = t)
        ∧ Traced t run.screen.size (run.step (.frame held input dt failure)).viewer
          (run.step (.frame held input dt failure)).device

/-- **A viewer sets up once, and then traces every frame it is asked to**, whatever its registry,
camera, settings, window and input. -/
theorem setsUpOnce_after (compiler : ShaderCompiler) (capacity : UInt32) (d : Device)
    (calls : List Registry.Call) (camera : OrbitCamera) (settings : RenderSettings)
    (screen : Screen) (steps : List Step) :
    SetsUpOnce ((Run.start compiler ((Registry.Run.start capacity d).after calls) camera settings
      screen).after steps) := by
  have hinv := runInv_after compiler capacity d calls camera settings screen steps
  generalize (Run.start compiler ((Registry.Run.start capacity d).after calls) camera settings
    screen).after steps = run at hinv
  refine ⟨?_, ?_, hinv.refusals_eq, ?_, ?_, ?_⟩
  · intro r hr
    have hbound := hinv.viewer.bound r hr
    exact ⟨hbound.packed, hbound.reads, hbound.uploaded, hbound.unwarned⟩
  · rw [hinv.setups_eq]
    cases run.viewer.renderers <;> rfl
  · intro held input dt failure r hnone hr
    exact hinv.frame_builds held input dt failure hnone hr
  · intro steps hsome hexit
    exact hinv.unchanged hsome hexit
  · intro held input dt failure hacquires hon
    exact hinv.frame_traces held input dt failure hacquires hon

end Viewer

end Facet
