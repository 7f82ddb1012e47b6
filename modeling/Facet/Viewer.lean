import Facet.MeshPasses
import Facet.OrbitCamera
import Facet.Screen
import Facet.Trace.Tracer
import Facet.Viewer.Command

/-!
# The viewer

The viewer shows the bodies of a registry. In each frame it obeys the pressed keys, steers its
camera, sets up if it has no renderers, and then draws or traces the bodies. On exit it gives back
everything it holds on the device.
-/

namespace Facet

open Trace (Tracer)

/-- What the viewer holds on the device besides the bodies. -/
structure Renderers where
  mesh : MeshPasses
  tracer : Tracer

/-- Why a viewer cannot set up. -/
inductive SetupError where
  | mesh (e : ProgramError)
  | tracer (e : ProgramError)
  | triangles (e : RegistryError)
deriving DecidableEq, Repr

/-- The text shown to the user. -/
def SetupError.message : SetupError → String
  | .mesh e => s!"failed to build mesh passes: {e.message}"
  | .tracer e => s!"failed to build ray tracer: {e.message}"
  | .triangles e => s!"failed to upload triangle storage: {e.message}"

/-- How setting up ends early. -/
inductive SetupFailure where
  | error (e : SetupError)
  | fault (f : Fault)
deriving DecidableEq, Repr

/-- How setting up ends when the triangles cannot be packed. -/
def SetupFailure.ofPacking : Registry.Failure → SetupFailure
  | .error e => .error (.triangles e)
  | .fault f => .fault f

namespace Renderers

/-- Renderers that read triangles at a binding index, once their shaders are accepted. -/
def create (triangleBinding : UInt32) (d : Device) : Renderers × Device :=
  let mesh := MeshPasses.create d
  let tracer := Tracer.create triangleBinding mesh.2
  ({ mesh := mesh.1, tracer := tracer.1 }, tracer.2)

/-- Compiles the renderers. When the tracer is refused the mesh passes are given back. -/
def compile (compiler : ShaderCompiler) (triangleBinding : UInt32) (d : Device) :
    Except SetupError Renderers × Device :=
  match MeshPasses.compile compiler d with
  | (.error e, d) => (.error (.mesh e), d)
  | (.ok mesh, d) =>
    match Tracer.compile compiler triangleBinding d with
    | (.error e, d) => (.error (.tracer e), mesh.dispose d)
    | (.ok tracer, d) => (.ok { mesh, tracer }, d)

/-- Gives back what the renderers hold, the tracer's buffers first. -/
def dispose (r : Renderers) (d : Device) : Device := r.mesh.dispose (r.tracer.release d).2

end Renderers

/-- The viewer. -/
structure Viewer where
  registry : Registry
  camera : OrbitCamera
  settings : RenderSettings := {}
  renderers : Option Renderers := none

namespace Viewer

/-- A viewer of a registry, with the lines that placing its camera logs. -/
def ofRegistry (registry : Registry) (config : CameraConfig) (settings : RenderSettings) :
    Except Fault Viewer × List Log.Line :=
  match OrbitCamera.ofConfig config with
  | (.error e, lines) => (.error e, lines)
  | (.ok camera, lines) => (.ok { registry, camera, settings }, lines)

/-! ## Keys and steering -/

/-- The line that reports a toggle. -/
def toggleLine (what : String) (on : Bool) : Log.Line :=
  ⟨.info, what ++ (if on then " on" else " off")⟩

/-- Obeys one command: the settings after it, and the line it logs if it toggles something. -/
def obey (settings : RenderSettings) : ViewerCommand → RenderSettings × Option Log.Line
  | .toggleFaces =>
    let on := !settings.drawFaces
    ({ settings with drawFaces := on }, some (toggleLine "faces" on))
  | .toggleEdges =>
    let on := !settings.drawEdges
    ({ settings with drawEdges := on }, some (toggleLine "edges" on))
  | .toggleRayTracing =>
    let on := !settings.rayTracing
    ({ settings with rayTracing := on }, some (toggleLine "ray tracing" on))
  | .exit => (settings, none)

/-- Obeys commands from left to right. -/
def obeyAll (settings : RenderSettings) (commands : List ViewerCommand) :
    RenderSettings × List Log.Line :=
  commands.foldl
    (fun state command =>
      let obeyed := obey state.1 command
      (obeyed.1, state.2 ++ obeyed.2.toList))
    (settings, [])

/-- Obeys the keys pressed in a frame; the exit key ends the program after the others are obeyed. -/
def applyKeys (v : Viewer) (frame : InputFrame) (d : Device) : Control × Viewer × Device :=
  let commands := frame.keysPressed.filterMap ViewerCommand.ofKey?
  let obeyed := obeyAll v.settings commands
  (if commands.contains .exit then .exit else .proceed,
    { v with settings := obeyed.1 }, d.noteAll obeyed.2)

/-- The camera after the held arrow keys have moved it for `dt` seconds. -/
def steerByKeys (held : Held) (dt : Float32) (c : OrbitCamera) : Except Fault OrbitCamera :=
  let direction := orbitDirection held
  if direction.isZero then .ok c
  else c.moveBy (direction * (c.config.keySpeed * c.distance)) dt

/-- The camera after a drag; what is dragged follows the pointer. -/
def steerByDrag (held : Held) (frame : InputFrame) (c : OrbitCamera) : Except Fault OrbitCamera :=
  match held.dragDelta? frame .left with
  | some d => c.moveBy ((⟨-d.x, d.y, 0⟩ : Vec3) * (c.config.dragSensitivity * c.distance)) 1
  | none => .ok c

/-- The camera after the wheel has turned. -/
def steerByWheel (frame : InputFrame) (c : OrbitCamera) : Except Fault OrbitCamera :=
  if frame.wheelLines != 0 then c.zoom frame.wheelLines else .ok c

/-- Moves the camera by the arrow keys, then by the drag, then by the wheel. -/
def steer (v : Viewer) (held : Held) (frame : InputFrame) (dt : Float32) : Except Fault Viewer :=
  match steerByKeys held dt v.camera with
  | .error e => .error e
  | .ok camera =>
    match steerByDrag held frame camera with
    | .error e => .error e
    | .ok camera =>
      match steerByWheel frame camera with
      | .error e => .error e
      | .ok camera => .ok { v with camera }

/-! ## Setting up -/

/--
Uploads every body and packs the triangles for renderers that are new. When the triangles cannot be
packed the renderers are given back, the tracer first; the bodies stay uploaded.
-/
def load (v : Viewer) (r : Renderers) (d : Device) :
    Except Registry.Failure Renderers × Viewer × Device :=
  let uploaded := v.registry.uploadAll d
  match uploaded.1.pack v.settings.triangleBinding uploaded.2 with
  | (.error failure, registry, d) => (.error failure, { v with registry }, r.dispose d)
  | (.ok triangles, registry, d) =>
    (.ok r, { v with registry },
      d.note .info s!"viewer ready: {registry.size} bodies, {triangles} triangles")

/-- Sets up with shaders that are accepted. -/
def setup (v : Viewer) (d : Device) : Except Registry.Failure Renderers × Viewer × Device :=
  let made := Renderers.create v.settings.triangleBinding d
  v.load made.1 made.2

/-- Sets up: compiles the renderers, then uploads the bodies and packs their triangles. -/
def trySetup (v : Viewer) (compiler : ShaderCompiler) (d : Device) :
    Except SetupFailure Renderers × Viewer × Device :=
  match Renderers.compile compiler v.settings.triangleBinding d with
  | (.error e, d) => (.error (.error e), v, d)
  | (.ok r, d) =>
    let loaded := v.load r d
    (loaded.1.mapError .ofPacking, loaded.2)

/-! ## Frames -/

/-- Draws the bodies of a frame, or traces them when that is asked for and triangles are packed. -/
def draw (registry : Registry) (settings : RenderSettings) (view : Trace.View) (size : Extent)
    (r : Renderers) (d : Device) : Renderers × Device :=
  match registry.triangleBinding?, settings.rayTracing with
  | some triangles, true =>
    let traced := r.tracer.render size triangles view settings d
    ({ r with tracer := traced.2.1 }, traced.2.2)
  | _, _ => (r, d)

/-- Renders a frame with renderers that are built. -/
def present (v : Viewer) (r : Renderers) (failure : Option SurfaceError) (s : Screen) (d : Device) :
    Control × Viewer × Screen × Device :=
  let viewProj := v.camera.viewProjection s.size.aspect
  match r.mesh.tryPrepare viewProj v.settings with
  | (.error e, mesh) =>
    (.exit, { v with renderers := some { r with mesh } }, s,
      d.note .error s!"failed to stage mesh uniforms: {e.message}")
  | (.ok (), mesh) =>
    let view : Trace.View := ⟨viewProj, v.camera.origin⟩
    let rendered := s.render failure (draw v.registry v.settings view) { r with mesh } d
    (rendered.1, { v with renderers := some rendered.2.2.1 }, rendered.2.1, rendered.2.2.2)

/-- The renderers of a frame: those at hand, or else new ones. -/
def ensureRenderers (v : Viewer) (compiler : ShaderCompiler) (d : Device) :
    Except SetupFailure Renderers × Viewer × Device :=
  match v.renderers with
  | some r => (.ok r, v, d)
  | none => v.trySetup compiler d

/--
Runs one frame. A fault ends it where it stands; an error met while setting up ends the program.
-/
def onFrame (v : Viewer) (compiler : ShaderCompiler) (held : Held) (frame : InputFrame)
    (dt : Float32) (failure : Option SurfaceError) (s : Screen) (d : Device) :
    Except Fault Control × Viewer × Screen × Device :=
  match v.applyKeys frame d with
  | (.exit, v, d) => (.ok .exit, v, s, d)
  | (.proceed, v, d) =>
    match v.steer held frame dt with
    | .error e => (.error e, v, s, d)
    | .ok v =>
      match v.ensureRenderers compiler d with
      | (.error (.fault e), v, d) => (.error e, v, s, d)
      | (.error (.error e), v, d) => (.ok .exit, v, s, d.note .error e.message)
      | (.ok r, v, d) =>
        let presented := v.present r failure s d
        (.ok presented.1, presented.2)

/-- Gives back everything held on the device: the renderers, the shared triangles, the bodies. -/
def onExit (v : Viewer) (adapter : Adapter) (d : Device) : Viewer × Device :=
  let d := match v.renderers with
    | some r => r.dispose d
    | none => d
  let d := v.registry.dispose d
  ({ v with registry := Registry.empty, renderers := none },
    d.note .info s!"viewer released GPU resources on {adapter.name}")

end Viewer

end Facet
