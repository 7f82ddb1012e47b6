import Facet.Color
import Facet.Matrix
import Facet.Registry
import Facet.Trace.Resolution
import Facet.Trace.Shader

/-!
# The ray tracer

The tracer owns a parameter buffer for each of its two passes and a pixel buffer that the first
pass fills and the second shows. The passes reach their buffers through bind groups, which are
cached. They are made anew when the pixel buffer is replaced and when the triangles lie in a
buffer of another generation, so a group never refers to a buffer that is gone.
-/

namespace Facet.Trace

/-- What the trace pass reads besides the triangles. -/
structure TraceParams where
  /-- From the image back into space. -/
  inverse : Mat4
  origin : Vec4
  background : Vec4
  surface : Vec4
  edge : Vec4
  resolution : Extent
  triangleCount : UInt32
  /-- How close to an edge a hit counts as on it; negative for never. -/
  edgeBand : Float32

namespace TraceParams

/-- The size in bytes. -/
def byteSize : Nat := 144

def bytes (p : TraceParams) : List UInt8 :=
  Bytes.ofScalars (p.inverse.toList ++ p.origin.toList ++ p.background.toList
      ++ p.surface.toList ++ p.edge.toList)
    ++ Bytes.ofWord p.resolution.width ++ Bytes.ofWord p.resolution.height
    ++ Bytes.ofWord p.triangleCount ++ Bytes.ofScalar p.edgeBand

/-- The width of the band of a hit that shows as an edge. -/
def edgeWeight : Float32 := 0.02

end TraceParams

/-- What the pass that shows the pixels reads besides them. -/
structure PresentParams where
  surface : Vec2
  resolution : Extent

namespace PresentParams

/-- The size in bytes. -/
def byteSize : Nat := 16

def bytes (p : PresentParams) : List UInt8 :=
  Bytes.ofScalar p.surface.x ++ Bytes.ofScalar p.surface.y
    ++ Bytes.ofWord p.resolution.width ++ Bytes.ofWord p.resolution.height

end PresentParams

/-- The buffers that the trace pass is bound to, by their numbers. -/
structure ComputeGroup where
  params : Nat
  triangles : Nat
  pixels : Nat
deriving DecidableEq

/-- The buffers that the presenting pass is bound to, by their numbers. -/
structure PresentGroup where
  params : Nat
  pixels : Nat
deriving DecidableEq

/-- The two passes of a traced frame, as recorded. -/
structure TracePasses where
  compute : ComputeGroup
  present : PresentGroup
  /-- How many workgroups run across and down. -/
  workgroups : Extent
deriving DecidableEq

/-- The ray tracer. -/
structure Tracer where
  bindings : TraceBindings
  params : Holder Buffer
  presentParams : Holder Buffer
  pixels : Holder Buffer := {}
  resolution : Extent := ⟨0, 0⟩
  computeGroup : Option ComputeGroup := none
  presentGroup : Option PresentGroup := none
  /-- The generation of the triangles that the groups refer to. -/
  boundGeneration : Option Nat := none
  /-- Whether a mismatched binding has been reported. -/
  warned : Bool := false

/-- What a frame is traced from. -/
structure View where
  viewProj : Mat4
  eye : Vec3

namespace Tracer

/-- The number of pixels that a workgroup covers in either direction. -/
def workgroupSize : UInt32 := 8

/-- A tracer that reads triangles at a binding index, once its shaders are accepted. -/
def create (triangleBinding : UInt32) (d : Device) : Tracer × Device :=
  let bindings := TraceBindings.ofTriangles triangleBinding
  let params := d.createBuffer TraceParams.byteSize
  let presentParams := params.2.createBuffer PresentParams.byteSize
  ({ bindings, params := ⟨some params.1⟩, presentParams := ⟨some presentParams.1⟩ },
    presentParams.2.note .debug s!"ray tracer ready with {bindings.text}")

/-- Has both shaders of a tracer compiled. -/
def validate (compiler : ShaderCompiler) (triangleBinding : UInt32) : Except ProgramError Unit :=
  let bindings := TraceBindings.ofTriangles triangleBinding
  match compiler.validate "raytrace.wgsl" bindings.shaderSource with
  | .error e => .error e
  | .ok () => compiler.validate "present.wgsl" presentSource

/-- Compiles a tracer; nothing is created before both shaders are accepted. -/
def compile (compiler : ShaderCompiler) (triangleBinding : UInt32) (d : Device) :
    Except ProgramError Tracer × Device :=
  match validate compiler triangleBinding with
  | .error e => (.error e, d)
  | .ok () =>
    let made := create triangleBinding d
    (.ok made.1, made.2)

/-- Replaces the pixel buffer unless it has the right resolution; the groups go with the old one. -/
def ensurePixels (resolution : Extent) (t : Tracer) (d : Device) : Tracer × Device :=
  if t.pixels.isHolding && t.resolution == resolution then (t, d)
  else
    let freed := d.release t.pixels
    let made := freed.2.2.createBuffer (resolution.area * pixelSize).toNat
    ({ t with
        pixels := (freed.2.1.replace made.1).2
        resolution
        computeGroup := none
        presentGroup := none },
      made.2.note .debug
        s!"ray tracer output resized to {resolution.width}x{resolution.height}")

/-- Makes the groups unless both are there and refer to the present generation of triangles. -/
def ensureGroups (triangles : TriangleBinding) (t : Tracer) : Tracer :=
  let t := if t.boundGeneration = some triangles.generation then t
    else { t with computeGroup := none }
  if t.computeGroup.isSome && t.presentGroup.isSome then t
  else
    match t.params.held, t.presentParams.held, t.pixels.held with
    | some params, some presentParams, some pixels =>
      { t with
        computeGroup := some ⟨params.id, triangles.buffer.id, pixels.id⟩
        presentGroup := some ⟨presentParams.id, pixels.id⟩
        boundGeneration := some triangles.generation }
    | _, _, _ => t

/-- The parameters of a frame. -/
def frameParams (t : Tracer) (triangles : TriangleBinding) (view : View)
    (settings : RenderSettings) : TraceParams :=
  { inverse := view.viewProj.inverse
    origin := Vec4.extend view.eye 1
    background := settings.clearColor.opaqueVec4
    surface := settings.faceColor.opaqueVec4
    edge := settings.edgeColor.opaqueVec4
    resolution := t.resolution
    triangleCount := triangles.triangleCount
    edgeBand := if settings.drawEdges then TraceParams.edgeWeight else -1 }

/-- The parameters of the presenting pass. -/
def presentation (t : Tracer) (surface : Extent) : PresentParams :=
  let shown := surface.atLeastOne
  { surface := ⟨shown.width.toFloat32, shown.height.toFloat32⟩, resolution := t.resolution }

/-- How many workgroups cover a side. -/
def workgroups (side : UInt32) : UInt32 :=
  UInt32.ofNat ((side.toNat + workgroupSize.toNat - 1) / workgroupSize.toNat)

/-- Writes the parameters of a frame, and records its passes if both groups are there. -/
def record (surface : Extent) (triangles : TriangleBinding) (view : View)
    (settings : RenderSettings) (t : Tracer) : Option TracePasses × Tracer :=
  match t.params.held, t.presentParams.held with
  | some params, some presentParams =>
    let written := { t with
      params := ⟨some (params.write (t.frameParams triangles view settings).bytes)⟩
      presentParams := ⟨some (presentParams.write (t.presentation surface).bytes)⟩ }
    match t.computeGroup, t.presentGroup with
    | some compute, some present =>
      let size := t.resolution
      (some ⟨compute, present, ⟨workgroups size.width, workgroups size.height⟩⟩, written)
    | _, _ => (none, written)
  | _, _ => (none, t)

/--
Traces a frame. Triangles at another binding than the tracer's are left alone; that is reported
once.
-/
def render (surface : Extent) (triangles : TriangleBinding) (view : View)
    (settings : RenderSettings) (t : Tracer) (d : Device) :
    Option TracePasses × Tracer × Device :=
  if triangles.binding ≠ t.bindings.triangles then
    if t.warned then (none, t, d)
    else
      (none, { t with warned := true },
        d.note .warn (s!"triangles uploaded at binding {triangles.binding} "
          ++ s!"but the ray tracer reads binding {t.bindings.triangles}"))
  else
    let fitted := t.ensurePixels (fitResolution surface d.storageLimit.toUInt64) d
    let recorded := (fitted.1.ensureGroups triangles).record surface triangles view settings
    (recorded.1, recorded.2, fitted.2)

/-- Destroys every buffer and forgets the groups; a second time does nothing. -/
def release (t : Tracer) (d : Device) : Tracer × Device :=
  let pixels := d.release t.pixels
  let params := pixels.2.2.release t.params
  let presentParams := params.2.2.release t.presentParams
  ({ t with
      computeGroup := none
      presentGroup := none
      boundGeneration := none
      pixels := pixels.2.1
      params := params.2.1
      presentParams := presentParams.2.1 },
    presentParams.2.2)

end Tracer

end Facet.Trace
