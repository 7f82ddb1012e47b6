import Facet.Color
import Facet.Registry
import Facet.Uniform.Program

/-!
# Mesh passes

The two programs that draw bodies: one fills triangles, the other draws outlines. Each has its
own uniforms, so each keeps its own colour; the camera is the same for both.
-/

namespace Facet

/-- The programs for faces and edges, and which of them draw. -/
structure MeshPasses where
  faces : Program
  edges : Program
  drawFaces : Bool := true
  drawEdges : Bool := true

namespace MeshPasses

/-- The uniforms of either program: the camera's matrix and a colour. -/
def layout : UniformLayout :=
  (({} : UniformLayout).append "view_proj" .mat4).append "color" .vec4

/-- The shader of both programs. -/
def shaderSource : String :=
  shaderText
    [ "// Flat-colored faces and wireframe edges. One uniform block per pass.",
      "",
      "struct MeshUniforms \x7b",
      "    view_proj: mat4x4<f32>,",
      "    color: vec4<f32>,",
      "\x7d",
      "",
      "@group(0) @binding(0) var<uniform> mesh: MeshUniforms;",
      "",
      "@vertex",
      "fn vs_main(@location(0) position: vec3<f32>) -> @builtin(position) vec4<f32> \x7b",
      "    return mesh.view_proj * vec4<f32>(position, 1.0);",
      "\x7d",
      "",
      "@fragment",
      "fn fs_main() -> @location(0) vec4<f32> \x7b",
      "    return mesh.color;",
      "\x7d" ]

def facesLabel : String := "kiln mesh faces"

def edgesLabel : String := "kiln mesh edges"

/-- Both programs, once their shader is accepted. -/
def create (d : Device) : MeshPasses × Device :=
  let faces := Program.create facesLabel layout d
  let edges := Program.create edgesLabel layout faces.2
  ({ faces := faces.1, edges := edges.1 }, edges.2)

/-- Compiles both programs. When the second one is refused the first is given back. -/
def compile (compiler : ShaderCompiler) (d : Device) : Except ProgramError MeshPasses × Device :=
  match Program.compile compiler facesLabel shaderSource layout d with
  | (.error e, d) => (.error e, d)
  | (.ok faces, d) =>
    match Program.compile compiler edgesLabel shaderSource layout d with
    | (.error e, d) => (.error e, faces.dispose d)
    | (.ok edges, d) => (.ok { faces, edges }, d)

/-- Stages the camera and a colour in one program and copies them to the device; a value that is
refused ends it. -/
def stage (viewProj : Mat4) (color : Color) (p : Program) : Except ProgramError Unit × Program :=
  match p.setUniform "view_proj" (.mat4 viewProj) with
  | (.error e, p) => (.error e, p)
  | (.ok (), p) =>
    match p.setUniform "color" (.vec4 color.toVec4) with
    | (.error e, p) => (.error e, p)
    | (.ok (), p) => (.ok (), p.flush)

/-- Takes over the toggles of a frame, then its camera and colours, the faces first. -/
def tryPrepare (m : MeshPasses) (viewProj : Mat4) (settings : RenderSettings) :
    Except ProgramError Unit × MeshPasses :=
  let m := { m with drawFaces := settings.drawFaces, drawEdges := settings.drawEdges }
  match stage viewProj settings.faceColor m.faces with
  | (.error e, faces) => (.error e, { m with faces })
  | (.ok (), faces) =>
    let staged := stage viewProj settings.edgeColor m.edges
    (staged.1, { m with faces, edges := staged.2 })

/-- The mesh passes with the camera, the colours and the toggles of a frame, unless a value is
refused. -/
def prepare (m : MeshPasses) (viewProj : Mat4) (settings : RenderSettings) :
    Except ProgramError MeshPasses :=
  let tried := m.tryPrepare viewProj settings
  tried.1.map fun _ => tried.2

/-- The calls that draw a registry's bodies. -/
def encode (m : MeshPasses) (r : Registry) : List DrawCall :=
  if !m.drawFaces && !m.drawEdges then [] else r.drawCalls m.drawFaces m.drawEdges

/-- Destroys the buffers of both programs. -/
def dispose (m : MeshPasses) (d : Device) : Device := m.edges.dispose (m.faces.dispose d)

end MeshPasses

end Facet
