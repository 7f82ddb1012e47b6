import Facet.Face.Record
import Facet.Gpu

/-!
# Bodies

A body is a list of faces together with the two vertex streams that draw it: its triangles, and
the outline of every face. The streams are device buffers. Either both are uploaded or neither is
(`Body.upload`, `Body.release`).
-/

namespace Facet

/-- One buffer of vertices and how many it holds. -/
structure VertexStream where
  buffer : Holder Buffer := {}
  vertexCount : UInt32 := 0

namespace VertexStream

/-- A stream of the given coordinates, three to a vertex, in a new buffer. -/
def upload (stream : VertexStream) (coordinates : List Float32) (d : Device) :
    VertexStream × Device :=
  let made := d.createBufferWith (Bytes.ofScalars coordinates)
  ({ buffer := (stream.buffer.replace made.1).2
     vertexCount := UInt32.ofNat (coordinates.length / 3) }, made.2)

/-- The empty stream, its buffer destroyed. -/
def release (stream : VertexStream) (d : Device) : VertexStream × Device :=
  let freed := d.release stream.buffer
  ({ buffer := freed.2.1, vertexCount := 0 }, freed.2.2)

end VertexStream

/-- A call that draws one stream. -/
inductive DrawCall where
  | faces
  | edges
deriving DecidableEq, Repr

def DrawCall.name : DrawCall → String
  | faces => "faces"
  | edges => "edges"

/-- A drawable object. -/
structure Body where
  faces : List Face
  triangles : VertexStream := {}
  edges : VertexStream := {}

namespace Body

/-- A body that is not uploaded. -/
def ofFaces (faces : List Face) : Body := { faces }

def isUploaded (b : Body) : Bool := b.triangles.buffer.isHolding

/-- The coordinates of every corner, face by face. -/
def triangleVertices (b : Body) : List Float32 :=
  b.faces.flatMap fun f => f.corners.flatMap Vec3.toList

/-- A ring with its first member moved to the end. -/
def rotate {α : Type} : List α → List α
  | [] => []
  | a :: rest => rest ++ [a]

/-- The sides of a ring, each as its two ends: every corner with the one after it. -/
def outline (corners : List Vec3) : List (Vec3 × Vec3) := corners.zip (rotate corners)

/-- The coordinates of the outlines, face by face and side by side. -/
def edgeVertices (b : Body) : List Float32 :=
  b.faces.flatMap fun f => (outline f.corners).flatMap fun side =>
    side.1.toList ++ side.2.toList

/-- Destroys the buffers of both streams; a body that is not uploaded stays as it is. -/
def release (b : Body) (d : Device) : Body × Device :=
  let triangles := b.triangles.release d
  let edges := b.edges.release triangles.2
  ({ b with triangles := triangles.1, edges := edges.1 }, edges.2)

/-- Uploads both streams, after releasing those of an earlier upload. -/
def upload (b : Body) (d : Device) : Body × Device :=
  let cleared :=
    if b.isUploaded then
      b.release (d.note .debug "body re-uploaded without release; dropping previous buffers")
    else (b, d)
  let triangles := cleared.1.triangles.upload b.triangleVertices cleared.2
  let edges := cleared.1.edges.upload b.edgeVertices triangles.2
  ({ cleared.1 with triangles := triangles.1, edges := edges.1 }, edges.2)

/-- The calls that draw the body: those asked for whose stream has vertices. -/
def drawCalls (drawFaces drawEdges : Bool) (b : Body) : List DrawCall :=
  (if drawFaces && 0 < b.triangles.vertexCount then [.faces] else [])
    ++ (if drawEdges && 0 < b.edges.vertexCount then [.edges] else [])

/-- One record per face. -/
def records (b : Body) : List TriangleRecord := b.faces.map TriangleRecord.ofFace

/-- The records of the body after those already there. -/
def appendRecords (b : Body) (out : List TriangleRecord) : List TriangleRecord := out ++ b.records

/-- The lines that describe one face. -/
def faceText (entry : Face × Nat) : String :=
  s!"\tFace: {entry.2}\n\t - Normal vector: {entry.1.normal.text}\n"
    ++ String.join (entry.1.corners.map fun c => s!"\t\tNode: {c.text}\n")
    ++ "\tEnd Face\n"

/-- A description of every face with its normal and corners. -/
def describe (b : Body) : String :=
  "Body:\n" ++ String.join (b.faces.zipIdx.map faceText) ++ "End Body"

end Body

end Facet
