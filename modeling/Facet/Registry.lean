import Facet.Body
import Facet.Fault
import Facet.SlotStore

/-!
# The body registry

The registry owns every body, knows the order in which the live ones were created, and packs the
triangles of all of them, or of some, into one shared device buffer for the ray tracer.

The shared buffer is replaced only when it is too small. Each replacement begins a new generation,
so whoever refers to the buffer can tell by the generation that it has to look again.
-/

namespace Facet

/-- Why the registry refuses an operation. -/
inductive RegistryError where
  /-- Every slot holds a body. -/
  | full (capacity : Nat)
  /-- No live body has this handle. -/
  | unknownBody (id : Handle)
deriving DecidableEq, Repr

/-- The name of the kind of error. -/
def RegistryError.kind : RegistryError → String
  | .full _ => "Full"
  | .unknownBody _ => "UnknownBody"

/-- The text shown to the user. -/
def RegistryError.message : RegistryError → String
  | .full capacity => s!"model registry is full ({capacity} bodies)"
  | .unknownBody id => s!"unknown body {id.text}"

/-- The shared triangle buffer and what is known about it. -/
structure SharedTriangles where
  buffer : Holder Buffer := {}
  /-- How many records the buffer has room for. -/
  capacity : Nat := 0
  /-- How many buffers there have been. -/
  generation : Nat := 0
  /-- The binding index of the last upload. -/
  binding : UInt32 := 0
  /-- The number of records of the last upload. -/
  triangleCount : UInt32 := 0

/-- The shared buffer as a reader sees it. -/
structure TriangleBinding where
  binding : UInt32
  buffer : Buffer
  /-- How many records at the front of the buffer are valid. -/
  triangleCount : UInt32
  generation : Nat

namespace SharedTriangles

/-- The least power of two that is not below a number of records. -/
def roomFor (records : Nat) : Nat :=
  if records ≤ 1 then 1 else Nat.pow 2 (Nat.log2 (records - 1) + 1)

/-- Replaces the buffer by one of zeros with room for at least `required` records. -/
def grow (required : Nat) (s : SharedTriangles) (d : Device) : SharedTriangles × Device :=
  let freed := d.release s.buffer
  let capacity := roomFor required
  let made := freed.2.2.createBuffer (capacity * TriangleRecord.byteSize)
  ({ s with
      buffer := (freed.2.1.replace made.1).2
      capacity
      generation := s.generation + 1 },
    made.2.note .debug s!"triangle storage resized to {capacity} records")

/-- Grows the buffer if there is none or it is too small; there is always room for one record. -/
def reserve (count : Nat) (s : SharedTriangles) (d : Device) : SharedTriangles × Device :=
  let required := max count 1
  if !s.buffer.isHolding || s.capacity < required then s.grow required d else (s, d)

/-- Writes records to the front of the buffer and binds it. -/
def store (records : List TriangleRecord) (binding : UInt32) (s : SharedTriangles) (d : Device) :
    SharedTriangles × Device :=
  let count := UInt32.ofNat records.length
  ({ s with
      buffer := ⟨s.buffer.held.map (·.write (TriangleRecord.image records))⟩
      binding
      triangleCount := count },
    d.note .debug s!"uploaded {count} triangles at binding {binding}")

end SharedTriangles

/-- The bodies of a model. -/
structure Registry where
  bodies : SlotStore Body
  /-- The live handles in the order of their creation. -/
  order : List Handle := []
  shared : SharedTriangles := {}

namespace Registry

/-- How an upload ends early. -/
inductive Failure where
  | error (e : RegistryError)
  | fault (f : Fault)
deriving DecidableEq, Repr

/-- Bodies begin without buffers and end by releasing those they have. -/
def lifecycle : Lifecycle (List Face) Body Device where
  allocate faces d := (Body.ofFaces faces, d)
  dispose body d := (body.release d).2

/-- The registry without bodies. -/
def empty (capacity : Nat := SlotStore.defaultCapacity) : Registry :=
  { bodies := SlotStore.empty capacity }

def body? (r : Registry) (id : Handle) : Option Body := r.bodies.get? id

/-- The number of live bodies. -/
def size (r : Registry) : Nat := r.order.length

def isEmpty (r : Registry) : Bool := r.order.isEmpty

/-! ## Bodies -/

/-- The warning about the first face that is not a triangle. -/
def polygonWarning? (faces : List Face) : Option Log.Line :=
  (faces.find? fun f => !f.isTriangle).map fun f =>
    ⟨.warn, s!"body created from a {f.size}-node face; "
      ++ "only its first triangle reaches the ray tracer"⟩

/-- Stores a new body. The warning about large faces comes first, whether or not there is room. -/
def create (faces : List Face) (r : Registry) (d : Device) :
    Except RegistryError Handle × Registry × Device :=
  let warned := d.noteAll (polygonWarning? faces).toList
  match SlotStore.create lifecycle faces r.bodies warned with
  | (none, bodies, d) => (.error (.full r.bodies.capacity), { r with bodies }, d)
  | (some id, bodies, d) =>
    let text := s!"created body {id.text} ({faces.length} faces)\n"
      ++ (Body.ofFaces faces).describe
    (.ok id, { r with bodies, order := r.order ++ [id] }, d.note .debug text)

/-- Destroys a body and its buffers. The shared buffer keeps its records until the next upload. -/
def destroy (id : Handle) (r : Registry) (d : Device) :
    Except RegistryError Unit × Registry × Device :=
  match SlotStore.destroy lifecycle id r.bodies d with
  | (.error _, bodies, d) => (.error (.unknownBody id), { r with bodies }, d)
  | (.ok (), bodies, d) =>
    (.ok (), { r with bodies, order := r.order.filter (· != id) },
      d.note .debug s!"destroyed body {id.text}")

/-- Lets one body act on the device; an unknown handle does nothing. -/
def onBody (act : Body → Device → Body × Device) (state : Registry × Device) (id : Handle) :
    Registry × Device :=
  match state.1.body? id with
  | none => state
  | some body =>
    let acted := act body state.2
    ({ state.1 with bodies := state.1.bodies.modify id fun _ => acted.1 }, acted.2)

/-- Uploads one body. -/
def upload (id : Handle) (r : Registry) (d : Device) : Registry × Device :=
  onBody Body.upload (r, d) id

/-- Releases the buffers of one body. -/
def release (id : Handle) (r : Registry) (d : Device) : Registry × Device :=
  onBody Body.release (r, d) id

/-- Uploads every body, in the order of creation. -/
def uploadAll (r : Registry) (d : Device) : Registry × Device :=
  r.order.foldl (onBody Body.upload) (r, d)

/-- Releases the buffers of every body, by increasing slot; the shared buffer stays. -/
def releaseAll (r : Registry) (d : Device) : Registry × Device :=
  (r.bodies.toList.map Prod.fst).foldl (onBody Body.release) (r, d)

/-- The calls that draw every body, in the order of creation. -/
def drawCalls (drawFaces drawEdges : Bool) (r : Registry) : List DrawCall :=
  (r.order.filterMap r.body?).flatMap (Body.drawCalls drawFaces drawEdges)

/-! ## Triangle records -/

/-- The records of the given bodies, in the given order; the first unknown handle is an error. -/
def gather (r : Registry) : List Handle → Except RegistryError (List TriangleRecord)
  | [] => .ok []
  | id :: ids =>
    match r.body? id with
    | none => .error (.unknownBody id)
    | some body =>
      match r.gather ids with
      | .error e => .error e
      | .ok records => .ok (body.records ++ records)

/-- The records of the given bodies, checked: a normal off its plane is a fault, after a warning. -/
def collect (ids : List Handle) (r : Registry) (d : Device) :
    Except Failure (List TriangleRecord) × Device :=
  match r.gather ids with
  | .error e => (.error (.error e), d)
  | .ok records =>
    match TriangleRecord.misaligned TriangleRecord.tolerance records with
    | [] => (.ok records, d)
    | first :: rest =>
      let text := s!"{rest.length + 1} of {records.length} triangles have a normal off their plane "
        ++ s!"(first: {first})"
      (.error (.fault .misalignedNormals), d.note .warn text)

/-- Packs the triangles of the given bodies into the shared buffer; returns how many there are. -/
def packBodies (binding : UInt32) (ids : List Handle) (r : Registry) (d : Device) :
    Except Failure UInt32 × Registry × Device :=
  match r.collect ids d with
  | (.error failure, d) => (.error failure, r, d)
  | (.ok records, d) =>
    let reserved := r.shared.reserve records.length d
    let stored := reserved.1.store records binding reserved.2
    (.ok stored.1.triangleCount, { r with shared := stored.1 }, stored.2)

/-- Packs the triangles of every body, in the order of creation. -/
def pack (binding : UInt32) (r : Registry) (d : Device) :
    Except Failure UInt32 × Registry × Device :=
  r.packBodies binding r.order d

/-- The shared buffer, once there has been an upload. -/
def triangleBinding? (r : Registry) : Option TriangleBinding :=
  r.shared.buffer.held.map fun buffer =>
    { binding := r.shared.binding
      buffer
      triangleCount := r.shared.triangleCount
      generation := r.shared.generation }

/-- Destroys the shared buffer, then those of the remaining bodies by increasing slot. -/
def dispose (r : Registry) (d : Device) : Device :=
  let freed := d.release r.shared.buffer
  let d := if freed.1 then freed.2.2.note .debug "released triangle storage" else freed.2.2
  SlotStore.disposeAll lifecycle r.bodies d

end Registry

end Facet
