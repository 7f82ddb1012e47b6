import Facet.Log

/-!
# Device memory

A graphics device as this library uses it: blocks of memory that are created filled with zeros,
written from their start, and destroyed. The `Device` is a ledger. It numbers the buffers in the
order of their creation and keeps the numbers of those destroyed, so "no buffer leaks" and "no
buffer is destroyed twice" are statements about two fields. What came before what is a statement
about a third, in which both kinds of event stand in one row. The ledger also collects the log lines
of the operations that went through it.
-/

namespace Facet

/-- A block of device memory. -/
structure Buffer where
  /-- The position in the order of creation, which tells two buffers apart. -/
  id : Nat
  /-- The size in bytes. -/
  size : Nat
  /-- The bytes at the front that have been written; all after them are zero. -/
  front : List UInt8 := []
deriving DecidableEq

namespace Buffer

/-- Every byte of the buffer. -/
def bytes (b : Buffer) : List UInt8 := b.front ++ List.replicate (b.size - b.front.length) 0

/-- Overwrites the start of the buffer. -/
def write (b : Buffer) (data : List UInt8) : Buffer :=
  { b with front := data ++ b.front.drop data.length }

end Buffer

/-- Something that happens to the buffer of a number. -/
inductive BufferEvent where
  | created (id : Nat)
  | destroyed (id : Nat)
deriving DecidableEq

/-- The buffers made and destroyed so far, and the lines logged. -/
structure Device where
  /-- How many buffers have been created; also the number of the next one. -/
  created : Nat := 0
  /-- The numbers of the destroyed buffers, in the order of their destruction. -/
  destroyed : List Nat := []
  /-- Creations and destructions in the order in which they happened. -/
  events : List BufferEvent := []
  /-- The largest storage buffer, in bytes, that a shader may be bound to. -/
  storageLimit : UInt32 := 134217728
  log : List Log.Line := []

namespace Device

/-- The device with one more buffer created. -/
def withCreated (d : Device) : Device :=
  { d with created := d.created + 1, events := d.events ++ [.created d.created] }

/-- Creates a buffer of zeros. -/
def createBuffer (d : Device) (size : Nat) : Buffer × Device :=
  ({ id := d.created, size }, d.withCreated)

/-- Creates a buffer that holds the given bytes. -/
def createBufferWith (d : Device) (data : List UInt8) : Buffer × Device :=
  ({ id := d.created, size := data.length, front := data }, d.withCreated)

/-- Destroys a buffer. -/
def destroyBuffer (d : Device) (b : Buffer) : Device :=
  { d with destroyed := d.destroyed ++ [b.id], events := d.events ++ [.destroyed b.id] }

/-- Adds a line to the log. -/
def note (d : Device) (level : Log.Level) (text : String) : Device :=
  { d with log := d.log ++ [⟨level, text⟩] }

/-- Adds lines to the log. -/
def noteAll (d : Device) (lines : List Log.Line) : Device := { d with log := d.log ++ lines }

/-- The same device with an empty log. -/
def withoutLog (d : Device) : Device := { d with log := [] }

end Device

/-- A place for one device resource, which may be empty. -/
structure Holder (Resource : Type) where
  held : Option Resource := none
deriving DecidableEq

namespace Holder

variable {Resource : Type}

def isHolding (h : Holder Resource) : Bool := h.held.isSome

/-- Moves the resource out. -/
def take (h : Holder Resource) : Option Resource × Holder Resource := (h.held, ⟨none⟩)

/-- Stores a resource and gives back the one that was held. -/
def replace (h : Holder Resource) (resource : Resource) : Option Resource × Holder Resource :=
  (h.held, ⟨some resource⟩)

end Holder

/-- Destroys the buffer that is held, if there is one, and says whether there was. -/
def Device.release (d : Device) (h : Holder Buffer) : Bool × Holder Buffer × Device :=
  match h.take with
  | (some buffer, emptied) => (true, emptied, d.destroyBuffer buffer)
  | (none, emptied) => (false, emptied, d)

end Facet
