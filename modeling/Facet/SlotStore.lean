/-!
# Slot stores

A store of at most `capacity` objects, each under a small number that stays its own until the
object is destroyed. Freed numbers are handed out again, the lowest first, before a new one is
used.

The numbers below the high-water mark have been used at least once; each of them either holds an
object or is listed, in increasing order, as free. Objects are made and disposed of by a
`Lifecycle`, which acts on a world of its own: the store says when, the lifecycle says how.
-/

namespace Facet

/-- The number of a stored object. -/
structure Handle where
  raw : UInt32
deriving DecidableEq, Repr

namespace Handle

/-- The slot that a handle names. -/
def index (h : Handle) : Nat := h.raw.toNat

/-- The handle of a slot. -/
def ofIndex (i : Nat) : Handle := ⟨UInt32.ofNat i⟩

def text (h : Handle) : String := s!"#{h.index}"

end Handle

/-- Why an operation on a handle is refused. -/
inductive StoreError where
  /-- No live object has this handle. -/
  | outOfRange (handle : Handle)
deriving DecidableEq, Repr

/-- The name of the kind of error. -/
def StoreError.kind : StoreError → String
  | .outOfRange _ => "OutOfRange"

/-- The text shown to the user. -/
def StoreError.message : StoreError → String
  | .outOfRange handle => s!"invalid object id: {handle.index}"

/-- How objects come from seeds and how they end, each with an effect on a world. -/
structure Lifecycle (Seed Object World : Type) where
  allocate : Seed → World → Object × World
  dispose : Object → World → World

/-- Objects by slot. -/
structure SlotStore (Object : Type) where
  /-- One entry per number that may be handed out. -/
  slots : Array (Option Object)
  /-- The first number that was never used. -/
  highWater : Nat := 0
  /-- The used numbers that hold no object, in increasing order. -/
  free : List Nat := []

namespace SlotStore

variable {Seed Object World : Type}

/-- The capacity where none is given. -/
def defaultCapacity : Nat := 100

/-- The store without objects. -/
def empty (capacity : Nat) : SlotStore Object := { slots := Array.replicate capacity none }

def capacity (s : SlotStore Object) : Nat := s.slots.size

/-- The object under a handle. -/
def get? (s : SlotStore Object) (h : Handle) : Option Object := (s.slots[h.index]?).join

def contains (s : SlotStore Object) (h : Handle) : Bool := (s.get? h).isSome

/-- The number of live objects. -/
def size (s : SlotStore Object) : Nat := s.highWater - s.free.length

def isEmpty (s : SlotStore Object) : Bool := s.size == 0

/-- The live objects with their handles, by increasing slot. -/
def toList (s : SlotStore Object) : List (Handle × Object) :=
  (s.slots.toList.take s.highWater).zipIdx.filterMap fun entry =>
    entry.1.map fun object => (Handle.ofIndex entry.2, object)

/-! ## Creating and destroying -/

/-- The number for the next object, taken off the free ones or off the unused ones. -/
def reserve (s : SlotStore Object) : Option (Nat × SlotStore Object) :=
  match s.free with
  | i :: rest => some (i, { s with free := rest })
  | [] =>
    if s.highWater < s.capacity then some (s.highWater, { s with highWater := s.highWater + 1 })
    else none

/-- Puts an object into a slot. -/
def put (s : SlotStore Object) (i : Nat) (object : Object) : SlotStore Object :=
  { s with slots := s.slots.setIfInBounds i (some object) }

/-- Makes an object and stores it; a full store makes none. -/
def create (l : Lifecycle Seed Object World) (seed : Seed) (s : SlotStore Object) (w : World) :
    Option Handle × SlotStore Object × World :=
  match s.reserve with
  | none => (none, s, w)
  | some (i, reserved) =>
    let made := l.allocate seed w
    (some (Handle.ofIndex i), reserved.put i made.1, made.2)

/-- Inserts a number into an increasing list. -/
def insertFree (i : Nat) : List Nat → List Nat
  | [] => [i]
  | j :: rest =>
    if i < j then i :: j :: rest
    else if i = j then j :: rest
    else j :: insertFree i rest

/-- Takes an object out, disposes of it and frees its number. -/
def destroy (l : Lifecycle Seed Object World) (h : Handle) (s : SlotStore Object) (w : World) :
    Except StoreError Unit × SlotStore Object × World :=
  match s.get? h with
  | none => (.error (.outOfRange h), s, w)
  | some object =>
    let emptied := { s with
      slots := s.slots.setIfInBounds h.index none
      free := insertFree h.index s.free }
    (.ok (), emptied, l.dispose object w)

/-- Disposes of every live object, by increasing slot. -/
def disposeAll (l : Lifecycle Seed Object World) (s : SlotStore Object) (w : World) : World :=
  s.toList.foldl (fun w entry => l.dispose entry.2 w) w

/-! ## Changing objects in place -/

/-- Changes the object under a handle, if there is one. -/
def modify (s : SlotStore Object) (h : Handle) (f : Object → Object) : SlotStore Object :=
  { s with slots := s.slots.modify h.index (Option.map f) }

/-- Changes every live object. -/
def modifyAll (s : SlotStore Object) (f : Handle → Object → Object) : SlotStore Object :=
  { s with slots := s.slots.mapIdx fun i slot =>
      if i < s.highWater then slot.map (f (Handle.ofIndex i)) else slot }

end SlotStore

end Facet
