import Facet.Uniform

/-!
# Uniform blocks

A layout places named fields one after the other, each at the first offset that its kind's
alignment allows. A block is the staged bytes of one layout. It is dirty from a change of its
bytes until they are taken; setting a field to the bytes it already holds changes nothing.
-/

namespace Facet

/-- The first multiple of `unit` that is not below `n`. -/
def roundUp (n unit : Nat) : Nat := (n + unit - 1) / unit * unit

/-- A named field at its offset. -/
structure UniformField where
  name : String
  kind : UniformKind
  offset : Nat
deriving DecidableEq, Repr

/-- The fields of a block, in the order of declaration. -/
structure UniformLayout where
  fields : List UniformField := []
  /-- Where the last field ends. -/
  extent : Nat := 0
deriving DecidableEq, Repr

namespace UniformLayout

def field? (l : UniformLayout) (name : String) : Option UniformField :=
  l.fields.find? fun f => f.name == name

def offset? (l : UniformLayout) (name : String) : Option Nat := (l.field? name).map (·.offset)

/-- Adds a field after the others. -/
def append (l : UniformLayout) (name : String) (kind : UniformKind) : UniformLayout :=
  let offset := roundUp l.extent kind.alignment
  { fields := l.fields ++ [{ name, kind, offset }], extent := offset + kind.size }

/-- Adds a field whose name must be new. -/
def declare (l : UniformLayout) (name : String) (kind : UniformKind) :
    Except Fault UniformLayout :=
  if (l.field? name).isSome then .error (.duplicateUniform name) else .ok (l.append name kind)

/-- The layout of fields in order of declaration. -/
def ofFields (fields : List (String × UniformKind)) : Except Fault UniformLayout :=
  fields.foldlM (fun l field => l.declare field.1 field.2) {}

/-- The size in bytes: the extent rounded up to 16, and never zero. -/
def size (l : UniformLayout) : Nat := max (roundUp l.extent 16) 16

end UniformLayout

/-- The staged bytes of a layout. -/
structure UniformBlock where
  layout : UniformLayout
  bytes : List UInt8
  /-- Whether the bytes changed since they were last taken. -/
  dirty : Bool

namespace UniformBlock

/-- A block of zeros. It is dirty, so that the first flush writes it. -/
def ofLayout (layout : UniformLayout) : UniformBlock :=
  { layout, bytes := List.replicate layout.size 0, dirty := true }

/-- The bytes from `offset` on, `size` of them. -/
def slice (bytes : List UInt8) (offset size : Nat) : List UInt8 := (bytes.drop offset).take size

/-- The bytes with those from `offset` on replaced. -/
def splice (bytes : List UInt8) (offset : Nat) (data : List UInt8) : List UInt8 :=
  bytes.take offset ++ data ++ bytes.drop (offset + data.length)

/-- Sets a field to a value of its kind, unless the name or the kind is refused. -/
def trySet (b : UniformBlock) (name : String) (value : UniformValue) :
    Except ProgramError Unit × UniformBlock :=
  match b.layout.field? name with
  | none => (.error (.unknownUniform name), b)
  | some field =>
    if field.kind ≠ value.kind then (.error (.uniformType name field.kind value.kind), b)
    else if slice b.bytes field.offset field.kind.size = value.bytes then (.ok (), b)
    else (.ok (), { b with bytes := splice b.bytes field.offset value.bytes, dirty := true })

/-- The block with a field set, or why it cannot be set. -/
def set (b : UniformBlock) (name : String) (value : UniformValue) :
    Except ProgramError UniformBlock :=
  let tried := b.trySet name value
  tried.1.map fun _ => tried.2

/-- The bytes, if they changed since the last time; the block is clean afterwards. -/
def takeDirty (b : UniformBlock) : Option (List UInt8) × UniformBlock :=
  if b.dirty then (some b.bytes, { b with dirty := false }) else (none, b)

end UniformBlock

end Facet
