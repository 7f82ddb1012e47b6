import Facet.Bytes
import Facet.Fault
import Facet.Matrix

/-!
# Uniform values

The kinds of value that a shader program reads as uniforms, their place in memory, and their
bytes.
-/

namespace Facet

/-- The type of a uniform field. -/
inductive UniformKind where
  | mat4
  | vec4
  | vec3
  | f32
  | u32
deriving DecidableEq, Repr

namespace UniformKind

/-- Offsets of fields of a kind are multiples of its alignment. -/
def alignment : UniformKind → Nat
  | mat4 | vec4 | vec3 => 16
  | f32 | u32 => 4

/-- The size in bytes. -/
def size : UniformKind → Nat
  | mat4 => 64
  | vec4 => 16
  | vec3 => 12
  | f32 | u32 => 4

def name : UniformKind → String
  | mat4 => "Mat4"
  | vec4 => "Vec4"
  | vec3 => "Vec3"
  | f32 => "F32"
  | u32 => "U32"

/-- The kind of a name. -/
def ofName? (s : String) : Option UniformKind :=
  [mat4, vec4, vec3, f32, u32].find? fun k => k.name == s

end UniformKind

/-- A value for a uniform field. -/
inductive UniformValue where
  | mat4 (m : Mat4)
  | vec4 (v : Vec4)
  | vec3 (v : Vec3)
  | f32 (x : Float32)
  | u32 (w : UInt32)
deriving DecidableEq

namespace UniformValue

def kind : UniformValue → UniformKind
  | mat4 _ => .mat4
  | vec4 _ => .vec4
  | vec3 _ => .vec3
  | f32 _ => .f32
  | u32 _ => .u32

/-- The bytes, a matrix column by column. -/
def bytes : UniformValue → List UInt8
  | mat4 m => Bytes.ofScalars m.toList
  | vec4 v => Bytes.ofScalars v.toList
  | vec3 v => Bytes.ofScalars v.toList
  | f32 x => Bytes.ofScalar x
  | u32 w => Bytes.ofWord w

theorem length_bytes (v : UniformValue) : v.bytes.length = v.kind.size := by
  cases v <;> rfl

end UniformValue

/-- Why a shader program cannot be built or its uniforms cannot be set. -/
inductive ProgramError where
  /-- The source does not parse; `log` is the compiler's report. -/
  | parse (label log : String)
  /-- The source parses but is not valid. -/
  | validation (label log : String)
  | unknownUniform (name : String)
  | uniformType (name : String) (expected found : UniformKind)
deriving DecidableEq, Repr

/-- The name of the kind of error. -/
def ProgramError.kind : ProgramError → String
  | .parse _ _ => "Parse"
  | .validation _ _ => "Validation"
  | .unknownUniform _ => "UnknownUniform"
  | .uniformType _ _ _ => "UniformType"

/-- The text shown to the user. -/
def ProgramError.message : ProgramError → String
  | .parse label log => "shader `" ++ label ++ "` failed to parse:\n" ++ log
  | .validation label log => "shader `" ++ label ++ "` failed validation:\n" ++ log
  | .unknownUniform name => "no uniform named `" ++ name ++ "`"
  | .uniformType name expected found =>
    "uniform `" ++ name ++ "` is " ++ expected.name ++ ", got " ++ found.name

end Facet
