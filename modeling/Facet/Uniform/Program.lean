import Facet.Gpu
import Facet.Shader
import Facet.Uniform.Block

/-!
# Shader programs

A program owns a uniform block and the device buffer that the shader reads. Values are staged in
the block; a flush copies them to the buffer, and does nothing when no staged byte has changed.
-/

namespace Facet

/-- A shader program with its uniforms. -/
structure Program where
  label : String
  uniforms : UniformBlock
  buffer : Buffer

namespace Program

/-- A program of an accepted shader, its uniforms and buffer zero. -/
def create (label : String) (layout : UniformLayout) (d : Device) : Program × Device :=
  let uniforms := UniformBlock.ofLayout layout
  let size := uniforms.bytes.length
  let made := d.createBuffer size
  ({ label, uniforms, buffer := made.1 },
    made.2.note .debug ("program `" ++ label ++ s!"` ready ({size} uniform bytes)"))

/-- Compiles a shader and creates its program. -/
def compile (compiler : ShaderCompiler) (label source : String) (layout : UniformLayout)
    (d : Device) : Except ProgramError Program × Device :=
  match compiler.validate label source with
  | .error e => (.error e, d)
  | .ok () =>
    let made := create label layout d
    (.ok made.1, made.2)

/-- Stages a value, unless the block refuses it. -/
def setUniform (p : Program) (name : String) (value : UniformValue) :
    Except ProgramError Unit × Program :=
  let answered := p.uniforms.trySet name value
  (answered.1, { p with uniforms := answered.2 })

/-- Copies the staged bytes to the buffer, if any of them changed. -/
def flush (p : Program) : Program :=
  match p.uniforms.takeDirty with
  | (some bytes, uniforms) => { p with uniforms, buffer := p.buffer.write bytes }
  | (none, _) => p

/-- Destroys the buffer. -/
def dispose (p : Program) (d : Device) : Device := d.destroyBuffer p.buffer

end Program

end Facet
