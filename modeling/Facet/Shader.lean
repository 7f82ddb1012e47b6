import Facet.Uniform

/-!
# Shader sources

A shader is handed to the device as text, after a compiler has read it. Which texts a compiler
refuses is its own affair: the library takes the compiler as it is (`ShaderCompiler`), and every
shader passes it before anything is created for it.
-/

namespace Facet

/-- What a compiler has against a shader, and its report. -/
inductive ShaderRefusal where
  /-- The source does not parse. -/
  | parse (report : String)
  /-- The source parses but is not valid. -/
  | validation (report : String)
deriving DecidableEq, Repr

/-- A shader compiler, as far as it tells sources that can be run from others. -/
structure ShaderCompiler where
  /-- What it has against a source; it looks at nothing else. -/
  refusal? : String → Option ShaderRefusal := fun _ => none

/-- Has a source compiled; the label is for the error. -/
def ShaderCompiler.validate (compiler : ShaderCompiler) (label source : String) :
    Except ProgramError Unit :=
  match compiler.refusal? source with
  | none => .ok ()
  | some (.parse report) => .error (.parse label report)
  | some (.validation report) => .error (.validation label report)

/-- The text of a source that is given line by line. -/
def shaderText (lines : List String) : String := String.join (lines.map (· ++ "\n"))

end Facet
