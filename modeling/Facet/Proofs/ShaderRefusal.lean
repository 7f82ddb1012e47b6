import Facet.Viewer

/-!
# Refused shaders

A viewer has four shaders compiled before it loads anything, and buffers are created in between: the
mesh passes are there when the tracer's shaders are looked at, and its first program is there when
the second one's turn comes. The second one cannot fail any more. The compiler looks at the source
alone, and the source is the same.

So there are three ends, and `Renderers.compile_cases` lists them: the mesh passes are refused and
nothing was created; the tracer is refused and the mesh passes are given back; or compiling is no
more than creating.
-/

namespace Facet

variable {compiler : ShaderCompiler} {label source : String} {e : ProgramError}

open Trace (Tracer)

theorem ShaderCompiler.validate_eq_ok_iff :
    compiler.validate label source = .ok () ↔ compiler.refusal? source = none := by
  rw [validate]
  split
  · rename_i haccepted
    exact iff_of_true rfl haccepted
  · rename_i hrefused
    exact iff_of_false (by simp) (by rw [hrefused]; simp)
  · rename_i hrefused
    exact iff_of_false (by simp) (by rw [hrefused]; simp)

theorem Program.compile_of_error (h : compiler.validate label source = .error e)
    (layout : UniformLayout) (d : Device) :
    compile compiler label source layout d = (.error e, d) := by
  rw [compile, h]

theorem Program.compile_of_ok (h : compiler.validate label source = .ok ())
    (layout : UniformLayout) (d : Device) :
    compile compiler label source layout d
      = (.ok (create label layout d).1, (create label layout d).2) := by
  rw [compile, h]

/-- The mesh passes are refused before anything is created, or not at all. -/
theorem MeshPasses.compile_cases (compiler : ShaderCompiler) (d : Device) :
    (compiler.validate facesLabel shaderSource = .ok ()
      ∧ compile compiler d = (.ok (create d).1, (create d).2))
    ∨ ∃ e, compiler.validate facesLabel shaderSource = .error e
      ∧ compile compiler d = (.error e, d) := by
  rw [compile]
  cases hfaces : compiler.validate facesLabel shaderSource with
  | error e =>
      rw [Program.compile_of_error hfaces]
      exact .inr ⟨e, rfl, rfl⟩
  | ok =>
      have hedges : compiler.validate edgesLabel shaderSource = .ok () :=
        ShaderCompiler.validate_eq_ok_iff.mpr (ShaderCompiler.validate_eq_ok_iff.mp hfaces)
      rw [Program.compile_of_ok hfaces]
      dsimp only
      rw [Program.compile_of_ok hedges]
      exact .inl ⟨rfl, rfl⟩

theorem Trace.Tracer.compile_cases (compiler : ShaderCompiler) (binding : UInt32) (d : Device) :
    (validate compiler binding = .ok ()
      ∧ compile compiler binding d = (.ok (create binding d).1, (create binding d).2))
    ∨ ∃ e, validate compiler binding = .error e ∧ compile compiler binding d = (.error e, d) := by
  rw [compile]
  cases validate compiler binding with
  | error e => exact .inr ⟨e, rfl, rfl⟩
  | ok => exact .inl ⟨rfl, rfl⟩

namespace Renderers

/-- What the compiler has against the shaders of renderers; the mesh passes come first. -/
def validate (compiler : ShaderCompiler) (binding : UInt32) : Except SetupError Unit :=
  match compiler.validate MeshPasses.facesLabel MeshPasses.shaderSource with
  | .error e => .error (.mesh e)
  | .ok () => (Tracer.validate compiler binding).mapError .tracer

/-- A device on which the mesh passes have been created and given back. -/
def withdrawn (d : Device) : Device := (MeshPasses.create d).1.dispose (MeshPasses.create d).2

/-- **Everything `compile` can do**: create the renderers, or refuse and leave no buffer behind. -/
theorem compile_cases (compiler : ShaderCompiler) (binding : UInt32) (d : Device) :
    (validate compiler binding = .ok ()
      ∧ compile compiler binding d = (.ok (create binding d).1, (create binding d).2))
    ∨ ∃ e d', validate compiler binding = .error e ∧ compile compiler binding d = (.error e, d')
      ∧ (d' = d ∨ d' = withdrawn d) := by
  rw [compile, validate]
  rcases MeshPasses.compile_cases compiler d with ⟨hmesh, hcompile⟩ | ⟨e, hmesh, hcompile⟩
  · rw [hcompile, hmesh]
    dsimp only
    rcases Tracer.compile_cases compiler binding (MeshPasses.create d).2 with
      ⟨htracer, hcompile'⟩ | ⟨e, htracer, hcompile'⟩
    · rw [hcompile', htracer]
      exact .inl ⟨rfl, rfl⟩
    · rw [hcompile', htracer]
      exact .inr ⟨.tracer e, _, rfl, rfl, .inr rfl⟩
  · rw [hcompile, hmesh]
    exact .inr ⟨.mesh e, _, rfl, rfl, .inl rfl⟩

end Renderers

/-- Setting up is refused before the bodies are touched, or it is `setup`. -/
theorem Viewer.trySetup_cases (v : Viewer) (compiler : ShaderCompiler) (d : Device) :
    (Renderers.validate compiler v.settings.triangleBinding = .ok ()
      ∧ v.trySetup compiler d = ((v.setup d).1.mapError .ofPacking, (v.setup d).2))
    ∨ ∃ e d', Renderers.validate compiler v.settings.triangleBinding = .error e
      ∧ v.trySetup compiler d = (.error (.error e), v, d')
      ∧ (d' = d ∨ d' = Renderers.withdrawn d) := by
  rw [trySetup]
  rcases Renderers.compile_cases compiler v.settings.triangleBinding d with
    ⟨hvalid, hcompile⟩ | ⟨e, d', hvalid, hcompile, hleft⟩
  · rw [hcompile]
    exact .inl ⟨hvalid, rfl⟩
  · rw [hcompile]
    exact .inr ⟨e, d', hvalid, rfl, hleft⟩

end Facet
