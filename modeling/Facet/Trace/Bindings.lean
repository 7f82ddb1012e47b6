/-!
# Trace bindings

The binding indices of the ray tracer's three resources. The triangles lie where the caller says;
the parameters and the pixels take the lowest two indices that are left.
-/

namespace Facet.Trace

/-- The binding indices of the trace shader. -/
structure TraceBindings where
  params : UInt32
  triangles : UInt32
  pixels : UInt32
deriving DecidableEq, Repr

namespace TraceBindings

/-- The indices for triangles at a given one. -/
def ofTriangles (triangles : UInt32) : TraceBindings :=
  let params : UInt32 := if triangles = 0 then 1 else 0
  let next := params + 1
  { params, triangles, pixels := if triangles = next then next + 1 else next }

/-- The indices by name. -/
def text (b : TraceBindings) : String :=
  s!"TraceBindings \x7b params: {b.params}, triangles: {b.triangles}, pixels: {b.pixels} \x7d"

end TraceBindings

end Facet.Trace
