import Facet.Shader
import Facet.Trace.Bindings

/-!
# The shaders of the ray tracer

The compute shader that casts one ray per pixel against every triangle, and the shader that shows
the pixels. The first has its resource declarations written in front of the fixed part, because the
caller chooses one of the binding indices.
-/

namespace Facet.Trace

/-- The fixed part of the shader, line by line. -/
def shaderLines : List String :=
  [ "// Brute-force ray casting against every uploaded triangle.",
    "//",
    "// `params`, `triangles` and `pixels` are declared by the host, which picks",
    "// their binding indices.",
    "",
    "struct Triangle \x7b",
    "    normal: vec4<f32>,",
    "    nodes: array<vec4<f32>, 3>,",
    "\x7d",
    "",
    "struct TraceParams \x7b",
    "    inv_view_proj: mat4x4<f32>,",
    "    origin: vec4<f32>,",
    "    background: vec4<f32>,",
    "    surface: vec4<f32>,",
    "    edge: vec4<f32>,",
    "    resolution: vec2<u32>,",
    "    triangle_count: u32,",
    "    edge_band: f32,",
    "\x7d",
    "",
    "struct Hit \x7b",
    "    t: f32,",
    "    // Smallest barycentric weight; near zero on an edge.",
    "    edge: f32,",
    "    // |cos| between the ray and the face normal.",
    "    facing: f32,",
    "\x7d",
    "",
    "const NO_HIT: f32 = 3.0e38;",
    "const EPSILON: f32 = 1e-6;",
    "",
    "fn intersect(origin: vec3<f32>, dir: vec3<f32>, tri: Triangle) -> Hit \x7b",
    "    let miss = Hit(NO_HIT, 0.0, 0.0);",
    "",
    "    let n = tri.normal.xyz;",
    "    let denom = dot(dir, n);",
    "    if (abs(denom) < EPSILON) \x7b",
    "        return miss;",
    "    \x7d",
    "",
    "    let a = tri.nodes[0].xyz;",
    "    let b = tri.nodes[1].xyz;",
    "    let c = tri.nodes[2].xyz;",
    "",
    "    let t = dot(a - origin, n) / denom;",
    "    if (t <= 0.0) \x7b",
    "        return miss;",
    "    \x7d",
    "",
    "    let area = dot(cross(b - a, c - a), n);",
    "    if (abs(area) < EPSILON) \x7b",
    "        return miss;",
    "    \x7d",
    "",
    "    let p = origin + t * dir;",
    "    let wa = dot(cross(c - b, p - b), n) / area;",
    "    let wb = dot(cross(a - c, p - c), n) / area;",
    "    let wc = 1.0 - wa - wb;",
    "    if (wa < 0.0 || wb < 0.0 || wc < 0.0) \x7b",
    "        return miss;",
    "    \x7d",
    "",
    "    return Hit(t, min(wa, min(wb, wc)), abs(denom));",
    "\x7d",
    "",
    "@compute @workgroup_size(8, 8)",
    "fn cs_main(@builtin(global_invocation_id) id: vec3<u32>) \x7b",
    "    if (id.x >= params.resolution.x || id.y >= params.resolution.y) \x7b",
    "        return;",
    "    \x7d",
    "",
    "    let size = vec2<f32>(params.resolution);",
    "    let ndc = vec2<f32>(",
    "        (f32(id.x) + 0.5) / size.x * 2.0 - 1.0,",
    "        1.0 - (f32(id.y) + 0.5) / size.y * 2.0,",
    "    );",
    "    let near = params.inv_view_proj * vec4<f32>(ndc, 0.0, 1.0);",
    "    let far = params.inv_view_proj * vec4<f32>(ndc, 1.0, 1.0);",
    "",
    "    let origin = params.origin.xyz;",
    "    let dir = normalize(far.xyz / far.w - near.xyz / near.w);",
    "",
    "    var closest = Hit(NO_HIT, 0.0, 0.0);",
    "    for (var i = 0u; i < params.triangle_count; i = i + 1u) \x7b",
    "        let hit = intersect(origin, dir, triangles[i]);",
    "        if (hit.t < closest.t) \x7b",
    "            closest = hit;",
    "        \x7d",
    "    \x7d",
    "",
    "    var color = params.background;",
    "    if (closest.t < NO_HIT) \x7b",
    "        if (closest.edge < params.edge_band) \x7b",
    "            color = params.edge;",
    "        \x7d else \x7b",
    "            color = vec4<f32>(params.surface.rgb * (0.35 + 0.65 * closest.facing), 1.0);",
    "        \x7d",
    "    \x7d",
    "",
    "    pixels[id.y * params.resolution.x + id.x] = color;",
    "\x7d" ]

/-- The declarations of the three resources at their binding indices. -/
def TraceBindings.declarations (b : TraceBindings) : List String :=
  [ s!"@group(0) @binding({b.params}) var<uniform> params: TraceParams;",
    s!"@group(0) @binding({b.triangles}) var<storage, read> triangles: array<Triangle>;",
    s!"@group(0) @binding({b.pixels}) var<storage, read_write> pixels: array<vec4<f32>>;" ]

/-- The whole shader: declarations, a blank line, the fixed part. -/
def TraceBindings.shaderSource (b : TraceBindings) : String :=
  shaderText (b.declarations ++ [""] ++ shaderLines)

/-- The shader that spreads the traced pixels over the surface. -/
def presentSource : String :=
  shaderText
    [ "// Copies the ray tracer's pixel buffer to the surface with a full-screen triangle.",
      "",
      "struct PresentParams \x7b",
      "    surface: vec2<f32>,",
      "    trace: vec2<u32>,",
      "\x7d",
      "",
      "@group(0) @binding(0) var<uniform> present: PresentParams;",
      "@group(0) @binding(1) var<storage, read> pixels: array<vec4<f32>>;",
      "",
      "@vertex",
      "fn vs_main(@builtin(vertex_index) index: u32) -> @builtin(position) vec4<f32> \x7b",
      "    let uv = vec2<f32>(f32((index << 1u) & 2u), f32(index & 2u));",
      "    return vec4<f32>(uv * 2.0 - 1.0, 0.0, 1.0);",
      "\x7d",
      "",
      "@fragment",
      "fn fs_main(@builtin(position) frag: vec4<f32>) -> @location(0) vec4<f32> \x7b",
      "    let scale = vec2<f32>(present.trace) / present.surface;",
      "    let p = min(vec2<u32>(frag.xy * scale), present.trace - vec2<u32>(1u));",
      "    return pixels[p.y * present.trace.x + p.x];",
      "\x7d" ]

end Facet.Trace
