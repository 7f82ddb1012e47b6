import Facet.Proofs.SharedTriangles
import Facet.Proofs.TraceBudget
import Facet.Trace.Tracer

/-!
# The buffers that a traced frame is bound to

The tracer caches its two bind groups. Three things make a cached group wrong: the pixel buffer was
replaced, the shared triangles moved to another buffer, or there was no group yet. `GroupsInv` is
what the cache relies on: a cached group refers to the buffers that are held, and to the triangles
of the generation that it was made for. While that generation lasts they lie in one buffer
(`SharedInv.same_object`), so the groups of a recorded frame always refer to what the frame was
given.
-/

namespace Facet.Trace

/-! ## Steps and runs -/

inductive Step where
  | call (c : Registry.Call)
  | render (surface : Extent) (view : View) (settings : RenderSettings)

/-- A tracer beside the registry whose triangles it reads. -/
structure Run where
  model : Registry.Run
  tracer : Tracer
  lines : List Log.Line := []

namespace Run

/-- A tracer that has just been made, beside a registry that has been in use. -/
def start (model : Registry.Run) (triangleBinding : UInt32) : Run :=
  let made := Tracer.create triangleBinding model.device
  { model := { model with device := made.2 }, tracer := made.1 }

/-- A frame is rendered from the shared triangles of the moment, if there have been any. -/
def step (run : Run) : Step → Run
  | .call c => { run with model := run.model.step c }
  | .render surface view settings =>
    match run.model.registry.triangleBinding? with
    | none => run
    | some triangles =>
      let traced := run.tracer.render surface triangles view settings run.model.device
      { model := { run.model with device := traced.2.2 }
        tracer := traced.2.1
        lines := run.lines ++ traced.2.2.log.drop run.model.device.log.length }

def after (run : Run) (steps : List Step) : Run := steps.foldl step run

end Run

/-! ## The resolution in the parameters -/

/-- Where the resolution stands in the parameters of either pass. -/
def TraceParams.resolutionOffset : Nat := 128

def PresentParams.resolutionOffset : Nat := 8

/-- The two words that a buffer holds at an offset. -/
def wordsAt (b : Buffer) (offset : Nat) : List UInt32 :=
  Bytes.words ((b.bytes.drop offset).take 8)

theorem wordsAt_write (b : Buffer) (before after : List UInt8) (e : Extent) :
    wordsAt (b.write (before ++ Bytes.ofWord e.width ++ Bytes.ofWord e.height ++ after))
      before.length = [e.width, e.height] := by
  have hbytes : ∃ rest, (b.write (before ++ Bytes.ofWord e.width ++ Bytes.ofWord e.height
      ++ after)).bytes = before ++ ((Bytes.ofWord e.width ++ Bytes.ofWord e.height) ++ rest) := by
    unfold Buffer.bytes Buffer.write
    simp only [List.append_assoc]
    exact ⟨_, rfl⟩
  obtain ⟨rest, hrest⟩ := hbytes
  have hlength : (Bytes.ofWord e.width ++ Bytes.ofWord e.height).length = 8 := rfl
  unfold wordsAt
  rw [hrest, List.drop_left, ← hlength, List.take_left, Bytes.words_ofWord_append,
    ← List.append_nil (Bytes.ofWord e.height), Bytes.words_ofWord_append]
  rfl

theorem wordsAt_traceParams (b : Buffer) (p : TraceParams) :
    wordsAt (b.write p.bytes) TraceParams.resolutionOffset
      = [p.resolution.width, p.resolution.height] := by
  have hlength : (Bytes.ofScalars (p.inverse.toList ++ p.origin.toList ++ p.background.toList
      ++ p.surface.toList ++ p.edge.toList)).length = TraceParams.resolutionOffset :=
    Bytes.length_ofScalars _
  have hwords := wordsAt_write b (Bytes.ofScalars (p.inverse.toList ++ p.origin.toList
    ++ p.background.toList ++ p.surface.toList ++ p.edge.toList))
    (Bytes.ofWord p.triangleCount ++ Bytes.ofScalar p.edgeBand) p.resolution
  rw [hlength, ← List.append_assoc] at hwords
  exact hwords

theorem wordsAt_presentParams (b : Buffer) (p : PresentParams) :
    wordsAt (b.write p.bytes) PresentParams.resolutionOffset
      = [p.resolution.width, p.resolution.height] := by
  have hwords := wordsAt_write b (Bytes.ofScalar p.surface.x ++ Bytes.ofScalar p.surface.y) []
    p.resolution
  rw [List.append_nil] at hwords
  exact hwords

/-! ## The invariant -/

/-- What a tracer holds, while the shared triangles are `shared`. -/
structure GroupsInv (shared : SharedTriangles) (t : Tracer) : Prop where
  params : t.params.isHolding = true
  presentParams : t.presentParams.isHolding = true
  size_eq : ∀ pixels, t.pixels.held = some pixels →
    pixels.size = 16 * t.resolution.width.toNat * t.resolution.height.toNat
  compute : ∀ g, t.computeGroup = some g →
    t.params.held.map Buffer.id = some g.params ∧ t.pixels.held.map Buffer.id = some g.pixels
      ∧ ∃ generation ≤ shared.generation, t.boundGeneration = some generation
        ∧ (generation = shared.generation →
          shared.buffer.held.map Buffer.id = some g.triangles)
  present : ∀ g, t.presentGroup = some g →
    t.presentParams.held.map Buffer.id = some g.params
      ∧ t.pixels.held.map Buffer.id = some g.pixels

variable {shared shared' : SharedTriangles} {t : Tracer}

/-- The triangles may move to another buffer, as long as that begins a generation. -/
theorem GroupsInv.of_shared (h : GroupsInv shared t)
    (hle : shared.generation ≤ shared'.generation)
    (hsame : shared'.generation = shared.generation →
      shared'.buffer.held.map Buffer.id = shared.buffer.held.map Buffer.id) :
    GroupsInv shared' t := by
  refine { h with compute := ?_ }
  intro g hg
  obtain ⟨hparams, hpixels, generation, hgen, hbound, htriangles⟩ := h.compute g hg
  refine ⟨hparams, hpixels, generation, hgen.trans hle, hbound, ?_⟩
  intro heq
  -- the generation of the group is the new one, so it was the old one too
  have hback : generation = shared.generation := by omega
  rw [hsame (by omega), htriangles hback]

theorem groupsInv_create (binding : UInt32) (d : Device) :
    GroupsInv shared (Tracer.create binding d).1 :=
  ⟨rfl, rfl, nofun, nofun, nofun⟩

/-! ## A frame -/

theorem GroupsInv.ensurePixels (h : GroupsInv shared t) (surface : Extent) (limit : UInt32)
    (d : Device) :
    ∃ t' d', t.ensurePixels (fitResolution surface limit.toUInt64) d = (t', d')
      ∧ GroupsInv shared t' ∧ t'.resolution = fitResolution surface limit.toUInt64
      ∧ t'.pixels.isHolding = true ∧ t'.bindings = t.bindings ∧ t'.warned = t.warned
      ∧ ∃ lines, d'.log = d.log ++ lines ∧ ∀ line ∈ lines, line.level = .debug := by
  unfold Tracer.ensurePixels
  split
  · rename_i hkeep
    obtain ⟨hholding, hresolution⟩ := Bool.and_eq_true_iff.mp hkeep
    exact ⟨t, d, rfl, h, eq_of_beq hresolution, hholding, rfl, rfl, [], (List.append_nil _).symm,
      nofun⟩
  · -- no group is left that could refer to the old pixels
    have hlog : (d.release t.pixels).2.2.log = d.log := by
      unfold Device.release Holder.take
      cases t.pixels.held <;> rfl
    refine ⟨_, _, rfl, ⟨h.params, h.presentParams, ?_, nofun, nofun⟩, rfl, rfl, rfl, rfl, [_],
      congrArg (· ++ [_]) hlog, ?_⟩
    · intro pixels hpixels
      obtain rfl := Option.some.inj hpixels
      exact toNat_pixelBytes surface limit
    · intro line hline
      rw [List.mem_singleton.mp hline]

/-- **The groups of a frame refer to the buffers of that frame**, cached or not. -/
theorem GroupsInv.ensureGroups (h : GroupsInv shared t) {triangles : TriangleBinding}
    (hbuffer : shared.buffer.held = some triangles.buffer)
    (hgeneration : triangles.generation = shared.generation) {params presentParams pixels : Buffer}
    (hparams : t.params.held = some params) (hpresent : t.presentParams.held = some presentParams)
    (hpixels : t.pixels.held = some pixels) :
    t.ensureGroups triangles = { t with
      computeGroup := some ⟨params.id, triangles.buffer.id, pixels.id⟩
      presentGroup := some ⟨presentParams.id, pixels.id⟩
      boundGeneration := some triangles.generation } := by
  unfold Tracer.ensureGroups
  by_cases hbound : t.boundGeneration = some triangles.generation
  · rw [if_pos hbound]
    dsimp only
    split
    · -- both are cached, for this generation
      rename_i hcached
      obtain ⟨hcompute, hpresent'⟩ := Bool.and_eq_true_iff.mp hcached
      obtain ⟨g, hg⟩ := Option.isSome_iff_exists.mp hcompute
      obtain ⟨g', hg'⟩ := Option.isSome_iff_exists.mp hpresent'
      obtain ⟨hgparams, hgpixels, generation, -, hgen, hgtriangles⟩ := h.compute g hg
      obtain ⟨hg'params, hg'pixels⟩ := h.present g' hg'
      rw [hbound, Option.some.injEq, hgeneration] at hgen
      have htriangles := hgtriangles hgen.symm
      rw [hparams, Option.map_some, Option.some.injEq] at hgparams
      rw [hpixels, Option.map_some, Option.some.injEq] at hgpixels hg'pixels
      rw [hpresent, Option.map_some, Option.some.injEq] at hg'params
      rw [hbuffer, Option.map_some, Option.some.injEq] at htriangles
      rw [hgparams, htriangles, hg'params, ← hbound]
      nth_rewrite 1 [hgpixels]
      rw [hg'pixels, ← hg, ← hg']
    · rw [hparams, hpresent, hpixels]
  · -- the compute group is of another generation, which makes both anew
    rw [if_neg hbound]
    dsimp only
    rw [hparams, hpresent, hpixels]
    rfl

/-- What a frame at a resolution has recorded for triangles, and left in the tracer. -/
structure Recorded (resolution : Extent) (triangles : TriangleBinding) (passes : TracePasses)
    (t : Tracer) : Prop where
  triangles_eq : passes.compute.triangles = triangles.buffer.id
  /-- Both passes go over the pixels that are held, which are as many as the resolution says. -/
  pixels_eq : ∃ pixels, t.pixels.held = some pixels
    ∧ passes.compute.pixels = pixels.id ∧ passes.present.pixels = pixels.id
    ∧ pixels.size = 16 * resolution.width.toNat * resolution.height.toNat
  params_eq : ∃ params, t.params.held = some params ∧ passes.compute.params = params.id
    ∧ wordsAt params TraceParams.resolutionOffset = [resolution.width, resolution.height]
  presentParams_eq : ∃ params, t.presentParams.held = some params
    ∧ passes.present.params = params.id
    ∧ wordsAt params PresentParams.resolutionOffset = [resolution.width, resolution.height]

/-- **A frame of the tracer's own triangles is recorded**, on the buffers it was given. -/
theorem GroupsInv.render_matched (h : GroupsInv shared t) {triangles : TriangleBinding}
    (hbuffer : shared.buffer.held = some triangles.buffer)
    (hgeneration : triangles.generation = shared.generation)
    (hbinding : triangles.binding = t.bindings.triangles) (surface : Extent) (view : View)
    (settings : RenderSettings) (d : Device) :
    ∃ passes t' d', t.render surface triangles view settings d = (some passes, t', d')
      ∧ Recorded (fitResolution surface d.storageLimit.toUInt64) triangles passes t'
      ∧ GroupsInv shared t'
      ∧ t'.bindings = t.bindings ∧ t'.warned = t.warned
      ∧ ∃ lines, d'.log = d.log ++ lines ∧ ∀ line ∈ lines, line.level = .debug := by
  obtain ⟨t₁, d₁, hfit, hinv, hresolution, hholding, hbindings, hwarned, hlines⟩ :=
    h.ensurePixels surface d.storageLimit d
  unfold Tracer.render
  rw [if_neg (not_not.mpr hbinding), hfit]
  dsimp only
  obtain ⟨params, hparams⟩ := Option.isSome_iff_exists.mp hinv.params
  obtain ⟨presentParams, hpresent⟩ := Option.isSome_iff_exists.mp hinv.presentParams
  obtain ⟨pixels, hpixels⟩ := Option.isSome_iff_exists.mp hholding
  have hsize := hinv.size_eq pixels hpixels
  rw [hresolution] at hsize
  rw [hinv.ensureGroups hbuffer hgeneration hparams hpresent hpixels]
  unfold Tracer.record
  dsimp only
  rw [hparams, hpresent]
  refine ⟨_, _, _, rfl, ⟨rfl, ⟨pixels, hpixels, rfl, rfl, hsize⟩, ?_, ?_⟩, ?_, hbindings, hwarned,
    hlines⟩
  · refine ⟨_, rfl, rfl, ?_⟩
    rw [wordsAt_traceParams, ← hresolution]
    rfl
  · refine ⟨_, rfl, rfl, ?_⟩
    rw [wordsAt_presentParams, ← hresolution]
    rfl
  · refine ⟨rfl, rfl, hinv.size_eq, ?_, ?_⟩
    · intro g hg
      obtain rfl := Option.some.inj hg
      refine ⟨rfl, congrArg (Option.map Buffer.id) hpixels, _, hgeneration.le, rfl, ?_⟩
      intro _
      exact congrArg (Option.map Buffer.id) hbuffer
    · intro g hg
      obtain rfl := Option.some.inj hg
      exact ⟨rfl, congrArg (Option.map Buffer.id) hpixels⟩

/-- Everything a frame of other triangles does: the first warns, and the rest do nothing. -/
theorem render_mismatched (t : Tracer) {triangles : TriangleBinding}
    (hbinding : triangles.binding ≠ t.bindings.triangles) (surface : Extent) (view : View)
    (settings : RenderSettings) (d : Device) :
    ∃ text, t.render surface triangles view settings d
      = (none, { t with warned := true }, if t.warned then d else d.note .warn text) := by
  unfold Tracer.render
  rw [if_pos hbinding]
  by_cases hwarned : t.warned = true
  · refine ⟨"", ?_⟩
    rw [if_pos hwarned, if_pos hwarned, ← hwarned]
  · exact ⟨_, by rw [if_neg hwarned, if_neg hwarned]⟩

/-! ## Runs -/

def warnings (lines : List Log.Line) : List Log.Line := lines.filter (·.level = .warn)

structure RunInv (run : Run) : Prop where
  shared : Registry.SharedInv run.model.registry.shared run.model.uploads
  groups : GroupsInv run.model.registry.shared run.tracer
  warned : (warnings run.lines).length = run.tracer.warned.toNat

theorem triangleBinding?_eq_some {r : Registry} {triangles : TriangleBinding}
    (h : r.triangleBinding? = some triangles) :
    r.shared.buffer.held = some triangles.buffer ∧ triangles.generation = r.shared.generation := by
  unfold Registry.triangleBinding? at h
  obtain ⟨buffer, hbuffer, rfl⟩ := Option.map_eq_some_iff.mp h
  exact ⟨hbuffer, rfl⟩

variable {run : Run}

theorem RunInv.call (h : RunInv run) (c : Registry.Call) : RunInv (run.step (.call c)) := by
  obtain ⟨hle, hsame⟩ := h.shared.same_object [c]
  refine ⟨?_, h.groups.of_shared hle hsame, h.warned⟩
  show Registry.SharedInv (run.model.step c).registry.shared (run.model.step c).uploads
  cases run.model.sharedStep c with
  | uploaded u _ huploads hshared => rw [huploads, hshared]; exact h.shared.into u _
  | untouched _ huploads hshared => rw [huploads, hshared]; exact h.shared

theorem RunInv.render (h : RunInv run) (surface : Extent) (view : View)
    (settings : RenderSettings) : RunInv (run.step (.render surface view settings)) := by
  unfold Run.step
  dsimp only
  cases hsome : run.model.registry.triangleBinding? with
  | none => exact h
  | some triangles =>
      dsimp only
      obtain ⟨hbuffer, hgeneration⟩ := triangleBinding?_eq_some hsome
      by_cases hbinding : triangles.binding = run.tracer.bindings.triangles
      · obtain ⟨passes, t', d', hrender, -, hgroups, -, hwarned, lines, hlog, hdebug⟩ :=
          h.groups.render_matched hbuffer hgeneration hbinding surface view settings
            run.model.device
        rw [hrender]
        refine ⟨h.shared, hgroups, ?_⟩
        have hnone : warnings lines = [] := by
          refine List.filter_eq_nil_iff.mpr ?_
          intro line hline
          simp [hdebug line hline]
        show (warnings (run.lines ++ d'.log.drop _)).length = t'.warned.toNat
        rw [hlog, List.drop_left, warnings, List.filter_append, ← warnings, ← warnings, hnone,
          List.append_nil, hwarned, h.warned]
      · obtain ⟨text, hrender⟩ := render_mismatched run.tracer hbinding surface view settings
          run.model.device
        rw [hrender]
        refine ⟨h.shared, { h.groups with }, ?_⟩
        have hbefore := h.warned
        cases hwarned : run.tracer.warned with
        | false =>
            rw [hwarned] at hbefore
            show (warnings (run.lines ++ (run.model.device.log ++ [_]).drop _)).length = 1
            rw [List.drop_left, warnings, List.filter_append, ← warnings, List.length_append,
              hbefore]
            rfl
        | true =>
            rw [hwarned] at hbefore
            show (warnings (run.lines ++ run.model.device.log.drop _)).length = 1
            rw [List.drop_length, List.append_nil, hbefore]
            rfl

/-- **Preserved by every step.** -/
theorem runInv_step (h : RunInv run) (step : Step) : RunInv (run.step step) := by
  cases step with
  | call c => exact h.call c
  | render surface view settings => exact h.render surface view settings

theorem runInv_after (capacity : UInt32) (d : Device) (calls : List Registry.Call)
    (binding : UInt32) (steps : List Step) :
    RunInv ((Run.start ((Registry.Run.start capacity d).after calls) binding).after steps) := by
  have hstart : RunInv (Run.start ((Registry.Run.start capacity d).after calls) binding) :=
    ⟨Registry.sharedInv_after capacity d calls, groupsInv_create binding _, rfl⟩
  generalize Run.start ((Registry.Run.start capacity d).after calls) binding = run at hstart
  induction steps generalizing run with
  | nil => exact hstart
  | cons step steps ih => exact ih (run.step step) (runInv_step hstart step)

/-- What holds of every frame, at any moment of a run. -/
structure TracesCurrent (run : Run) : Prop where
  /-- A frame of triangles at the tracer's binding records its passes; whatever it records, it
  records on the triangles and the pixels of that frame. -/
  recorded : ∀ triangles surface view settings,
    run.model.registry.triangleBinding? = some triangles →
      let frame := run.tracer.render surface triangles view settings run.model.device
      (frame.1.isSome = true ↔ triangles.binding = run.tracer.bindings.triangles)
        ∧ ∀ passes, frame.1 = some passes →
          Recorded (fitResolution surface run.model.device.storageLimit.toUInt64) triangles passes
            frame.2.1
  /-- A frame of other triangles leaves everything as it was, except that the first is reported. -/
  mismatched : ∀ triangles surface view settings,
    triangles.binding ≠ run.tracer.bindings.triangles →
      ∃ text, run.tracer.render surface triangles view settings run.model.device
        = (none, { run.tracer with warned := true },
          if run.tracer.warned then run.model.device else run.model.device.note .warn text)
  /-- The frames so far have logged one warning at most. -/
  warned_once : (warnings run.lines).length ≤ 1

/-- **A traced frame is bound to the buffers of its moment**, whatever the surfaces, and however
the registry has used its triangle buffer in between. -/
theorem tracesCurrent_after (capacity : UInt32) (d : Device) (calls : List Registry.Call)
    (binding : UInt32) (steps : List Step) :
    TracesCurrent ((Run.start ((Registry.Run.start capacity d).after calls) binding).after
      steps) := by
  have hinv := runInv_after capacity d calls binding steps
  generalize (Run.start ((Registry.Run.start capacity d).after calls) binding).after steps = run
    at hinv
  refine ⟨?_, ?_, ?_⟩
  · intro triangles surface view settings hsome
    obtain ⟨hbuffer, hgeneration⟩ := triangleBinding?_eq_some hsome
    dsimp only
    by_cases hbinding : triangles.binding = run.tracer.bindings.triangles
    · obtain ⟨passes, t', d', hrender, hrecorded, -⟩ := hinv.groups.render_matched hbuffer
        hgeneration hbinding surface view settings run.model.device
      rw [hrender]
      refine ⟨⟨fun _ => hbinding, fun _ => rfl⟩, ?_⟩
      intro passes' hpasses
      exact Option.some.inj hpasses ▸ hrecorded
    · obtain ⟨text, hrender⟩ := render_mismatched run.tracer hbinding surface view settings
        run.model.device
      rw [hrender]
      exact ⟨⟨nofun, fun h => absurd h hbinding⟩, nofun⟩
  · intro triangles surface view settings hbinding
    exact render_mismatched run.tracer hbinding surface view settings run.model.device
  · rw [hinv.warned]
    exact Bool.toNat_le _

end Facet.Trace
