import Mathlib
import Facet.Screen

/-!
# The calls made to a surface

A screen keeps two sizes. The window's may be zero; that of the configuration must not be, because
a surface cannot be set up with nothing to draw on. While the window is minimized the two differ on
purpose, and a lost surface may have to be set up again at any time, so whether a set-up carries
the right size depends on the order of resizes, sizes of zero and errors.

`Run` records every call to the surface together with the size of the window at that moment, and
the size that every frame was drawn for. The record is proof-only state. `Outcome` says once what
a resize or a frame can do to it, and `SurfaceInv` follows.
-/

namespace Facet.Screen

variable {State : Type}

/-! ## Steps and runs -/

inductive Step (State : Type) where
  | resize (size : Extent)
  | render (failure : Option SurfaceError) (draw : Extent → State → Device → State × Device)

/-- A call to the surface, and the size of the window when it was made. -/
structure Moment where
  size : Extent
  call : SurfaceCall
deriving DecidableEq

/-- A screen with what is drawn on it, and a record of what has happened, the latest last. -/
structure Run (State : Type) where
  screen : Screen
  state : State
  device : Device
  drawn : List Extent := []
  history : List Moment

def recording (draw : Extent → State → Device → State × Device) (size : Extent)
    (s : State × List Extent) (d : Device) : (State × List Extent) × Device :=
  let drawn := draw size s.1 d
  ((drawn.1, s.2 ++ [size]), drawn.2)

/-- The calls that a step has added to those of a screen, at the size it has left. -/
def newMoments (s s' : Screen) : List Moment :=
  (s'.calls.drop s.calls.length).map (Moment.mk s'.size)

namespace Run

def start (s : Screen) (state : State) (d : Device) : Run State :=
  { screen := s, state, device := d, history := s.calls.map (Moment.mk s.size) }

def step (run : Run State) : Step State → Run State
  | .resize size =>
    let screen := run.screen.resize size
    { run with screen, history := run.history ++ newMoments run.screen screen }
  | .render failure draw =>
    let rendered :=
      run.screen.render failure (recording draw) (run.state, run.drawn) run.device
    { screen := rendered.2.1
      state := rendered.2.2.1.1
      device := rendered.2.2.2
      drawn := rendered.2.2.1.2
      history := run.history ++ newMoments run.screen rendered.2.1 }

def after (run : Run State) (steps : List (Step State)) : Run State := steps.foldl step run

end Run

/-! ## What a step does -/

def shownFor (size : Extent) : List Moment :=
  [⟨size, .acquire none⟩, ⟨size, .notify⟩, ⟨size, .present⟩]

/-- Everything a step can do to the size, the configuration and the record. -/
inductive Outcome (run run' : Run State) : Prop where
  /-- The surface was left alone: the window is minimized, or has just become so. -/
  | idle :
      run'.history = run.history → run'.drawn = run.drawn →
      run'.screen.calls = run.screen.calls →
      run'.screen.config = run.screen.config →
      (run'.screen.size.isDrawable = true → run'.screen.size = run.screen.size) →
      Outcome run run'
  | resized :
      run'.screen.size.isDrawable = true → run'.drawn = run.drawn →
      run'.screen.config = { run.screen.config with size := run'.screen.size } →
      run'.screen.calls = run.screen.calls ++ [.configure run'.screen.config] →
      run'.history = run.history ++ [⟨run'.screen.size, .configure run'.screen.config⟩] →
      Outcome run run'
  /-- No image could be acquired; the surface may have been set up once more. -/
  | refused (e : SurfaceError) (again : List SurfaceCall) :
      run.screen.size.isDrawable = true → run'.drawn = run.drawn →
      run'.screen.size = run.screen.size → run'.screen.config = run.screen.config →
      (again = [] ∨ again = [.configure run.screen.config]) →
      run'.screen.calls = run.screen.calls ++ [.acquire (some e)] ++ again →
      run'.history = run.history ++ [⟨run.screen.size, .acquire (some e)⟩]
        ++ again.map (Moment.mk run.screen.size) →
      Outcome run run'
  | shown :
      run.screen.size.isDrawable = true → run'.drawn = run.drawn ++ [run.screen.size] →
      run'.screen.size = run.screen.size → run'.screen.config = run.screen.config →
      run'.screen.calls = run.screen.calls ++ (shownFor run.screen.size).map Moment.call →
      run'.history = run.history ++ shownFor run.screen.size →
      Outcome run run'

theorem newMoments_of_calls {s s' : Screen} {calls : List SurfaceCall}
    (h : s'.calls = s.calls ++ calls) : newMoments s s' = calls.map (Moment.mk s'.size) := by
  rw [newMoments, h, List.drop_left]

theorem outcome_resize (run : Run State) (size : Extent) :
    Outcome run (run.step (.resize size)) := by
  cases hsize : size.isDrawable with
  | false =>
      have hscreen : run.screen.resize size = { run.screen with size } := by
        rw [resize, hsize]; rfl
      have hcalls : (run.screen.resize size).calls = run.screen.calls ++ [] := by
        rw [hscreen, List.append_nil]
      refine .idle ?_ rfl ?_ ?_ ?_
      · show run.history ++ newMoments run.screen (run.screen.resize size) = run.history
        rw [newMoments_of_calls hcalls]
        exact List.append_nil _
      · show (run.screen.resize size).calls = _
        rw [hscreen]
      · show (run.screen.resize size).config = _
        rw [hscreen]
      · intro hdrawable
        have hsize' : (run.step (.resize size)).screen.size = size := by
          show (run.screen.resize size).size = size
          rw [hscreen]
        rw [hsize', hsize] at hdrawable
        exact absurd hdrawable (by simp)
  | true =>
      have hscreen : run.screen.resize size
          = configure { run.screen with size, config := { run.screen.config with size } } := by
        rw [resize, hsize]; rfl
      have hstep : (run.step (.resize size)).screen
          = configure { run.screen with size, config := { run.screen.config with size } } := hscreen
      refine .resized ?_ rfl ?_ ?_ ?_
      · rw [hstep]; exact hsize
      · rw [hstep]; rfl
      · rw [hstep]; rfl
      · show run.history ++ newMoments run.screen (run.screen.resize size) = _
        rw [hstep, hscreen, newMoments_of_calls rfl]
        rfl

/-- Everything `handleError` does to a screen: it may set the surface up once more. -/
theorem handleError_cases (e : SurfaceError) (s : Screen) (d : Device) :
    ∃ again, (again = [] ∨ again = [.configure s.config])
      ∧ (s.handleError e d).2.1 = { s with calls := s.calls ++ again } := by
  have hsame : s = { s with calls := s.calls ++ [] } := by rw [List.append_nil]
  rw [handleError]
  split
  · by_cases hsize : s.size.isDrawable = true
    · exact ⟨[.configure s.config], .inr rfl, by simp only [hsize, if_true]; rfl⟩
    · exact ⟨[], .inl rfl, by simp only [hsize]; exact hsame⟩
  · exact ⟨[], .inl rfl, hsame⟩
  · exact ⟨[], .inl rfl, hsame⟩

theorem step_render_minimized {run : Run State} (hsize : run.screen.size.isDrawable = false)
    (failure : Option SurfaceError) (draw : Extent → State → Device → State × Device) :
    run.step (.render failure draw) = run := by
  have hcalls : run.screen.calls = run.screen.calls ++ [] := (List.append_nil _).symm
  have hnew : newMoments run.screen run.screen = [] := newMoments_of_calls hcalls
  rw [Run.step, render, hsize]
  show { run with history := run.history ++ newMoments run.screen run.screen } = run
  rw [hnew, List.append_nil]

theorem outcome_render_none {run : Run State} (hsize : run.screen.size.isDrawable = true)
    (draw : Extent → State → Device → State × Device) :
    (run.step (.render none draw)).history = run.history ++ shownFor run.screen.size
      ∧ Outcome run (run.step (.render none draw)) := by
  have hcalls : (((run.screen.call (.acquire none)).call .notify).call .present).calls
      = run.screen.calls ++ [.acquire none, .notify, .present] := by
    show run.screen.calls ++ [_] ++ [_] ++ [_] = _
    rw [List.append_assoc, List.append_assoc]
    rfl
  have hnew := newMoments_of_calls hcalls
  rw [Run.step, render, hsize]
  have hhistory := congrArg (run.history ++ ·) hnew
  exact ⟨hhistory, .shown hsize rfl rfl rfl hcalls hhistory⟩

theorem outcome_render_some {run : Run State} (hsize : run.screen.size.isDrawable = true)
    (e : SurfaceError) (draw : Extent → State → Device → State × Device) :
    (∃ rest, (run.step (.render (some e) draw)).history
        = run.history ++ ⟨run.screen.size, .acquire (some e)⟩ :: rest)
      ∧ Outcome run (run.step (.render (some e) draw)) := by
  -- the failed attempt comes first; setting up again may follow it
  obtain ⟨again, hagain, hscreen⟩ :=
    handleError_cases e (run.screen.call (.acquire (some e))) run.device
  have hcalls : ((run.screen.call (.acquire (some e))).handleError e run.device).2.1.calls
      = run.screen.calls ++ ([.acquire (some e)] ++ again) := by
    rw [hscreen, ← List.append_assoc]
    rfl
  have hnew := newMoments_of_calls hcalls
  rw [hscreen] at hcalls hnew
  rw [Run.step, render, hsize]
  simp only [Bool.not_true, Bool.false_eq_true, if_false]
  rw [hscreen]
  have hhistory := congrArg (run.history ++ ·) hnew
  refine ⟨⟨_, hhistory⟩, .refused e again hsize rfl rfl rfl hagain ?_ ?_⟩
  · rw [List.append_assoc]
    exact hcalls
  · rw [List.append_assoc]
    exact hhistory

/-- **Every step has one of the four outcomes.** -/
theorem outcome (run : Run State) (step : Step State) : Outcome run (run.step step) := by
  cases step with
  | resize size => exact outcome_resize run size
  | render failure draw =>
      cases hsize : run.screen.size.isDrawable with
      | false =>
          rw [step_render_minimized hsize]
          exact .idle rfl rfl rfl rfl fun _ => rfl
      | true =>
          cases failure with
          | none => exact (outcome_render_none hsize draw).2
          | some e => exact (outcome_render_some hsize e draw).2

/-! ## The record -/

/-- The size that a call sets the surface up for, if it does. -/
def Moment.configured? (m : Moment) : Option Extent :=
  match m.call with
  | .configure config => some config.size
  | _ => none

/-- The size that the surface was last set up for. -/
def lastConfigured (history : List Moment) : Option Extent :=
  (history.filterMap Moment.configured?).getLast?

/-- Whether a call belongs to a frame that is shown: an image acquired, or what follows it. -/
def Moment.isShown (m : Moment) : Bool :=
  m.call = .acquire none || m.call = .notify || m.call = .present

/-- A set-up carries the size of the window, which is not zero, and the choices of `picked`. -/
def ConfiguresWindow (picked : SurfaceConfig) (history : List Moment) : Prop :=
  ∀ size config, ⟨size, .configure config⟩ ∈ history →
    size.isDrawable = true ∧ config = { picked with size }

/-- An image is acquired, or tried to, only while the window has the size, not zero, that the
surface was last set up for. -/
def AcquiresConfigured (history : List Moment) : Prop :=
  ∀ before size failure rest, history = before ++ ⟨size, .acquire failure⟩ :: rest →
    size.isDrawable = true ∧ lastConfigured before = some size

theorem lastConfigured_snoc (history : List Moment) (m : Moment) :
    lastConfigured (history ++ [m]) = m.configured?.or (lastConfigured history) := by
  rw [lastConfigured, List.filterMap_append, List.getLast?_append]
  cases h : m.configured? with
  | none => simp [h, lastConfigured]
  | some size => simp [h]

theorem ConfiguresWindow.snoc {picked : SurfaceConfig} {history : List Moment}
    (h : ConfiguresWindow picked history) {m : Moment}
    (hm : ∀ config, m.call = .configure config →
      m.size.isDrawable = true ∧ config = { picked with size := m.size }) :
    ConfiguresWindow picked (history ++ [m]) := by
  intro size config hmem
  rcases List.mem_append.mp hmem with hmem | hmem
  · exact h size config hmem
  · obtain rfl := List.mem_singleton.mp hmem
    exact hm config rfl

theorem AcquiresConfigured.snoc {history : List Moment} (h : AcquiresConfigured history)
    {m : Moment} (hm : ∀ failure, m.call = .acquire failure →
      m.size.isDrawable = true ∧ lastConfigured history = some m.size) :
    AcquiresConfigured (history ++ [m]) := by
  intro before size failure rest heq
  -- the attempt is the new call, or the new call is the last of those after it
  rcases List.eq_nil_or_concat rest with hrest | ⟨rest', last, hrest⟩
  · subst hrest
    obtain ⟨hbefore, hnew⟩ := List.append_inj' heq rfl
    obtain rfl := List.singleton_inj.mp hnew
    rw [← hbefore]
    exact hm failure rfl
  · rw [hrest, List.concat_eq_append, ← List.cons_append, ← List.append_assoc] at heq
    exact h before size failure rest' (List.append_inj' heq rfl).1

/-! ## The invariant -/

/-- What the record says of a surface whose format and modes were those of `picked`. -/
structure SurfaceInv (picked : SurfaceConfig) (run : Run State) : Prop where
  calls_eq : run.history.map Moment.call = run.screen.calls
  picked_eq : run.screen.config = { picked with size := run.screen.config.size }
  drawable : run.screen.config.size.isDrawable = true
  current : run.screen.size.isDrawable = true → run.screen.config.size = run.screen.size
  last_eq : lastConfigured run.history = some run.screen.config.size
  configures : ConfiguresWindow picked run.history
  acquires : AcquiresConfigured run.history
  shown_eq : run.history.filter Moment.isShown = run.drawn.flatMap shownFor

variable {picked : SurfaceConfig} {run run' : Run State}

theorem SurfaceInv.idle (h : SurfaceInv picked run) (hhistory : run'.history = run.history)
    (hdrawn : run'.drawn = run.drawn) (hcalls : run'.screen.calls = run.screen.calls)
    (hconfig : run'.screen.config = run.screen.config)
    (hsize : run'.screen.size.isDrawable = true → run'.screen.size = run.screen.size) :
    SurfaceInv picked run' := by
  refine ⟨?_, ?_, ?_, ?_, ?_, ?_, ?_, ?_⟩
  · rw [hhistory, hcalls]; exact h.calls_eq
  · rw [hconfig]; exact h.picked_eq
  · rw [hconfig]; exact h.drawable
  · intro hdrawable
    have hsame := hsize hdrawable
    rw [hconfig, hsame]
    exact h.current (hsame ▸ hdrawable)
  · rw [hhistory, hconfig]; exact h.last_eq
  · rw [hhistory]; exact h.configures
  · rw [hhistory]; exact h.acquires
  · rw [hhistory, hdrawn]; exact h.shown_eq

theorem SurfaceInv.configured (h : SurfaceInv picked run) {size : Extent}
    (hsize : size.isDrawable = true) (hsize' : run'.screen.size = size)
    (hdrawn : run'.drawn = run.drawn)
    (hconfig : run'.screen.config = { run.screen.config with size })
    (hcalls : run'.screen.calls = run.screen.calls ++ [.configure run'.screen.config])
    (hhistory : run'.history = run.history ++ [⟨size, .configure run'.screen.config⟩]) :
    SurfaceInv picked run' := by
  have hpicked : run'.screen.config = { picked with size } := by
    rw [hconfig, h.picked_eq]
  have hsame : run'.screen.config.size = size := by rw [hpicked]
  refine ⟨?_, ?_, ?_, ?_, ?_, ?_, ?_, ?_⟩
  · rw [hhistory, hcalls, List.map_append, h.calls_eq]
    rfl
  · rw [hsame]; exact hpicked
  · rw [hsame]; exact hsize
  · intro _; rw [hsame, hsize']
  · rw [hhistory, lastConfigured_snoc]
    rfl
  · rw [hhistory]
    refine h.configures.snoc ?_
    intro config heq
    injection heq with heq
    exact ⟨hsize, heq ▸ hpicked⟩
  · rw [hhistory]
    exact h.acquires.snoc fun failure heq => SurfaceCall.noConfusion heq
  · rw [hhistory, hdrawn, List.filter_append, h.shown_eq]
    exact List.append_nil _

theorem SurfaceInv.acquires_snoc (h : SurfaceInv picked run)
    (hsize : run.screen.size.isDrawable = true) (failure : Option SurfaceError) :
    AcquiresConfigured (run.history ++ [⟨run.screen.size, .acquire failure⟩]) := by
  refine h.acquires.snoc ?_
  intro _ _
  exact ⟨hsize, by rw [h.last_eq, h.current hsize]⟩

theorem SurfaceInv.refused (h : SurfaceInv picked run) {e : SurfaceError}
    (hsize : run.screen.size.isDrawable = true) (hdrawn : run'.drawn = run.drawn)
    (hsize' : run'.screen.size = run.screen.size) (hconfig : run'.screen.config = run.screen.config)
    (hcalls : run'.screen.calls = run.screen.calls ++ [.acquire (some e)])
    (hhistory : run'.history = run.history ++ [⟨run.screen.size, .acquire (some e)⟩]) :
    SurfaceInv picked run' := by
  refine ⟨?_, ?_, ?_, ?_, ?_, ?_, ?_, ?_⟩
  · rw [hhistory, hcalls, List.map_append, h.calls_eq]
    rfl
  · rw [hconfig]; exact h.picked_eq
  · rw [hconfig]; exact h.drawable
  · rw [hconfig, hsize']; exact h.current
  · rw [hhistory, lastConfigured_snoc, hconfig]
    exact h.last_eq
  · rw [hhistory]
    exact h.configures.snoc fun config heq => SurfaceCall.noConfusion heq
  · rw [hhistory]
    exact h.acquires_snoc hsize (some e)
  · rw [hhistory, hdrawn, List.filter_append, h.shown_eq]
    exact List.append_nil _

theorem SurfaceInv.shown (h : SurfaceInv picked run)
    (hsize : run.screen.size.isDrawable = true)
    (hdrawn : run'.drawn = run.drawn ++ [run.screen.size])
    (hsize' : run'.screen.size = run.screen.size) (hconfig : run'.screen.config = run.screen.config)
    (hcalls : run'.screen.calls
      = run.screen.calls ++ (shownFor run.screen.size).map Moment.call)
    (hhistory : run'.history = run.history ++ shownFor run.screen.size) :
    SurfaceInv picked run' := by
  have hthree : run'.history = run.history ++ [⟨run.screen.size, .acquire none⟩]
      ++ [⟨run.screen.size, .notify⟩] ++ [⟨run.screen.size, .present⟩] := by
    rw [hhistory, List.append_assoc, List.append_assoc]
    rfl
  refine ⟨?_, ?_, ?_, ?_, ?_, ?_, ?_, ?_⟩
  · rw [hhistory, hcalls, List.map_append, h.calls_eq]
  · rw [hconfig]; exact h.picked_eq
  · rw [hconfig]; exact h.drawable
  · rw [hconfig, hsize']; exact h.current
  · rw [hthree, lastConfigured_snoc, lastConfigured_snoc, lastConfigured_snoc, hconfig]
    exact h.last_eq
  · rw [hthree]
    -- none of the three is a set-up
    exact ((h.configures.snoc (fun config heq => SurfaceCall.noConfusion heq)).snoc
      (fun config heq => SurfaceCall.noConfusion heq)).snoc
        (fun config heq => SurfaceCall.noConfusion heq)
  · rw [hthree]
    exact ((h.acquires_snoc hsize none).snoc fun failure heq => SurfaceCall.noConfusion heq).snoc
      fun failure heq => SurfaceCall.noConfusion heq
  · rw [hhistory, hdrawn, List.filter_append, h.shown_eq, List.flatMap_append,
      List.flatMap_singleton]
    rfl

/-- **Preserved by every step.** -/
theorem surfaceInv_step (h : SurfaceInv picked run) (step : Step State) :
    SurfaceInv picked (run.step step) := by
  cases outcome run step with
  | idle hhistory hdrawn hcalls hconfig hsize => exact h.idle hhistory hdrawn hcalls hconfig hsize
  | resized hsize hdrawn hconfig hcalls hhistory =>
      exact h.configured hsize rfl hdrawn hconfig hcalls hhistory
  | refused e again hsize hdrawn hsize' hconfig hagain hcalls hhistory =>
      -- the failed attempt alone, as if the surface were not set up again
      let attempted : Run State := { run with
        screen := run.screen.call (.acquire (some e))
        history := run.history ++ [⟨run.screen.size, .acquire (some e)⟩] }
      have hattempted : SurfaceInv picked attempted := h.refused hsize rfl rfl rfl rfl rfl
      rcases hagain with hagain | hagain
      · rw [hagain, List.append_nil] at hcalls
        rw [hagain, List.map_nil, List.append_nil] at hhistory
        exact h.refused hsize hdrawn hsize' hconfig hcalls hhistory
      · rw [hagain] at hcalls hhistory
        refine hattempted.configured hsize hsize' hdrawn ?_ ?_ ?_
        · rw [hconfig, ← h.current hsize]
          rfl
        · rw [hcalls, hconfig]
          rfl
        · rw [hhistory, hconfig]
          rfl
  | shown hsize hdrawn hsize' hconfig hcalls hhistory =>
      exact h.shown hsize hdrawn hsize' hconfig hcalls hhistory

/-! ## Runs -/

theorem openFor_ok {size : Extent} {init : GpuInit} {caps : SurfaceCapabilities}
    {refused : Option OpeningStep} {d : Device} {s : Screen}
    (h : (openFor size init caps refused d).1 = .ok s) :
    size.isDrawable = true ∧ s.size = size ∧ s.config.size = size
      ∧ s.calls = [.configure s.config] ∧ caps.chooseFormat init.preferSrgb = some s.config.format
      ∧ s.config.presentMode = caps.choosePresentMode init.vsync
      ∧ s.config.alphaMode = caps.chooseAlphaMode := by
  rw [openFor] at h
  dsimp only at h
  split at h
  · cases h
  · rename_i hsize
    split at h
    · cases h
    · split at h
      · cases h
      · split at h
        · cases h
        · split at h
          · cases h
          · rename_i format hformat
            cases h
            exact ⟨by simpa using hsize, rfl, rfl, rfl, hformat, rfl, rfl⟩

theorem surfaceInv_start {size : Extent} {init : GpuInit} {caps : SurfaceCapabilities}
    {refused : Option OpeningStep} {d : Device} {s : Screen}
    (h : (openFor size init caps refused d).1 = .ok s) (state : State) (d' : Device) :
    SurfaceInv s.config (Run.start s state d') := by
  obtain ⟨hdrawable, hsize, hconfig, hcalls, -⟩ := openFor_ok h
  have hhistory : (Run.start s state d').history = [] ++ [⟨size, .configure s.config⟩] := by
    show s.calls.map (Moment.mk s.size) = _
    rw [hcalls, hsize]
    rfl
  refine ⟨?_, rfl, ?_, ?_, ?_, ?_, ?_, ?_⟩
  · rw [hhistory]; exact hcalls.symm
  · show s.config.size.isDrawable = true
    rw [hconfig]; exact hdrawable
  · intro _
    show s.config.size = s.size
    rw [hconfig, hsize]
  · rw [hhistory, lastConfigured_snoc]
    rfl
  · rw [hhistory]
    refine ConfiguresWindow.snoc (fun _ _ hmem => absurd hmem List.not_mem_nil) ?_
    intro config heq
    injection heq with heq
    refine ⟨hdrawable, ?_⟩
    rw [← heq, ← hconfig]
  · rw [hhistory]
    refine AcquiresConfigured.snoc ?_ fun failure heq => SurfaceCall.noConfusion heq
    intro before size failure rest heq
    exact absurd heq (by simp)
  · rw [hhistory]
    rfl

theorem surfaceInv_after {size : Extent} {init : GpuInit} {caps : SurfaceCapabilities}
    {refused : Option OpeningStep} {d : Device} {s : Screen}
    (h : (openFor size init caps refused d).1 = .ok s) (state : State) (d' : Device)
    (steps : List (Step State)) : SurfaceInv s.config ((Run.start s state d').after steps) := by
  have hstart := surfaceInv_start h state d'
  generalize Run.start s state d' = run at hstart
  induction steps generalizing run with
  | nil => exact hstart
  | cons step steps ih => exact ih (run.step step) (surfaceInv_step hstart step)

/-! ## What follows -/

/-- A frame draws exactly when it acquires an image, and leaves what is drawn on alone otherwise. -/
theorem render_draws (run : Run State) (failure : Option SurfaceError)
    (draw : Extent → State → Device → State × Device) :
    if run.screen.size.isDrawable = true ∧ failure = none then
      (run.step (.render failure draw)).drawn = run.drawn ++ [run.screen.size]
        ∧ (run.step (.render failure draw)).state
          = (draw run.screen.size run.state run.device).1
    else
      (run.step (.render failure draw)).drawn = run.drawn
        ∧ (run.step (.render failure draw)).state = run.state := by
  rw [Run.step, render]
  cases hsize : run.screen.size.isDrawable with
  | false => exact ⟨rfl, rfl⟩
  | true =>
      cases failure with
      | none => exact ⟨rfl, rfl⟩
      | some e => exact ⟨rfl, rfl⟩

theorem render_history {run : Run State} (hsize : run.screen.size.isDrawable = true)
    (failure : Option SurfaceError) (draw : Extent → State → Device → State × Device) :
    ∃ rest, (run.step (.render failure draw)).history
      = run.history ++ ⟨run.screen.size, .acquire failure⟩ :: rest := by
  cases failure with
  | none => exact ⟨_, (outcome_render_none hsize draw).1⟩
  | some e => exact (outcome_render_some hsize e draw).1

/-- A frame ends the program exactly when its attempt to acquire an image runs out of memory. -/
theorem render_eq_exit_iff (run : Run State) (failure : Option SurfaceError)
    (draw : Extent → State → Device → State × Device) :
    (run.screen.render failure draw run.state run.device).1 = .exit
      ↔ ∃ rest, (run.step (.render failure draw)).history
        = run.history ++ ⟨run.screen.size, .acquire (some .outOfMemory)⟩ :: rest := by
  cases hsize : run.screen.size.isDrawable with
  | false =>
      rw [render, hsize, step_render_minimized hsize]
      simp
  | true =>
      obtain ⟨rest, hrest⟩ := render_history hsize failure draw
      have hcontrol : (run.screen.render failure draw run.state run.device).1 = .exit
          ↔ failure = some .outOfMemory := by
        rw [render, hsize]
        cases failure with
        | none => simp
        | some e => cases e <;> simp [handleError, SurfaceAction.classify, controlAfter]
      rw [hcontrol, hrest]
      simp

/-- What holds of a screen at any moment of a run, if it was opened with `init` on a surface that
offers `caps`. -/
structure KeepsConfigured (init : GpuInit) (caps : SurfaceCapabilities) (run : Run State) :
    Prop where
  calls_eq : run.history.map Moment.call = run.screen.calls
  /-- The configuration is never of zero size, and while the window is not either, it has its. -/
  drawable : run.screen.config.size.isDrawable = true
  current : run.screen.size.isDrawable = true → run.screen.config.size = run.screen.size
  /-- Each set-up was for the size of the window then, not zero, with the format and the modes
  picked when the screen was opened. -/
  configures : ∀ size config, ⟨size, .configure config⟩ ∈ run.history →
    size.isDrawable = true ∧ config.size = size
      ∧ caps.chooseFormat init.preferSrgb = some config.format
      ∧ config.presentMode = caps.choosePresentMode init.vsync
      ∧ config.alphaMode = caps.chooseAlphaMode
  /-- At each attempt to acquire an image the size of the window was not zero, and the surface was
  last set up for it. -/
  acquires : ∀ before size failure rest,
    run.history = before ++ ⟨size, .acquire failure⟩ :: rest →
      size.isDrawable = true ∧ lastConfigured before = some size
  /-- The images acquired and the calls that notify and present are, in order, one of each for
  every frame drawn, and there are no others. -/
  shown_eq : run.history.filter Moment.isShown = run.drawn.flatMap shownFor
  /-- The next frame draws once if it acquires an image, and not at all otherwise. -/
  draws : ∀ failure draw,
    if run.screen.size.isDrawable = true ∧ failure = none then
      (run.step (.render failure draw)).drawn = run.drawn ++ [run.screen.size]
        ∧ (run.step (.render failure draw)).state
          = (draw run.screen.size run.state run.device).1
    else
      (run.step (.render failure draw)).drawn = run.drawn
        ∧ (run.step (.render failure draw)).state = run.state
  /-- It ends the program exactly when its attempt to acquire one runs out of memory. -/
  exits : ∀ failure draw,
    (run.screen.render failure draw run.state run.device).1 = .exit
      ↔ ∃ rest, (run.step (.render failure draw)).history
        = run.history ++ ⟨run.screen.size, .acquire (some .outOfMemory)⟩ :: rest

/--
**A surface is only ever set up for the window and drawn on as it was set up**, whatever the sizes
and failures of the frames on a screen that could be opened.
-/
theorem keepsConfigured_after {size : Extent} {init : GpuInit} {caps : SurfaceCapabilities}
    {refused : Option OpeningStep} {d : Device} {s : Screen}
    (h : (openFor size init caps refused d).1 = .ok s) (state : State) (d' : Device)
    (steps : List (Step State)) :
    KeepsConfigured init caps ((Run.start s state d').after steps) := by
  have hinv := surfaceInv_after h state d' steps
  obtain ⟨-, -, -, -, hformat, hpresent, halpha⟩ := openFor_ok h
  generalize (Run.start s state d').after steps = run at hinv
  refine ⟨hinv.calls_eq, hinv.drawable, hinv.current, ?_, hinv.acquires, hinv.shown_eq,
    render_draws run, render_eq_exit_iff run⟩
  intro size config hmem
  obtain ⟨hdrawable, hconfig⟩ := hinv.configures size config hmem
  rw [hconfig]
  exact ⟨hdrawable, rfl, hformat, hpresent, halpha⟩

def sampleCapabilities : SurfaceCapabilities :=
  ⟨[⟨"Bgra8Unorm"⟩, .rgba8UnormSrgb], [.fifo, .mailbox], [.auto, .solid]⟩

def sampleScreen : Screen :=
  let config : SurfaceConfig := ⟨.rgba8UnormSrgb, ⟨800, 600⟩, .fifo, .solid, 2⟩
  { size := ⟨800, 600⟩, config, calls := [.configure config] }

def countedFrame (failure : Option SurfaceError) : Step Nat :=
  .render failure fun _ n d => (n + 1, d)

/-- The window is minimized in one direction, then restored, and the surface is lost in between. -/
def roughSteps : List (Step Nat) :=
  [countedFrame none, .resize ⟨0, 600⟩, countedFrame (some .lost), countedFrame none,
    .resize ⟨640, 480⟩, countedFrame (some .outdated), countedFrame none,
    countedFrame (some .timeout), countedFrame (some .outOfMemory)]

theorem keepsConfigured_roughSteps :
    (openFor ⟨800, 600⟩ {} sampleCapabilities none {}).1 = .ok sampleScreen
      ∧ ((Run.start sampleScreen 0 {}).after roughSteps).drawn = [⟨800, 600⟩, ⟨640, 480⟩]
      ∧ KeepsConfigured {} sampleCapabilities
        ((Run.start sampleScreen 0 {}).after roughSteps) := by
  have hopened : (openFor ⟨800, 600⟩ {} sampleCapabilities none {}).1 = .ok sampleScreen := rfl
  exact ⟨hopened, by decide, keepsConfigured_after hopened 0 {} roughSteps⟩

end Facet.Screen
