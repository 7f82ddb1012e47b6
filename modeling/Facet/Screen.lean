import Facet.Gpu
import Facet.Screen.Surface

/-!
# Screens

A screen is a surface together with its configuration and the present size of its window. The
size may be zero while the window is minimized. The configuration never is: it keeps the last
size that could be drawn on. A frame acquires an image, lets a caller draw on it, and presents it
(`Screen.render`).
-/

namespace Facet

/-- Whether the program goes on after a frame. -/
inductive Control where
  | proceed
  | exit
deriving DecidableEq, Repr

def Control.name : Control → String
  | proceed => "Continue"
  | exit => "Exit"

/-- What is asked of a device and its surface. -/
structure GpuInit where
  preferSrgb : Bool := true
  vsync : Bool := true
  /-- How many frames may be queued. -/
  latency : UInt32 := 2
  powerPreference : String := "HighPerformance"

/-- The device behind a screen. -/
structure Adapter where
  name : String := "noop wgpu backend"
  backend : String := "Noop"

/-- Why a screen cannot be opened. -/
inductive ScreenError where
  | zeroSize
  | noSurface
  | noAdapter
  | noDevice
  | noFormat
deriving DecidableEq, Repr

/-- The text shown to the user. -/
def ScreenError.message : ScreenError → String
  | zeroSize => "window has zero size"
  | noSurface => "failed to create wgpu surface"
  | noAdapter => "failed to find a suitable GPU adapter"
  | noDevice => "failed to create wgpu device/queue"
  | noFormat => "no supported surface formats"

/-- A step of opening a screen that the system may refuse. -/
inductive OpeningStep where
  | surface
  | adapter
  | device
deriving DecidableEq, Repr

namespace OpeningStep

def name : OpeningStep → String
  | surface => "surface"
  | adapter => "adapter"
  | device => "device"

/-- The step of a name. -/
def ofName? (s : String) : Option OpeningStep :=
  [surface, adapter, device].find? fun step => step.name == s

end OpeningStep

/-- A surface that is set up. -/
structure Screen where
  adapter : Adapter := {}
  /-- The present size of the window. -/
  size : Extent
  config : SurfaceConfig
  /-- The calls made so far, in order. -/
  calls : List SurfaceCall := []

namespace Screen

/-- Adds a call to the record. -/
def call (s : Screen) (c : SurfaceCall) : Screen := { s with calls := s.calls ++ [c] }

/-- Sets the surface up with the present configuration. -/
def configure (s : Screen) : Screen := s.call (.configure s.config)

/-- The line logged when a screen is set up for the first time. -/
def configuredLine (config : SurfaceConfig) : Log.Line :=
  ⟨.debug, s!"surface configured: {config.format.name} {config.size.width}x{config.size.height} "
    ++ config.presentMode.name⟩

/--
Opens a screen for a window of the given size. The size is looked at before anything is created;
surface, adapter and device follow, each of which the system may refuse; then a format is chosen.
-/
def openFor (size : Extent) (init : GpuInit) (caps : SurfaceCapabilities)
    (refused : Option OpeningStep) (d : Device) : Except ScreenError Screen × Device :=
  let adapter : Adapter := {}
  if !size.isDrawable then (.error .zeroSize, d)
  else if refused = some .surface then (.error .noSurface, d)
  else if refused = some .adapter then (.error .noAdapter, d)
  else
    let d := d.note .info s!"using adapter {adapter.name} ({adapter.backend})"
    if refused = some .device then (.error .noDevice, d)
    else
      match caps.chooseFormat init.preferSrgb with
      | none => (.error .noFormat, d)
      | some format =>
        let config : SurfaceConfig :=
          { format
            size
            presentMode := caps.choosePresentMode init.vsync
            alphaMode := caps.chooseAlphaMode
            latency := init.latency }
        (.ok (configure { adapter, size, config }), d.noteAll [configuredLine config])

/-- Takes over a new size; the surface is set up again unless nothing can be drawn on it. -/
def resize (size : Extent) (s : Screen) : Screen :=
  if size.isDrawable then configure { s with size, config := { s.config with size } }
  else { s with size }

/-- Reacts to a failed acquisition. -/
def handleError (e : SurfaceError) (s : Screen) (d : Device) : SurfaceAction × Screen × Device :=
  let action := SurfaceAction.classify e
  match action with
  | .reconfigure => (action, if s.size.isDrawable then s.configure else s, d)
  | .skipFrame => (action, s, d.note .debug s!"skipping frame: {e.message}")
  | .fatal => (action, s, d.note .error s!"surface failure: {e.message}")

/-- Whether the program goes on after an action. -/
def controlAfter : SurfaceAction → Control
  | .fatal => .exit
  | .reconfigure | .skipFrame => .proceed

variable {State : Type}

/--
Renders a frame: acquires an image, which fails with `failure` if there is one, lets `draw` record
what it shows, and presents it. Nothing happens on a screen of no size.
-/
def render (failure : Option SurfaceError) (draw : Extent → State → Device → State × Device)
    (s : Screen) (state : State) (d : Device) : Control × Screen × State × Device :=
  if !s.size.isDrawable then (.proceed, s, state, d)
  else
    let acquired := s.call (.acquire failure)
    match failure with
    | some e =>
      let handled := acquired.handleError e d
      (controlAfter handled.1, handled.2.1, state, handled.2.2)
    | none =>
      let drawn := draw s.size state d
      (.proceed, (acquired.call .notify).call .present, drawn.1, drawn.2)

end Screen

end Facet
