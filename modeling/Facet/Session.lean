import Facet.Input.WindowEvent
import Facet.Viewer

/-!
# Sessions

A session is one window with a viewer in it: the window's title and scale, its screen, the input
gathered from it, and the device. Events come in between frames; a frame uses up the frame input.
-/

namespace Facet

/-- What a window is opened with where nothing else is said. -/
structure WindowConfig where
  title : String := "kiln"
  /-- The size in logical pixels. -/
  width : Float := 1280
  height : Float := 720

/-- A window with a viewer. -/
structure Session where
  /-- The title, empty until it is set. -/
  title : String := ""
  /-- How many physical pixels make up a logical one. -/
  scale : Float := 1
  screen : Screen
  /-- What compiles the viewer's shaders. -/
  compiler : ShaderCompiler := {}
  viewer : Viewer
  held : Held := {}
  frame : InputFrame := {}
  device : Device

namespace Session

/-- Takes in input events from left to right. -/
def feed (s : Session) (events : List InputEvent) : Session :=
  let fed := s.held.applyAll s.frame events
  { s with held := fed.1, frame := fed.2 }

/-- Takes in a window event; the viewer goes on whatever it is. -/
def receive (s : Session) (event : WindowEvent) :
    Except Fault (Control × Option InputEvent) × Session :=
  match event.input? s.scale with
  | .error e => (.error e, s)
  | .ok input => (.ok (.proceed, input), s.feed input.toList)

/-- The window has a new scale factor. -/
def rescale (s : Session) (scale : Float) : Session := { s with scale }

/-- The window has a new size. -/
def resize (s : Session) (size : Extent) : Session := { s with screen := s.screen.resize size }

def setTitle (s : Session) (title : String) : Session := { s with title }

/-- Runs one frame; its input is used up unless a fault ends it. -/
def runFrame (s : Session) (dt : Float32) (failure : Option SurfaceError) :
    Except Fault Control × Session :=
  let ran := s.viewer.onFrame s.compiler s.held s.frame dt failure s.screen s.device
  let after := { s with viewer := ran.2.1, screen := ran.2.2.1, device := ran.2.2.2 }
  match ran.1 with
  | .error e => (.error e, after)
  | .ok control => (.ok control, { after with frame := s.frame.clear })

/-- Lets the viewer give back what it holds. -/
def exit (s : Session) : Session :=
  let exited := s.viewer.onExit s.screen.adapter s.device
  { s with viewer := exited.1, device := exited.2 }

end Session

end Facet
