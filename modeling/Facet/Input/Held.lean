import Facet.Input
import Facet.Vector

/-!
# Held input and frame input

`Held` is what lasts: focus, the pointer's place, the keys and buttons that are down. `InputFrame`
is what happened since the last frame: presses, releases, and sums of motion. An event changes
both (`apply`); a frame ends by clearing the second alone.

Sets are lists without repetition, in the order of insertion. Nothing outside depends on that order.
-/

namespace Facet

/-- A member added to a list of distinct members. -/
def insertNew {α : Type} [DecidableEq α] (a : α) (s : List α) : List α :=
  if a ∈ s then s else s ++ [a]

/-- What lasts from frame to frame. -/
structure Held where
  focused : Bool := false
  /-- Where the pointer is, while it is over the window. -/
  pointer : Option Vec2 := none
  keys : List Key := []
  buttons : List Button := []

/-- What happened since the last frame. -/
structure InputFrame where
  pointerDelta : Vec2 := {}
  wheelLines : Float32 := 0
  keysPressed : List Key := []
  buttonsPressed : List Button := []
  buttonsReleased : List Button := []

namespace InputFrame

/-- Forgets everything. -/
def clear (_ : InputFrame) : InputFrame := {}

def keyPressed (frame : InputFrame) (key : Key) : Bool := key ∈ frame.keysPressed

end InputFrame

namespace Held

def keyDown (held : Held) (key : Key) : Bool := key ∈ held.keys

def buttonDown (held : Held) (button : Button) : Bool := button ∈ held.buttons

/-- Losing the focus lets go of everything, because the releases will not arrive. -/
def focus (held : Held) (focused : Bool) : Held :=
  if focused then { held with focused } else { held with focused, keys := [], buttons := [] }

/-- A position counts as motion from the last one; the first after the pointer was away does not. -/
def movePointer (held : Held) (frame : InputFrame) (x y : Float32) : Held × InputFrame :=
  let moved := match held.pointer with
    | some p => { frame with
        pointerDelta := ⟨frame.pointerDelta.x + (x - p.x), frame.pointerDelta.y + (y - p.y)⟩ }
    | none => frame
  ({ held with pointer := some ⟨x, y⟩ }, moved)

/-- A key that goes down is a press, unless it is down already or merely repeats. -/
def pressKey (held : Held) (frame : InputFrame) (key : Key) (repeated : Bool) :
    Held × InputFrame :=
  let fresh := !held.keyDown key && !repeated
  ({ held with keys := insertNew key held.keys },
    if fresh then { frame with keysPressed := insertNew key frame.keysPressed } else frame)

/-- A button that goes down is a press, unless it is down already. -/
def pressButton (held : Held) (frame : InputFrame) (button : Button) : Held × InputFrame :=
  if held.buttonDown button then (held, frame)
  else
    ({ held with buttons := insertNew button held.buttons },
      { frame with buttonsPressed := insertNew button frame.buttonsPressed })

/-- A button that goes up is a release, if it was down. -/
def releaseButton (held : Held) (frame : InputFrame) (button : Button) : Held × InputFrame :=
  if held.buttonDown button then
    ({ held with buttons := held.buttons.filter (· != button) },
      { frame with buttonsReleased := insertNew button frame.buttonsReleased })
  else (held, frame)

/-- Takes in one event. -/
def apply (held : Held) (frame : InputFrame) : InputEvent → Held × InputFrame
  | .focused focused => (held.focus focused, frame)
  | .pointerMoved x y => held.movePointer frame x y
  | .pointerLeft => ({ held with pointer := none }, frame)
  | .key key .pressed repeated => held.pressKey frame key repeated
  | .key key .released _ => ({ held with keys := held.keys.filter (· != key) }, frame)
  | .pointerButton button .pressed => held.pressButton frame button
  | .pointerButton button .released => held.releaseButton frame button
  | .wheel motion =>
    (held, { frame with wheelLines := frame.wheelLines + motion.verticalLines })

/-- Takes in events from left to right. -/
def applyAll (held : Held) (frame : InputFrame) (events : List InputEvent) : Held × InputFrame :=
  events.foldl (fun state event => state.1.apply state.2 event) (held, frame)

/-- The pointer's travel this frame, if it travelled with the button held. -/
def dragDelta? (held : Held) (frame : InputFrame) (button : Button) : Option Vec2 :=
  let d := frame.pointerDelta
  if held.buttonDown button && (d.x != 0 || d.y != 0) then some d else none

end Held

end Facet
