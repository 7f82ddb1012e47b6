import Facet.Fault
import Facet.Input

/-!
# Window events

What a window system reports, in physical pixels, and the part of it that is input
(`WindowEvent.input?`). Positions become logical by dividing by the window's scale factor, in
double precision, before they are rounded to scalars.
-/

namespace Facet

/-- A pointer button as the window system names it. -/
inductive PointerButton where
  | left
  | right
  | middle
  | back
  | forward
  | other (code : UInt16)
deriving DecidableEq, Repr

namespace PointerButton

def name : PointerButton → String
  | left => "Left"
  | right => "Right"
  | middle => "Middle"
  | back => "Back"
  | forward => "Forward"
  | other code => s!"Other({code})"

/-- The button of a name. -/
def ofName? (s : String) : Option PointerButton :=
  [left, right, middle, back, forward].find? fun b => b.name == s

end PointerButton

/-- The button of the viewer; the side buttons go by their codes. -/
def Button.ofPointer : PointerButton → Button
  | .left => .left
  | .right => .right
  | .middle => .middle
  | .back => .other 3
  | .forward => .other 4
  | .other code => .other code

/-- The switch of a button that is down or not. -/
def Switch.ofPressed (pressed : Bool) : Switch := if pressed then .pressed else .released

/-- An event as a window system reports it. -/
inductive WindowEvent where
  | focused (focused : Bool)
  | cursorEntered
  | cursorLeft
  /-- The pointer's place in physical pixels. -/
  | cursorMoved (x y : Float)
  | mouseInput (button : PointerButton) (pressed : Bool)
  | wheelLines (x y : Float32)
  /-- Wheel motion in physical pixels. -/
  | wheelPixels (x y : Float)
  | occluded (occluded : Bool)
  | closeRequested
  | redrawRequested
  | destroyed

namespace WindowEvent

/-- Whether a double is positive and normal: neither zero, subnormal, infinite nor NaN. -/
def isPositiveNormal (x : Float) : Bool :=
  let bits := x.toBits.toNat
  0x10000000000000 ≤ bits && bits < 0x7ff0000000000000

/-- A physical position in logical pixels. -/
def toLogical (scale x y : Float) : Except Fault (Float32 × Float32) :=
  if isPositiveNormal scale then .ok ((x / scale).toFloat32, (y / scale).toFloat32)
  else .error .scaleFactor

/-- The input that an event carries, if it carries any. -/
def input? (scale : Float) : WindowEvent → Except Fault (Option InputEvent)
  | focused gained => .ok (some (.focused gained))
  | cursorLeft => .ok (some .pointerLeft)
  | cursorMoved x y =>
    match toLogical scale x y with
    | .ok p => .ok (some (.pointerMoved p.1 p.2))
    | .error e => .error e
  | mouseInput button pressed =>
    .ok (some (.pointerButton (Button.ofPointer button) (Switch.ofPressed pressed)))
  | wheelLines x y => .ok (some (.wheel (.lines x y)))
  | wheelPixels x y =>
    match toLogical scale x y with
    | .ok p => .ok (some (.wheel (.pixels p.1 p.2)))
    | .error e => .error e
  | cursorEntered | occluded _ | closeRequested | redrawRequested | destroyed => .ok none

end WindowEvent

end Facet
