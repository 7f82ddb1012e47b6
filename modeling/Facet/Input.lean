/-!
# Input events

What a window reports to the viewer: keys, pointer buttons, pointer positions in logical pixels,
wheel motion and focus.
-/

namespace Facet

/-- A key. -/
inductive Key where
  | escape
  | space
  | enter
  | arrowUp
  | arrowDown
  | arrowLeft
  | arrowRight
  /-- A letter, counted from A. -/
  | letter (index : Fin 26)
  /-- Any other key, by its code. -/
  | other (code : UInt32)
deriving DecidableEq, Repr

namespace Key

/-- The keys that are bound to toggles. -/
def e : Key := .letter 4
def f : Key := .letter 5
def r : Key := .letter 17

def name : Key → String
  | escape => "Escape"
  | space => "Space"
  | enter => "Enter"
  | arrowUp => "ArrowUp"
  | arrowDown => "ArrowDown"
  | arrowLeft => "ArrowLeft"
  | arrowRight => "ArrowRight"
  | letter index => String.singleton (Char.ofNat (65 + index))
  | other code => s!"Other({code})"

/-- The keys that go by a name of their own, letters included. -/
def namedKeys : List Key :=
  [escape, space, enter, arrowUp, arrowDown, arrowLeft, arrowRight]
    ++ (List.finRange 26).map letter

/-- The key of a name. -/
def ofName? (s : String) : Option Key := namedKeys.find? fun k => k.name == s

end Key

/-- A pointer button. -/
inductive Button where
  | left
  | right
  | middle
  | other (code : UInt16)
deriving DecidableEq, Repr

namespace Button

def name : Button → String
  | left => "Left"
  | right => "Right"
  | middle => "Middle"
  | other code => s!"Other({code})"

/-- The button of a name. -/
def ofName? (s : String) : Option Button := [left, right, middle].find? fun b => b.name == s

end Button

/-- Whether a key or button goes down or up. -/
inductive Switch where
  | pressed
  | released
deriving DecidableEq, Repr

def Switch.name : Switch → String
  | pressed => "Pressed"
  | released => "Released"

/-- Wheel motion, in lines of a notched wheel or in logical pixels. -/
inductive WheelMotion where
  | lines (x y : Float32)
  | pixels (x y : Float32)
deriving DecidableEq

namespace WheelMotion

/-- How many logical pixels make up a line. -/
def pixelsPerLine : Float32 := 20

/-- The vertical motion in lines. -/
def verticalLines : WheelMotion → Float32
  | lines _ y => y
  | pixels _ y => y / pixelsPerLine

end WheelMotion

/-- An event of one window. -/
inductive InputEvent where
  | key (key : Key) (switch : Switch) (repeated : Bool)
  | pointerMoved (x y : Float32)
  | pointerButton (button : Button) (switch : Switch)
  | pointerLeft
  | wheel (motion : WheelMotion)
  | focused (focused : Bool)
deriving DecidableEq

end Facet
