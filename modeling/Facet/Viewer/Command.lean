import Facet.Input.Held

/-!
# Viewer commands

What keys mean to the viewer: four of them are commands when pressed, and the arrows steer while
they are held.
-/

namespace Facet

/-- A command bound to a key. -/
inductive ViewerCommand where
  | toggleFaces
  | toggleEdges
  | toggleRayTracing
  | exit
deriving DecidableEq, Repr

namespace ViewerCommand

def name : ViewerCommand → String
  | toggleFaces => "ToggleFaces"
  | toggleEdges => "ToggleEdges"
  | toggleRayTracing => "ToggleRayTracing"
  | exit => "Exit"

/-- The command of a key. -/
def ofKey? (key : Key) : Option ViewerCommand :=
  if key = Key.f then some toggleFaces
  else if key = Key.e then some toggleEdges
  else if key = Key.r then some toggleRayTracing
  else if key = .escape then some exit
  else none

end ViewerCommand

/-- One axis of steering: a held key counts one in its direction, and opposite keys cancel. -/
def steeringAxis (held : Held) (negative positive : Key) : Float32 :=
  let back : Float32 := if held.keyDown negative then 0 - 1 else 0
  if held.keyDown positive then back + 1 else back

/-- The direction of the held arrow keys, in view space. -/
def orbitDirection (held : Held) : Vec3 :=
  ⟨steeringAxis held .arrowLeft .arrowRight, steeringAxis held .arrowDown .arrowUp, 0⟩

end Facet
