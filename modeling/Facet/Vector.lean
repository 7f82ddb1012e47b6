import Facet.Scalar.Decimal

/-!
# Vectors

Points and displacements of the window (`Vec2`) and of space (`Vec3`), and the homogeneous or
padded form of the latter (`Vec4`).

The operations stand for those of the vector library that a renderer is built on. Every one fixes
its order of evaluation, because each scalar step rounds: sums run from the left and no product is
fused into one, a length is the square root of a dot product, and to divide by it is to multiply by
its reciprocal. How far that strays from geometry is said in `Facet.Proofs.VectorRounding`.
-/

namespace Facet

/-- A point or a displacement in a window. -/
structure Vec2 where
  x : Float32 := 0
  y : Float32 := 0
deriving DecidableEq

/-- A point or a displacement. -/
structure Vec3 where
  x : Float32
  y : Float32
  z : Float32
deriving DecidableEq, Inhabited

/-- Four scalars: a colour, a padded vector or a matrix column. -/
structure Vec4 where
  x : Float32
  y : Float32
  z : Float32
  w : Float32
deriving DecidableEq, Inhabited

namespace Vec3

/-- The origin. -/
def zero : Vec3 := ⟨0, 0, 0⟩

/-- The unit vectors that view directions fall back to. -/
def unitX : Vec3 := ⟨1, 0, 0⟩
def unitY : Vec3 := ⟨0, 1, 0⟩
def negUnitZ : Vec3 := ⟨0, 0, -1⟩

instance : Add Vec3 := ⟨fun a b => ⟨a.x + b.x, a.y + b.y, a.z + b.z⟩⟩
instance : Sub Vec3 := ⟨fun a b => ⟨a.x - b.x, a.y - b.y, a.z - b.z⟩⟩
instance : Neg Vec3 := ⟨fun a => ⟨-a.x, -a.y, -a.z⟩⟩
instance : HMul Vec3 Float32 Vec3 := ⟨fun a s => ⟨a.x * s, a.y * s, a.z * s⟩⟩

/-- Equality of the components as numbers: zeros of either sign agree, NaN agrees with nothing. -/
instance : BEq Vec3 := ⟨fun a b => a.x == b.x && a.y == b.y && a.z == b.z⟩

def dot (a b : Vec3) : Float32 := a.x * b.x + a.y * b.y + a.z * b.z

def cross (a b : Vec3) : Vec3 :=
  ⟨a.y * b.z - b.y * a.z, a.z * b.x - b.z * a.x, a.x * b.y - b.x * a.y⟩

def length (a : Vec3) : Float32 := (a.dot a).sqrt

def distance (a b : Vec3) : Float32 := (a - b).length

/-- Whether every component is a zero of either sign. -/
def isZero (a : Vec3) : Bool := a == zero

/--
The unit vector along `a`, when the reciprocal of the length is finite and positive. That leaves
out zero and non-finite vectors, and also vectors whose length overflows or vanishes on the way.
Away from both, its length is one up to a few units in the last place (`normalized?_near`).
-/
def normalized? (a : Vec3) : Option Vec3 :=
  let r := 1 / a.length
  if r.isFinite && 0 < r then some (a * r) else none

/-- The unit vector along `a`, or `fallback` where it is undefined. -/
def normalizedOr (a fallback : Vec3) : Vec3 := a.normalized?.getD fallback

/-- `a` divided by its length, defined or not. -/
def normalize (a : Vec3) : Vec3 := a * (1 / a.length)

def toList (a : Vec3) : List Float32 := [a.x, a.y, a.z]

/-- The components with six decimal places each, in parentheses. -/
def text (a : Vec3) : String :=
  "(" ++ Scalar.decimal a.x ++ ", " ++ Scalar.decimal a.y ++ ", " ++ Scalar.decimal a.z ++ ")"

end Vec3

namespace Vec4

instance : Add Vec4 := ⟨fun a b => ⟨a.x + b.x, a.y + b.y, a.z + b.z, a.w + b.w⟩⟩
instance : Sub Vec4 := ⟨fun a b => ⟨a.x - b.x, a.y - b.y, a.z - b.z, a.w - b.w⟩⟩

/-- The product component by component. -/
instance : Mul Vec4 := ⟨fun a b => ⟨a.x * b.x, a.y * b.y, a.z * b.z, a.w * b.w⟩⟩
instance : HMul Vec4 Float32 Vec4 := ⟨fun a s => ⟨a.x * s, a.y * s, a.z * s, a.w * s⟩⟩

/-- A vector of space with a fourth component. -/
def extend (a : Vec3) (w : Float32) : Vec4 := ⟨a.x, a.y, a.z, w⟩

/-- The first three components. -/
def truncate (a : Vec4) : Vec3 := ⟨a.x, a.y, a.z⟩

def toList (a : Vec4) : List Float32 := [a.x, a.y, a.z, a.w]

end Vec4

end Facet
