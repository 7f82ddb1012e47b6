/-!
# Faults

A broken assertion ends an operation where it stands; what the operation had done by then stays
done. Faults are kept apart from errors, which a caller is expected to handle.
-/

namespace Facet

/-- A broken assertion. -/
inductive Fault where
  /-- Records about to be uploaded have normals off their own planes. -/
  | misalignedNormals
  /-- A uniform block declares one name twice. -/
  | duplicateUniform (name : String)
  /-- The least frame time lies above the greatest. -/
  | clockBounds
  /-- The bounds of an interval to clamp to are out of order or undefined. -/
  | clampBounds
  /-- A window's scale factor is not a positive normal number. -/
  | scaleFactor
  /-- A duration has more seconds than can be counted. -/
  | durationOverflow
deriving DecidableEq, Repr

/-- The text of an assertion that has one of its own. -/
def Fault.message? : Fault → Option String
  | .misalignedNormals => some "face normals must be orthogonal to their edges"
  | .duplicateUniform name => some ("duplicate uniform `" ++ name ++ "`")
  | .clockBounds => some "assertion failed: dt_min <= dt_max"
  | .clampBounds | .scaleFactor | .durationOverflow => none

end Facet
