/-!
# Log filters

Which filter the log runs with: the one that is asked for, else that of the environment, unless it
is blank, in which case a built-in filter holds back the graphics layers.
-/

namespace Facet.Log

/-- Ranges of the characters with the Unicode property White_Space. -/
def whiteSpace : List (Nat × Nat) :=
  [ (0x9, 0xd), (0x20, 0x20), (0x85, 0x85), (0xa0, 0xa0), (0x1680, 0x1680), (0x2000, 0x200a),
    (0x2028, 0x2029), (0x202f, 0x202f), (0x205f, 0x205f), (0x3000, 0x3000) ]

/-- Whether a character is white space. -/
def isBlank (c : Char) : Bool := whiteSpace.any fun r => r.1 ≤ c.toNat && c.toNat ≤ r.2

/-- The filter where none is given. -/
def defaultFilter : String := "info,wgpu_core=warn,wgpu_hal=warn,naga=warn"

/-- How the lines are coloured where nothing is said. -/
def defaultStyle : String := "Auto"

/-- The filter in force. -/
def resolveFilter (asked environment : Option String) : String :=
  match asked.or environment with
  | some filter => if filter.toList.all isBlank then defaultFilter else filter
  | none => defaultFilter

theorem isBlank_of_isWhitespace (c : Char) (h : c.isWhitespace = true) : isBlank c = true := by
  simp only [Char.isWhitespace, Bool.or_eq_true, decide_eq_true_eq] at h
  rcases h with ((h | h) | h) | h <;> subst h <;> decide

end Facet.Log
