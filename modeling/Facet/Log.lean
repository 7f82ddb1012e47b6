/-!
# Log lines

What the program reports about itself while it runs. An operation returns all its lines; which of
them are shown is decided afterwards (`Log.shown`), so no behaviour depends on the level.
-/

namespace Facet.Log

/-- How much a line matters. -/
inductive Level where
  | error
  | warn
  | info
  | debug
deriving DecidableEq, Repr

def Level.name : Level → String
  | .error => "ERROR"
  | .warn => "WARN"
  | .info => "INFO"
  | .debug => "DEBUG"

/-- Zero for the most important level. -/
def Level.rank : Level → Nat
  | .error => 0
  | .warn => 1
  | .info => 2
  | .debug => 3

/-- A reported line. -/
structure Line where
  level : Level
  text : String
deriving DecidableEq, Repr

/-- The lines that matter at least as much as `limit`, in order. -/
def shown (limit : Level) (lines : List Line) : List Line :=
  lines.filter fun line => line.level.rank ≤ limit.rank

end Facet.Log
