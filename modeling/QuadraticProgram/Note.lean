/-!
# Notes

Remarks that an operation leaves for its caller beside its result.
-/

namespace QuadraticProgram

/-- How much a note matters. -/
inductive Level where
  | warning
  | info
  | detail
  | trace
deriving DecidableEq, BEq

/-- The number of a level: the larger, the more it matters. -/
def Level.number : Level → Nat
  | .warning => 30
  | .info => 20
  | .detail => 10
  | .trace => 9

/-- A remark. -/
structure Note where
  level : Level
  text : String
deriving DecidableEq, BEq

end QuadraticProgram
