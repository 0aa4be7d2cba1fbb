/-!
# Orientation

A vector stands as a column or lies as a row.
-/

namespace QuadraticProgram

/-- How a vector is placed. -/
inductive Orientation where
  | column
  | row
deriving DecidableEq, BEq, Inhabited

namespace Orientation

/-- The other orientation. -/
def flipped : Orientation → Orientation
  | column => row
  | row => column

/-- The orientation as messages name it. -/
def name : Orientation → String
  | column => "COLUMN"
  | row => "ROW"

/-- To flip an orientation twice gives it back. -/
@[simp]
theorem flipped_flipped (o : Orientation) :
  o.flipped.flipped = o
  := by
  cases o <;> rfl

end Orientation

end QuadraticProgram
