import QuadraticProgram.Constraint

/-!
# Simplified constraints

A constraint is simplified by moving all variables to its left side, so that its right side
is constant. The constant of the left side stays where it is.
-/

namespace QuadraticProgram.Constraint

variable {α : Type} [Coefficient α]

/-- The left side without the variable part of the right one. -/
def movedLeft (lhs rhs : Expression α) : Except Error (Expression α) :=
  if rhs.vars.isEmpty then .ok lhs
  else do lhs.plus (.expression (← (← rhs.variablePart).negated))

/-- The equivalent constraint with all variables on the left side. -/
def simplify (c : Constraint α) : Except Error (Constraint α) := do
  let lhs ← movedLeft c.lhs c.rhs
  return { c with lhs := lhs, rhs := ← c.rhs.constantPart }

end QuadraticProgram.Constraint
