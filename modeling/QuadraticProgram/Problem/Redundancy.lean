import QuadraticProgram.Constraint.Implication
import QuadraticProgram.Problem

/-!
# Redundant constraints

A constraint is redundant beside others one of which implies it. It is never compared with
itself, which its tag tells.
-/

namespace QuadraticProgram

variable {α : Type} [Coefficient α]

/-- Whether one of some constraints is known to imply another. -/
def Constraint.isImpliedByAny (c : Tagged (Constraint α))
    (others : List (Tagged (Constraint α))) : Except Error Bool :=
  (others.filter fun d => d.tag != c.tag).anyM fun d => d.value.implies c.value

/-- Whether a constraint is known to be implied by others of a problem. -/
def Problem.isRedundant (p : Problem α) (c : Tagged (Constraint α)) : Except Error Bool :=
  Constraint.isImpliedByAny c p.constraints

end QuadraticProgram
