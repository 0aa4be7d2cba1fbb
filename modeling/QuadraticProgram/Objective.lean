import QuadraticProgram.Operand

/-!
# Objectives

The objective of a problem is a scalar expression that is minimised or maximised, or only
carried along when any feasible point will do.
-/

namespace QuadraticProgram

/-- What is asked of an objective. -/
inductive ObjectiveSense where
  | minimize
  | maximize
  | find
deriving DecidableEq, BEq, Inhabited

namespace ObjectiveSense

/-- The name of a sense. -/
def name : ObjectiveSense → String
  | minimize => "MINIMIZE"
  | maximize => "MAXIMIZE"
  | find => "FIND"

/-- The sense as it is printed before the expression. -/
def text : ObjectiveSense → String
  | minimize => "minimize"
  | maximize => "maximize"
  | find => "find"

/-- The sense as a member of its choice. -/
def shown (s : ObjectiveSense) : String := "ObjectiveSense." ++ s.name

end ObjectiveSense

variable {α : Type} [Coefficient α]

/-- An objective. -/
structure Objective (α : Type) [Coefficient α] where
  expression : Scalar α
  sense : ObjectiveSense

/-- The scalar expression that an operand stands for as an objective. -/
def Operand.asObjective : Operand α → Except Error (Scalar α)
  | number n => n.value.map .const
  | expression (.scalar e) => .ok e
  | expression e => .error (.objectiveNotScalar e.kind)
  | array _ => .error (.objectiveNotScalar "ndarray")
  | other k => .error (.unexpectedInput .objective k)

namespace Objective

/-- Refuses a variable whose bounds are inconsistent. -/
def check (o : Objective α) : Except Error Unit := o.expression.check

/-- Whether the expression is linear. -/
def isLinear (o : Objective α) : Bool := o.expression.isLinear

/-- An objective as it is printed. -/
def text (o : Objective α) : String := o.sense.text ++ " " ++ o.expression.text

/-- An objective inside a message. -/
def shown (o : Objective α) : String :=
  "Objective(" ++ o.expression.shown ++ ", " ++ o.sense.shown ++ ")"

end Objective

end QuadraticProgram
