import QuadraticProgram.Constraint

/-!
# Operators

The arithmetic operators and the comparisons between two operands one of which is an
expression. If the left operand is no expression the operation is the reflected one of the
right operand; an operator without a reflected one is undefined there. Two variables that are
compared for equality give a pair (`VariablePair`), which is read either as a constraint or
as the question whether they are the same variable.

The functions `Operand.plus`, `Operand.multiply` and `Operand.compare` promote their left
operand instead.
-/

namespace QuadraticProgram

/-- An arithmetic operator. -/
inductive Arithmetic where
  | add
  | subtract
  | multiply
  | matrixMultiply
  | divide
deriving DecidableEq, BEq

/-- Two variables compared for equality. -/
structure VariablePair where
  first : Variable
  second : Variable

variable {α : Type} [Coefficient α]

namespace VariablePair

/-- Whether both are the same variable. -/
def isSame (p : VariablePair) : Bool := p.first.id == p.second.id

/-- The constraint that both variables are equal. -/
def toConstraint (p : VariablePair) : Constraint α :=
  .ofScalars (.var p.first) .equal (.var p.second)

/-- A pair as it is printed. -/
def text (p : VariablePair) : String := p.first.text ++ " == " ++ p.second.text

/-- A pair inside a message. -/
def shown (p : VariablePair) : String := p.first.shown ++ " == " ++ p.second.shown

end VariablePair

/-- The result of a comparison. -/
inductive Comparison (α : Type) [Coefficient α] where
  | constraint (c : Constraint α)
  | pair (p : VariablePair)

namespace Arithmetic

/-- The operation of the left operand. -/
def onLeft (e : Expression α) (rhs : Operand α) : Arithmetic → Except Error (Expression α)
  | add => e.plus rhs
  | subtract => e.minus rhs
  | multiply => e.multiply rhs
  | matrixMultiply => e.multiply rhs
  | divide => e.divide rhs

/-- The reflected operation of the right operand, if there is one. -/
def reflected (lhs : Operand α) (e : Expression α) (op : Arithmetic) :
    Option (Except Error (Expression α)) :=
  match op, e with
  | add, e => some (e.plus lhs)
  | subtract, e => some (e.subtractedFrom lhs)
  | multiply, e => some (e.multipliedBy lhs)
  | matrixMultiply, .scalar _ => none
  | matrixMultiply, e => some (e.multipliedBy lhs)
  | divide, _ => none

/-- The value of an operator, where it is defined. -/
def result? (op : Arithmetic) (lhs rhs : Operand α) : Option (Except Error (Expression α)) :=
  match lhs, rhs with
  | .expression e, rhs => some (op.onLeft e rhs)
  | lhs, .expression e => op.reflected lhs e
  | _, _ => none

end Arithmetic

namespace Sense

/-- The comparison of two operands one of which is an expression. -/
def compare? (s : Sense) (lhs rhs : Operand α) : Option (Except Error (Comparison α)) :=
  match s, lhs, rhs with
  | .equal, .expression (.scalar (.var v)), .expression (.scalar (.var w)) =>
    some (.ok (.pair ⟨v, w⟩))
  | s, .expression e, rhs => some ((e.compare s rhs).map .constraint)
  | s, lhs, .expression e => some ((e.compare s.mirrored lhs).map .constraint)
  | _, _, _ => none

end Sense

namespace Operand

/-- The sum of two operands, the left one promoted. -/
def plus (lhs rhs : Operand α) : Except Error (Expression α) := do
  (← lhs.toExpression).plus rhs

/-- The product of two operands, the left one promoted. -/
def multiply (lhs rhs : Operand α) : Except Error (Expression α) := do
  (← lhs.toExpression).multiply rhs

/-- The constraint between two operands, the left one promoted. -/
def compare (lhs : Operand α) (s : Sense) (rhs : Operand α) : Except Error (Constraint α) := do
  (← lhs.toExpression).compare s rhs

end Operand

end QuadraticProgram
