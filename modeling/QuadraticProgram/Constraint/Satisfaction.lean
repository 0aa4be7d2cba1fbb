import QuadraticProgram.Constraint

/-!
# Satisfaction of constraints

An assignment satisfies a constraint if the values of its sides stand in its sense: the values
of two scalar expressions, or the values of each entry of two vectors of one length
(`Constraint.Satisfied`).
-/

namespace QuadraticProgram

variable {α : Type} [Coefficient α]

/-- The values of the entries of an expression, those of a matrix row by row. -/
def Expression.values (s : Nat → Option α) : Expression α → Except Error (List α)
  | .scalar e => (e.evaluate s).map fun a => [a]
  | .vector v => v.evaluate s
  | .matrix m => .ok m.rowList.flatten

/-- Two lists of one length whose entries stand in a sense. -/
def Sense.HoldsAll (sense : Sense) (xs ys : List α) : Prop :=
  xs.length = ys.length ∧ ∀ p ∈ xs.zip ys, sense.holds p.1 p.2 = true

/-- Whether an assignment gives values to both sides that stand in the sense of a
constraint. -/
def Constraint.Satisfied (s : Nat → Option α) (c : Constraint α) : Prop :=
  ∃ xs ys, c.lhs.values s = .ok xs ∧ c.rhs.values s = .ok ys ∧ c.sense.HoldsAll xs ys

end QuadraticProgram
