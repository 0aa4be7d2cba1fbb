import QuadraticProgram.Expression.Algebra

/-!
# Constraints

A constraint states that its left side is at most, at least or equal to its right side:
between two scalar expressions, or entry by entry between two vectors. The sides are not
compared when a constraint is built; `Constraint.check` does so.
-/

namespace QuadraticProgram

/-- How the left side of a constraint stands to the right one. -/
inductive Sense where
  | lessEqual
  | greaterEqual
  | equal
deriving DecidableEq, BEq, Inhabited

namespace Sense

/-- The sense as it is printed between the sides. -/
def text : Sense → String
  | lessEqual => "<="
  | greaterEqual => ">="
  | equal => "="

/-- The name of a sense. -/
def name : Sense → String
  | lessEqual => "LESS_EQUAL"
  | greaterEqual => "GREATER_EQUAL"
  | equal => "EQUAL"

/-- The sense as a member of its choice. -/
def shown (s : Sense) : String := "ConstraintSense." ++ s.name

/-- The sense with the sides exchanged. -/
def mirrored : Sense → Sense
  | lessEqual => greaterEqual
  | greaterEqual => lessEqual
  | equal => equal

/-- Whether two coefficients stand in a sense. -/
def holds {α : Type} [Coefficient α] (s : Sense) (a b : α) : Bool :=
  match s with
  | lessEqual => Coefficient.atMost a b
  | greaterEqual => Coefficient.atMost b a
  | equal => a == b

end Sense

variable {α : Type} [Coefficient α]

/-- Whether a constraint is between scalars or between vectors. -/
inductive ConstraintForm where
  | scalar
  | vector
deriving DecidableEq, BEq, Inhabited

/-- A constraint. -/
structure Constraint (α : Type) [Coefficient α] where
  form : ConstraintForm
  lhs : Expression α
  rhs : Expression α
  sense : Sense

/-- What a constraint of some form is, as errors call it. -/
def ConstraintForm.kind : ConstraintForm → String
  | .scalar => "ScalarConstraint"
  | .vector => "VectorConstraint"

namespace Expression

/-- The number of entries of an expression that is a vector. -/
def length : Expression α → Except Error Nat
  | vector v => .ok v.length
  | e => .error (.withoutLength e.kind)

/-- The vector that an expression is, where a feature of vectors is asked for. -/
def vectorAsking (feature : String) : Expression α → Except Error (Vec α)
  | vector v => .ok v
  | e => .error (.lacks e.kind feature)

end Expression

namespace Constraint

/-- The constraint between two scalar expressions. -/
def ofScalars (a : Scalar α) (sense : Sense) (b : Scalar α) : Constraint α :=
  ⟨.scalar, .scalar a, .scalar b, sense⟩

/-- The constraint between two vectors. -/
def ofVectors (u : Vec α) (sense : Sense) (v : Vec α) : Constraint α :=
  ⟨.vector, .vector u, .vector v, sense⟩

/-- What a constraint is, as errors call it. -/
def kind (c : Constraint α) : String := c.form.kind

/-- Whether both sides are linear. -/
def isLinear (c : Constraint α) : Bool := c.lhs.isLinear && c.rhs.isLinear

/-- Refuses vectors of different lengths or orientations. -/
def checkShapes (lhs rhs : Expression α) : Except Error Unit := do
  if (← lhs.length) ≠ (← rhs.length) then
    throw (.dimensionMismatch .comparison lhs.dimensions rhs.dimensions)
  let u ← lhs.vectorAsking "orientation"
  let v ← rhs.vectorAsking "orientation"
  if u.orientation ≠ v.orientation then
    throw (.orientationMismatch .comparison u.kind u.orientation v.kind v.orientation)

/-- Refuses sides that are malformed or do not fit together. -/
def check (c : Constraint α) : Except Error Unit := do
  match c.form with
  | .scalar => pure ()
  | .vector => checkShapes c.lhs c.rhs
  c.lhs.check
  c.rhs.check

/-- The constraint on one entry of both sides. -/
def at? (i : Int) (c : Constraint α) : Except Error (Constraint α) := do
  let a ← (← c.lhs.vectorAsking "at").at? i
  let b ← (← c.rhs.vectorAsking "at").at? i
  return ofScalars a c.sense b

/-- The number of entries of the left side. -/
def length (c : Constraint α) : Except Error Nat := c.lhs.length

/-- A constraint as it is printed. -/
def text (c : Constraint α) : String :=
  c.lhs.text ++ " " ++ c.sense.text ++ " " ++ c.rhs.text

/-- A constraint inside a message. -/
def shown (c : Constraint α) : String :=
  c.kind ++ "(" ++ c.lhs.shown ++ ", " ++ c.rhs.shown ++ ", " ++ c.sense.shown ++ ")"

end Constraint

/-! ### Comparison of expressions -/

/-- The constraint that an expression stands in some sense to an operand. -/
def Expression.compare (e : Expression α) (sense : Sense) (rhs : Operand α) :
    Except Error (Constraint α) :=
  match e with
  | .scalar a => do return .ofScalars a sense (← rhs.asScalar .comparison)
  | .vector u => do
    let v ← rhs.asVector .comparison true u
    u.requireSameShape .comparison v
    return .ofVectors u sense v
  | .matrix _ => .error .matrixComparison

end QuadraticProgram
