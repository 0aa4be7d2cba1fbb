import QuadraticProgram.Vec.Algebra
import QuadraticProgram.Vec.Text

/-!
# Expressions

An expression is a scalar expression, a vector expression or a constant matrix. What all of
them have in common stands here: sizes, variables, degree, transposition, meaning and text.
-/

namespace QuadraticProgram

/-- An expression. -/
inductive Expression (α : Type) [Coefficient α] where
  | scalar (e : Scalar α)
  | vector (v : Vec α)
  | matrix (m : Matrix α)

/-- The value of an expression: one coefficient, one for each entry of a vector, or a
matrix. -/
inductive Evaluated (α : Type) where
  | scalar (a : α)
  | vector (values : List α)
  | matrix (m : Matrix α)

namespace Expression

variable {α : Type} [Coefficient α]

/-- What an expression is, as errors call it. -/
def kind : Expression α → String
  | scalar e => e.kind
  | vector v => v.kind
  | matrix _ => "KMatrix"

/-- The number of rows and of columns. -/
def dimensions : Expression α → List Nat
  | scalar _ => [1, 1]
  | vector v => v.dimensions
  | matrix m => m.dimensions

/-- The variables that the coefficients refer to, with repetitions. -/
def vars : Expression α → List Variable
  | scalar e => e.vars
  | vector v => v.vars
  | matrix _ => []

/-- The distinct variables. -/
def distinctVars (e : Expression α) : List Variable := Alignment.distinct e.vars

/-- Whether the degree is at most one. -/
def isLinear : Expression α → Bool
  | scalar e => e.isLinear
  | _ => true

/-- Refuses a variable whose bounds are inconsistent. -/
def check : Expression α → Except Error Unit
  | scalar e => e.check
  | _ => .ok ()

/-- Rows and columns exchanged. -/
def transpose : Expression α → Expression α
  | scalar e => scalar e
  | vector v => vector v.transpose
  | matrix m => matrix m.transpose

/-- The value of an expression under an assignment to the identifiers of variables. -/
def evaluate (s : Nat → Option α) : Expression α → Except Error (Evaluated α)
  | scalar e => (e.evaluate s).map .scalar
  | vector v => (v.evaluate s).map .vector
  | matrix m => .ok (.matrix m)

/-- An expression as it is printed. -/
def text : Expression α → String
  | scalar e => e.text
  | vector v => v.text
  | matrix m => Scalar.matrixText m

/-- An expression inside a message. -/
def shown : Expression α → String
  | scalar e => e.shown
  | vector v => v.shown
  | matrix m => "KMatrix(" ++ Scalar.matrixText m ++ ")"

end Expression

end QuadraticProgram
