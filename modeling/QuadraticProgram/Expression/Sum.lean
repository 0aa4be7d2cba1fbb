import QuadraticProgram.Expression.Algebra

/-!
# Sums of many operands

`Expression.sum` adds up a list of operands. Linear scalar expressions are added in one pass
over all their terms; any other list is added from left to right. Without operands the sum is
the constant zero.
-/

namespace QuadraticProgram

variable {α : Type} [Coefficient α]

/-- The sum of linear scalar expressions, over their distinct variables. -/
def Scalar.linearTotal (es : List (Scalar α)) : LinearForm α :=
  let source := es.flatMap Scalar.vars
  let target := Alignment.distinct source
  ⟨target, Alignment.spread source (es.flatMap Scalar.coefficients) target,
    Coefficient.total (es.map Scalar.constant), by simp⟩

/-- The sum of linear scalar expressions: a constant if they have no variables. -/
def Scalar.sumOfLinear (es : List (Scalar α)) : Scalar α :=
  let form := linearTotal es
  if form.vars.isEmpty then .const form.const else .linear form

namespace Expression

/-- The linear scalar expressions that a list consists of, if it has no others. -/
def linearScalars? : List (Expression α) → Option (List (Scalar α))
  | [] => some []
  | scalar e :: es => if e.isLinear then (linearScalars? es).map (e :: ·) else none
  | _ :: _ => none

/-- The sum of the expressions of a list, from left to right after a first one. -/
def sumFrom (e : Expression α) (es : List (Expression α)) : Except Error (Expression α) :=
  es.foldlM (fun sum f => sum.plus (.expression f)) e

/-- The sum of the operands of a list. -/
def sum (xs : List (Operand α)) : Except Error (Expression α) := do
  let es ← xs.mapM Operand.toExpression
  match linearScalars? es, es with
  | some scalars, _ => return scalar (.sumOfLinear scalars)
  | none, [] => return scalar (.const 0)
  | none, e :: es => sumFrom e es

end Expression

end QuadraticProgram
