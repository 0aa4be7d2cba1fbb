import QuadraticProgram.Scalar

/-!
# Text of scalar expressions

An expression is written as a sum of signed terms (`Scalar.terms`): products of variables
first, in the upper triangle row by row, then single variables, then the constant. Terms that
are zero are left out, and an expression without any is written as its constant. The sign of
the first term is joined to it, that of any other stands between blanks.
-/

namespace QuadraticProgram

/-- A sign, an absolute value and the variables that it multiplies. -/
structure Term (α : Type) where
  isNegative : Bool
  magnitude : α
  factors : List Variable

namespace Term

variable {α : Type} [Coefficient α]

/-- A coefficient with the variables that it multiplies. -/
def ofCoefficient (a : α) (factors : List Variable) : Term α :=
  ⟨Coefficient.less a 0, Coefficient.magnitude a, factors⟩

/-- The absolute value and the variables. -/
def text (t : Term α) : String :=
  " * ".intercalate (Coefficient.text t.magnitude :: t.factors.map Variable.text)

/-- The term at the beginning of a sum. -/
def leading (t : Term α) : String :=
  (if t.isNegative then "-" else "") ++ t.text

/-- The term after others. -/
def trailing (t : Term α) : String :=
  (if t.isNegative then " - " else " + ") ++ t.text

/-- The sum of some terms; without any it is the given text. -/
def sum (terms : List (Term α)) (otherwise : String) : String :=
  match terms with
  | [] => otherwise
  | t :: ts => ts.foldl (fun s u => s ++ u.trailing) t.leading

end Term

namespace Scalar

variable {α : Type} [Coefficient α]

/-- A term, unless its coefficient is zero. -/
def term? (a : α) (factors : List Variable) : Option (Term α) :=
  if a == 0 then none else some (.ofCoefficient a factors)

/-- The terms of the coefficients of single variables. -/
def linearTerms (vars : List Variable) (coeffs : List α) : List (Term α) :=
  (vars.zip coeffs).filterMap fun (v, a) => term? a [v]

/-- The terms of the products of variables. An entry off the diagonal stands for two. -/
def quadraticTerms (vars : List Variable) (quad : Matrix α) : List (Term α) :=
  vars.zipIdx.flatMap fun (v, i) =>
    vars.zipIdx.filterMap fun (w, j) =>
      if j < i then none
      else if i = j then term? (quad.entry i j) [v, w]
      else term? ((1 + 1) * quad.entry i j) [v, w]

/-- The terms with variables. -/
def variableTerms : Scalar α → List (Term α)
  | const _ => []
  | var v => [.ofCoefficient 1 [v]]
  | linear f => linearTerms f.vars f.coeffs
  | quadratic f => quadraticTerms f.vars f.quad ++ linearTerms f.vars f.coeffs

/-- All the terms that are written. -/
def terms (e : Scalar α) : List (Term α) :=
  match e.variableTerms with
  | [] => []
  | ts => ts ++ (term? e.constant []).toList

/-- An expression as it is printed. -/
def text : Scalar α → String
  | const a => Coefficient.text a
  | var v => v.text
  | e => Term.sum e.terms (Coefficient.text e.constant)

/-- A list of coefficients in brackets. -/
def coefficientsText (l : List α) : String :=
  Text.bracketed (l.map Coefficient.text)

/-- A list of variables in brackets. -/
def varsShown (vs : List Variable) : String :=
  Text.bracketed (vs.map Variable.shown)

/-- A matrix as a list of its rows. -/
def matrixText (m : Matrix α) : String :=
  Text.bracketed (m.rowList.map coefficientsText)

/-- An expression inside a message: its kind and its data. -/
def shown : Scalar α → String
  | const a => "K(" ++ Coefficient.text a ++ ")"
  | var v => v.shown
  | linear f =>
    "ScalarLinearExpression(" ++ varsShown f.vars ++ ", " ++ coefficientsText f.coeffs ++
      ", " ++ Coefficient.text f.const ++ ")"
  | quadratic f =>
    "ScalarQuadraticExpression(" ++ varsShown f.vars ++ ", " ++ matrixText f.quad ++ ", " ++
      coefficientsText f.coeffs ++ ", " ++ Coefficient.text f.const ++ ")"

end Scalar

end QuadraticProgram
