import QuadraticProgram.Variable.Alignment

/-!
# Scalar expressions

A scalar expression is a constant, a variable, a linear form `l · x + c` or a quadratic form
`x' Q x + l · x + c`. The matrix of a quadratic form is symmetric: a form is built from half
the sum of a matrix and its transpose, which has the same values. `Scalar.evaluate` is the
meaning of an expression.
-/

namespace QuadraticProgram

variable {α : Type}

/-- A linear form: a coefficient for each variable of a list, and a constant. -/
@[ext]
structure LinearForm (α : Type) where
  vars : List Variable
  coeffs : List α
  const : α
  length_coeffs : coeffs.length = vars.length

/-- A quadratic form: a symmetric matrix over a list of variables, and a linear form. -/
@[ext]
structure QuadraticForm (α : Type) [Coefficient α] where
  vars : List Variable
  quad : Matrix α
  coeffs : List α
  const : α
  rows_quad : quad.rows = vars.length
  cols_quad : quad.cols = vars.length
  length_coeffs : coeffs.length = vars.length
  isSymmetric : quad.isSymmetric = true

/-- A scalar expression. -/
inductive Scalar (α : Type) [Coefficient α] where
  | const (a : α)
  | var (v : Variable)
  | linear (f : LinearForm α)
  | quadratic (f : QuadraticForm α)

/-! ### Construction -/

/-- Refuses an array with another number of axes. -/
def Tensor.requireAxes (t : Tensor α) (part : String) (axes : Nat) : Except Error Unit :=
  if t.axes = axes then .ok () else .error (.malformed (.axes part axes t.shape))

/-- The linear form with the given variables, coefficients and constant. -/
def LinearForm.make? (xs : List Candidate) (l : Tensor α) (c : α) :
    Except Error (LinearForm α) := do
  l.requireAxes "L" 1
  let vars ← Candidate.vars .notVariable xs
  if h : l.entries.length = vars.length then
    return ⟨vars, l.entries, c, h⟩
  else
    throw (.malformed (.coefficientCount l.entries.length vars.length))

/-- The linear form with the coefficients of several variables, and a constant. -/
def LinearForm.ofPairs (terms : List (Variable × α)) (c : α) : LinearForm α :=
  ⟨terms.map Prod.fst, terms.map Prod.snd, c, by simp⟩

variable [Coefficient α]

/-- The quadratic form with a matrix made symmetric. Only entries that are no numbers stay
unequal to themselves and are refused. -/
def QuadraticForm.symmetrise? (vars : List Variable) (q : Matrix α) (l : List α) (c : α)
    (rows_q : q.rows = vars.length) (cols_q : q.cols = vars.length)
    (length_l : l.length = vars.length) : Except Error (QuadraticForm α) :=
  if h : q.symmetrised.isSymmetric = true then
    .ok ⟨vars, q.symmetrised, l, c, by simpa using rows_q, by simpa using cols_q, length_l, h⟩
  else .error (.malformed .notSymmetric)

/-- The quadratic form with the given variables, matrix, coefficients and constant; without
coefficients they are zero. -/
def QuadraticForm.make? (xs : List Candidate) (q : Tensor α) (l? : Option (Tensor α)) (c : α) :
    Except Error (QuadraticForm α) := do
  q.requireAxes "Q" 2
  let l := l?.getD (.ofList (List.replicate xs.length 0))
  l.requireAxes "L" 1
  let vars ← Candidate.vars .notVariable xs
  let n := vars.length
  if q.shape ≠ [n, n] then
    throw (.malformed (.quadraticShape q.shape n))
  else if h : l.entries.length = n then
    symmetrise? vars (Matrix.ofTensor n n q.entries) l.entries c (Matrix.rows_ofFn ..) rfl h
  else
    throw (.malformed (.coefficientCount l.entries.length n))

namespace Scalar

/-! ### Parts -/

/-- What a scalar expression is, as errors call it. -/
def kind : Scalar α → String
  | const _ => "K"
  | var _ => "Variable"
  | linear _ => "ScalarLinearExpression"
  | quadratic _ => "ScalarQuadraticExpression"

/-- The variables that the coefficients refer to, with repetitions. -/
def vars : Scalar α → List Variable
  | const _ => []
  | var v => [v]
  | linear f => f.vars
  | quadratic f => f.vars

/-- The coefficients of the variables outside products. -/
def coefficients : Scalar α → List α
  | const _ => []
  | var _ => [1]
  | linear f => f.coeffs
  | quadratic f => f.coeffs

theorem length_coefficients (e : Scalar α) :
  e.coefficients.length = e.vars.length
  := by
  cases e with
  | const a => rfl
  | var v => rfl
  | linear f => exact f.length_coeffs
  | quadratic f => exact f.length_coeffs

/-- The constant term. -/
def constant : Scalar α → α
  | const a => a
  | var _ => 0
  | linear f => f.const
  | quadratic f => f.const

/-- Whether the degree is at most one. -/
def isLinear : Scalar α → Bool
  | quadratic _ => false
  | _ => true

/-- The expression as a linear form; products of variables are left out. -/
def toLinear (e : Scalar α) : LinearForm α :=
  ⟨e.vars, e.coefficients, e.constant, e.length_coefficients⟩

/-- The matrix of the products of variables. -/
def products : Scalar α → Matrix α
  | const _ => Matrix.zeros 0 0
  | var _ => Matrix.zeros 1 1
  | linear f => Matrix.zeros f.vars.length f.vars.length
  | quadratic f => f.quad

theorem rows_products (e : Scalar α) :
  e.products.rows = e.vars.length
  := by
  cases e with
  | const a => simp [products, vars]
  | var v => simp [products, vars]
  | linear f => simp [products, vars]
  | quadratic f => exact f.rows_quad

theorem cols_products (e : Scalar α) :
  e.products.cols = e.vars.length
  := by
  cases e with
  | const a => simp [products, vars]
  | var v => simp [products, vars]
  | linear f => simp [products, vars]
  | quadratic f => exact f.cols_quad

/-- The quadratic form over the same variables, made symmetric again. -/
def resymmetrise? (f : QuadraticForm α) (q : Matrix α) (l : List α) (c : α)
    (rows_q : q.rows = f.vars.length) (cols_q : q.cols = f.vars.length)
    (length_l : l.length = f.vars.length) : Except Error (Scalar α) :=
  (QuadraticForm.symmetrise? f.vars q l c rows_q cols_q length_l).map .quadratic

/-- The expression without its constant term. -/
def variablePart : Scalar α → Except Error (Scalar α)
  | const _ => .ok (const 0)
  | var v => .ok (var v)
  | linear f => .ok (linear { f with const := 0 })
  | quadratic f =>
    resymmetrise? f f.quad f.coeffs 0 f.rows_quad f.cols_quad f.length_coeffs

/-- The constant term as an expression. -/
def constantPart (e : Scalar α) : Scalar α := const e.constant

/-- Refuses a variable whose bounds are inconsistent; other expressions are consistent by
construction. -/
def check : Scalar α → Except Error Unit
  | var v => v.check
  | _ => .ok ()

/-- The same expression over other variables, which have to contain its own. -/
def rewrite (e : Scalar α) (target : List Variable) : Except Error (Scalar α) := do
  Alignment.requireAll e.vars target
  match e with
  | quadratic f =>
    (QuadraticForm.symmetrise? target (Alignment.spreadPairs f.vars f.quad target)
      (Alignment.spread f.vars f.coeffs target) f.const (by simp) (by simp) (by simp)).map
      quadratic
  | e =>
    return linear ⟨target, Alignment.spread e.vars e.coefficients target, e.constant, by simp⟩

/-! ### Meaning -/

/-- The value of an expression under an assignment to the identifiers of variables. -/
def evaluate (s : Nat → Option α) : Scalar α → Except Error α
  | const a => .ok a
  | var v =>
    match s v.id with
    | some a => .ok a
    | none => .error (.variableNotFound v.id .values)
  | linear f => do
    let values ← Alignment.valuesOf s f.vars
    return Coefficient.dot f.coeffs values + f.const
  | quadratic f => do
    let values ← Alignment.valuesOf s f.vars
    return Coefficient.dot (Matrix.vecMul values f.quad) values
      + Coefficient.dot f.coeffs values + f.const

end Scalar

end QuadraticProgram
