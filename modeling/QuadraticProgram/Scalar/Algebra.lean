import QuadraticProgram.Scalar

/-!
# Sums and products of scalar expressions

Two expressions are added or multiplied over the distinct variables of both. The result has
the least form that holds it: constants are absorbed, a variable and a variable give a linear
form, and a product of two linear forms is quadratic. A product of higher degree is refused
(`Scalar.mul`), a sum never is.
-/

namespace QuadraticProgram.Scalar

variable {α : Type} [Coefficient α]

/-- The distinct variables of two expressions. -/
def commonVars (a b : Scalar α) : List Variable :=
  Alignment.distinct (a.vars ++ b.vars)

/-- The coefficients of an expression for the variables of a list. -/
def coefficientsOver (e : Scalar α) (target : List Variable) : List α :=
  Alignment.spread e.vars e.coefficients target

/-- The products of an expression for the variables of a list. -/
def productsOver (e : Scalar α) (target : List Variable) : Matrix α :=
  Alignment.spreadPairs e.vars e.products target

/-- The sum of two expressions as a linear form; products of variables are left out. -/
def linearSum (a b : Scalar α) : LinearForm α where
  vars := commonVars a b
  coeffs := List.zipWith (· + ·) (a.coefficientsOver (commonVars a b))
    (b.coefficientsOver (commonVars a b))
  const := a.constant + b.constant
  length_coeffs := by simp [coefficientsOver]

/-- The sum of two expressions as a quadratic form. -/
def quadraticSum (a b : Scalar α) : Except Error (QuadraticForm α) :=
  let xs := commonVars a b
  QuadraticForm.symmetrise? xs ((a.productsOver xs).add (b.productsOver xs))
    (List.zipWith (· + ·) (a.coefficientsOver xs) (b.coefficientsOver xs))
    (a.constant + b.constant) (by simp [productsOver]) (by simp [productsOver])
    (by simp [coefficientsOver])

/-- An expression with a coefficient added to its constant term. -/
def addConst (e : Scalar α) (a : α) : Except Error (Scalar α) :=
  match e with
  | const b => .ok (const (b + a))
  | var v => .ok (linear (.ofPairs [(v, 1)] a))
  | linear f => .ok (linear { f with const := f.const + a })
  | quadratic f =>
    resymmetrise? f f.quad f.coeffs (f.const + a) f.rows_quad f.cols_quad f.length_coeffs

/-- The sum of two expressions. -/
def add (a b : Scalar α) : Except Error (Scalar α) :=
  match a, b with
  | const c, const d => .ok (const (c + d))
  | e, const c => e.addConst c
  | const c, e => e.addConst c
  | var v, var w =>
    if v.id = w.id then .ok (linear (.ofPairs [(v, 1 + 1)] 0))
    else .ok (linear (.ofPairs [(v, 1), (w, 1)] 0))
  | e@(quadratic _), f => (quadraticSum e f).map quadratic
  | e, f@(quadratic _) => (quadraticSum e f).map quadratic
  | e, f => .ok (linear (linearSum e f))

/-- An expression with all coefficients multiplied by a coefficient on the left. -/
def scale (a : α) : Scalar α → Except Error (Scalar α)
  | const b => .ok (const (a * b))
  | var v => .ok (linear (.ofPairs [(v, a)] 0))
  | linear f =>
    .ok (linear ⟨f.vars, f.coeffs.map (a * ·), a * f.const, by simp [f.length_coeffs]⟩)
  | quadratic f =>
    resymmetrise? f (f.quad.scale a) (f.coeffs.map (a * ·)) (a * f.const)
      (by simp [f.rows_quad]) (by simp [f.cols_quad]) (by simp [f.length_coeffs])

/-- The product of two expressions without products of variables. Of the term for two
different variables one half stands on either side of the diagonal. -/
def linearProduct (a b : Scalar α) : Except Error (QuadraticForm α) :=
  let xs := commonVars a b
  let l := a.coefficientsOver xs
  let m := b.coefficientsOver xs
  QuadraticForm.symmetrise? xs (Matrix.outer l m).symmetrised
    (List.zipWith (· + ·) (l.map (b.constant * ·)) (m.map (a.constant * ·)))
    (a.constant * b.constant) (by simp [l, coefficientsOver]) (by simp [m, coefficientsOver])
    (by simp [l, m, coefficientsOver])

/-- The product of two expressions, of degree two at most. -/
def mul (a b : Scalar α) : Except Error (Scalar α) :=
  match a, b with
  | const c, const d => .ok (const (c * d))
  | e, const c => scale c e
  | const c, e => scale c e
  | e@(quadratic _), f => .error (.degreeExceeded e.kind f.kind)
  | e, f@(quadratic _) => .error (.degreeExceeded e.kind f.kind)
  | e, f => (linearProduct e f).map quadratic

/-- An expression with its sign changed. -/
def negated (e : Scalar α) : Except Error (Scalar α) := mul e (const (-1))

end QuadraticProgram.Scalar
