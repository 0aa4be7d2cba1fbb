import QuadraticProgram.Expression

/-!
# Variables replaced

An expression whose variables are replaced one by one, while its coefficients stay as they are.
-/

namespace QuadraticProgram

variable {α : Type}

/-- A linear form with other variables. -/
def LinearForm.rename (f : Variable → Variable) (e : LinearForm α) : LinearForm α :=
  { e with vars := e.vars.map f, length_coeffs := by simp [e.length_coeffs] }

/-- An affine form with other variables. -/
def AffineForm.rename (f : Variable → Variable) (e : AffineForm α) : AffineForm α :=
  { e with vars := e.vars.map f, cols_coeffs := by simp [e.cols_coeffs] }

/-- A vector with other variables. -/
def Vec.rename (f : Variable → Variable) (v : Vec α) : Vec α :=
  match v.entries with
  | .const values => ⟨.const values, v.orientation⟩
  | .vars elements => ⟨.vars (elements.map f), v.orientation⟩
  | .affine e => ⟨.affine (e.rename f), v.orientation⟩

variable [Coefficient α]

/-- A quadratic form with other variables. -/
def QuadraticForm.rename (f : Variable → Variable) (e : QuadraticForm α) : QuadraticForm α :=
  { e with
    vars := e.vars.map f
    rows_quad := by simp [e.rows_quad]
    cols_quad := by simp [e.cols_quad]
    length_coeffs := by simp [e.length_coeffs] }

/-- A scalar expression with other variables. -/
def Scalar.rename (f : Variable → Variable) : Scalar α → Scalar α
  | const a => const a
  | var v => var (f v)
  | linear e => linear (e.rename f)
  | quadratic e => quadratic (e.rename f)

/-- An expression with other variables. -/
def Expression.rename (f : Variable → Variable) : Expression α → Expression α
  | scalar e => scalar (e.rename f)
  | vector v => vector (v.rename f)
  | matrix m => matrix m

end QuadraticProgram
