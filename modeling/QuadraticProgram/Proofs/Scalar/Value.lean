import QuadraticProgram.Proofs.Form
import QuadraticProgram.Scalar

/-!
# Values of scalar expressions

Every scalar expression is a matrix, coefficients and a constant over a list of variables, and
its value at a point is the sum of what the three stand for (`Scalar.valueAt`). Where an
assignment covers the variables, evaluation gives this value (`Scalar.evaluate_eq_ok`). A
quadratic form that is built from a square matrix is never refused, and it has the values of
the matrix as it was given (`exists_symmetrise?`).
-/

namespace QuadraticProgram

open QuadraticProgram.Alignment

namespace Scalar

/-- The degree of the form that an expression has; terms with zero coefficients count. -/
def degree {α : Type} [Coefficient α] : Scalar α → ℕ
  | const _ => 0
  | var _ => 1
  | linear _ => 1
  | quadratic _ => 2

/-- There are constants, linear forms and quadratic ones. -/
theorem degree_le_two {α : Type} [Coefficient α] (e : Scalar α) :
  e.degree ≤ 2
  := by
  cases e <;> simp [degree]

/-- Whether an expression is a bare variable. -/
def isVariable {α : Type} [Coefficient α] : Scalar α → Bool
  | var _ => true
  | _ => false

/-- The value of an expression at a point. -/
def valueAt (x : ℕ → ℚ) (e : Scalar ℚ) : ℚ :=
  quadraticValue x e.vars e.products + linearValue x e.vars e.coefficients + e.constant

/-- Below degree two there are no products. -/
theorem products_of_degree_le {e : Scalar ℚ} (h : e.degree ≤ 1) :
  e.products = Matrix.zeros e.vars.length e.vars.length
  := by
  cases e with
  | const a => rfl
  | var v => rfl
  | linear f => rfl
  | quadratic f => exact absurd h (Nat.not_succ_le_self 1)

/-- Without products of variables only the linear part and the constant count. -/
theorem valueAt_of_degree_le {e : Scalar ℚ} (h : e.degree ≤ 1) (x : ℕ → ℚ) :
  e.valueAt x = linearValue x e.vars e.coefficients + e.constant
  := by
  rw [valueAt, products_of_degree_le h, quadraticValue_zeros, zero_add]

theorem valueAt_const (a : ℚ) (x : ℕ → ℚ) :
  (const a).valueAt x = a
  := by
  rw [valueAt_of_degree_le (e := const a) (Nat.zero_le 1)]
  apply zero_add

theorem valueAt_var (v : Variable) (x : ℕ → ℚ) :
  (var v).valueAt x = x v.id
  := by
  rw [valueAt_of_degree_le (e := var v) (le_refl 1)]
  simp [linearValue, valuesAt, vars, coefficients, constant]

theorem valueAt_linear (f : LinearForm ℚ) (x : ℕ → ℚ) :
  (linear f).valueAt x = linearValue x f.vars f.coeffs + f.const
  := valueAt_of_degree_le (le_refl 1) x

theorem valueAt_quadratic (f : QuadraticForm ℚ) (x : ℕ → ℚ) :
  (quadratic f).valueAt x
    = quadraticValue x f.vars f.quad + linearValue x f.vars f.coeffs + f.const
  := rfl

/-- To evaluate an expression is to look up its variables. -/
theorem evaluate_eq_lookingUp (s : ℕ → Option ℚ) (e : Scalar ℚ) :
  e.evaluate s = lookingUp s e.vars (e.valueAt (pointOf s))
  := by
  cases e with
  | const a =>
      rw [evaluate, valueAt_const]
      rfl
  | var v =>
      rw [evaluate, valueAt_var]
      cases hv : s v.id with
      | none => simp [lookingUp, vars, hv]
      | some a => simp [lookingUp, vars, pointOf, hv]
  | linear f =>
      rw [evaluate, valuesOf_eq_lookingUp, valueAt_linear, ← dot_valuesAt f.length_coeffs.le]
      apply lookingUp_bind_ok
  | quadratic f =>
      rw [evaluate, valuesOf_eq_lookingUp, valueAt_quadratic, ← dot_valuesAt f.length_coeffs.le,
        ← dot_vecMul_valuesAt f.rows_quad f.cols_quad]
      apply lookingUp_bind_ok

/-- An assignment that covers the variables of an expression gives it its value. -/
theorem evaluate_eq_ok {s : ℕ → Option ℚ} {e : Scalar ℚ} (h : Covers s e.vars) :
  e.evaluate s = .ok (e.valueAt (pointOf s))
  := by
  rw [evaluate_eq_lookingUp, lookingUp_of_covers h]

end Scalar

/-- What a quadratic form is built from determines it. -/
theorem QuadraticForm.symmetrise?_congr {α : Type} [Coefficient α] {vs vs' : List Variable}
    {q q' : Matrix α} {l l' : List α} {c c' : α} {hr : q.rows = vs.length} {hc : q.cols = vs.length}
    {hl : l.length = vs.length} (hvs : vs = vs') (hq : q = q') (hll : l = l') (hcc : c = c') :
  symmetrise? vs q l c hr hc hl
    = symmetrise? vs' q' l' c' (hq ▸ hvs ▸ hr) (hq ▸ hvs ▸ hc) (hll ▸ hvs ▸ hl)
  := by
  subst hvs hq hll hcc
  rfl

/-- A square matrix, coefficients and a constant over a list of variables make a quadratic
form. Only the matrix is changed, into half the sum of it and its transpose. -/
theorem QuadraticForm.exists_symmetrise? (vs : List Variable) (q : Matrix ℚ) (l : List ℚ) (c : ℚ)
    (hr : q.rows = vs.length) (hc : q.cols = vs.length) (hl : l.length = vs.length) :
  ∃ f, QuadraticForm.symmetrise? vs q l c hr hc hl = .ok f ∧ f.vars = vs
    ∧ ∀ x, (Scalar.quadratic f).valueAt x
        = quadraticValue x vs q + linearValue x vs l + c
  := by
  have hq : q.rows = q.cols := by
    rw [hr, hc]
  rw [symmetrise?, dif_pos (Matrix.isSymmetric_symmetrised hq)]
  use ⟨vs, q.symmetrised, l, c, by simpa using hr, by simpa using hc, hl,
    Matrix.isSymmetric_symmetrised hq⟩, rfl, rfl
  intro x
  rw [Scalar.valueAt_quadratic, quadraticValue_symmetrised hq]

end QuadraticProgram
