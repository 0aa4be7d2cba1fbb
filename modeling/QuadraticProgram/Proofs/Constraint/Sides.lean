import QuadraticProgram.Constraint.Rows
import QuadraticProgram.Proofs.Outcome

/-!
# Sides of simplified constraints

What a constraint is simplified to, given its left side once all variables have been moved to
it, and the row or the rows that it gives, given their columns as well.
-/

namespace QuadraticProgram

variable {α : Type} [Coefficient α]

/-! ### Bounds -/

/-- Lists of one length are subtracted entry by entry. -/
theorem Bound.minus_list_of_length_eq {xs ys : List α} (h : xs.length = ys.length) :
  (Bound.list xs).minus (.list ys) = .ok (.list (List.zipWith (· - ·) xs ys))
  := if_pos h

namespace Constraint

variable {a b e : Scalar α} {u v w : Vec α} {columns : Columns}
  {ks : List ℕ}

/-! ### Moving variables to the left -/

/-- A right side without variables leaves the left side as it is. -/
theorem movedLeft_of_vars_eq_nil (lhs rhs : Expression α) (h : rhs.vars = []) :
  movedLeft lhs rhs = .ok lhs
  := by
  rw [movedLeft, h]
  rfl

/-- The right side is subtracted without its constant. -/
theorem movedLeft_of_vars_ne_nil (lhs rhs : Expression α) {d : Expression α} (h : rhs.vars ≠ [])
    (hd : rhs.variablePart = .ok d) :
  movedLeft lhs rhs = lhs.minus (.expression d)
  := by
  rw [movedLeft, if_neg (by simpa using h), hd]
  rfl

/-! ### Simplified constraints -/

/-- A comparison of scalar expressions is simplified to what was moved to the left and the constant
on the right. -/
theorem simplify_ofScalars (s : Sense)
    (h : movedLeft (.scalar a) (.scalar b) = .ok (.scalar e)) :
  (ofScalars a s b).simplify = .ok (ofScalars e s b.constantPart)
  := by
  rw [simplify, ofScalars, h]
  rfl

/-- A comparison of vectors is simplified to what was moved to the left and the constants on the
right. -/
theorem simplify_ofVectors (s : Sense)
    (h : movedLeft (.vector u) (.vector v) = .ok (.vector w)) :
  (ofVectors u s v).simplify = .ok (ofVectors w s v.constantPart)
  := by
  rw [simplify, ofVectors, h]
  rfl

theorem simplifiedLinear_ofScalars (s : Sense) (hlinear : (ofScalars a s b).isLinear = true)
    (he : movedLeft (.scalar a) (.scalar b) = .ok (.scalar e)) :
  (ofScalars a s b).simplifiedLinear = .ok (ofScalars e s b.constantPart)
  := by
  rw [simplifiedLinear, if_pos hlinear, simplify_ofScalars s he]

theorem simplifiedLinear_ofVectors (s : Sense)
    (hw : movedLeft (.vector u) (.vector v) = .ok (.vector w)) :
  (ofVectors u s v).simplifiedLinear = .ok (ofVectors w s v.constantPart)
  := by
  have hlinear : (ofVectors u s v).isLinear = true := rfl
  rw [simplifiedLinear, if_pos hlinear, simplify_ofVectors s hw]

/-! ### Rows -/

/-- The row of a comparison has the coefficients of what was moved to the left, and its bound is
what is left of the constants. -/
theorem linearRow_ofScalars (s : Sense) (hlinear : (ofScalars a s b).isLinear = true)
    (he : movedLeft (.scalar a) (.scalar b) = .ok (.scalar e))
    (hks : columns.indices 0 e.vars = .ok ks) :
  (ofScalars a s b).linearRow columns
    = .ok ⟨columns.row ks e.coefficients, .single (b.constant - e.constant), by simp⟩
  := by
  have hleft : (ofScalars e s b.constantPart).scalarLeft = .ok e := rfl
  have hbound : (ofScalars e s b.constantPart).bound = .ok (.single (b.constant - e.constant)) :=
    rfl
  rw [linearRow, simplifiedLinear_ofScalars s hlinear he, Outcome.ok_bind, hleft, Outcome.ok_bind,
    hks, Outcome.ok_bind, hbound, Outcome.ok_bind, Outcome.pure_eq_ok]

/-- The rows of a comparison have the coefficients of what was moved to the left, and their bounds
are what is left of the constants. -/
theorem linearRows_ofVectors (s : Sense)
    (hw : movedLeft (.vector u) (.vector v) = .ok (.vector w))
    (hks : columns.indices 1 w.vars = .ok ks) (hl : v.length = w.length) :
  (ofVectors u s v).linearRows columns
    = .ok ⟨columns.matrix ks w.linearCoeff, .list (List.zipWith (· - ·) v.constant w.constant), rfl⟩
  := by
  have hleft : (ofVectors w s v.constantPart).vectorLeft = .ok w := rfl
  have hlength : v.constant.length = w.constant.length := by
    rw [Vec.length_constant, Vec.length_constant, hl]
  have hbound : (ofVectors w s v.constantPart).bound
      = .ok (.list (List.zipWith (· - ·) v.constant w.constant)) :=
    Bound.minus_list_of_length_eq hlength
  rw [linearRows, simplifiedLinear_ofVectors s hw, Outcome.ok_bind, hleft, Outcome.ok_bind, hks,
    Outcome.ok_bind, hbound, Outcome.ok_bind, Outcome.pure_eq_ok]

end Constraint

end QuadraticProgram
