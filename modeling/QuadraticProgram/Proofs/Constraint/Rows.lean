import QuadraticProgram.Proofs.Constraint.Columns
import QuadraticProgram.Proofs.Constraint.Simplify

/-!
# Rows and their bounds

A linear constraint whose variables have columns gives a row and a bound, or a row and a bound
for each entry. At a point by columns the row less its bound is the difference of the sides at
the point by identifiers.
-/

namespace QuadraticProgram.Constraint

open QuadraticProgram.Alignment Coefficient

variable {columns : Columns} {s : Sense}

theorem isLinear_ofScalars {a b : Scalar ℚ} :
  (ofScalars a s b).isLinear = true ↔ a.degree ≤ 1 ∧ b.degree ≤ 1
  := by
  rw [isLinear, Bool.and_eq_true, ← Scalar.isLinear_iff_degree_le, ← Scalar.isLinear_iff_degree_le]
  rfl

/-- The row of a linear constraint between scalar expressions. -/
theorem exists_linearRow {a b : Scalar ℚ} (ha : a.degree ≤ 1) (hb : b.degree ≤ 1)
    (h : columns.Finds (a.vars ++ b.vars)) :
  ∃ r t, (ofScalars a s b).linearRow columns = .ok r ∧ r.bound = .single t
    ∧ ∀ x y, columns.Carries (a.vars ++ b.vars) x y →
        dot r.coefficients y - t = a.valueAt x - b.valueAt x
  := by
  obtain ⟨e, he, hdegree, hvars, hvalue⟩ := exists_movedLeft_scalar a b
  obtain ⟨ks, hks, hrow⟩ := (h.of_distinct_eq hvars).exists_indices 0
  have hlinear : (ofScalars a s b).isLinear = true := by
    rw [isLinear_ofScalars]
    use ha, hb
  use ⟨columns.row ks e.coefficients, .single (b.constant - e.constant), by simp⟩,
    b.constant - e.constant
  constructor
  · apply linearRow_ofScalars s hlinear he hks
  · use rfl
    intro x y hxy
    have hdegree' : e.degree ≤ 1 := hdegree.trans (max_le ha hb)
    have hvalue' := hvalue x
    rw [Scalar.valueAt_of_degree_le hdegree'] at hvalue'
    rw [hrow (hxy.of_distinct_eq hvars)]
    linarith

/-- The rows of a constraint between vectors of one shape. -/
theorem exists_linearRows {u v : Vec ℚ} (hl : u.length = v.length)
    (ho : u.orientation = v.orientation) (h : columns.Finds (u.vars ++ v.vars)) :
  ∃ r ts, (ofVectors u s v).linearRows columns = .ok r ∧ r.bound = .list ts
    ∧ r.coefficients.rows = u.length ∧ ts.length = u.length
    ∧ ∀ x y, columns.Carries (u.vars ++ v.vars) x y → ∀ i < u.length,
        (r.coefficients.mulVec y).getD i 0 - ts.getD i 0 = u.valueAt x i - v.valueAt x i
  := by
  obtain ⟨w, hw, hr⟩ := exists_movedLeft_vector hl ho
  obtain ⟨ks, hks, hrow⟩ := (h.of_distinct_eq hr.distinct_vars).exists_indices 1
  have hlength : v.length = w.length := by
    rw [hr.length_eq, hl]
  have hconstant : v.constant.length = w.constant.length := by
    rw [Vec.length_constant, Vec.length_constant, hlength]
  use ⟨columns.matrix ks w.linearCoeff, .list (List.zipWith (· - ·) v.constant w.constant), rfl⟩,
    List.zipWith (· - ·) v.constant w.constant
  constructor
  · apply linearRows_ofVectors s hw hks hlength
  · use rfl
    constructor
    · rw [Columns.rows_matrix, Vec.rows_linearCoeff, Vec.length_constant, hr.length_eq]
    · constructor
      · rw [List.length_zipWith, ← hconstant, min_self, Vec.length_constant, hl]
      · intro x y hxy i hi
        have hvalue := hr.valueAt_eq x hi
        rw [Vec.valueAt] at hvalue
        rw [Columns.getD_mulVec_matrix (hrow (hxy.of_distinct_eq hr.distinct_vars)),
          getD_zipWith_sub hconstant]
        linarith

end QuadraticProgram.Constraint
