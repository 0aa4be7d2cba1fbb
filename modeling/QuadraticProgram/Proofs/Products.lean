import QuadraticProgram.Proofs.Entries

/-!
# Products of matrices

Over the rationals products of matrices and columns are associative, transposition exchanges the
factors of a product, and in a sum of products a matrix can be moved from one factor to the other.
-/

namespace QuadraticProgram.Matrix

open Coefficient

variable {l m n : Matrix ℚ}

/-- Products of matrices whose sizes match are associative. -/
theorem mul_mul (hlm : l.cols = m.rows) (hmn : m.cols = n.rows) :
  (l.mul m).mul n = l.mul (m.mul n)
  := by
  have hleft : (l.mul m).cols = n.rows := hmn
  have hright : l.cols = (m.mul n).rows := by
    rw [rows_mul, hlm]
  apply eq_of_entry_eq
  · rw [rows_mul, rows_mul, rows_mul]
  · rfl
  · intro i _ j _
    rw [entry_mul hleft, entry_mul hright]
    simp only [entry_mul hlm, entry_mul hmn, cols_mul, Finset.sum_mul, Finset.mul_sum]
    rw [Finset.sum_comm]
    simp only [mul_assoc]

/-- To multiply a list by two matrices is to multiply it by their product. -/
theorem mulVec_mulVec (h : m.cols = n.rows) (v : List ℚ) :
  m.mulVec (n.mulVec v) = (m.mul n).mulVec v
  := by
  apply eq_of_getD_eq
  · rw [length_mulVec, length_mulVec, rows_mul]
  · intro i _
    simp only [getD_mulVec, entry_mul h, cols_mul, Finset.sum_mul, Finset.mul_sum]
    rw [Finset.sum_comm]
    simp only [mul_assoc]

/-! ### Transposed factors -/

theorem transpose_transpose (m : Matrix ℚ) :
  m.transpose.transpose = m
  := by
  apply eq_of_entry_eq
  · rw [rows_transpose, cols_transpose]
  · rw [cols_transpose, rows_transpose]
  · intro i _ j _
    rw [entry_transpose, entry_transpose]

/-- The transpose of a product is the product of the transposes, in the other order. -/
theorem transpose_mul (h : m.cols = n.rows) :
  (m.mul n).transpose = n.transpose.mul m.transpose
  := by
  have htransposed : n.transpose.cols = m.transpose.rows := by
    rw [cols_transpose, rows_transpose, h]
  apply eq_of_entry_eq
  · rw [rows_transpose, cols_mul, rows_mul, rows_transpose]
  · rw [cols_transpose, rows_mul, cols_mul, cols_transpose]
  · intro i _ j _
    rw [entry_transpose, entry_mul h, entry_mul htransposed, cols_transpose, h]
    apply Finset.sum_congr rfl
    intro k _
    rw [entry_transpose, entry_transpose, mul_comm]

/-- A matrix moves from one factor of a sum of products to the other as its transpose. -/
theorem dot_mulVec {v : List ℚ} (h : v.length = m.rows) (w : List ℚ) :
  dot v (m.mulVec w) = dot (m.transpose.mulVec v) w
  := by
  have hlength : (m.transpose.mulVec v).length = m.cols := by
    rw [length_mulVec, rows_transpose]
  rw [dot_eq_sum _ _ h.le, dot_eq_sum _ _ hlength.le]
  simp only [getD_mulVec, entry_transpose, cols_transpose, Finset.sum_mul, Finset.mul_sum]
  rw [Finset.sum_comm]
  apply Finset.sum_congr rfl
  intro k _
  apply Finset.sum_congr rfl
  intro i _
  ring

end QuadraticProgram.Matrix
