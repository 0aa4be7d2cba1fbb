import QuadraticProgram.Proofs.Expression.VectorOperator
import QuadraticProgram.Proofs.Products
import QuadraticProgram.Proofs.Spread

/-!
# Products of matrices and vectors

A matrix on the left of a column and its transpose on the right of the same vector as a row both
make the image of the vector (`Vec.image`). Mixed products are therefore associative as the products
of matrices are, not only in their values but in every coefficient, and transposition exchanges
their factors (`Arithmetic.mixed_products_associate`).
-/

namespace QuadraticProgram

open QuadraticProgram.Alignment

/-! ### Moved products -/

/-- Columns are moved before or after a matrix is multiplied from the left. -/
theorem Alignment.spreadColumns_mul {m n : Matrix ℚ} (h : m.cols = n.rows)
    (source target : List Variable) :
  spreadColumns source (m.mul n) target = m.mul (spreadColumns source n target)
  := by
  have hspread : m.cols = (spreadColumns source n target).rows := by
    rw [rows_spreadColumns, h]
  apply Matrix.eq_of_entry_eq
  · rw [rows_spreadColumns, Matrix.rows_mul, Matrix.rows_mul]
  · rfl
  · intro i _ j _
    rw [entry_spreadColumns, Matrix.entry_mul hspread]
    simp only [entry_spreadColumns, movedSum, Matrix.entry_mul h, Finset.mul_sum]
    rw [Finset.sum_comm]
    simp only [mul_left_comm]

namespace Vec

variable {m n : Matrix ℚ} {u v : Vec ℚ}

/-! ### Images of images -/

/-- The image of an image is the image under the product. -/
theorem image_image (hmn : m.cols = n.rows) (hn : n.cols = v.length) (o : Orientation) :
  (Vec.mk (v.image n) o).image m = v.image (m.mul n)
  := by
  have hcoeff : m.mul (n.mul v.linearCoeff) = (m.mul n).mul v.linearCoeff := by
    rw [Matrix.mul_mul hmn]
    rw [hn, rows_linearCoeff, length_constant]
  rw [image, isConstant_image]
  simp only [constant_image, linearCoeff_image, vars_image, Matrix.mulVec_mulVec hmn, hcoeff]
  rfl

theorem image_transpose (m : Matrix ℚ) (v : Vec ℚ) :
  v.transpose.image m = v.image m
  := rfl

/-! ### Sums of products of entries -/

/-- The weights of an image are moved to the vector by the transpose. -/
theorem weightedSum_image {weights : List ℚ} (h : weights.length = m.rows)
    (hv : m.cols = v.length) (o : Orientation) :
  weightedSum weights ⟨v.image m, o⟩ = weightedSum (m.transpose.mulVec weights) v
  := by
  have hrows : m.cols = v.linearCoeff.rows := by
    rw [hv, rows_linearCoeff, length_constant]
  have hcols : v.linearCoeff.transpose.cols = m.transpose.rows := by
    rw [Matrix.cols_transpose, Matrix.rows_transpose, hrows]
  apply LinearForm.ext
  · apply vars_image
  · simp only [weightedSum, linearCoeff_image, Matrix.vecMul_eq_mulVec]
    rw [Matrix.transpose_mul hrows, Matrix.mulVec_mulVec hcols]
  · simp only [weightedSum, constant_image]
    apply Matrix.dot_mulVec h

/-- A matrix between a row and a column belongs to either of them. -/
theorem quadraticDot_image (hu : u.length = m.rows) (hv : m.cols = v.length)
    (o o' : Orientation) :
  quadraticDot ⟨u.image m.transpose, o⟩ v = quadraticDot u ⟨v.image m, o'⟩
  := by
  have hvars : distinct ((Vec.mk (u.image m.transpose) o).vars ++ v.vars)
      = distinct (u.vars ++ (Vec.mk (v.image m) o').vars) := by
    rw [vars_image, vars_image]
  have hul : m.transpose.cols = u.linearCoeff.rows := by
    rw [Matrix.cols_transpose, rows_linearCoeff, length_constant, hu]
  have hvl : m.cols = v.linearCoeff.rows := by
    rw [rows_linearCoeff, length_constant, hv]
  -- The coefficients of both vectors, over the variables of both.
  generalize hlu : spreadColumns u.vars u.linearCoeff (distinct (u.vars ++ v.vars)) = lu
  generalize hlv : spreadColumns v.vars v.linearCoeff (distinct (u.vars ++ v.vars)) = lv
  have hlum : lu.transpose.cols = m.rows := by
    rw [← hlu, Matrix.cols_transpose, rows_spreadColumns, ← hul, Matrix.cols_transpose]
  have hlvm : m.cols = lv.rows := by
    rw [← hlv, rows_spreadColumns, hvl]
  have hlut : m.transpose.cols = lu.rows := by
    rw [Matrix.cols_transpose, ← hlum, Matrix.cols_transpose]
  have hlvt : lv.transpose.cols = m.transpose.rows := by
    rw [Matrix.cols_transpose, Matrix.rows_transpose, hlvm]
  unfold quadraticDot
  apply QuadraticForm.symmetrise?_congr hvars
  · simp only [vars_image, linearCoeff_image, spreadColumns_mul hul, spreadColumns_mul hvl, hlu,
      hlv]
    rw [Matrix.transpose_mul hlut, Matrix.transpose_transpose, Matrix.mul_mul hlum hlvm]
  · simp only [vars_image, linearCoeff_image, spreadColumns_mul hul, spreadColumns_mul hvl, hlu,
      hlv, constant_image]
    rw [Matrix.transpose_mul hlut, Matrix.transpose_transpose, Matrix.transpose_mul hlvm,
      Matrix.mulVec_mulVec hlvt, Matrix.mulVec_mulVec hlum]
  · simp only [constant_image]
    rw [Matrix.dot_mulVec]
    rw [length_constant, hu]

/-- In the sum of the products of the entries of two vectors a matrix is moved from one vector to
the other. -/
theorem dot_image (hu : u.length = m.rows) (hv : m.cols = v.length) (o o' : Orientation) :
  (Vec.mk (u.image m.transpose) o).dot v = u.dot ⟨v.image m, o'⟩
  := by
  have huc : u.constant.length = m.rows := by
    rw [length_constant, hu]
  have hvc : v.constant.length = m.transpose.rows := by
    rw [length_constant, Matrix.rows_transpose, hv]
  have hut : m.transpose.cols = u.length := by
    rw [Matrix.cols_transpose, hu]
  unfold dot
  rw [isConstant_image, isConstant_image]
  rcases u.isConstant with - | -
  · rcases v.isConstant with - | -
    · simp only [quadraticDot_image hu hv o o']
    · simp only [weightedSum_image hvc hut, constant_image, Matrix.transpose_transpose]
  · rcases v.isConstant with - | -
    · simp only [weightedSum_image huc hv, constant_image]
    · simp only [constant_image, Matrix.dot_mulVec huc]

end Vec

namespace Arithmetic

variable {x y : Operand ℚ} {a b : Matrix ℚ} {u v : Vec ℚ}

/-! ### Operators -/

/-- The product of two constant matrices; two arrays are not multiplied here. -/
theorem result?_matrix_matrix (hx : IsMatrix x a) (hy : IsMatrix y b) (h : a.cols = b.rows)
    {e : Expression ℚ} (he : x = .expression e ∨ y = .expression e) :
  matrixMultiply.result? x y = some (.ok (.matrix (a.mul b)))
  := by
  cases hx with
  | matrix a =>
      cases hy with
      | matrix b =>
          simp [result?, onLeft, Expression.multiply, Expression.times, Matrix.times, h]
      | array t ht =>
          simp [result?, onLeft, Expression.multiply, Expression.times, Matrix.times, ht, h]
  | array t ht =>
      cases hy with
      | matrix b =>
          simp [result?, reflected, Expression.multipliedBy, Expression.times, Matrix.times, ht, h]
      | array t' ht' => simp at he

/-- A matrix times a column is its image. -/
theorem result?_matrix_column (hx : IsMatrix x a) (hv : v.orientation = .column)
    (h : a.cols = v.length) :
  matrixMultiply.result? x (.expression (.vector v))
    = some (.ok (.vector ⟨v.image a, .column⟩))
  := by
  rw [result?_matrix_left hx, Vec.mulMatrixLeft_eq_ok hv h, Outcome.map_ok]

/-- A row times a matrix is its image under the transpose. -/
theorem result?_row_matrix (hx : IsMatrix x a) (hu : u.orientation = .row)
    (h : u.length = a.rows) :
  matrixMultiply.result? (.expression (.vector u)) x
    = some (.ok (.vector ⟨u.image a.transpose, .row⟩))
  := by
  rw [result?_matrix_right hx, Vec.mulMatrixRight_eq_ok hu h.symm, Outcome.map_ok]

/-- A row times a column is the sum of the products of their entries. -/
theorem result?_row_column (hu : u.orientation = .row) (hv : v.orientation = .column)
    (h : u.length = v.length) :
  matrixMultiply.result? (.expression (.vector u)) (.expression (.vector v))
    = some ((u.dot v).map .scalar)
  := by
  simp [result?, onLeft, Expression.multiply, Expression.times, Expression.vectorProduct, hu, hv, h]

/-- Products of constant matrices and vectors of matching sizes are associative, and transposition
exchanges their factors: the results are the same expressions. -/
theorem mixed_products_associate (hx : IsMatrix x a) (hy : IsMatrix y b)
    (hu : u.orientation = .row) (hv : v.orientation = .column) :
  (a.cols = b.rows → b.cols = v.length →
      (∀ e, x = .expression e ∨ y = .expression e →
        matrixMultiply.result? x y = some (.ok (.matrix (a.mul b))))
      ∧ ∃ w w', matrixMultiply.result? y (.expression (.vector v)) = some (.ok (.vector w))
          ∧ matrixMultiply.result? x (.expression (.vector w)) = some (.ok (.vector w'))
          ∧ ∀ z, IsMatrix z (a.mul b) →
              matrixMultiply.result? z (.expression (.vector v)) = some (.ok (.vector w')))
    ∧ (u.length = a.rows → a.cols = v.length →
        ∃ w w' e, matrixMultiply.result? (.expression (.vector u)) x = some (.ok (.vector w))
          ∧ matrixMultiply.result? (.expression (.vector w)) (.expression (.vector v))
              = some (.ok (.scalar e))
          ∧ matrixMultiply.result? x (.expression (.vector v)) = some (.ok (.vector w'))
          ∧ matrixMultiply.result? (.expression (.vector u)) (.expression (.vector w'))
              = some (.ok (.scalar e)))
    ∧ (a.cols = v.length →
        ∃ w, matrixMultiply.result? x (.expression (.vector v)) = some (.ok (.vector w))
          ∧ ∀ z, IsMatrix z a.transpose →
              matrixMultiply.result? (.expression (Expression.vector v).transpose) z
                = some (.ok (Expression.vector w).transpose))
  := by
  constructor
  · intro hab hbv
    constructor
    · intro e he
      apply result?_matrix_matrix hx hy hab he
    · have hlength : a.cols = (Vec.mk (v.image b) .column).length := by
        rw [Vec.length_image, hab]
      use ⟨v.image b, .column⟩, ⟨(Vec.mk (v.image b) .column).image a, .column⟩
      use result?_matrix_column hy hv hbv, result?_matrix_column hx rfl hlength
      intro z hz
      rw [result?_matrix_column hz hv hbv, Vec.image_image hab hbv]
  · constructor
    · intro hua hav
      have hdot := Vec.dot_image hua hav .row .column
      have hleft : (Vec.mk (u.image a.transpose) .row).length = v.length := by
        rw [Vec.length_image, Matrix.rows_transpose, hav]
      have hright : u.length = (Vec.mk (v.image a) .column).length := by
        rw [Vec.length_image, hua]
      obtain ⟨e, he, -⟩ := Vec.exists_dot hright
      use ⟨u.image a.transpose, .row⟩, ⟨v.image a, .column⟩, e
      use result?_row_matrix hx hu hua
      constructor
      · rw [result?_row_column rfl hv hleft, hdot, he, Outcome.map_ok]
      · use result?_matrix_column hx hv hav
        rw [result?_row_column hu rfl hright, he, Outcome.map_ok]
    · intro hav
      use ⟨v.image a, .column⟩, result?_matrix_column hx hv hav
      intro z hz
      have hrow : v.transpose.orientation = .row := by
        rw [Vec.transpose, hv]
        rfl
      have hlength : v.transpose.length = a.transpose.rows := by
        rw [Matrix.rows_transpose, hav]
        rfl
      rw [Expression.transpose, result?_row_matrix hz hrow hlength, Matrix.transpose_transpose,
        Vec.image_transpose]
      rfl

/-- A matrix that is not square. -/
def wide : Matrix ℚ := .ofTensor 2 3 [1, 2, 3, 4, 5, 6]

/-- An array that is a square matrix, but not a symmetric one. -/
def shift : Tensor ℚ := ⟨[3, 3], [0, 1, 0, 0, 0, 1, 0, 0, 0]⟩

/-- A column of two variables, one of which it holds twice. -/
def threefold : Vec ℚ := ⟨.vars [default, { (default : Variable) with id := 1 }, default], .column⟩

/-- A row of two entries, a column of three, and a matrix and an array between them. -/
theorem mixed_products_associate_threefold :
  (matrixMultiply.result? (.expression (.matrix wide)) (.array shift)
      = some (.ok (.matrix (wide.mul (.ofArray shift))))
    ∧ ∃ w w', matrixMultiply.result? (.array shift) (.expression (.vector threefold))
          = some (.ok (.vector w))
        ∧ matrixMultiply.result? (.expression (.matrix wide)) (.expression (.vector w))
          = some (.ok (.vector w'))
        ∧ matrixMultiply.result? (.expression (.matrix (wide.mul (.ofArray shift))))
            (.expression (.vector threefold)) = some (.ok (.vector w')))
    ∧ (∃ w w' e, matrixMultiply.result? (.expression (.vector (twice .row)))
          (.expression (.matrix wide)) = some (.ok (.vector w))
        ∧ matrixMultiply.result? (.expression (.vector w)) (.expression (.vector threefold))
          = some (.ok (.scalar e))
        ∧ matrixMultiply.result? (.expression (.matrix wide)) (.expression (.vector threefold))
          = some (.ok (.vector w'))
        ∧ matrixMultiply.result? (.expression (.vector (twice .row))) (.expression (.vector w'))
          = some (.ok (.scalar e)))
    ∧ ∃ w, matrixMultiply.result? (.expression (.matrix wide)) (.expression (.vector threefold))
          = some (.ok (.vector w))
        ∧ matrixMultiply.result? (.expression (.vector threefold.transpose))
            (.expression (.matrix wide.transpose)) = some (.ok (.vector w.transpose))
  := by
  obtain ⟨hassoc, hmiddle, htransposed⟩ := mixed_products_associate (u := twice .row)
    (v := threefold) (.matrix wide) (.array shift rfl) rfl rfl
  obtain ⟨hproduct, w, w', hw, hw', hz⟩ := hassoc rfl rfl
  obtain ⟨w'', hw'', hz'⟩ := htransposed rfl
  use ⟨hproduct _ (.inl rfl), w, w', hw, hw', hz _ (.matrix _)⟩
  use hmiddle rfl rfl, w'', hw''
  apply hz' _ (.matrix _)

end Arithmetic

end QuadraticProgram
