import QuadraticProgram.Proofs.Expression.ProductDomain
import QuadraticProgram.Proofs.Vec.Arithmetic

/-!
# Which products with constant matrices are defined

A constant matrix, given as such or as an array, is multiplied by a column whose length is the
number of its columns, and a row is multiplied by a matrix with as many rows as it has entries.
All other products are refused for their sizes (`Arithmetic.matrixProducts_defined_iff`), also
those of a matrix with one column and a row, and of a column and a matrix with one row, whose
inner sizes agree.

A product is told by its parts: the variables stay, and the coefficients and the constants are
multiplied by the matrix (`Vec.ConsistsOf`). Over the rationals its values are the values of the
vector multiplied by the matrix (`Vec.evaluate_image`).
-/

namespace QuadraticProgram

variable {α : Type} [Coefficient α]

namespace Vec

/-- A vector whose entries have given coefficients over a list of variables, and given
constants. -/
structure ConsistsOf (w : Vec α) (vs : List Variable) (l : Matrix α) (c : List α) : Prop where
  vars_eq : w.vars = vs
  linearCoeff_eq : w.linearCoeff = l
  constant_eq : w.constant = c

theorem ConsistsOf.length_eq {w : Vec α} {vs : List Variable} {l : Matrix α} {c : List α}
    (h : w.ConsistsOf vs l c) :
  w.length = c.length
  := by
  rw [← w.length_constant, h.constant_eq]

/-- A constant vector has no coefficients, and the product of a matrix and none is none. -/
theorem consistsOf_const {v : Vec α} (h : v.isConstant = true) {k : Matrix α} {c : List α}
    (hk : k.rows = c.length) (o : Orientation) :
  (Vec.mk (.const c) o).ConsistsOf v.vars (k.mul v.linearCoeff) c
  := by
  have hvars := vars_of_isConstant h
  have hcols : v.linearCoeff.cols = 0 := by
    rw [cols_linearCoeff, hvars, List.length_nil]
  constructor
  · rw [hvars]
    rfl
  · rw [k.mul_eq_zeros hcols, hk]
    rfl
  · rfl

/-! ### Sizes of products -/

section Sizes

variable {m : Matrix α} {v w : Vec α}

/-- Only a column of the right length is multiplied from the left. -/
theorem shape_of_mulMatrixLeft (h : mulMatrixLeft m v = .ok w) :
  v.orientation = .column ∧ m.cols = v.length
  := by
  by_contra hshape
  rw [mulMatrixLeft, if_neg hshape] at h
  cases h

/-- Only a row of the right length is multiplied from the right. -/
theorem shape_of_mulMatrixRight (h : v.mulMatrixRight m = .ok w) :
  v.orientation = .row ∧ m.rows = v.length
  := by
  by_contra hshape
  rw [mulMatrixRight, if_neg hshape] at h
  cases h

/-- A matrix times a column has the outer sizes, and its parts are multiplied by the matrix. -/
theorem exists_mulMatrixLeft_consistsOf (ho : v.orientation = .column) (h : m.cols = v.rowCount) :
  ∃ w, mulMatrixLeft m v = .ok w ∧ w.dimensions = [m.rows, v.columnCount]
    ∧ w.ConsistsOf v.vars (m.mul v.linearCoeff) (m.mulVec v.constant)
  := by
  have hlength : m.cols = v.length := by
    rwa [rowCount, ho] at h
  have hparts : ∃ entries, mulMatrixLeft m v = .ok ⟨entries, .column⟩
      ∧ (Vec.mk entries .column).ConsistsOf v.vars (m.mul v.linearCoeff) (m.mulVec v.constant) := by
    rw [mulMatrixLeft, if_pos ⟨ho, hlength⟩]
    cases hv : v.isConstant with
    | true => exact ⟨_, rfl, consistsOf_const hv (m.length_mulVec _).symm _⟩
    | false => exact ⟨_, rfl, rfl, rfl, rfl⟩
  obtain ⟨entries, hw, hparts⟩ := hparts
  use ⟨entries, .column⟩, hw
  constructor
  · rw [dimensions, hparts.length_eq, Matrix.length_mulVec, columnCount, ho]
  · apply hparts

/-- A row times a matrix has the outer sizes, and its parts are multiplied by the matrix. -/
theorem exists_mulMatrixRight_consistsOf (ho : v.orientation = .row) (h : v.columnCount = m.rows) :
  ∃ w, v.mulMatrixRight m = .ok w ∧ w.dimensions = [v.rowCount, m.cols]
    ∧ w.ConsistsOf v.vars (m.transpose.mul v.linearCoeff) (Matrix.vecMul v.constant m)
  := by
  have hlength : m.rows = v.length := by
    rw [columnCount, ho] at h
    apply h.symm
  have hparts : ∃ entries, v.mulMatrixRight m = .ok ⟨entries, .row⟩
      ∧ (Vec.mk entries .row).ConsistsOf v.vars (m.transpose.mul v.linearCoeff)
        (Matrix.vecMul v.constant m) := by
    rw [mulMatrixRight, if_pos ⟨ho, hlength⟩]
    cases hv : v.isConstant with
    | true =>
        have hk : m.transpose.rows = (Matrix.vecMul v.constant m).length := by
          rw [Matrix.rows_transpose, Matrix.length_vecMul]
        exact ⟨_, rfl, consistsOf_const hv hk _⟩
    | false => exact ⟨_, rfl, rfl, rfl, rfl⟩
  obtain ⟨entries, hw, hparts⟩ := hparts
  use ⟨entries, .row⟩, hw
  constructor
  · rw [dimensions, hparts.length_eq, Matrix.length_vecMul, rowCount, ho]
  · apply hparts

/-- A matrix is multiplied by a column with as many entries as it has columns, and by nothing
else. -/
theorem mulMatrixLeft_eq_error_iff :
  mulMatrixLeft m v = .error (.dimensionMismatch .multiply m.dimensions v.dimensions)
    ↔ m.cols ≠ v.rowCount ∨ v.orientation = .row
  := by
  cases ho : v.orientation with
  | row =>
      rw [mulMatrixLeft, ho]
      simp
  | column =>
      by_cases h : m.cols = v.rowCount
      · obtain ⟨w, hw, -⟩ := exists_mulMatrixLeft_consistsOf ho h
        simp [hw, h]
      · have hlength : m.cols ≠ v.length := by
          rwa [rowCount, ho] at h
        rw [mulMatrixLeft, if_neg fun hboth => hlength hboth.2]
        simp [h]

/-- A matrix is multiplied from the left by a row with as many entries as it has rows, and by
nothing else. -/
theorem mulMatrixRight_eq_error_iff :
  v.mulMatrixRight m = .error (.dimensionMismatch .multiply v.dimensions m.dimensions)
    ↔ v.columnCount ≠ m.rows ∨ v.orientation = .column
  := by
  cases ho : v.orientation with
  | column =>
      rw [mulMatrixRight, ho]
      simp
  | row =>
      by_cases h : v.columnCount = m.rows
      · obtain ⟨w, hw, -⟩ := exists_mulMatrixRight_consistsOf ho h
        simp [hw, h]
      · have hlength : m.rows ≠ v.length := by
          rw [columnCount, ho] at h
          apply Ne.symm h
        rw [mulMatrixRight, if_neg fun hboth => hlength hboth.2]
        simp [h]

end Sizes

/-! ### Values of products -/

section Values

variable {m : Matrix ℚ} {v w : Vec ℚ}

/-- A product is evaluated by multiplying the values of the vector by the matrix. -/
theorem evaluate_image (h : m.cols = v.length) (o : Orientation) (s : ℕ → Option ℚ) :
  (Vec.mk (v.image m) o).evaluate s = (v.evaluate s).map m.mulVec
  := by
  have hvalues : m.mulVec ((List.range v.length).map (v.valueAt (Alignment.pointOf s)))
      = (List.range (Vec.mk (v.image m) o).length).map
        ((Vec.mk (v.image m) o).valueAt (Alignment.pointOf s)) := by
    apply Coefficient.eq_map_range
    · rw [Matrix.length_mulVec, length_image]
    · intro i hi
      rw [length_image] at hi
      rw [Matrix.getD_mulVec, (represents_image h o).valueAt_eq _ hi]
      apply Finset.sum_congr rfl
      intro k hk
      rw [Coefficient.getD_map_range _ (h ▸ Finset.mem_range.mp hk)]
  rw [evaluate_eq_lookingUp, evaluate_eq_lookingUp, Alignment.lookingUp_map, hvalues, vars_image]

/-- The values of a matrix times a column are the matrix times the values. -/
theorem evaluate_of_mulMatrixLeft (h : mulMatrixLeft m v = .ok w) (s : ℕ → Option ℚ) :
  w.evaluate s = (v.evaluate s).map m.mulVec
  := by
  obtain ⟨ho, hm⟩ := shape_of_mulMatrixLeft h
  cases h.symm.trans (mulMatrixLeft_eq_ok ho hm)
  apply evaluate_image hm

/-- A row is multiplied by a matrix as a column by the transposed one. -/
theorem evaluate_of_mulMatrixRight (h : v.mulMatrixRight m = .ok w) (s : ℕ → Option ℚ) :
  w.evaluate s = (v.evaluate s).map fun values => Matrix.vecMul values m
  := by
  obtain ⟨ho, hm⟩ := shape_of_mulMatrixRight h
  cases h.symm.trans (mulMatrixRight_eq_ok ho hm)
  simp only [Matrix.vecMul_eq_mulVec]
  apply evaluate_image
  rw [Matrix.cols_transpose, hm]

end Values

end Vec

namespace Arithmetic

open Vec

/-! ### Operators beside a constant matrix -/

/-- An operand that stands for a constant matrix is one, or an array with two axes. -/
theorem eq_of_toExpression_eq_matrix {y : Operand α} {m : Matrix α}
    (h : y.toExpression = .ok (.matrix m)) :
  y = .expression (.matrix m) ∨ ∃ t, t.axes = 2 ∧ y = .array t ∧ m = .ofArray t
  := by
  cases y with
  | number n =>
      obtain ⟨a, -, ha⟩ := Outcome.map_eq_ok_iff.mp h
      cases ha
  | array t =>
      simp only [Operand.toExpression] at h
      split at h
      · cases h
      · rename_i haxes
        cases h
        right
        use t
      · cases h
  | expression e =>
      cases h
      left
      rfl
  | other k => cases h

variable {op : Arithmetic} {y : Operand α} {m : Matrix α}

/-- A constant matrix on the left multiplies a vector with either operator. -/
theorem result?_constantMatrix_left (hop : op = .multiply ∨ op = .matrixMultiply)
    (hy : y.toExpression = .ok (.matrix m)) (v : Vec α) :
  op.result? y (.expression (.vector v)) = some ((mulMatrixLeft m v).map .vector)
  := by
  rcases eq_of_toExpression_eq_matrix hy with rfl | ⟨t, ht, rfl, rfl⟩
  · rcases hop with rfl | rfl
    · rfl
    · rfl
  · rcases hop with rfl | rfl
    · simp [result?, reflected, Expression.multipliedBy, ht, Expression.times]
    · simp [result?, reflected, Expression.multipliedBy, ht, Expression.times]

/-- A constant matrix on the right multiplies a vector with either operator. -/
theorem result?_constantMatrix_right (hop : op = .multiply ∨ op = .matrixMultiply)
    (hy : y.toExpression = .ok (.matrix m)) (v : Vec α) :
  op.result? (.expression (.vector v)) y = some ((v.mulMatrixRight m).map .vector)
  := by
  rcases eq_of_toExpression_eq_matrix hy with rfl | ⟨t, ht, rfl, rfl⟩
  · rcases hop with rfl | rfl
    · rfl
    · rfl
  · rcases hop with rfl | rfl
    · simp [result?, onLeft, Expression.multiply, ht, Expression.times]
    · simp [result?, onLeft, Expression.multiply, ht, Expression.times]

/-- Which products of a vector with a constant matrix on either side are defined, and how the
others are refused. A matrix and a column, or a row and a matrix, whose inner sizes agree have the
product of the matrix and the parts of the vector, with the outer sizes; over the rationals its
values are those of the vector multiplied by the matrix. All others are refused for their sizes. -/
theorem matrixProducts_defined_iff (op : Arithmetic)
    (hop : op = .multiply ∨ op = .matrixMultiply) :
  (∀ (y : Operand α) (m : Matrix α) (v : Vec α), y.toExpression = .ok (.matrix m) →
      (op.result? y (.expression (.vector v))
            = some (.error (.dimensionMismatch .multiply m.dimensions v.dimensions))
          ↔ m.cols ≠ v.rowCount ∨ v.orientation = .row)
        ∧ (m.cols = v.rowCount → v.orientation = .column →
          ∃ w, op.result? y (.expression (.vector v)) = some (.ok (.vector w))
            ∧ w.dimensions = [m.rows, v.columnCount]
            ∧ w.ConsistsOf v.vars (m.mul v.linearCoeff) (m.mulVec v.constant))
        ∧ (op.result? (.expression (.vector v)) y
            = some (.error (.dimensionMismatch .multiply v.dimensions m.dimensions))
          ↔ v.columnCount ≠ m.rows ∨ v.orientation = .column)
        ∧ (v.columnCount = m.rows → v.orientation = .row →
          ∃ w, op.result? (.expression (.vector v)) y = some (.ok (.vector w))
            ∧ w.dimensions = [v.rowCount, m.cols]
            ∧ w.ConsistsOf v.vars (m.transpose.mul v.linearCoeff) (Matrix.vecMul v.constant m)))
    ∧ ∀ (y : Operand ℚ) (m : Matrix ℚ) (v w : Vec ℚ), y.toExpression = .ok (.matrix m) →
        (op.result? y (.expression (.vector v)) = some (.ok (.vector w)) →
            ∀ s, w.evaluate s = (v.evaluate s).map m.mulVec)
          ∧ (op.result? (.expression (.vector v)) y = some (.ok (.vector w)) →
            ∀ s, w.evaluate s = (v.evaluate s).map fun values => Matrix.vecMul values m)
  := by
  constructor
  · intro y m v hy
    rw [result?_constantMatrix_left hop hy, result?_constantMatrix_right hop hy]
    simp only [Option.some.injEq, Outcome.map_eq_ok_iff, Outcome.map_eq_error_iff,
      Expression.vector.injEq, exists_eq_right]
    use mulMatrixLeft_eq_error_iff, fun h ho => exists_mulMatrixLeft_consistsOf ho h
    use mulMatrixRight_eq_error_iff, fun h ho => exists_mulMatrixRight_consistsOf ho h
  · intro y m v w hy
    rw [result?_constantMatrix_left hop hy, result?_constantMatrix_right hop hy]
    simp only [Option.some.injEq, Outcome.map_eq_ok_iff, Expression.vector.injEq, exists_eq_right]
    use evaluate_of_mulMatrixLeft, evaluate_of_mulMatrixRight

/-- The column or row of two variables. -/
def pair (o : Orientation) : Vec α :=
  ⟨.vars [default, { (default : Variable) with id := 1 }], o⟩

/-- An array with a single row before a column, an array without columns after a row, and a matrix
without rows that has too many columns for a column. -/
theorem matrixProducts_defined_iff_pair :
  (∃ w : Vec ℚ,
      matrixMultiply.result? (.array ⟨[1, 2], [3, 4]⟩) (.expression (.vector (pair .column)))
        = some (.ok (.vector w))
      ∧ w.dimensions = [1, 1]
      ∧ ∀ s : ℕ → Option ℚ, w.evaluate s
        = ((pair .column).evaluate s).map (Matrix.ofArray ⟨[1, 2], [3, 4]⟩).mulVec)
    ∧ (∃ w : Vec ℚ,
      matrixMultiply.result? (.expression (.vector (pair .row))) (.array ⟨[2, 0], []⟩)
        = some (.ok (.vector w)) ∧ w.dimensions = [1, 0])
    ∧ matrixMultiply.result? (α := ℚ) (.expression (.matrix (.zeros 0 3)))
        (.expression (.vector (pair .column)))
      = some (.error (.dimensionMismatch .multiply [0, 3] [2, 1]))
  := by
  obtain ⟨hsizes, hvalues⟩ := matrixProducts_defined_iff (α := ℚ) matrixMultiply (.inr rfl)
  obtain ⟨-, hleft, -⟩ := hsizes (.array ⟨[1, 2], [3, 4]⟩) _ (pair .column) rfl
  obtain ⟨-, -, -, hright⟩ := hsizes (.array ⟨[2, 0], []⟩) _ (pair .row) rfl
  obtain ⟨hrefused, -⟩ := hsizes (.expression (.matrix (.zeros 0 3))) _ (pair .column) rfl
  obtain ⟨w, hw, hdimensions, -⟩ := hleft rfl rfl
  obtain ⟨w', hw', hdimensions', -⟩ := hright rfl rfl
  constructor
  · use w, hw, hdimensions
    apply (hvalues _ _ (pair .column) w rfl).1 hw
  · use ⟨w', hw', hdimensions'⟩
    apply hrefused.mpr
    left
    decide

/-- A matrix with a single column is refused beside a row for its sizes, although the inner sizes
agree, and likewise a column beside a matrix with a single row. -/
theorem matrixProducts_refused_outer :
  ((Matrix.ofTensor 2 1 [1.0, 2.0] : Matrix Float).cols = (pair .row : Vec Float).rowCount
      ∧ matrixMultiply.result? (.expression (.matrix (.ofTensor 2 1 [1.0, 2.0])))
          (.expression (.vector (pair .row : Vec Float)))
        = some (.error (.dimensionMismatch .multiply [2, 1] [1, 2])))
    ∧ (pair .column : Vec Float).columnCount = (Matrix.ofTensor 1 2 [1.0, 2.0] : Matrix Float).rows
      ∧ matrixMultiply.result? (.expression (.vector (pair .column : Vec Float)))
          (.expression (.matrix (.ofTensor 1 2 [1.0, 2.0])))
        = some (.error (.dimensionMismatch .multiply [2, 1] [1, 2]))
  := by
  constructor
  · exact ⟨rfl, rfl⟩
  · exact ⟨rfl, rfl⟩

end Arithmetic

end QuadraticProgram
