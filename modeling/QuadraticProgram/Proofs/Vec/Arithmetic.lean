import QuadraticProgram.Proofs.Scalar.Arithmetic
import QuadraticProgram.Proofs.Vec.Shape
import QuadraticProgram.Proofs.Vec.Value

/-!
# Values of sums and products of vectors

What the operations on vectors give: over which variables their results are, of which sizes
they are and which values their entries have (`Vec.Represents`). The blocks of coefficients are
added and multiplied as a whole, and entry by entry the values are those of the same sums and
products.
-/

namespace QuadraticProgram.Vec

open QuadraticProgram.Alignment Coefficient

/-- A vector over the variables of a list, of a given length and orientation, and with given
values of its entries. -/
structure Represents (w : Vec ℚ) (vs : List Variable) (length : ℕ) (o : Orientation)
    (value : (ℕ → ℚ) → ℕ → ℚ) : Prop where
  distinct_vars : distinct w.vars = distinct vs
  length_eq : w.length = length
  orientation_eq : w.orientation = o
  valueAt_eq (x : ℕ → ℚ) {i : ℕ} (hi : i < length) : w.valueAt x i = value x i

variable {u v : Vec ℚ} {m : Matrix ℚ}

/-! ### Sums -/

theorem represents_affineSum {o : Orientation} (h : u.constant.length = v.constant.length) :
  (Vec.mk (.affine (affineSum u.toAffine v.toAffine h)) o).Represents (u.vars ++ v.vars) u.length
    o fun x i => u.valueAt x i + v.valueAt x i
  := by
  have hrows : u.toAffine.coeffs.rows = v.toAffine.coeffs.rows := by
    rw [u.toAffine.rows_coeffs, v.toAffine.rows_coeffs]
    apply h
  constructor
  · rw [← vars_toAffine u, ← vars_toAffine v]
    apply distinct_distinct
  · have hl : (List.zipWith (· + ·) u.constant v.constant).length = u.length := by
      rw [List.length_zipWith, ← h, min_self, length_constant]
    apply hl
  · rfl
  · intro x i _
    have hrow : rowValue x (affineSum u.toAffine v.toAffine h).vars
          (affineSum u.toAffine v.toAffine h).coeffs i
        = rowValue x u.toAffine.vars u.linearCoeff i
          + rowValue x v.toAffine.vars v.linearCoeff i := by
      simp only [affineSum]
      rw [rowValue_add, rowValue_spreadColumns, rowValue_spreadColumns]
      · rfl
      · apply lists_distinct_append_right
      · apply lists_distinct_append_left
      · rw [rows_spreadColumns, rows_spreadColumns, hrows]
      · rfl
    have hconst : (affineSum u.toAffine v.toAffine h).consts.getD i 0
        = u.constant.getD i 0 + v.constant.getD i 0 := getD_zipWith_add h i
    rw [valueAt_affine, hrow, hconst, vars_toAffine, vars_toAffine, valueAt, valueAt,
      add_add_add_comm]

/-- Vectors of one shape have a sum, which adds their entries. -/
theorem exists_add (hl : u.length = v.length) (ho : u.orientation = v.orientation) :
  ∃ w, u.add v = .ok w
    ∧ w.Represents (u.vars ++ v.vars) u.length u.orientation
        fun x i => u.valueAt x i + v.valueAt x i
  := by
  have hshape : u.requireSameShape .plus v = .ok () := by
    rw [requireSameShape, if_neg (not_not.mpr hl), if_neg (not_not.mpr ho)]
  have hconst : u.constant.length = v.constant.length := by
    rw [length_constant, length_constant, hl]
  have haffine : (if h : u.constant.length = v.constant.length then
        pure ⟨.affine (affineSum u.toAffine v.toAffine h), u.orientation⟩
      else throw (.dimensionMismatch .plus u.dimensions v.dimensions) : Except Error (Vec ℚ))
      = .ok ⟨.affine (affineSum u.toAffine v.toAffine hconst), u.orientation⟩ := by
    rw [dif_pos hconst]
    rfl
  have hsum := represents_affineSum (o := u.orientation) hconst
  rcases u with ⟨entries, o⟩
  rcases v with ⟨entries', o'⟩
  rw [add, hshape, Outcome.ok_bind]
  cases entries with
  | const values =>
      cases entries' with
      | const values' =>
          use ⟨.const (List.zipWith (· + ·) values values'), o⟩, rfl
          constructor
          · rfl
          · exact (List.length_zipWith).trans (min_eq_left hl.le)
          · rfl
          · intro x i _
            rw [valueAt_const, valueAt_const, valueAt_const, getD_zipWith_add hl]
      | _ => exact ⟨_, haffine, hsum⟩
  | _ => exact ⟨_, haffine, hsum⟩

/-! ### Products with constants -/

/-- A multiple multiplies each entry. -/
theorem represents_scale (a : ℚ) (v : Vec ℚ) :
  (v.scale a).Represents v.vars v.length v.orientation fun x i => a * v.valueAt x i
  := by
  rcases v with ⟨entries, o⟩
  cases entries with
  | const values =>
      constructor
      · rfl
      · apply List.length_map
      · rfl
      · intro x i _
        rw [scale, valueAt_const, valueAt_const, getD_map_mul]
  | vars elements =>
      constructor
      · rfl
      · apply List.length_replicate
      · rfl
      · intro x i hi
        have hi : i < elements.length := hi
        calc ((Vec.mk (.vars elements) o).scale a).valueAt x i
            = rowValue x elements ((Matrix.identity elements.length).scale a) i
                + (List.replicate elements.length 0).getD i 0 := rfl
          _ = a * (Vec.mk (.vars elements) o).valueAt x i := by
              rw [rowValue_scale, rowValue_identity hi, getD_valuesAt x hi,
                List.getD_replicate _ hi, add_zero, valueAt_vars o x hi]
  | affine f =>
      constructor
      · rfl
      · apply List.length_map
      · rfl
      · intro x i _
        rw [scale, valueAt_affine, valueAt_affine, rowValue_scale, getD_map_mul, mul_add]

/-! ### Products with constant matrices -/

/-- The entries of a vector, multiplied by a matrix from the left. -/
def image (m : Matrix ℚ) (v : Vec ℚ) : Entries ℚ :=
  if v.isConstant then .const (m.mulVec v.constant)
  else .affine ⟨v.vars, m.mul v.linearCoeff, m.mulVec v.constant, by simp, by simp⟩

/-- A matrix times a column of the right length is the column of the images. -/
theorem mulMatrixLeft_eq_ok (ho : v.orientation = .column) (h : m.cols = v.length) :
  mulMatrixLeft m v = .ok ⟨v.image m, .column⟩
  := by
  rw [mulMatrixLeft, if_pos ⟨ho, h⟩, image]
  split_ifs
  · rfl
  · rfl

/-- A row of the right length times a matrix is the row of the images under the transpose. -/
theorem mulMatrixRight_eq_ok (ho : v.orientation = .row) (h : m.rows = v.length) :
  v.mulMatrixRight m = .ok ⟨v.image m.transpose, .row⟩
  := by
  rw [mulMatrixRight, if_pos ⟨ho, h⟩, image]
  split_ifs
  · rw [Matrix.vecMul_eq_mulVec]
  · simp only [Matrix.vecMul_eq_mulVec]

/-- The image of a constant vector, and of no other one, is constant. -/
theorem isConstant_image (m : Matrix ℚ) (v : Vec ℚ) (o : Orientation) :
  (Vec.mk (v.image m) o).isConstant = v.isConstant
  := by
  rw [image]
  split_ifs with hv
  · exact hv.symm
  · exact (Bool.not_eq_true _ ▸ hv).symm

/-- The image is over the same variables. -/
theorem vars_image (m : Matrix ℚ) (v : Vec ℚ) (o : Orientation) :
  (Vec.mk (v.image m) o).vars = v.vars
  := by
  rw [image]
  split_ifs with hv
  · exact (vars_of_isConstant hv).symm
  · rfl

theorem constant_image (m : Matrix ℚ) (v : Vec ℚ) (o : Orientation) :
  (Vec.mk (v.image m) o).constant = m.mulVec v.constant
  := by
  rw [image]
  split_ifs
  · rfl
  · rfl

/-- The image has an entry for each row of the matrix. -/
theorem length_image (m : Matrix ℚ) (v : Vec ℚ) (o : Orientation) :
  (Vec.mk (v.image m) o).length = m.rows
  := by
  rw [← length_constant, constant_image, Matrix.length_mulVec]

/-- The coefficients of the image are the product of the matrix and the coefficients. -/
theorem linearCoeff_image (m : Matrix ℚ) (v : Vec ℚ) (o : Orientation) :
  (Vec.mk (v.image m) o).linearCoeff = m.mul v.linearCoeff
  := by
  by_cases hv : v.isConstant = true
  · have hcols : v.linearCoeff.cols = 0 := by
      rw [cols_linearCoeff, vars_of_isConstant hv, List.length_nil]
    rw [m.mul_eq_zeros hcols, image, if_pos hv]
    exact congrArg (fun rows => Matrix.zeros rows 0) (m.length_mulVec _)
  · rw [image, if_neg hv]
    rfl

/-- The entries of a product are the sums of the products of the entries of a row and those of the
vector. -/
theorem represents_image (h : m.cols = v.length) (o : Orientation) :
  (Vec.mk (v.image m) o).Represents v.vars m.rows o
    fun x i => ∑ k ∈ Finset.range m.cols, m.entry i k * v.valueAt x k
  := by
  have hrows : m.cols = v.linearCoeff.rows := by
    rw [h, rows_linearCoeff, length_constant]
  constructor
  · rw [vars_image]
  · apply length_image
  · rfl
  · intro x i _
    rw [valueAt, vars_image, linearCoeff_image, constant_image, rowValue_mul hrows,
      Matrix.getD_mulVec, ← Finset.sum_add_distrib]
    apply Finset.sum_congr rfl
    intro k _
    rw [valueAt, mul_add]

/-- Each entry of a matrix times a column is a row of the matrix times the column. -/
theorem exists_mulMatrixLeft (ho : v.orientation = .column) (h : m.cols = v.length) :
  ∃ w, mulMatrixLeft m v = .ok w
    ∧ w.Represents v.vars m.rows .column
        fun x i => ∑ k ∈ Finset.range m.cols, m.entry i k * v.valueAt x k
  := ⟨_, mulMatrixLeft_eq_ok ho h, represents_image h _⟩

/-- Each entry of a row times a matrix is the row times a column of the matrix. -/
theorem exists_mulMatrixRight (ho : v.orientation = .row) (h : m.rows = v.length) :
  ∃ w, v.mulMatrixRight m = .ok w
    ∧ w.Represents v.vars m.cols .row
        fun x j => ∑ k ∈ Finset.range m.rows, v.valueAt x k * m.entry k j
  := by
  have hcols : m.transpose.cols = v.length := by
    rw [Matrix.cols_transpose, h]
  obtain ⟨hvars, hlength, ho', hvalue⟩ := represents_image hcols .row
  rw [Matrix.rows_transpose] at hlength hvalue
  use ⟨v.image m.transpose, .row⟩, mulMatrixRight_eq_ok ho h
  constructor
  · apply hvars
  · apply hlength
  · apply ho'
  · intro x j hj
    rw [hvalue x hj, Matrix.cols_transpose]
    apply Finset.sum_congr rfl
    intro k _
    rw [Matrix.entry_transpose, mul_comm]

/-! ### Products of vectors -/

/-- The degree that the entries of a vector have; terms with zero coefficients count. -/
def degree (v : Vec ℚ) : ℕ := if v.isConstant then 0 else 1

/-- A sum of entries with weights is a linear expression. -/
theorem represents_weightedSum {weights : List ℚ} (h : weights.length = v.length) :
  (Scalar.linear (weightedSum weights v)).Represents v.vars 1
    fun x => ∑ k ∈ Finset.range v.length, weights.getD k 0 * v.valueAt x k
  := by
  apply Scalar.represents_linear rfl
  intro x
  rw [weightedSum, linearValue_vecMul, rows_linearCoeff, length_constant, dot_eq_sum _ _ h.le,
    ← Finset.sum_add_distrib]
  apply Finset.sum_congr rfl
  intro k _
  rw [valueAt, mul_add]

/-- Of the product of two sums the products of the variable parts, of each variable part and the
other constant, and of the constants are added up apart. -/
theorem exists_quadraticDot (h : u.length = v.length) :
  ∃ f, quadraticDot u v = .ok f
    ∧ (Scalar.quadratic f).Represents (u.vars ++ v.vars) 2
        fun x => ∑ k ∈ Finset.range u.length, u.valueAt x k * v.valueAt x k
  := by
  have hl := length_constant u
  have hm := length_constant v
  apply Scalar.exists_represents_quadratic _ _ _ _ (by simp) (by simp) _ (distinct_distinct _)
  intro x
  rw [quadraticValue_transpose_mul, linearValue_add, linearValue_transpose_mulVec,
    linearValue_transpose_mulVec, dot_eq_sum _ _ hl.le]
  · simp only [rows_spreadColumns, rows_linearCoeff, hl, hm, ← h, ← Finset.sum_add_distrib]
    apply Finset.sum_congr rfl
    intro k _
    rw [rowValue_spreadColumns, rowValue_spreadColumns, valueAt, valueAt]
    · ring
    · apply lists_distinct_append_right
    · apply lists_distinct_append_left
  · simp
  · simp [h]

/-- The product of a row and a column of one length has the sum of the degrees and the sum of the
products of the values. -/
theorem exists_dot (h : u.length = v.length) :
  ∃ e, u.dot v = .ok e
    ∧ e.Represents (u.vars ++ v.vars) (u.degree + v.degree)
        fun x => ∑ k ∈ Finset.range u.length, u.valueAt x k * v.valueAt x k
  := by
  unfold dot
  rcases hu : u.isConstant with - | -
  · rcases hv : v.isConstant with - | -
    · obtain ⟨f, hf, hr⟩ := exists_quadraticDot h
      use .quadratic f
      rw [hf, degree, degree, hu, hv]
      use rfl
      apply hr
    · use .linear (weightedSum v.constant u), rfl
      apply (represents_weightedSum (v := u) (h ▸ length_constant v)).congr
      · rw [vars_of_isConstant hv, List.append_nil]
      · rw [degree, degree, hu, hv]
        rfl
      · intro x
        simp only [valueAt_of_isConstant hv, mul_comm]
  · rcases hv : v.isConstant with - | -
    · use .linear (weightedSum u.constant v), rfl
      apply (represents_weightedSum (v := v) (h ▸ length_constant u)).congr
      · rw [vars_of_isConstant hu, List.nil_append]
      · rw [degree, degree, hu, hv]
        rfl
      · intro x
        simp only [valueAt_of_isConstant hu, h]
    · use .const (Coefficient.dot u.constant v.constant), rfl
      have hr : (Scalar.const (Coefficient.dot u.constant v.constant)).Represents [] 0
          fun x => ∑ k ∈ Finset.range u.length, u.valueAt x k * v.valueAt x k := by
        apply Scalar.represents_const
        intro x
        simp only [dot_eq_sum _ _ (length_constant u).le, valueAt_of_isConstant hu,
          valueAt_of_isConstant hv]
      apply hr.congr
      · rw [vars_of_isConstant hu, vars_of_isConstant hv, List.nil_append]
      · rw [degree, degree, hu, hv]
        rfl
      · intro x
        rfl

end QuadraticProgram.Vec
