import Mathlib.Algebra.BigOperators.Fin
import QuadraticProgram.Proofs.Alignment

/-!
# Linear and quadratic values

The value at a point of coefficients, and of a matrix of coefficients, over a list of
variables. Values are additive, and they are kept when coefficients are moved to a list that
contains all of their variables.
-/

namespace QuadraticProgram.Alignment

open Coefficient

variable {x : ℕ → ℚ} {vs : List Variable}

/-- The sum of the values of variables, each multiplied by its coefficient. -/
def linearValue (x : ℕ → ℚ) (vs : List Variable) (l : List ℚ) : ℚ :=
  ∑ a ∈ Finset.range vs.length, l.getD a 0 * (valuesAt x vs).getD a 0

/-- The linear value of a row of a matrix. -/
def rowValue (x : ℕ → ℚ) (vs : List Variable) (m : Matrix ℚ) (i : ℕ) : ℚ :=
  linearValue x vs (m.rowList.getD i [])

/-- The sum of the values of pairs of variables, each multiplied by its coefficient. -/
def quadraticValue (x : ℕ → ℚ) (vs : List Variable) (m : Matrix ℚ) : ℚ :=
  ∑ a ∈ Finset.range vs.length, rowValue x vs m a * (valuesAt x vs).getD a 0

/-! ### Linear values -/

/-- The value of a linear part is the sum of the products of coefficients and values. -/
theorem dot_valuesAt {l : List ℚ} (h : l.length ≤ vs.length) :
  dot l (valuesAt x vs) = linearValue x vs l
  := dot_eq_sum _ _ h

/-- Linear values are additive in the coefficients. -/
theorem linearValue_add {l m : List ℚ} (h : l.length = m.length) :
  linearValue x vs (List.zipWith (· + ·) l m) = linearValue x vs l + linearValue x vs m
  := by
  simp only [linearValue, getD_zipWith_add h, add_mul, Finset.sum_add_distrib]

/-- The value over two lists of variables is the sum of both values. -/
theorem linearValue_append {l : List ℚ} (h : l.length = vs.length) (ws : List Variable)
    {m : List ℚ} (h' : m.length = ws.length) :
  linearValue x (vs ++ ws) (l ++ m) = linearValue x vs l + linearValue x ws m
  := by
  have happend : (l ++ m).length ≤ (vs ++ ws).length := by
    rw [List.length_append, List.length_append, h, h']
  have hvalues : valuesAt x (vs ++ ws) = valuesAt x vs ++ valuesAt x ws := List.map_append ..
  rw [← dot_valuesAt happend, ← dot_valuesAt h.le, ← dot_valuesAt h'.le, hvalues, dot, dot, dot,
    List.zipWith_append (by rw [length_valuesAt, h]), total_eq_sum, total_eq_sum, total_eq_sum,
    List.sum_append]

/-- A factor of all coefficients is a factor of the value. -/
theorem linearValue_scale (a : ℚ) (l : List ℚ) :
  linearValue x vs (l.map (a * ·)) = a * linearValue x vs l
  := by
  simp only [linearValue, getD_map_mul, mul_assoc, Finset.mul_sum]

/-- A sum over moved items is a sum over the items, if each item takes the value of its place. -/
theorem sum_moved {ps : List (Option ℕ)} {n : ℕ} {y z : ℕ → ℚ}
    (h : ∀ a, ∑ j ∈ Finset.range n, incidence ps a j * y j = z a) (m : ℕ) (c : ℕ → ℚ) :
  ∑ j ∈ Finset.range n, (∑ a ∈ Finset.range m, incidence ps a j * c a) * y j
    = ∑ a ∈ Finset.range m, c a * z a
  := by
  simp only [Finset.sum_mul]
  rw [Finset.sum_comm]
  apply Finset.sum_congr rfl
  intro a _
  rw [← h a, Finset.mul_sum]
  apply Finset.sum_congr rfl
  intro j _
  ring

/-- Over other variables a coefficient is the sum of those whose variables are at its place. -/
theorem getD_spread (source : List Variable) (l : List ℚ) (target : List Variable) (j : ℕ) :
  (spread source l target).getD j 0
    = ∑ a ∈ Finset.range source.length, incidence (places source target) a j * l.getD a 0
  := by
  rcases lt_or_ge j target.length with hj | hj
  · rw [List.getD_eq_getElem _ _ (by rw [length_spread]; apply hj)]
    simp only [spread, List.getElem_map, List.getElem_range, total_gather, length_places]
  · rw [List.getD_eq_default _ _ (by rw [length_spread]; apply hj)]
    symm
    apply Finset.sum_eq_zero
    intro a _
    rw [incidence_of_target_le source a hj, zero_mul]

/-- Coefficients that are moved to a list with all variables keep their value. -/
theorem linearValue_spread {source target : List Variable} (h : Lists target source)
    (l : List ℚ) :
  linearValue x target (spread source l target) = linearValue x source l
  := by
  simp only [linearValue, getD_spread]
  apply sum_moved (sum_incidence h x)

theorem linearValue_nil_left (x : ℕ → ℚ) (l : List ℚ) :
  linearValue x [] l = 0
  := Finset.sum_range_zero _

theorem linearValue_nil_right (x : ℕ → ℚ) (vs : List Variable) :
  linearValue x vs [] = 0
  := by
  simp [linearValue]

theorem linearValue_zero (vs : List Variable) (l : List ℚ) :
  linearValue 0 vs l = 0
  := by
  have hvalues : valuesAt 0 vs = List.replicate vs.length 0 := List.map_const' ..
  apply Finset.sum_eq_zero
  intro a ha
  rw [hvalues, List.getD_replicate _ (Finset.mem_range.mp ha), mul_zero]

/-- A linear value as a sum over the positions of the variables. -/
theorem linearValue_eq_sum_fin (vs : List Variable) (l : List ℚ) :
  linearValue x vs l = ∑ i : Fin vs.length, l.getD i 0 * x (vs.get i).id
  := by
  rw [linearValue, Finset.sum_range]
  apply Finset.sum_congr rfl
  intro i _
  rw [getD_valuesAt x i.isLt, List.get_eq_getElem]

/-! ### Values of rows -/

/-- The value of a row is the sum of the products of its entries and the values. -/
theorem rowValue_eq_sum (m : Matrix ℚ) (i : ℕ) :
  rowValue x vs m i = ∑ a ∈ Finset.range vs.length, m.entry i a * (valuesAt x vs).getD a 0
  := rfl

/-- A matrix times the list of values is the list of the values of its rows. -/
theorem getD_mulVec_valuesAt {m : Matrix ℚ} (hc : m.cols = vs.length) (i : ℕ) :
  (m.mulVec (valuesAt x vs)).getD i 0 = rowValue x vs m i
  := by
  rw [Matrix.getD_mulVec, rowValue_eq_sum, hc]

/-- The values of rows are additive in the matrix. -/
theorem rowValue_add {m n : Matrix ℚ} (hr : m.rows = n.rows) (hc : m.cols = n.cols) (i : ℕ) :
  rowValue x vs (m.add n) i = rowValue x vs m i + rowValue x vs n i
  := by
  simp only [rowValue_eq_sum, Matrix.entry_add hr hc, add_mul, Finset.sum_add_distrib]

/-- A factor of a matrix is a factor of the values of its rows. -/
theorem rowValue_scale (a : ℚ) (m : Matrix ℚ) (i : ℕ) :
  rowValue x vs (m.scale a) i = a * rowValue x vs m i
  := by
  simp only [rowValue_eq_sum, Matrix.entry_scale, mul_assoc, Finset.mul_sum]

/-- The rows of the identity have the values of the variables. -/
theorem rowValue_identity {i : ℕ} (hi : i < vs.length) :
  rowValue x vs (Matrix.identity vs.length) i = (valuesAt x vs).getD i 0
  := by
  rw [rowValue_eq_sum, Finset.sum_eq_single i]
  · rw [Matrix.entry_identity hi, if_pos rfl, one_mul]
  · intro a _ ha
    rw [Matrix.entry_identity hi, if_neg ha.symm, zero_mul]
  · intro hi'
    exact absurd (Finset.mem_range.mpr hi) hi'

/-- The value of a row of a product is a sum over the rows of its second factor. -/
theorem rowValue_mul {m n : Matrix ℚ} (h : m.cols = n.rows) (i : ℕ) :
  rowValue x vs (m.mul n) i = ∑ k ∈ Finset.range m.cols, m.entry i k * rowValue x vs n k
  := by
  simp only [rowValue_eq_sum, Matrix.entry_mul h, Finset.sum_mul, Finset.mul_sum]
  rw [Finset.sum_comm]
  simp only [mul_assoc]

/-- Columns that are moved to a list with all variables keep the values of the rows. -/
theorem rowValue_spreadColumns {source target : List Variable} (h : Lists target source)
    (m : Matrix ℚ) (i : ℕ) :
  rowValue x target (spreadColumns source m target) i = rowValue x source m i
  := by
  rw [rowValue, rowValue, spreadColumns, List.getD_eq_getElem?_getD (l := m.rowList.map _),
    List.getD_eq_getElem?_getD (l := m.rowList), List.getElem?_map]
  rcases m.rowList[i]? with - | row
  · rw [Option.map_none, Option.getD_none, linearValue_nil_right, linearValue_nil_right]
  · apply linearValue_spread h

/-- The value of a combination of the rows of a matrix. -/
theorem linearValue_vecMul (l : List ℚ) (m : Matrix ℚ) :
  linearValue x vs (Matrix.vecMul l m)
    = ∑ k ∈ Finset.range m.rows, l.getD k 0 * rowValue x vs m k
  := by
  simp only [linearValue, Matrix.getD_vecMul, rowValue_eq_sum, Finset.sum_mul, Finset.mul_sum]
  rw [Finset.sum_comm]
  simp only [mul_assoc]

/-- The value of a combination of the columns of a transposed matrix. -/
theorem linearValue_transpose_mulVec (m : Matrix ℚ) (l : List ℚ) :
  linearValue x vs (m.transpose.mulVec l)
    = ∑ k ∈ Finset.range m.rows, rowValue x vs m k * l.getD k 0
  := by
  simp only [linearValue, Matrix.getD_mulVec, Matrix.cols_transpose, Matrix.entry_transpose,
    rowValue_eq_sum, Finset.sum_mul]
  rw [Finset.sum_comm]
  apply Finset.sum_congr rfl
  intro k _
  apply Finset.sum_congr rfl
  intro a _
  ring

/-! ### Quadratic values -/

/-- A quadratic value as a sum over rows and columns. -/
theorem quadraticValue_eq_sum (m : Matrix ℚ) :
  quadraticValue x vs m
    = ∑ a ∈ Finset.range vs.length, ∑ b ∈ Finset.range vs.length,
        m.entry a b * (valuesAt x vs).getD a 0 * (valuesAt x vs).getD b 0
  := by
  apply Finset.sum_congr rfl
  intro a _
  rw [rowValue_eq_sum, Finset.sum_mul]
  apply Finset.sum_congr rfl
  intro b _
  ring

/-- A quadratic value as a sum over pairs of positions of the variables. -/
theorem quadraticValue_eq_sum_fin (vs : List Variable) (q : Matrix ℚ) :
  quadraticValue x vs q
    = ∑ i : Fin vs.length, ∑ j : Fin vs.length, q.entry i j * x (vs.get i).id * x (vs.get j).id
  := by
  rw [quadraticValue_eq_sum, Finset.sum_range]
  apply Finset.sum_congr rfl
  intro i _
  rw [Finset.sum_range]
  apply Finset.sum_congr rfl
  intro j _
  rw [getD_valuesAt x i.isLt, getD_valuesAt x j.isLt, List.get_eq_getElem, List.get_eq_getElem]

/-- A quadratic value is computed row by row. -/
theorem dot_vecMul_valuesAt {m : Matrix ℚ} (hr : m.rows = vs.length) (hc : m.cols = vs.length) :
  dot (Matrix.vecMul (valuesAt x vs) m) (valuesAt x vs) = quadraticValue x vs m
  := by
  rw [dot_valuesAt (by rw [Matrix.length_vecMul, hc]), linearValue, quadraticValue_eq_sum,
    Finset.sum_comm]
  apply Finset.sum_congr rfl
  intro b _
  rw [Matrix.getD_vecMul, hr, Finset.sum_mul]
  apply Finset.sum_congr rfl
  intro a _
  ring

theorem quadraticValue_zeros (rows cols : ℕ) :
  quadraticValue x vs (Matrix.zeros rows cols) = 0
  := by
  simp [quadraticValue_eq_sum, Matrix.entry_zeros]

/-- Quadratic values are additive in the matrix. -/
theorem quadraticValue_add {m n : Matrix ℚ} (hr : m.rows = n.rows) (hc : m.cols = n.cols) :
  quadraticValue x vs (m.add n) = quadraticValue x vs m + quadraticValue x vs n
  := by
  simp only [quadraticValue_eq_sum, Matrix.entry_add hr hc, add_mul, Finset.sum_add_distrib]

/-- A factor of a matrix is a factor of its quadratic value. -/
theorem quadraticValue_scale (a : ℚ) (m : Matrix ℚ) :
  quadraticValue x vs (m.scale a) = a * quadraticValue x vs m
  := by
  simp only [quadraticValue_eq_sum, Matrix.entry_scale, mul_assoc, Finset.mul_sum]

/-- A matrix made symmetric has the same quadratic values. -/
theorem quadraticValue_symmetrised {m : Matrix ℚ} (h : m.rows = m.cols) :
  quadraticValue x vs m.symmetrised = quadraticValue x vs m
  := by
  have hswap : quadraticValue x vs m = ∑ a ∈ Finset.range vs.length,
      ∑ b ∈ Finset.range vs.length,
        m.entry b a * (valuesAt x vs).getD a 0 * (valuesAt x vs).getD b 0 := by
    rw [quadraticValue_eq_sum, Finset.sum_comm]
    apply Finset.sum_congr rfl
    intro a _
    apply Finset.sum_congr rfl
    intro b _
    ring
  have hhalf : quadraticValue x vs m.symmetrised
      = 1 / 2 * (quadraticValue x vs m + quadraticValue x vs m) := by
    nth_rewrite 2 [quadraticValue_eq_sum]
    rw [hswap, quadraticValue_eq_sum]
    simp only [Matrix.entry_symmetrised h, mul_assoc, add_mul, Finset.mul_sum,
      Finset.sum_add_distrib, mul_add]
  rw [hhalf]
  ring

/-- The product of a transposed matrix and another one stands for the products of the values of
their rows. -/
theorem quadraticValue_transpose_mul {m n : Matrix ℚ} (h : m.rows = n.rows) :
  quadraticValue x vs (m.transpose.mul n)
    = ∑ k ∈ Finset.range m.rows, rowValue x vs m k * rowValue x vs n k
  := by
  have hc : m.transpose.cols = n.rows := by
    rw [Matrix.cols_transpose, h]
  simp only [quadraticValue, rowValue_mul hc, Matrix.entry_transpose, Matrix.cols_transpose,
    Finset.sum_mul]
  rw [Finset.sum_comm]
  apply Finset.sum_congr rfl
  intro k _
  rw [rowValue_eq_sum m, Finset.sum_mul]
  apply Finset.sum_congr rfl
  intro a _
  ring

/-- The products of two lists of coefficients stand for the product of their values. -/
theorem quadraticValue_outer (l m : List ℚ) :
  quadraticValue x vs (Matrix.outer l m) = linearValue x vs l * linearValue x vs m
  := by
  rw [quadraticValue_eq_sum, linearValue, linearValue, Finset.sum_mul_sum]
  apply Finset.sum_congr rfl
  intro a _
  apply Finset.sum_congr rfl
  intro b _
  rw [Matrix.entry_outer]
  ring

/-- The entries that two places gather from the rows of a matrix. -/
theorem total_flatMap_gather (ps : List (Option ℕ)) (rows : List (List ℚ)) (i j : ℕ) :
  total ((gather ps rows i).flatMap fun row => gather ps row j)
    = ∑ a ∈ Finset.range ps.length, incidence ps a i * total (gather ps (rows.getD a []) j)
  := by
  have hg := sum_map_gather (List.sum ∘ fun row => gather ps row j) ps rows i
  rw [total_eq_sum, List.flatMap_def, List.sum_flatten, List.map_map, hg]
  apply Finset.sum_congr rfl
  intro a _
  rw [total_eq_sum, List.getD_eq_getElem?_getD]
  rcases rows[a]? with - | row
  · simp [gather]
  · rfl

/-- Over other variables an entry is the sum of those whose variables are at its row and its column.
-/
theorem entry_spreadPairs (source : List Variable) (m : Matrix ℚ) (target : List Variable)
    (i j : ℕ) :
  (spreadPairs source m target).entry i j
    = ∑ a ∈ Finset.range source.length, incidence (places source target) a i
        * ∑ b ∈ Finset.range source.length, incidence (places source target) b j * m.entry a b
  := by
  have hentry : ∀ i j, total ((gather (places source target) m.rowList i).flatMap fun row =>
        gather (places source target) row j)
      = ∑ a ∈ Finset.range source.length, incidence (places source target) a i
          * ∑ b ∈ Finset.range source.length,
              incidence (places source target) b j * m.entry a b := by
    intro i j
    simp only [total_flatMap_gather, total_gather, length_places]
    rfl
  rw [spreadPairs, Matrix.entry_ofFn_of_vanishing]
  · apply hentry
  · intro i j hi
    rw [hentry]
    apply Finset.sum_eq_zero
    intro a _
    rw [incidence_of_target_le source a hi, zero_mul]
  · intro i j hj
    rw [hentry]
    apply Finset.sum_eq_zero
    intro a _
    rw [Finset.sum_eq_zero, mul_zero]
    intro b _
    rw [incidence_of_target_le source b hj, zero_mul]

/-- A matrix moved to a list that contains all variables keeps its quadratic values. -/
theorem quadraticValue_spreadPairs {source target : List Variable} (h : Lists target source)
    (m : Matrix ℚ) :
  quadraticValue x target (spreadPairs source m target) = quadraticValue x source m
  := by
  have hrow : ∀ i, rowValue x target (spreadPairs source m target) i
      = ∑ a ∈ Finset.range source.length, incidence (places source target) a i
          * rowValue x source m a := by
    intro i
    calc rowValue x target (spreadPairs source m target) i
        = ∑ j ∈ Finset.range target.length,
            (spreadPairs source m target).entry i j * (valuesAt x target).getD j 0 := rfl
      _ = ∑ a ∈ Finset.range source.length, incidence (places source target) a i
            * ∑ j ∈ Finset.range target.length, (∑ b ∈ Finset.range source.length,
                incidence (places source target) b j * m.entry a b)
                  * (valuesAt x target).getD j 0 := by
          simp only [entry_spreadPairs, Finset.sum_mul, Finset.mul_sum]
          rw [Finset.sum_comm]
          simp only [mul_assoc]
      _ = ∑ a ∈ Finset.range source.length, incidence (places source target) a i
            * rowValue x source m a := by
          simp only [sum_moved (sum_incidence h x)]
          rfl
  simp only [quadraticValue, hrow]
  apply sum_moved (sum_incidence h x)

end QuadraticProgram.Alignment
