import QuadraticProgram.Proofs.Exact
import QuadraticProgram.Matrix

/-!
# Entries of matrices

Each operation on matrices in terms of the entries, which are zero outside a matrix. Over the
rationals products are sums over a range of positions, and half the sum of a matrix and its
transpose is symmetric.
-/

namespace QuadraticProgram.Matrix

open Coefficient

variable {α : Type} [Coefficient α]

/-- There are zeros below the last row. -/
theorem entry_of_rows_le (m : Matrix α) {i : ℕ} (h : m.rows ≤ i) (j : ℕ) :
  m.entry i j = 0
  := by
  rw [entry, List.getD_eq_default m.rowList _ h, List.getD_nil]

omit [Coefficient α] in
theorem length_rowList_getD (m : Matrix α) {i : ℕ} (h : i < m.rows) :
  (m.rowList.getD i []).length = m.cols
  := by
  rw [List.getD_eq_getElem _ _ h]
  apply m.length_row
  apply List.getElem_mem

/-- There are zeros beyond the last column. -/
theorem entry_of_cols_le (m : Matrix α) (i : ℕ) {j : ℕ} (h : m.cols ≤ j) :
  m.entry i j = 0
  := by
  rcases lt_or_ge i m.rows with hi | hi
  · rw [entry, List.getD_eq_default]
    rw [length_rowList_getD m hi]
    apply h
  · apply entry_of_rows_le m hi

/-- A matrix is determined by its sizes and its entries. -/
theorem eq_of_entry_eq {m n : Matrix α} (hr : m.rows = n.rows) (hc : m.cols = n.cols)
    (h : ∀ i < m.rows, ∀ j < m.cols, m.entry i j = n.entry i j) :
  m = n
  := by
  have hentry : ∀ (k : Matrix α) {i j : ℕ} (hi : i < k.rowList.length)
      (hj : j < k.rowList[i].length), k.rowList[i][j] = k.entry i j := by
    intro k i j hi hj
    rw [entry, List.getD_eq_getElem _ _ hi, List.getD_eq_getElem _ _ hj]
  have hlength : ∀ (k : Matrix α) {i : ℕ} (hi : i < k.rowList.length),
      k.rowList[i].length = k.cols := fun k i hi => k.length_row _ (List.getElem_mem hi)
  apply Matrix.ext hc
  apply List.ext_getElem hr
  intro i hi hi'
  apply List.ext_getElem
  · rw [hlength m hi, hlength n hi', hc]
  · intro j hj hj'
    rw [hentry m hi hj, hentry n hi' hj']
    apply h i hi j
    rwa [hlength m hi] at hj

omit [Coefficient α] in
/-- In rows of one length, written one after the other, a position tells a row and a column. -/
theorem getElem?_flatten {rows : List (List α)} {cols : ℕ} (h : ∀ r ∈ rows, r.length = cols)
    (i : ℕ) {j : ℕ} (hj : j < cols) :
  rows.flatten[i * cols + j]? = rows[i]?.bind (·[j]?)
  := by
  induction rows generalizing i with
  | nil => rfl
  | cons r rows ih =>
      have hr : r.length = cols := h r List.mem_cons_self
      cases i with
      | zero =>
          rw [List.flatten_cons, zero_mul, zero_add, List.getElem?_append_left (hr ▸ hj)]
          rfl
      | succ i =>
          have hle : r.length ≤ (i + 1) * cols + j := by
            rw [hr, Nat.succ_mul]
            omega
          have hrest : (i + 1) * cols + j - r.length = i * cols + j := by
            rw [hr, Nat.succ_mul]
            omega
          rw [List.flatten_cons, List.getElem?_append_right hle, hrest,
            ih (fun s hs => h s (List.mem_cons_of_mem _ hs)), List.getElem?_cons_succ]

omit [Coefficient α] in
/-- Lists of the same size are equal if they agree at every row and column. -/
theorem eq_of_getElem?_eq {β : Type} {xs ys : List β} {rows cols : ℕ}
    (hx : xs.length = rows * cols) (hy : ys.length = rows * cols)
    (h : ∀ i < rows, ∀ j < cols, xs[i * cols + j]? = ys[i * cols + j]?) :
  xs = ys
  := by
  apply List.ext_getElem?
  intro k
  rcases lt_or_ge k (rows * cols) with hk | hk
  · have hcols : 0 < cols := Nat.pos_of_mul_pos_left (Nat.zero_lt_of_lt hk)
    have hi : k / cols < rows := by
      rw [mul_comm] at hk
      apply Nat.div_lt_of_lt_mul hk
    have hat := h (k / cols) hi (k % cols) (Nat.mod_lt k hcols)
    rwa [Nat.div_add_mod'] at hat
  · rw [List.getElem?_eq_none (hx ▸ hk), List.getElem?_eq_none (hy ▸ hk)]

omit [Coefficient α] in
theorem length_flatten (m : Matrix α) :
  m.rowList.flatten.length = m.rows * m.cols
  := by
  have hlengths : m.rowList.map List.length = List.replicate m.rows m.cols := by
    rw [List.eq_replicate_iff, List.length_map]
    use rfl
    intro n hn
    obtain ⟨r, hr, rfl⟩ := List.mem_map.mp hn
    apply m.length_row r hr
  rw [List.length_flatten, hlengths, List.sum_replicate_nat]

/-- A product with a matrix without columns has none. -/
theorem mul_eq_zeros (m : Matrix α) {n : Matrix α} (h : n.cols = 0) :
  m.mul n = zeros m.rows 0
  := by
  apply eq_of_entry_eq
  · rw [rows_mul, rows_zeros]
  · apply h
  · intro i _ j hj
    rw [cols_mul, h] at hj
    exact absurd hj j.not_lt_zero

/-! ### Construction -/

theorem entry_ofFn (f : ℕ → ℕ → α) {rows cols i j : ℕ} (hi : i < rows) (hj : j < cols) :
  (ofFn rows cols f).entry i j = f i j
  := by
  have hi' : i < (ofFn rows cols f).rowList.length := by
    simpa [ofFn] using hi
  rw [entry, List.getD_eq_getElem _ _ hi', List.getD_eq_getElem]
  · simp [ofFn]
  · simpa [ofFn] using hj

/-- A function that vanishes outside the sizes of a matrix is read back everywhere. -/
theorem entry_ofFn_of_vanishing (f : ℕ → ℕ → α) {rows cols : ℕ}
    (hr : ∀ i j, rows ≤ i → f i j = 0) (hc : ∀ i j, cols ≤ j → f i j = 0) (i j : ℕ) :
  (ofFn rows cols f).entry i j = f i j
  := by
  rcases lt_or_ge i rows with hi | hi
  · rcases lt_or_ge j cols with hj | hj
    · apply entry_ofFn f hi hj
    · rw [hc i j hj]
      apply entry_of_cols_le _ _ hj
  · rw [hr i j hi]
    apply entry_of_rows_le
    rw [rows_ofFn]
    apply hi

/-- An array is read back from its matrix. -/
theorem toTensor_ofTensor {rows cols : ℕ} {entries : List α}
    (h : entries.length = rows * cols) :
  (ofTensor rows cols entries).toTensor = ⟨[rows, cols], entries⟩
  := by
  have hrows : (ofTensor rows cols entries).rows = rows := rows_ofFn ..
  have hlength : (ofTensor rows cols entries).rowList.flatten.length = rows * cols := by
    rw [length_flatten, hrows]
    rfl
  have hentries : (ofTensor rows cols entries).rowList.flatten = entries := by
    apply eq_of_getElem?_eq hlength h
    intro i hi j hj
    have hk : i * cols + j < entries.length := by
      rw [h, mul_comm i]
      apply Nat.mul_add_lt_mul_of_lt_of_lt hi hj
    have hrow : ∀ r ∈ (ofTensor rows cols entries).rowList, r.length = cols :=
      (ofTensor rows cols entries).length_row
    rw [getElem?_flatten hrow i hj, ofTensor, ofFn]
    simp only [List.getElem?_map, List.getElem?_range hi, List.getElem?_range hj, Option.map_some,
      Option.bind_some]
    rw [List.getD_eq_getElem _ _ hk, List.getElem?_eq_getElem hk]
  rw [toTensor, hrows, hentries]
  rfl

theorem entry_zeros (rows cols i j : ℕ) :
  (zeros rows cols : Matrix α).entry i j = 0
  := by
  apply entry_ofFn_of_vanishing
  · intros
    rfl
  · intros
    rfl

theorem entry_identity {n i : ℕ} (hi : i < n) (j : ℕ) :
  (identity n : Matrix α).entry i j = if i = j then 1 else 0
  := by
  rcases lt_or_ge j n with hj | hj
  · apply entry_ofFn _ hi hj
  · rw [entry_of_cols_le _ _ hj, if_neg]
    omega

/-- Transposing exchanges the indices of entries. -/
theorem entry_transpose (m : Matrix α) (i j : ℕ) :
  m.transpose.entry i j = m.entry j i
  := by
  apply entry_ofFn_of_vanishing (fun i j => m.entry j i)
  · intro i j h
    apply entry_of_cols_le m _ h
  · intro i j h
    apply entry_of_rows_le m h

/-- The matrix that is made symmetric has half the sum of the entries on both sides of the diagonal.
-/
theorem entry_symmetrised_of_lt (m : Matrix α) {i j : ℕ} (hi : i < m.rows) (hj : j < m.cols) :
  m.symmetrised.entry i j = half * (m.entry i j + m.entry j i)
  := entry_ofFn _ hi hj

/-- Where sums do not depend on their order, half the sum of a square matrix and its transpose
is symmetric exactly if all entries are equal to themselves. -/
theorem isSymmetric_symmetrised_iff {m : Matrix α} (h : m.rows = m.cols)
    (hadd : ∀ a b : α, a + b = b + a) :
  m.symmetrised.isSymmetric = true
    ↔ ∀ i < m.rows, ∀ j < m.cols, (m.symmetrised.entry i j == m.symmetrised.entry i j) = true
  := by
  have hswap : ∀ i < m.rows, ∀ j < m.cols, m.symmetrised.entry j i = m.symmetrised.entry i j := by
    intro i hi j hj
    rw [entry_symmetrised_of_lt m (h ▸ hj) (h ▸ hi), entry_symmetrised_of_lt m hi hj, hadd]
  simp only [isSymmetric, rows_symmetrised, cols_symmetrised, h, beq_self_eq_true, Bool.true_and,
    List.all_eq_true, List.mem_range]
  apply forall₂_congr
  intro i hi
  apply forall₂_congr
  intro j hj
  rw [hswap i (h ▸ hi) j hj]

/-! ### Rational matrices -/

/-- Matrices of one shape are added entry by entry. -/
theorem entry_add {m n : Matrix ℚ} (hr : m.rows = n.rows) (hc : m.cols = n.cols) (i j : ℕ) :
  (m.add n).entry i j = m.entry i j + n.entry i j
  := by
  apply entry_ofFn_of_vanishing (fun i j => m.entry i j + n.entry i j)
  · intro i j h
    rw [entry_of_rows_le m h, entry_of_rows_le n (hr ▸ h), add_zero]
  · intro i j h
    rw [entry_of_cols_le m _ h, entry_of_cols_le n _ (hc ▸ h), add_zero]

theorem entry_scale (a : ℚ) (m : Matrix ℚ) (i j : ℕ) :
  (m.scale a).entry i j = a * m.entry i j
  := by
  have h : (m.scale a).rowList.getD i [] = (m.rowList.getD i []).map (a * ·) := by
    simp only [scale, map, List.getD_eq_getElem?_getD, List.getElem?_map]
    rcases m.rowList[i]? with - | row
    · rfl
    · rfl
  rw [entry, h, getD_map_mul, entry]

theorem entry_outer (xs ys : List ℚ) (i j : ℕ) :
  (outer xs ys).entry i j = xs.getD i 0 * ys.getD j 0
  := by
  rw [entry, outer, List.getD_eq_getElem?_getD (l := xs.map _),
    List.getD_eq_getElem?_getD (l := xs), List.getElem?_map]
  rcases xs[i]? with - | x
  · simp
  · apply getD_map_mul

/-- Over the rationals the same holds beyond a square matrix, where both entries are zero. -/
theorem entry_symmetrised {m : Matrix ℚ} (h : m.rows = m.cols) (i j : ℕ) :
  m.symmetrised.entry i j = 1 / 2 * (m.entry i j + m.entry j i)
  := by
  rw [← half_eq]
  apply entry_ofFn_of_vanishing (fun i j => half * (m.entry i j + m.entry j i))
  · intro i j hi
    rw [entry_of_rows_le m hi, entry_of_cols_le m _ (h ▸ hi), add_zero, mul_zero]
  · intro i j hj
    rw [entry_of_cols_le m _ hj, entry_of_rows_le m (h ▸ hj), add_zero, mul_zero]

/-- Half the sum of a square matrix and its transpose is symmetric. -/
theorem isSymmetric_symmetrised {m : Matrix ℚ} (h : m.rows = m.cols) :
  m.symmetrised.isSymmetric = true
  := by
  simp only [isSymmetric, rows_symmetrised, cols_symmetrised, h, Bool.and_eq_true, List.all_eq_true,
    beq_iff_eq, true_and]
  intro i _ j _
  rw [entry_symmetrised h, entry_symmetrised h, add_comm]

/-- A matrix that is symmetric already stays as it is. -/
theorem symmetrised_eq_self {m : Matrix ℚ} (h : m.rows = m.cols)
    (hcomm : ∀ i j, m.entry i j = m.entry j i) :
  m.symmetrised = m
  := by
  apply eq_of_entry_eq
  · rw [rows_symmetrised]
  · rw [cols_symmetrised]
  · intro i _ j _
    rw [entry_symmetrised h, hcomm j i]
    ring

/-! ### Products -/

theorem length_rowList_getD_le (m : Matrix ℚ) (i : ℕ) :
  (m.rowList.getD i []).length ≤ m.cols
  := by
  rcases lt_or_ge i m.rows with hi | hi
  · rw [length_rowList_getD m hi]
  · rw [List.getD_eq_default m.rowList _ hi]
    apply Nat.zero_le

theorem getD_mulVec_eq_dot (m : Matrix ℚ) (v : List ℚ) (i : ℕ) :
  (m.mulVec v).getD i 0 = dot (m.rowList.getD i []) v
  := by
  simp only [mulVec, List.getD_eq_getElem?_getD, List.getElem?_map]
  rcases m.rowList[i]? with - | row
  · rfl
  · rfl

/-- The entry of a matrix times a list is the sum of the products of a row and the list. -/
theorem getD_mulVec (m : Matrix ℚ) (v : List ℚ) (i : ℕ) :
  (m.mulVec v).getD i 0 = ∑ k ∈ Finset.range m.cols, m.entry i k * v.getD k 0
  := by
  rw [getD_mulVec_eq_dot]
  apply dot_eq_sum
  apply length_rowList_getD_le

theorem mulVec_map_neg (m : Matrix ℚ) (v : List ℚ) :
  (m.map (- ·)).mulVec v = (m.mulVec v).map (- ·)
  := by
  simp only [mulVec, map, List.map_map]
  apply List.map_congr_left
  intro row _
  apply dot_map_neg

/-- Stacked matrices times a list are the products of each, one after the other. -/
theorem mulVec_stack (width : ℕ) (ms : List { m : Matrix ℚ // m.cols = width }) (v : List ℚ) :
  (stack width ms).mulVec v = ms.flatMap fun m => m.val.mulVec v
  := by
  simp only [mulVec, stack, List.map_flatMap]

/-- To multiply by a matrix on the right is to multiply by its transpose on the left. -/
theorem vecMul_eq_mulVec (v : List ℚ) (m : Matrix ℚ) :
  vecMul v m = m.transpose.mulVec v
  := by
  apply List.map_congr_left
  intro col _
  apply dot_comm

/-- The entry of a list times a matrix is the sum of the products of the list and a column. -/
theorem getD_vecMul (v : List ℚ) (m : Matrix ℚ) (j : ℕ) :
  (vecMul v m).getD j 0 = ∑ k ∈ Finset.range m.rows, v.getD k 0 * m.entry k j
  := by
  rw [vecMul_eq_mulVec, getD_mulVec]
  apply Finset.sum_congr rfl
  intro k _
  rw [entry_transpose, mul_comm]

/-- The entry of a product is the sum of the products of a row and a column. -/
theorem entry_mul {m n : Matrix ℚ} (h : m.cols = n.rows) (i j : ℕ) :
  (m.mul n).entry i j = ∑ k ∈ Finset.range m.cols, m.entry i k * n.entry k j
  := by
  rcases lt_or_ge i m.rows with hi | hi
  · have hrow : (m.mul n).rowList.getD i [] = vecMul (m.rowList.getD i []) n := by
      simp only [mul, List.getD_eq_getElem?_getD, List.getElem?_map]
      rw [List.getElem?_eq_getElem hi]
      rfl
    rw [entry, hrow, getD_vecMul, h]
    rfl
  · rw [entry_of_rows_le _ (by rw [rows_mul]; apply hi)]
    simp [entry_of_rows_le m hi]

end QuadraticProgram.Matrix
