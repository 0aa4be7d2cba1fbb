import QuadraticProgram.Tensor

/-!
# Matrices

Constant matrices as lists of rows of one length. The number of columns is kept beside the
rows, so that a matrix without rows still has columns. `ofFn` builds a matrix from its
entries and `entry` reads them back.
-/

namespace QuadraticProgram

/-- A matrix, all of whose rows have one length. -/
@[ext]
structure Matrix (α : Type) where
  cols : Nat
  rowList : List (List α)
  length_row : ∀ r ∈ rowList, r.length = cols

namespace Matrix

variable {α : Type}

/-- The number of rows. -/
def rows (m : Matrix α) : Nat := m.rowList.length

/-- The number of rows and of columns. -/
def dimensions (m : Matrix α) : List Nat := [m.rows, m.cols]

/-- The matrix of the given sizes with an entry for each row and column. -/
def ofFn (rows cols : Nat) (f : Nat → Nat → α) : Matrix α where
  cols := cols
  rowList := (List.range rows).map fun i => (List.range cols).map (f i)
  length_row := by simp

@[simp]
theorem rows_ofFn (rows cols : Nat) (f : Nat → Nat → α) :
  (ofFn rows cols f).rows = rows
  := by
  simp [ofFn, Matrix.rows]

@[simp]
theorem cols_ofFn (rows cols : Nat) (f : Nat → Nat → α) :
  (ofFn rows cols f).cols = cols
  := rfl

/-- The matrix with the entry-wise images. -/
def map (f : α → α) (m : Matrix α) : Matrix α where
  cols := m.cols
  rowList := m.rowList.map (List.map f)
  length_row := by
    intro r hr
    obtain ⟨s, hs, rfl⟩ := List.mem_map.1 hr
    rw [List.length_map, m.length_row s hs]

@[simp]
theorem rows_map (f : α → α) (m : Matrix α) :
  (m.map f).rows = m.rows
  := by
  simp [map, Matrix.rows]

@[simp]
theorem cols_map (f : α → α) (m : Matrix α) :
  (m.map f).cols = m.cols
  := rfl

/-- All the entries, row by row. -/
def toTensor (m : Matrix α) : Tensor α := ⟨[m.rows, m.cols], m.rowList.flatten⟩

/-- Matrices of one width, one below the other. -/
def stack (width : Nat) (ms : List { m : Matrix α // m.cols = width }) : Matrix α where
  cols := width
  rowList := ms.flatMap fun m => m.val.rowList
  length_row := by
    intro r hr
    obtain ⟨m, -, h⟩ := List.mem_flatMap.1 hr
    rw [m.val.length_row r h, m.property]

@[simp]
theorem cols_stack (width : Nat) (ms : List { m : Matrix α // m.cols = width }) :
  (stack width ms).cols = width
  := rfl

/-- The matrix with a single row. -/
def ofRow (row : List α) : Matrix α where
  cols := row.length
  rowList := [row]
  length_row := by simp

variable [Coefficient α]

/-- The entry in a row and a column, zero outside the matrix. -/
def entry (m : Matrix α) (i j : Nat) : α := (m.rowList.getD i []).getD j 0

/-- The array of two axes as a matrix. -/
def ofTensor (rows cols : Nat) (entries : List α) : Matrix α :=
  ofFn rows cols fun i j => entries.getD (i * cols + j) 0

/-- The matrix of zeros. -/
def zeros (rows cols : Nat) : Matrix α := ofFn rows cols fun _ _ => 0

/-- The square matrix with ones on its diagonal and zeros elsewhere. -/
def identity (n : Nat) : Matrix α := ofFn n n fun i j => if i = j then 1 else 0

/-- Rows and columns exchanged. -/
def transpose (m : Matrix α) : Matrix α := ofFn m.cols m.rows fun i j => m.entry j i

/-- The entry-wise sum of two matrices of the same sizes. -/
def add (m n : Matrix α) : Matrix α :=
  ofFn m.rows m.cols fun i j => m.entry i j + n.entry i j

/-- A matrix with all entries multiplied by a coefficient on the left. -/
def scale (a : α) (m : Matrix α) : Matrix α := m.map (a * ·)

/-- The products of the entries of two lists. -/
def outer (xs ys : List α) : Matrix α where
  cols := ys.length
  rowList := xs.map fun x => ys.map (x * ·)
  length_row := by
    intro r hr
    obtain ⟨x, -, rfl⟩ := List.mem_map.1 hr
    simp

/-- The product of a matrix and a column. -/
def mulVec (m : Matrix α) (v : List α) : List α :=
  m.rowList.map fun row => Coefficient.dot row v

/-- The product of a row and a matrix. -/
def vecMul (v : List α) (m : Matrix α) : List α :=
  m.transpose.rowList.map fun col => Coefficient.dot v col

/-- The product of two matrices. -/
def mul (m n : Matrix α) : Matrix α where
  cols := n.cols
  rowList := m.rowList.map fun row => vecMul row n
  length_row := by
    intro r hr
    obtain ⟨row, -, rfl⟩ := List.mem_map.1 hr
    simp [vecMul, transpose, ofFn]

/-- Half the sum of a matrix and its transpose. -/
def symmetrised (m : Matrix α) : Matrix α :=
  ofFn m.rows m.cols fun i j => Coefficient.half * (m.entry i j + m.entry j i)

/-- Whether a matrix equals its transpose, entry by entry. -/
def isSymmetric (m : Matrix α) : Bool :=
  m.rows == m.cols &&
    (List.range m.rows).all fun i =>
      (List.range m.cols).all fun j => m.entry i j == m.entry j i

@[simp]
theorem rows_zeros (rows cols : Nat) :
  (zeros rows cols : Matrix α).rows = rows
  := rows_ofFn ..

@[simp]
theorem cols_zeros (rows cols : Nat) :
  (zeros rows cols : Matrix α).cols = cols
  := rfl

@[simp]
theorem rows_identity (n : Nat) :
  (identity n : Matrix α).rows = n
  := rows_ofFn ..

@[simp]
theorem cols_identity (n : Nat) :
  (identity n : Matrix α).cols = n
  := rfl

@[simp]
theorem rows_add (m n : Matrix α) :
  (m.add n).rows = m.rows
  := rows_ofFn ..

@[simp]
theorem cols_add (m n : Matrix α) :
  (m.add n).cols = m.cols
  := rfl

@[simp]
theorem rows_scale (a : α) (m : Matrix α) :
  (m.scale a).rows = m.rows
  := rows_map ..

@[simp]
theorem cols_scale (a : α) (m : Matrix α) :
  (m.scale a).cols = m.cols
  := rfl

@[simp]
theorem rows_transpose (m : Matrix α) :
  m.transpose.rows = m.cols
  := rows_ofFn ..

@[simp]
theorem cols_transpose (m : Matrix α) :
  m.transpose.cols = m.rows
  := rfl

@[simp]
theorem rows_outer (xs ys : List α) :
  (outer xs ys).rows = xs.length
  := by
  simp [outer, Matrix.rows]

@[simp]
theorem cols_outer (xs ys : List α) :
  (outer xs ys).cols = ys.length
  := rfl

@[simp]
theorem rows_mul (m n : Matrix α) :
  (m.mul n).rows = m.rows
  := by
  simp [mul, Matrix.rows]

@[simp]
theorem cols_mul (m n : Matrix α) :
  (m.mul n).cols = n.cols
  := rfl

@[simp]
theorem rows_symmetrised (m : Matrix α) :
  m.symmetrised.rows = m.rows
  := rows_ofFn ..

@[simp]
theorem cols_symmetrised (m : Matrix α) :
  m.symmetrised.cols = m.cols
  := rfl

@[simp]
theorem length_mulVec (m : Matrix α) (v : List α) :
  (m.mulVec v).length = m.rows
  := by
  simp [mulVec, Matrix.rows]

@[simp]
theorem length_vecMul (v : List α) (m : Matrix α) :
  (vecMul v m).length = m.cols
  := by
  simp [vecMul, transpose, ofFn]

end Matrix

end QuadraticProgram
