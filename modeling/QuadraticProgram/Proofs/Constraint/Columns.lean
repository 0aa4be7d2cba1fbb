import QuadraticProgram.Constraint.Rows
import QuadraticProgram.Proofs.Form

/-!
# Coefficients in columns

A point by columns carries a point by identifiers if every variable has the value of its
column. Coefficients that are moved to the columns of their variables, those of one column
added up, then have at the point by columns the value that they had at the other one.
-/

namespace QuadraticProgram.Columns

open QuadraticProgram.Alignment Coefficient

variable {columns : Columns} {vs ws : List Variable} {x : ℕ → ℚ} {y : List ℚ}

/-- Whether all variables of a list have columns. -/
def Finds (columns : Columns) (vs : List Variable) : Prop :=
  ∀ axis, ∀ v ∈ vs, ∃ k, columns.index axis v = .ok k

/-- Whether the variables of a list have the values that stand in their columns. -/
def Carries (columns : Columns) (vs : List Variable) (x : ℕ → ℚ) (y : List ℚ) : Prop :=
  ∀ axis, ∀ v ∈ vs, ∀ k, columns.index axis v = .ok k → y.getD k 0 = x v.id

/-- The column of a variable depends on its identifier only. -/
theorem index_congr (columns : Columns) (axis : ℕ) {v w : Variable} (h : v.id = w.id) :
  columns.index axis v = columns.index axis w
  := by
  rw [index, index, h]

/-- The index of a variable is where its position in the matrix lies. -/
theorem index_eq_ok_iff {axis k : ℕ} {v : Variable} :
  columns.index axis v = .ok k
    ↔ ∃ i, columns.positions.lookup v.id = some i ∧ position? i columns.width = some k
  := by
  rw [index]
  cases columns.positions.lookup v.id with
  | none => simp
  | some i => cases hk : position? i columns.width <;> simp [hk]

/-- Every index is within the width. -/
theorem index_lt {axis : ℕ} {v : Variable} {k : ℕ} (h : columns.index axis v = .ok k) :
  k < columns.width
  := by
  obtain ⟨i, -, hk⟩ := index_eq_ok_iff.mp h
  apply position?_lt hk

theorem Finds.of_distinct_eq (hws : columns.Finds ws) (h : distinct vs = distinct ws) :
  columns.Finds vs
  := by
  intro axis v hv
  obtain ⟨w, hw, hwv⟩ := exists_mem_of_distinct_eq h hv
  obtain ⟨k, hk⟩ := hws axis w hw
  use k
  rw [← columns.index_congr axis hwv, hk]

theorem Carries.of_distinct_eq (hws : columns.Carries ws x y) (h : distinct vs = distinct ws) :
  columns.Carries vs x y
  := by
  intro axis v hv k hk
  obtain ⟨w, hw, hwv⟩ := exists_mem_of_distinct_eq h hv
  rw [← hwv]
  apply hws axis w hw k
  rw [columns.index_congr axis hwv, hk]

/-! ### Rows -/

/-- The entry of a row is the sum of the coefficients whose variables have that column. -/
theorem getD_row (columns : Columns) (ks : List ℕ) (l : List ℚ) {j : ℕ} (hj : j < columns.width) :
  (columns.row ks l).getD j 0
    = ∑ a ∈ Finset.range ks.length, incidence (ks.map some) a j * l.getD a 0
  := by
  rw [row, getD_map_range _ hj, total_gather, List.length_map]

/-- Coefficients in the columns of their variables keep their value. -/
theorem Finds.exists_indices (h : columns.Finds vs) (axis : ℕ) :
  ∃ ks, columns.indices axis vs = .ok ks
    ∧ ∀ {x y}, columns.Carries vs x y → ∀ l, dot (columns.row ks l) y = linearValue x vs l
  := by
  choose! k hk using h axis
  use vs.map k
  constructor
  · apply Outcome.mapM_eq_ok
    apply hk
  · intro x y hxy l
    have hplaces : ∀ a, ∑ j ∈ Finset.range columns.width,
          incidence ((vs.map k).map some) a j * y.getD j 0 = (valuesAt x vs).getD a 0 := by
      intro a
      rcases lt_or_ge a vs.length with ha | ha
      · have hplace : ((vs.map k).map some)[a]? = some (some (k vs[a])) := by
          simp [ha]
        have hindex := hk (vs[a]) (List.getElem_mem ha)
        rw [sum_incidence_of_getElem? hplace (index_lt hindex), getD_valuesAt x ha]
        apply hxy axis _ (List.getElem_mem ha) _ hindex
      · rw [List.getD_eq_default _ _ (by rw [length_valuesAt]; apply ha)]
        apply sum_incidence_of_length_le
        simpa using ha
    calc dot (columns.row (vs.map k) l) y
        = ∑ j ∈ Finset.range columns.width, (∑ a ∈ Finset.range vs.length,
            incidence ((vs.map k).map some) a j * l.getD a 0) * y.getD j 0 := by
          rw [dot_eq_sum _ _ (columns.length_row _ _).le]
          apply Finset.sum_congr rfl
          intro j hj
          rw [getD_row columns _ _ (Finset.mem_range.mp hj), List.length_map]
      _ = linearValue x vs l := sum_moved hplaces _ _

theorem rows_matrix {α : Type} [Coefficient α] (columns : Columns) (ks : List ℕ) (m : Matrix α) :
  (columns.matrix ks m).rows = m.rows
  := List.length_map _

/-- Each row of a matrix whose columns are moved has its value. -/
theorem getD_mulVec_matrix {ks : List ℕ}
    (h : ∀ l, dot (columns.row ks l) y = linearValue x vs l) (m : Matrix ℚ) (i : ℕ) :
  ((columns.matrix ks m).mulVec y).getD i 0 = rowValue x vs m i
  := by
  have hrows : (columns.matrix ks m).mulVec y = m.rowList.map fun row => linearValue x vs row := by
    rw [Matrix.mulVec, matrix, List.map_map]
    apply List.map_congr_left
    intro row _
    apply h
  rw [hrows, rowValue, List.getD_eq_getElem?_getD, List.getD_eq_getElem?_getD, List.getElem?_map]
  rcases m.rowList[i]? with - | row
  · rw [Option.map_none, Option.getD_none, Option.getD_none, linearValue_nil_right]
  · rfl

end QuadraticProgram.Columns
