import Mathlib.Algebra.Order.Ring.Int
import Mathlib.Data.List.Basic
import Mathlib.Tactic.Ring
import QuadraticProgram.Problem
import QuadraticProgram.Proofs.Entries
import QuadraticProgram.Proofs.Outcome

/-!
# Reading grids

A grid is read at a row and a column, by rows, by columns, as one column of all its variables
and transposed. All these readings find the same variable (`Grid.readings_agree`), and a new
grid of a problem has its variables numbered row by row.

Outside the grid they differ. `Grid.at?` refuses every position that is not in it, whereas a
row is a slice, which is never refused, and a column is read at computed positions, which may
count from the end. What a row and a column are at an arbitrary integer is
`Grid.lines_at_any_index`: indices below minus one count rows from the last one, and a column
outside the grid runs on through the neighbouring rows.
-/

namespace QuadraticProgram

variable {α β : Type}

/-! ### Intervals of positions -/

namespace Slice

/-- The items at positions between two bounds. -/
theorem filterMap_between (xs : List β) (lo hi : ℕ) :
  ((List.range xs.length).filter fun k => lo ≤ k ∧ k < hi).filterMap (xs[·]?)
    = (xs.take hi).drop lo
  := by
  induction xs using List.reverseRecOn with
  | nil => simp
  | append_singleton xs x ih =>
      have hinit : ((List.range xs.length).filter fun k => lo ≤ k ∧ k < hi).filterMap
          ((xs ++ [x])[·]?) = (xs.take hi).drop lo := by
        rw [← ih]
        apply List.filterMap_congr
        intro k hk
        apply List.getElem?_append_left
        apply List.mem_range.mp (List.mem_of_mem_filter hk)
      rw [List.length_append, List.length_singleton, List.range_succ, List.filter_append,
        List.filterMap_append, hinit]
      by_cases hhi : xs.length < hi
      · have htake : (xs ++ [x]).take hi = xs ++ [x] := by
          apply List.take_of_length_le
          rw [List.length_append, List.length_singleton]
          omega
        rw [htake, List.take_of_length_le hhi.le]
        by_cases hlo : lo ≤ xs.length
        · rw [List.filter_cons_of_pos (by simp [hlo, hhi]), List.drop_append_of_le_length hlo]
          simp
        · rw [List.filter_cons_of_neg (by simp [hlo]), List.drop_eq_nil_of_le (by omega),
            List.drop_eq_nil_of_le (by simp; omega)]
          simp
      · rw [List.filter_cons_of_neg (by simp [hhi]), List.take_append_of_le_length (by omega)]
        simp

/-- The index that an end of an interval stands for. -/
def place (i : ℤ) (length : ℕ) : ℕ := (clamp i length 0 length).toNat

/-- A slice without a step takes the items from its start up to its stop. -/
theorem of?_interval (start stop : ℤ) (xs : List β) :
  (⟨some start, some stop, none⟩ : Slice).of? xs
    = some ((xs.take (place stop xs.length)).drop (place start xs.length))
  := by
  rw [← filterMap_between]
  simp only [of?, indices?, place, Option.getD_none, Option.map_some, Option.getD_some]
  rw [if_neg (by omega), if_pos (by omega), Option.map_some]
  congr 2
  apply List.filter_congr
  intro k hk
  simp only [clamp, Int.emod_one]
  rw [Bool.eq_iff_iff]
  simp

/-- A position in range is where it says. -/
theorem place_natCast {i length : ℕ} (h : i ≤ length) :
  place i length = i
  := by
  simp only [place, clamp]
  omega

/-- A position beyond the end is at the end. -/
theorem place_eq_length {i : ℤ} {length : ℕ} (h : length ≤ i) :
  place i length = length
  := by
  simp only [place, clamp]
  omega

/-- A position before the beginning is at the beginning. -/
theorem place_eq_zero {i : ℤ} {length : ℕ} (h : i ≤ -length) :
  place i length = 0
  := by
  simp only [place, clamp]
  omega

/-- A negative position counts from the end. -/
theorem place_length_add {i : ℤ} {length : ℕ} (hlow : -length ≤ i) (hneg : i < 0) :
  place (length + i) length = place i length
  := by
  simp only [place, clamp]
  omega

/-- An end that is the first position of a row, counted in rows. -/
theorem place_mul (i : ℤ) (rows columns : ℕ) :
  place (i * columns) (rows * columns) = place i rows * columns
  := by
  have hclamp : clamp (i * columns) (rows * columns : ℕ) 0 (rows * columns : ℕ)
      = clamp i rows 0 rows * columns := by
    rcases Nat.eq_zero_or_pos columns with rfl | hc
    · simp [clamp]
    · have hsign : i * columns < 0 ↔ i < 0 := by
        simp [mul_neg_iff, hc]
      rw [clamp, clamp, max_mul_of_nonneg _ _ (by omega), min_mul_of_nonneg _ _ (by omega),
        ite_mul, add_mul, zero_mul, Nat.cast_mul]
      simp only [hsign]
  rw [place, hclamp, place, Int.toNat_mul (by simp [clamp]) (by omega), Int.toNat_natCast]

end Slice

/-- A remainder is a position in range. -/
theorem exists_emod_eq (i : ℤ) {n : ℕ} (h : 0 < n) :
  ∃ a < n, i % n = (a : ℕ)
  := by
  have hn : (0 : ℤ) < n := by omega
  obtain ⟨a, ha⟩ := Int.eq_ofNat_of_zero_le (Int.emod_nonneg i hn.ne')
  have hlt := Int.emod_lt_of_pos i hn
  exact ⟨a, by omega, ha⟩

/-- A position of a grid, counted round it, in a row and in a column. -/
theorem emod_rows_mul (i j : ℤ) {rows columns : ℤ} (hr : 0 < rows) (hc : 0 < columns) :
  (i * columns + j) % (rows * columns) = (i + j / columns) % rows * columns + j % columns
  := by
  have hrow := Int.emod_lt_of_pos (i + j / columns) hr
  have hrow' := Int.emod_nonneg (i + j / columns) hr.ne'
  have hcolumn := Int.emod_lt_of_pos j hc
  have hcolumn' := Int.emod_nonneg j hc.ne'
  have hlast : ((i + j / columns) % rows + 1) * columns ≤ rows * columns :=
    mul_le_mul_of_nonneg_right hrow hc.le
  have hturns : i * columns + j
      = ((i + j / columns) % rows * columns + j % columns)
        + rows * columns * ((i + j / columns) / rows) := by
    calc i * columns + j
        = (i + j / columns) * columns + j % columns := by
          nth_rewrite 1 [← Int.emod_add_mul_ediv j columns]
          ring
      _ = ((i + j / columns) % rows * columns + j % columns)
            + rows * columns * ((i + j / columns) / rows) := by
          nth_rewrite 1 [← Int.emod_add_mul_ediv (i + j / columns) rows]
          ring
  rw [hturns, Int.add_mul_emod_self_left, Int.emod_eq_of_lt]
  · exact add_nonneg (mul_nonneg hrow' hc.le) hcolumn'
  · rw [add_one_mul] at hlast
    omega

/-- An entry of a vector of variables is the variable. -/
theorem Vec.at?_vars [Coefficient α] {elements : List Variable} {k : ℕ} {v : Variable}
    (h : elements[k]? = some v) (o : Orientation) :
  (Vec.mk (.vars elements) o : Vec α).at? k = .ok (.var v)
  := by
  obtain ⟨hk, rfl⟩ := List.getElem?_eq_some_iff.mp h
  exact at?_eq_ok (position?_natCast hk)

namespace Grid

/-! ### Elements -/

/-- Exactly the indices in range have an element, which is found row by row. -/
theorem at?_eq_ok_iff (g : Grid) {i j : ℕ} {v : Variable} :
  g.at? i j = .ok v
    ↔ i < g.rows ∧ j < g.columns ∧ g.elements[i * g.columns + j]? = some v
  := by
  by_cases h : i < g.rows ∧ j < g.columns
  · rw [at?, if_pos (by omega), Int.toNat_natCast, Int.toNat_natCast]
    cases g.elements[i * g.columns + j]? with
    | none => simp
    | some w => simp [h]
  · rw [at?, if_neg (by omega)]
    simp
    omega

theorem exists_at? (g : Grid) {i j : ℕ} (hi : i < g.rows) (hj : j < g.columns) :
  ∃ v, g.at? i j = .ok v
  := by
  have hk := g.position_lt hi hj
  use g.elements[i * g.columns + j]
  apply g.at?_eq_ok_iff.mpr ⟨hi, hj, List.getElem?_eq_getElem hk⟩

/-- A grid is determined by its sizes and its elements. -/
theorem eq_of_at?_eq {g h : Grid} (hr : g.rows = h.rows) (hc : g.columns = h.columns)
    (hat : ∀ i < g.rows, ∀ j < g.columns, g.at? i j = h.at? i j) :
  g = h
  := by
  apply Grid.ext _ hr hc
  apply Matrix.eq_of_getElem?_eq g.length_elements (hr ▸ hc ▸ h.length_elements)
  intro i hi j hj
  obtain ⟨v, hv⟩ := g.exists_at? hi hj
  have hg := (g.at?_eq_ok_iff.mp hv).2.2
  have hh := (h.at?_eq_ok_iff.mp (hat i hi j hj ▸ hv)).2.2
  rw [← hc] at hh
  rw [hg, hh]

/-! ### Rows -/

/-- A row is cut out of the elements. -/
theorem rowVariables_eq (g : Grid) (i : ℤ) :
  g.rowVariables i
    = (g.elements.take (Slice.place (i + 1) g.rows * g.columns)).drop
        (Slice.place i g.rows * g.columns)
  := by
  rw [rowVariables, Slice.of?_interval, Option.getD_some, ← add_one_mul, g.length_elements,
    Slice.place_mul, Slice.place_mul]

theorem rowVariables_natCast (g : Grid) {i : ℕ} (hi : i < g.rows) :
  g.rowVariables i = (g.elements.take ((i + 1) * g.columns)).drop (i * g.columns)
  := by
  rw [rowVariables_eq, ← Nat.cast_succ, Slice.place_natCast hi, Slice.place_natCast hi.le]

/-- A row in range has an element for each column. -/
theorem length_rowVariables (g : Grid) {i : ℕ} (hi : i < g.rows) :
  (g.rowVariables i).length = g.columns
  := by
  rw [g.rowVariables_natCast hi, List.length_drop, List.length_take, g.length_elements,
    Nat.min_eq_left (Nat.mul_le_mul_right _ hi), Nat.succ_mul, Nat.add_sub_cancel_left]

/-- The elements of a row in range. -/
theorem getElem?_rowVariables (g : Grid) {i j : ℕ} (hi : i < g.rows) (hj : j < g.columns) :
  (g.rowVariables i)[j]? = g.elements[i * g.columns + j]?
  := by
  have hk : i * g.columns + j < (i + 1) * g.columns := by
    rw [Nat.succ_mul]
    omega
  rw [g.rowVariables_natCast hi, List.getElem?_drop, List.getElem?_take_of_lt hk]

/-- Indices below minus one count rows from the last one. -/
theorem rowVariables_rows_add (g : Grid) {i : ℤ} (hlow : -g.rows ≤ i) (hhigh : i ≤ -2) :
  g.rowVariables (g.rows + i) = g.rowVariables i
  := by
  rw [rowVariables_eq, rowVariables_eq, add_assoc, Slice.place_length_add hlow (by omega),
    Slice.place_length_add (by omega) (by omega)]

/-- The rows beyond the last one are empty, and so are that at minus one and those before minus the
number of rows. -/
theorem rowVariables_eq_nil (g : Grid) {i : ℤ} (h : g.rows ≤ i ∨ i = -1 ∨ i < -g.rows) :
  g.rowVariables i = []
  := by
  rw [rowVariables_eq, List.drop_eq_nil_iff, List.length_take]
  rcases h with h | rfl | h
  · rw [Slice.place_eq_length h, g.length_elements]
    apply Nat.min_le_right
  · -- minus one is followed by zero, where the slice stops before it has begun
    have hstop : Slice.place (-1 + 1) g.rows = 0 := Slice.place_natCast g.rows.zero_le
    rw [hstop, zero_mul, Nat.zero_min]
    apply Nat.zero_le
  · rw [Slice.place_eq_zero (by omega), zero_mul, Nat.zero_min]
    apply Nat.zero_le

/-! ### Columns -/

/-- A position in range has its element. -/
theorem element_natCast (g : Grid) {k : ℕ} {v : Variable} (h : g.elements[k]? = some v) :
  g.element k = .ok v
  := by
  obtain ⟨hk, -⟩ := List.getElem?_eq_some_iff.mp h
  rw [element, position?_natCast hk, Option.bind_some, h]

/-- A position that the elements do not have. -/
theorem element_eq_error (g : Grid) {k : ℤ}
    (h : k < -g.elements.length ∨ g.elements.length ≤ k) :
  g.element k
    = .error (if isBeyondPositions k then .beyondPositions else .positionOutOfRange)
  := by
  rw [element, position?_eq_none h, Option.bind_none]

/-- The element at a position of a column, counted round the grid. -/
theorem exists_element (g : Grid) {i : ℕ} {j : ℤ} (hi : i < g.rows)
    (hlow : -(g.rows * g.columns : ℤ) ≤ j) (hhigh : j < g.columns) :
  ∃ v, g.element (i * g.columns + j) = .ok v
    ∧ g.at? ((i + j / g.columns) % g.rows) (j % g.columns) = .ok v
  := by
  have hr : 0 < g.rows := Nat.zero_lt_of_lt hi
  have hc : 0 < g.columns := by
    by_contra hc
    rw [Nat.eq_zero_of_not_pos hc] at hlow hhigh
    omega
  obtain ⟨a, ha, hrow⟩ := exists_emod_eq (i + j / g.columns) hr
  obtain ⟨b, hb, hcolumn⟩ := exists_emod_eq j hc
  have hround : (i * g.columns + j) % g.elements.length = (a * g.columns + b : ℕ) := by
    rw [g.length_elements, Nat.cast_mul, emod_rows_mul _ _ (by omega) (by omega), hrow, hcolumn,
      Nat.cast_add, Nat.cast_mul]
  have hfirst : 0 ≤ (i : ℤ) * g.columns := mul_nonneg (by omega) (by omega)
  have hlast : i * g.columns + g.columns ≤ g.elements.length := by
    rw [g.length_elements, ← Nat.succ_mul]
    apply Nat.mul_le_mul_right _ hi
  have hposition :
      position? (i * g.columns + j) g.elements.length = some (a * g.columns + b) := by
    rw [position?_eq_emod, hround, Int.toNat_natCast]
    · rw [g.length_elements]
      omega
    · omega
  obtain ⟨v, hv⟩ := g.exists_at? ha hb
  use v
  constructor
  · rw [element, hposition, Option.bind_some, (g.at?_eq_ok_iff.mp hv).2.2]
  · rw [hrow, hcolumn, hv]

/-- A column has an element for each row. -/
theorem length_columnVariables (g : Grid) {j : ℤ} {vs : List Variable}
    (h : g.columnVariables j = .ok vs) :
  vs.length = g.rows
  := by
  rw [Outcome.length_of_mapM h, List.length_range]

/-- The elements of a column are the width of the grid apart. -/
theorem exists_getElem?_columnVariables (g : Grid) {j : ℤ} {vs : List Variable}
    (h : g.columnVariables j = .ok vs) {i : ℕ} (hi : i < g.rows) :
  ∃ v, vs[i]? = some v ∧ g.element (i * g.columns + j) = .ok v
  := Outcome.exists_getElem?_of_mapM h (List.getElem?_range hi)

/-- The first row bounds the index of a column from below and the last row from above. -/
theorem bounds_of_columnVariables (g : Grid) {j : ℤ} {vs : List Variable}
    (h : g.columnVariables j = .ok vs) (hr : 0 < g.rows) :
  -(g.rows * g.columns : ℤ) ≤ j ∧ j < g.columns
  := by
  have hlength : (g.elements.length : ℤ) = g.rows * g.columns := by
    rw [g.length_elements, Nat.cast_mul]
  have hlast : ((g.rows - 1 : ℕ) : ℤ) * g.columns = g.rows * g.columns - g.columns := by
    rw [Nat.cast_sub hr, sub_mul, Nat.cast_one, one_mul]
  constructor
  · obtain ⟨v, -, hv⟩ := g.exists_getElem?_columnVariables h hr
    by_contra hlow
    rw [Nat.cast_zero, zero_mul, zero_add, g.element_eq_error (by omega)] at hv
    cases hv
  · obtain ⟨v, -, hv⟩ := g.exists_getElem?_columnVariables h (Nat.sub_one_lt_of_lt hr)
    by_contra hhigh
    rw [hlast, g.element_eq_error (by omega)] at hv
    cases hv

/-- A column can be read from minus the number of elements on and below the number of columns, or if
there are no rows. -/
theorem exists_columnVariables_iff (g : Grid) (j : ℤ) :
  (∃ vs, g.columnVariables j = .ok vs)
    ↔ g.rows = 0 ∨ -(g.rows * g.columns : ℤ) ≤ j ∧ j < g.columns
  := by
  constructor
  · rintro ⟨vs, hvs⟩
    rcases Nat.eq_zero_or_pos g.rows with hr | hr
    · exact .inl hr
    · exact .inr (g.bounds_of_columnVariables hvs hr)
  · intro h
    apply Outcome.exists_mapM_iff.mpr
    intro i hi
    rw [List.mem_range] at hi
    rcases h with hr | ⟨hlow, hhigh⟩
    · omega
    · obtain ⟨v, hv, -⟩ := g.exists_element hi hlow hhigh
      exact ⟨v, hv⟩

/-- A column is refused for a position only. -/
theorem columnVariables_eq_error (g : Grid) {j : ℤ} {e : Error}
    (h : g.columnVariables j = .error e) :
  e = .positionOutOfRange ∨ e = .beyondPositions
  := by
  obtain ⟨i, -, hi⟩ := Outcome.exists_of_mapM_eq_error h
  rw [element] at hi
  split at hi
  · cases hi
  · split at hi
    · cases hi
      exact .inr rfl
    · cases hi
      exact .inl rfl

/-! ### Transposed grids -/

/-- The elements of the transposed grid run through the columns. -/
theorem getElem?_transposedElements (g : Grid) {i j : ℕ} (hi : i < g.rows)
    (hj : j < g.columns) :
  g.transposedElements[j * g.rows + i]? = g.elements[i * g.columns + j]?
  := by
  have hlength : ∀ r ∈ (List.range g.columns).map
      (fun k => (List.range g.rows).filterMap fun i => g.elements[i * g.columns + k]?),
      r.length = g.rows := by
    intro r hr
    obtain ⟨k, hk, rfl⟩ := List.mem_map.mp hr
    apply g.length_transposedRow (List.mem_range.mp hk)
  have hitem := congrArg (·[i]?) (g.map_some_transposedRow hj)
  simp only [List.getElem?_map, List.getElem?_range hi, Option.map_some] at hitem
  obtain ⟨v, hv, hv'⟩ := Option.map_eq_some_iff.mp hitem
  rw [transposedElements, List.flatMap_def, Matrix.getElem?_flatten hlength j hi,
    List.getElem?_map, List.getElem?_range hj, Option.map_some, Option.bind_some, hv, hv']

/-- Transposing exchanges the indices. -/
theorem at?_transpose (g : Grid) {i j : ℕ} (hi : i < g.rows) (hj : j < g.columns) :
  g.transpose.at? j i = g.at? i j
  := by
  obtain ⟨v, hv⟩ := g.exists_at? hi hj
  rw [hv]
  apply g.transpose.at?_eq_ok_iff.mpr ⟨hj, hi, _⟩
  rw [transpose, g.getElem?_transposedElements hi hj]
  exact (g.at?_eq_ok_iff.mp hv).2.2

/-- To transpose a grid twice gives it back. -/
theorem transpose_transpose (g : Grid) :
  g.transpose.transpose = g
  := by
  have hr : g.transpose.transpose.rows = g.rows := rfl
  have hc : g.transpose.transpose.columns = g.columns := rfl
  apply eq_of_at?_eq hr hc
  intro i hi j hj
  rw [g.transpose.at?_transpose hj hi, g.at?_transpose hi hj]

/-! ### Lines as vectors -/

theorem column_eq_ok_iff {g : Grid} {j : ℤ} {u : Vec α} :
  g.column j = .ok u ↔ ∃ vs, g.columnVariables j = .ok vs ∧ u = ⟨.vars vs, .column⟩
  := by
  rw [column, Outcome.bind_eq_ok_iff]
  simp [eq_comm]

theorem columnVariables_of_column {g : Grid} {j : ℤ} {e : Error}
    (h : (g.column j : Except Error (Vec α)) = .error e) :
  g.columnVariables j = .error e
  := by
  rw [column] at h
  cases hvs : g.columnVariables j with
  | error e' =>
      rw [hvs, Outcome.error_bind] at h
      cases h
      rfl
  | ok vs =>
      rw [hvs] at h
      cases h

theorem exists_column_iff (g : Grid) (j : ℤ) :
  (∃ u : Vec α, g.column j = .ok u)
    ↔ g.rows = 0 ∨ -(g.rows * g.columns : ℤ) ≤ j ∧ j < g.columns
  := by
  rw [← g.exists_columnVariables_iff]
  constructor
  · rintro ⟨u, hu⟩
    obtain ⟨vs, hvs, -⟩ := column_eq_ok_iff.mp hu
    exact ⟨vs, hvs⟩
  · rintro ⟨vs, hvs⟩
    exact ⟨_, column_eq_ok_iff.mpr ⟨vs, hvs, rfl⟩⟩

/-- Every column in range can be read. -/
theorem exists_column (g : Grid) {j : ℕ} (hj : j < g.columns) :
  ∃ u : Vec α, g.column j = .ok u
  := by
  have hsize : 0 ≤ (g.rows * g.columns : ℤ) := mul_nonneg (by omega) (by omega)
  exact (g.exists_column_iff j).mpr (.inr ⟨by omega, by omega⟩)

theorem length_of_column {g : Grid} {j : ℤ} {u : Vec α} (h : g.column j = .ok u) :
  u.length = g.rows
  := by
  obtain ⟨vs, hvs, rfl⟩ := column_eq_ok_iff.mp h
  exact g.length_columnVariables hvs

/-- All columns of a grid can be listed. -/
theorem exists_columnVectors (g : Grid) :
  ∃ us : List (Vec α), g.columnVectors = .ok us
  := by
  apply Outcome.exists_mapM_iff.mpr
  intro j hj
  exact g.exists_column (List.mem_range.mp hj)

variable [Coefficient α]

/-- The entries of a row are the elements of the grid in it. -/
theorem at?_row {g : Grid} {i j : ℕ} {v : Variable} (h : g.at? i j = .ok v) :
  (g.row i : Vec α).at? j = .ok (.var v)
  := by
  obtain ⟨hi, hj, hv⟩ := g.at?_eq_ok_iff.mp h
  apply Vec.at?_vars
  rw [g.getElem?_rowVariables hi hj, hv]

/-- The entries of a column are the elements of the grid in it. -/
theorem at?_column {g : Grid} {i j : ℕ} {v : Variable} {u : Vec α} (h : g.at? i j = .ok v)
    (hu : g.column j = .ok u) :
  u.at? i = .ok (.var v)
  := by
  obtain ⟨hi, hj, hv⟩ := g.at?_eq_ok_iff.mp h
  obtain ⟨vs, hvs, rfl⟩ := column_eq_ok_iff.mp hu
  obtain ⟨w, hw, helement⟩ := g.exists_getElem?_columnVariables hvs hi
  apply Vec.at?_vars
  rw [← Nat.cast_mul, ← Nat.cast_add, g.element_natCast hv] at helement
  cases helement
  exact hw

/-- The elements follow one another row by row. -/
theorem at?_flatten {g : Grid} {i j : ℕ} {v : Variable} (h : g.at? i j = .ok v) :
  (g.flatten : Vec α).at? (i * g.columns + j : ℕ) = .ok (.var v)
  := by
  obtain ⟨-, -, hv⟩ := g.at?_eq_ok_iff.mp h
  apply Vec.at?_vars hv

/-! ### New grids -/

/-- New variables have the next numbers. -/
theorem map_id_addVariables (p : Problem α) (kind : VariableKind) (tag n : ℕ) :
  (p.addVariables kind tag n).2.map Variable.id = List.range' p.vars.length n
  := by
  induction n generalizing p tag with
  | zero => rfl
  | succ n ih =>
      calc (p.addVariables kind tag (n + 1)).2.map Variable.id
          = p.vars.length ::
              ((p.addVariable kind (.text "") tag).addVariables kind (tag + 1) n).2.map
                Variable.id := rfl
        _ = List.range' p.vars.length (n + 1) := by
            rw [ih, Problem.addVariable, List.length_append, List.range'_succ]
            rfl

/-- The number of a new variable is read off its position. -/
theorem id_of_getElem?_addVariables {p : Problem α} {kind : VariableKind} {tag n k : ℕ}
    {v : Variable} (h : (p.addVariables kind tag n).2[k]? = some v) :
  v.id = p.vars.length + k
  := by
  have hid : some v.id = (List.range' p.vars.length n)[k]? := by
    rw [← map_id_addVariables p kind tag n, List.getElem?_map, h, Option.map_some]
  obtain ⟨hk, hid⟩ := List.getElem?_eq_some_iff.mp hid.symm
  rw [← hid, List.getElem_range', one_mul]

/-- The variables of a new grid are numbered row by row. -/
theorem exists_addGrid (p : Problem α) (kind : VariableKind) (tag rows columns : ℕ) :
  ∃ q m, p.addGrid kind tag rows columns = .ok (q, m) ∧ m.rows = rows ∧ m.columns = columns
    ∧ ∀ i < rows, ∀ j < columns,
      ∃ v, m.at? i j = .ok v ∧ v.id = p.vars.length + (i * columns + j)
  := by
  let m : Grid := ⟨_, rows, columns, p.length_addVariables kind tag (rows * columns)⟩
  have hadd : p.addGrid kind tag rows columns
      = .ok ((p.addVariables kind tag (rows * columns)).1, m) := by
    rw [Problem.addGrid, if_neg (by omega)]
    rfl
  use (p.addVariables kind tag (rows * columns)).1, m, hadd, rfl, rfl
  intro i hi j hj
  obtain ⟨v, hv⟩ := m.exists_at? hi hj
  use v, hv
  apply id_of_getElem?_addVariables (m.at?_eq_ok_iff.mp hv).2.2

/-! ### Grids inside and outside -/

/-- All readings of a grid agree: by rows, by columns, as one column and transposed. The rows
and the columns are listed in their order, and the variables of a new grid are numbered row by
row after those that the problem has. -/
theorem readings_agree (g : Grid) (p : Problem α) (kind : VariableKind) (tag : ℕ) :
  (∀ i < g.rows, ∀ j < g.columns, ∃ v,
    g.at? i j = .ok v
    ∧ (g.row i : Vec α).at? j = .ok (.var v)
    ∧ (∃ u : Vec α, g.column j = .ok u ∧ u.at? i = .ok (.var v))
    ∧ (g.flatten : Vec α).at? (i * g.columns + j : ℕ) = .ok (.var v)
    ∧ g.transpose.at? j i = .ok v)
  ∧ ((g.rowVectors : List (Vec α)).length = g.rows
    ∧ ∀ i < g.rows, (g.rowVectors : List (Vec α))[i]? = some (g.row i)
      ∧ (g.row i : Vec α).length = g.columns)
  ∧ (∃ us : List (Vec α), g.columnVectors = .ok us ∧ us.length = g.columns
    ∧ ∀ j < g.columns, ∃ u, us[j]? = some u ∧ g.column j = .ok u ∧ u.length = g.rows)
  ∧ (g.transpose.rows = g.columns ∧ g.transpose.columns = g.rows ∧ g.transpose.transpose = g)
  ∧ ∀ rows columns : ℕ, ∃ q m,
    p.addGrid kind tag rows columns = .ok (q, m) ∧ m.rows = rows ∧ m.columns = columns
    ∧ ∀ i < rows, ∀ j < columns,
      ∃ v, m.at? i j = .ok v ∧ v.id = p.vars.length + (i * columns + j)
  := by
  refine ⟨?elements, ?rows, ?columns, ?transposed, exists_addGrid p kind tag⟩
  case elements =>
    intro i hi j hj
    obtain ⟨v, hv⟩ := g.exists_at? hi hj
    obtain ⟨u, hu⟩ := g.exists_column hj
    use v, hv, at?_row hv, ⟨u, hu, at?_column hv hu⟩, at?_flatten hv
    rw [g.at?_transpose hi hj, hv]
  case rows =>
    constructor
    · rw [rowVectors, List.length_map, List.length_range]
    · intro i hi
      rw [rowVectors, List.getElem?_map, List.getElem?_range hi]
      exact ⟨rfl, g.length_rowVariables hi⟩
  case columns =>
    obtain ⟨us, hus⟩ := g.exists_columnVectors (α := α)
    use us, hus
    rw [Outcome.length_of_mapM hus, List.length_range]
    use rfl
    intro j hj
    obtain ⟨u, hu, hcolumn⟩ := Outcome.exists_getElem?_of_mapM hus (List.getElem?_range hj)
    exact ⟨u, hu, hcolumn, length_of_column hcolumn⟩
  case transposed => exact ⟨rfl, rfl, g.transpose_transpose⟩

/-- A grid of free variables that are numbered row by row. -/
def numbered (rows columns : ℕ) : Grid where
  elements := (List.range (rows * columns)).map fun k =>
    ⟨k, Variable.unbounded.1, Variable.unbounded.2, .continuous, .text "", k⟩
  rows := rows
  columns := columns
  length_elements := by
    rw [List.length_map, List.length_range]

/-- The last entry of the second row of a grid that is wider than high. -/
theorem readings_agree_wide :
  1 < (numbered 2 3).rows ∧ 2 < (numbered 2 3).columns
    ∧ ∃ v, (numbered 2 3).at? 1 2 = .ok v
      ∧ ((numbered 2 3).row 1 : Vec ℚ).at? 2 = .ok (.var v)
      ∧ (∃ u : Vec ℚ, (numbered 2 3).column 2 = .ok u ∧ u.at? 1 = .ok (.var v))
      ∧ ((numbered 2 3).flatten : Vec ℚ).at? 5 = .ok (.var v)
      ∧ (numbered 2 3).transpose.at? 2 1 = .ok v
  := by
  use by decide, by decide
  exact (readings_agree (numbered 2 3) (.empty (.text "p") : Problem ℚ) .real 0).1 1 (by decide)
    2 (by decide)

/-- What the rows and the columns of a grid are at every index. A row is never refused: below
minus one the index counts from the last row, and at minus one and where there is no such row
the row is empty. A column is refused only where some of its positions is none of the grid,
even if counted from the end; otherwise it has one entry of each row, the index running on
through the rows and the last row being followed by the first one. -/
theorem lines_at_any_index (g : Grid) :
  (∀ i < g.rows, (g.row i : Vec α).length = g.columns
    ∧ ∀ j < g.columns, ∃ v, g.at? i j = .ok v ∧ (g.row i : Vec α).at? j = .ok (.var v))
  ∧ (∀ i : ℤ, -g.rows ≤ i → i ≤ -2 → (g.row i : Vec α) = g.row (g.rows + i))
  ∧ (∀ i : ℤ, g.rows ≤ i ∨ i = -1 ∨ i < -g.rows → (g.row i : Vec α) = ⟨.vars [], .row⟩)
  ∧ (∀ j : ℤ, (∃ u : Vec α, g.column j = .ok u)
      ↔ g.rows = 0 ∨ -(g.rows * g.columns : ℤ) ≤ j ∧ j < g.columns)
  ∧ (∀ (j : ℤ) (u : Vec α), g.column j = .ok u → u.length = g.rows
      ∧ ∀ i < g.rows, ∃ v, g.at? ((i + j / g.columns) % g.rows) (j % g.columns) = .ok v
        ∧ u.at? i = .ok (.var v))
  ∧ ∀ (j : ℤ) (e : Error), (g.column j : Except Error (Vec α)) = .error e →
      e = .positionOutOfRange ∨ e = .beyondPositions
  := by
  refine ⟨?inside, ?below, ?beyond, g.exists_column_iff, ?columns, ?refused⟩
  case inside =>
    intro i hi
    use g.length_rowVariables hi
    intro j hj
    obtain ⟨v, hv⟩ := g.exists_at? hi hj
    exact ⟨v, hv, at?_row hv⟩
  case below =>
    intro i hlow hhigh
    rw [row, row, g.rowVariables_rows_add hlow hhigh]
  case beyond =>
    intro i hi
    rw [row, g.rowVariables_eq_nil hi]
  case columns =>
    intro j u hu
    use length_of_column hu
    intro i hi
    obtain ⟨vs, hvs, rfl⟩ := column_eq_ok_iff.mp hu
    obtain ⟨hlow, hhigh⟩ := g.bounds_of_columnVariables hvs (Nat.zero_lt_of_lt hi)
    obtain ⟨w, hw, helement⟩ := g.exists_getElem?_columnVariables hvs hi
    obtain ⟨v, hv, hat⟩ := g.exists_element hi hlow hhigh
    obtain rfl : v = w := Except.ok.inj (hv.symm.trans helement)
    exact ⟨v, hat, Vec.at?_vars hw .column⟩
  case refused =>
    intro j e he
    exact g.columnVariables_eq_error (columnVariables_of_column he)

/-- The row at minus two and the column at minus one of a square grid. -/
theorem lines_at_any_index_negative :
  (-(numbered 2 2).rows ≤ (-2 : ℤ) ∧ ((numbered 2 2).row (-2) : Vec ℚ) = (numbered 2 2).row 0)
  ∧ ∃ u : Vec ℚ, (numbered 2 2).column (-1) = .ok u
    ∧ ∃ v, (numbered 2 2).at? 1 1 = .ok v ∧ u.at? 0 = .ok (.var v)
  := by
  obtain ⟨-, hbelow, -, hcolumns, hentries, -⟩ := lines_at_any_index (α := ℚ) (numbered 2 2)
  have hlow : -(numbered 2 2).rows ≤ (-2 : ℤ) := by decide
  use ⟨hlow, hbelow (-2) hlow (by decide)⟩
  obtain ⟨u, hu⟩ := (hcolumns (-1)).mpr (.inr (by decide))
  use u, hu
  exact (hentries (-1) u hu).2 0 (by decide)

/-- In a square grid the row at minus two is the first one, a row behind the last one is empty,
and the column before the first one starts in the last row. -/
theorem lines_outside_grid :
  (numbered 2 2).at? (-2) 0 = .error (.gridPosition (-2) 0 2 2)
  ∧ (∃ vs, ((numbered 2 2).row (-2) : Vec ℚ) = ⟨.vars vs, .row⟩ ∧ vs.map Variable.id = [0, 1])
  ∧ ((numbered 2 2).row 2 : Vec ℚ) = ⟨.vars [], .row⟩
  ∧ ∃ vs, ((numbered 2 2).column (-1) : Except Error (Vec ℚ)) = .ok ⟨.vars vs, .column⟩
    ∧ vs.map Variable.id = [3, 1]
  := by
  exact ⟨rfl, ⟨_, rfl, rfl⟩, rfl, ⟨_, rfl, rfl⟩⟩

end Grid

end QuadraticProgram
