import QuadraticProgram.Proofs.Form

/-!
# Moved coefficients

What becomes of coefficients that are moved to another list of variables. They stand at first
occurrences only, to move them on is to move them at once, and to move them to the list of
distinct variables that they are over changes nothing. All of this is so for lists of
coefficients, for the columns of a matrix and for its rows and columns at once, since in each
case a place gets a sum over the items that are moved to it (`movedSum`).
-/

namespace QuadraticProgram.Alignment

open Coefficient

variable {source source' middle target target' vs : List Variable}

/-! ### Sums of moved items -/

/-- Nothing is moved to a place that is not a first one. -/
theorem incidence_of_not_firstAt {j : ℕ} (h : ¬ FirstAt target j) (a : ℕ) :
  incidence (places source target) a j = 0
  := by
  rw [incidence, places, List.getElem?_map, if_neg]
  intro hj
  obtain ⟨v, -, hv⟩ := Option.map_eq_some_iff.mp hj
  apply h (firstAt_of_position? hv)

/-- What is moved by way of another list gets to the place where it is moved at once. -/
theorem sum_incidence_incidence (h : Lists middle source) (a j : ℕ) :
  ∑ b ∈ Finset.range middle.length,
      incidence (places source middle) a b * incidence (places middle target) b j
    = incidence (places source target) a j
  := by
  rcases lt_or_ge a source.length with ha | ha
  · obtain ⟨k, hk, hpos, hid⟩ := position?_eq_some (h (source[a]) (List.getElem_mem ha))
    have hplace : (places source middle)[a]? = some (some k) := by
      rw [places, List.getElem?_map, List.getElem?_eq_getElem ha, Option.map_some, hpos]
    rw [sum_incidence_of_getElem? hplace hk, incidence, incidence, places, places,
      List.getElem?_map, List.getElem?_map, List.getElem?_eq_getElem ha,
      List.getElem?_eq_getElem hk, Option.map_some, Option.map_some, hid]
  · rw [sum_incidence_of_length_le (by rw [length_places]; apply ha),
      incidence_of_length_le (by rw [length_places]; apply ha)]

/-- The sum of the items that are moved to a place. -/
def movedSum (source target : List Variable) (c : ℕ → ℚ) (j : ℕ) : ℚ :=
  ∑ a ∈ Finset.range source.length, incidence (places source target) a j * c a

/-- Nothing is moved to a place that is not the first of its variable. -/
theorem movedSum_of_not_firstAt {j : ℕ} (h : ¬ FirstAt target j) (c : ℕ → ℚ) :
  movedSum source target c j = 0
  := by
  apply Finset.sum_eq_zero
  intro a _
  rw [incidence_of_not_firstAt h, zero_mul]

theorem movedSum_zero (j : ℕ) :
  movedSum source target (fun _ => 0) j = 0
  := by
  simp [movedSum]

/-- Items with two positions are moved along either of them first. -/
theorem movedSum_comm (f : ℕ → ℕ → ℚ) (i j : ℕ) :
  movedSum source target (fun a => movedSum source' target' (f a) j) i
    = movedSum source' target' (fun b => movedSum source target (fun a => f a b) i) j
  := by
  simp only [movedSum, Finset.mul_sum]
  rw [Finset.sum_comm]
  simp only [mul_left_comm]

/-- To move items twice is to move them to the second list, if the first one has all variables. -/
theorem movedSum_movedSum (h : Lists middle source) (c : ℕ → ℚ) (j : ℕ) :
  movedSum middle target (movedSum source middle c) j = movedSum source target c j
  := by
  have hplaces : ∀ a, ∑ b ∈ Finset.range middle.length,
        incidence (places source middle) a b * incidence (places middle target) b j
      = incidence (places source target) a j := fun a => sum_incidence_incidence h a j
  simpa only [movedSum, mul_comm] using sum_moved hplaces source.length c

/-- Distinct variables stay in their places. -/
theorem places_self (h : (vs.map Variable.id).Nodup) {a : ℕ} (ha : a < vs.length) :
  (places vs vs)[a]? = some (some a)
  := by
  have hpos := (position?_eq_some_iff_of_nodup h).mpr ⟨ha, rfl⟩
  rw [places, List.getElem?_map, List.getElem?_eq_getElem ha, Option.map_some, hpos]

/-- Over distinct variables all items stay. -/
theorem movedSum_self (h : (vs.map Variable.id).Nodup) (c : ℕ → ℚ) {j : ℕ} (hj : j < vs.length) :
  movedSum vs vs c j = c j
  := by
  rw [movedSum, Finset.sum_eq_single j]
  · rw [incidence, if_pos (places_self h hj), one_mul]
  · intro a ha haj
    rw [incidence, places_self h (Finset.mem_range.mp ha), if_neg, zero_mul]
    simpa using haj
  · intro hj'
    exact absurd (Finset.mem_range.mpr hj) hj'

/-! ### Lists of coefficients -/

/-- Each coefficient over other variables is a sum of those that are moved to its place. -/
theorem getD_spread_eq_movedSum (l : List ℚ) (j : ℕ) :
  (spread source l target).getD j 0 = movedSum source target (l.getD · 0) j
  := getD_spread source l target j

/-- To move coefficients twice is to move them to the second list. -/
theorem spread_spread (h : Lists middle source) (l : List ℚ) :
  spread middle (spread source l middle) target = spread source l target
  := by
  apply eq_of_getD_eq
  · rw [length_spread, length_spread]
  · intro j _
    simp only [getD_spread_eq_movedSum, movedSum_movedSum h]

/-- Over distinct variables all coefficients stay. -/
theorem spread_self (h : (vs.map Variable.id).Nodup) {l : List ℚ} (hl : l.length = vs.length) :
  spread vs l vs = l
  := by
  apply eq_of_getD_eq
  · rw [length_spread, hl]
  · intro j hj
    rw [length_spread] at hj
    rw [getD_spread_eq_movedSum, movedSum_self h _ hj]

/-! ### Columns -/

/-- To move columns twice is to move them to the second list. -/
theorem spreadColumns_spreadColumns (h : Lists middle source) (m : Matrix ℚ) :
  spreadColumns middle (spreadColumns source m middle) target = spreadColumns source m target
  := by
  apply Matrix.ext
  · rfl
  · simp only [spreadColumns, List.map_map]
    apply List.map_congr_left
    intro row _
    apply spread_spread h

/-- Over distinct variables all columns stay. -/
theorem spreadColumns_self (h : (vs.map Variable.id).Nodup) {m : Matrix ℚ}
    (hm : m.cols = vs.length) :
  spreadColumns vs m vs = m
  := by
  apply Matrix.ext
  · rw [cols_spreadColumns, hm]
  · simp only [spreadColumns]
    apply (List.map_congr_left _).trans m.rowList.map_id
    intro row hrow
    apply spread_self h
    rw [m.length_row row hrow, hm]

theorem entry_spreadColumns (m : Matrix ℚ) (i j : ℕ) :
  (spreadColumns source m target).entry i j = movedSum source target (m.entry i) j
  := by
  rw [Matrix.entry, spreadColumns, List.getD_eq_getElem?_getD (l := m.rowList.map _),
    List.getElem?_map]
  rcases hrow : m.rowList[i]? with - | row
  · have hzero : m.entry i = fun _ => 0 := by
      funext b
      rw [Matrix.entry, List.getD_eq_getElem?_getD (l := m.rowList), hrow]
      rfl
    rw [hzero, movedSum_zero]
    rfl
  · have hentry : m.entry i = (row.getD · 0) := by
      funext b
      rw [Matrix.entry, List.getD_eq_getElem?_getD (l := m.rowList), hrow]
      rfl
    rw [hentry]
    apply getD_spread_eq_movedSum

/-! ### Rows and columns -/

/-- Coefficients of products are moved by rows and by columns. -/
theorem entry_spreadPairs_eq_movedSum (m : Matrix ℚ) (i j : ℕ) :
  (spreadPairs source m target).entry i j
    = movedSum source target (fun a => movedSum source target (m.entry a) j) i
  := entry_spreadPairs source m target i j

/-- To move coefficients of products twice is to move them to the second list. -/
theorem spreadPairs_spreadPairs (h : Lists middle source) (m : Matrix ℚ) :
  spreadPairs middle (spreadPairs source m middle) target = spreadPairs source m target
  := by
  apply Matrix.eq_of_entry_eq
  · rw [rows_spreadPairs, rows_spreadPairs]
  · rfl
  · intro i _ j _
    -- The columns are moved on first, for which those of all rows have to be at hand.
    have hcolumns : ∀ p, movedSum middle target ((spreadPairs source m middle).entry p) j
        = movedSum source middle (fun a => movedSum source target (m.entry a) j) p := by
      intro p
      have hentry : (spreadPairs source m middle).entry p = fun q =>
          movedSum source middle (fun a => movedSum source middle (m.entry a) q) p := by
        funext q
        apply entry_spreadPairs_eq_movedSum
      rw [hentry, movedSum_comm fun q a => movedSum source middle (m.entry a) q]
      congr 1
      funext a
      apply movedSum_movedSum h
    rw [entry_spreadPairs_eq_movedSum, entry_spreadPairs_eq_movedSum]
    simp only [hcolumns]
    apply movedSum_movedSum h

/-- Over distinct variables all coefficients of products stay. -/
theorem spreadPairs_self (h : (vs.map Variable.id).Nodup) {m : Matrix ℚ}
    (hr : m.rows = vs.length) (hc : m.cols = vs.length) :
  spreadPairs vs m vs = m
  := by
  apply Matrix.eq_of_entry_eq
  · rw [rows_spreadPairs, hr]
  · rw [cols_spreadPairs, hc]
  · intro i hi j hj
    rw [rows_spreadPairs] at hi
    rw [cols_spreadPairs] at hj
    rw [entry_spreadPairs_eq_movedSum, movedSum_self h _ hi, movedSum_self h _ hj]

theorem spreadPairs_zeros (n : ℕ) :
  spreadPairs source (Matrix.zeros n n : Matrix ℚ) target
    = Matrix.zeros target.length target.length
  := by
  apply Matrix.eq_of_entry_eq
  · rw [rows_spreadPairs, Matrix.rows_zeros]
  · rw [cols_spreadPairs, Matrix.cols_zeros]
  · intro i _ j _
    have hzero : ∀ a, (Matrix.zeros n n : Matrix ℚ).entry a = fun _ => 0 := by
      intro a
      funext b
      apply Matrix.entry_zeros
    rw [entry_spreadPairs_eq_movedSum, Matrix.entry_zeros]
    simp only [hzero, movedSum_zero]

/-- A symmetric matrix stays symmetric. -/
theorem symmetrised_spreadPairs {m : Matrix ℚ} (h : ∀ a b, m.entry a b = m.entry b a) :
  (spreadPairs source m target).symmetrised = spreadPairs source m target
  := by
  apply Matrix.symmetrised_eq_self
  · rw [rows_spreadPairs, cols_spreadPairs]
  · intro i j
    rw [entry_spreadPairs_eq_movedSum, entry_spreadPairs_eq_movedSum,
      movedSum_comm fun a b => m.entry a b]
    simp only [h]

end QuadraticProgram.Alignment
