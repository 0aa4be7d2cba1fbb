import QuadraticProgram.Proofs.Constraint.Grouping
import QuadraticProgram.Proofs.Constraint.Equivalence

/-!
# Rows over given columns

Columns that are given to distinct identifiers, each to exactly one of them
(`Columns.IsBijective`), make a point of a list of values, one for each column
(`Columns.assignment`). A constraint is refused there only for a variable without a column. What is
left of its row or of its rows at a point, once the bound is subtracted, is the difference of the
sides, and the rows of a vector constraint are those of the constraints on its entries
(`Constraint.rows_give_differences`).
-/

namespace QuadraticProgram

open QuadraticProgram.Alignment Coefficient

/-! ### Columns -/

namespace Columns

variable {columns : Columns} {vs ws : List Variable} {y : List ℚ}

/-- Whether columns are given to distinct identifiers, each column to exactly one of them. -/
structure IsBijective (columns : Columns) : Prop where
  nodup_ids : (columns.positions.map Prod.fst).Nodup
  perm_columns :
    (columns.positions.map Prod.snd).Perm ((List.range columns.width).map fun (k : ℕ) => (k : ℤ))

/-- The first variable of a list that has no column. -/
def firstLacking? (columns : Columns) (vs : List Variable) : Option Variable :=
  vs.find? fun v => (columns.positions.lookup v.id).isNone

/-- The assignment of the value in its column to each variable that has one. -/
def assignment (columns : Columns) (y : List ℚ) : ℕ → Option ℚ := fun id => do
  let i ← columns.positions.lookup id
  let k ← position? i columns.width
  y[k]?

/-- Which variable is lacking first only depends on the distinct variables. -/
theorem firstLacking?_congr (columns : Columns) (h : distinct vs = distinct ws) :
  columns.firstLacking? vs = columns.firstLacking? ws
  := by
  rw [firstLacking?, firstLacking?,
    ← find?_distinct (fun id => (columns.positions.lookup id).isNone) vs, h,
    find?_distinct (fun id => (columns.positions.lookup id).isNone) ws]

/-- Every variable with a position has an index. -/
theorem IsBijective.exists_index (h : columns.IsBijective) {v : Variable} {i : ℤ}
    (hi : columns.positions.lookup v.id = some i) (axis : ℕ) :
  ∃ k, columns.index axis v = .ok k
  := by
  obtain ⟨before, after, hpositions, -⟩ := List.lookup_eq_some_iff.mp hi
  have hmem : i ∈ columns.positions.map Prod.snd := by
    rw [hpositions]
    simp
  obtain ⟨k, hk, rfl⟩ := List.mem_map.mp (h.perm_columns.mem_iff.mp hmem)
  use k
  apply index_eq_ok_iff.mpr
  use k, hi, position?_natCast (List.mem_range.mp hk)

/-- Variables all of which have columns are found. -/
theorem IsBijective.finds (h : columns.IsBijective) (hvs : columns.firstLacking? vs = none) :
  columns.Finds vs
  := by
  intro axis v hv
  have hsome := List.find?_eq_none.mp hvs v hv
  rw [Option.isNone_iff_eq_none] at hsome
  obtain ⟨i, hi⟩ := Option.ne_none_iff_exists'.mp hsome
  apply h.exists_index hi

/-- Columns are refused with the first variable that has none. -/
theorem IsBijective.indices_eq_error (h : columns.IsBijective) {v : Variable}
    (hv : columns.firstLacking? vs = some v) (axis : ℕ) :
  columns.indices axis vs = .error (.variableNotFound v.id .columns)
  := by
  induction vs with
  | nil => cases hv
  | cons w vs ih =>
      rw [firstLacking?, List.find?_cons] at hv
      rw [indices, List.mapM_cons]
      rcases hw : columns.positions.lookup w.id with - | i
      · rw [hw] at hv
        cases hv
        rw [index, hw]
        rfl
      · rw [hw] at hv
        obtain ⟨k, hk⟩ := h.exists_index hw axis
        have hrest : vs.mapM (columns.index axis) = .error (.variableNotFound v.id .columns) :=
          ih hv
        rw [hk, Outcome.ok_bind, hrest, Outcome.error_bind]

/-- The assignment of a point gives a variable the entry at its index. -/
theorem assignment_eq_of_index {v : Variable} {axis k : ℕ} (h : columns.index axis v = .ok k) :
  columns.assignment y v.id = y[k]?
  := by
  obtain ⟨i, hi, hk⟩ := index_eq_ok_iff.mp h
  simp [assignment, hi, hk]

theorem carries_assignment (columns : Columns) (vs : List Variable) (y : List ℚ) :
  columns.Carries vs (pointOf (columns.assignment y)) y
  := by
  intro axis v hv k hk
  rw [pointOf, assignment_eq_of_index hk, List.getD_eq_getElem?_getD]

/-- Columns that find all variables make assignments of points that cover them. -/
theorem Finds.covers_assignment (h : columns.Finds vs) (hy : y.length = columns.width) :
  Covers (columns.assignment y) vs
  := by
  intro v hv
  obtain ⟨k, hk⟩ := h 0 v hv
  rw [assignment_eq_of_index hk, List.getElem?_eq_getElem (hy ▸ index_lt hk)]
  rfl

end Columns

/-! ### Rows -/

/-- A row and a bound can be read off the values of the row less the bound. -/
theorem eq_of_dot_sub_eq {l m : List ℚ} {t u : ℚ} {n : ℕ} (hl : l.length = n) (hm : m.length = n)
    (h : ∀ y : List ℚ, y.length = n → dot l y - t = dot m y - u) :
  l = m ∧ t = u
  := by
  obtain ⟨f, rfl⟩ : ∃ f, l = (List.range n).map f := ⟨_, eq_map_range hl fun _ _ => rfl⟩
  obtain ⟨g, rfl⟩ : ∃ g, m = (List.range n).map g := ⟨_, eq_map_range hm fun _ _ => rfl⟩
  have hvalue : ∀ z : ℕ → ℚ, ∑ i ∈ Finset.range n, f i * z i - t
      = ∑ i ∈ Finset.range n, g i * z i - u := by
    intro z
    rw [← dot_map_range, ← dot_map_range]
    apply h
    rw [List.length_map, List.length_range]
  have hbound : t = u := by
    simpa using hvalue 0
  constructor
  · apply List.map_congr_left
    intro i hi
    have hunit := hvalue (Pi.single i 1)
    have hi : i < n := List.mem_range.mp hi
    simpa [hbound, Pi.single_apply, hi] using hunit
  · apply hbound

namespace Constraint

variable {columns : Columns} {a b : Scalar ℚ} {s : Sense} {u v : Vec ℚ} {w : Variable}

/-- The row of a comparison is refused for the first variable without a column. -/
theorem linearRow_eq_error (hcolumns : columns.IsBijective) (ha : a.degree ≤ 1) (hb : b.degree ≤ 1)
    (hw : columns.firstLacking? (a.vars ++ b.vars) = some w) :
  (ofScalars a s b).linearRow columns = .error (.variableNotFound w.id .columns)
  := by
  obtain ⟨e, he, -, hvars, -⟩ := exists_movedLeft_scalar a b
  have hleft : (ofScalars e s b.constantPart).scalarLeft = .ok e := rfl
  rw [← columns.firstLacking?_congr hvars] at hw
  rw [linearRow, simplifiedLinear_ofScalars s (isLinear_ofScalars.mpr ⟨ha, hb⟩) he, Outcome.ok_bind,
    hleft, Outcome.ok_bind, hcolumns.indices_eq_error hw, Outcome.error_bind]

/-- The rows of a comparison are refused for the first variable without a column. -/
theorem linearRows_eq_error (hcolumns : columns.IsBijective) (hl : u.length = v.length)
    (ho : u.orientation = v.orientation)
    (hw : columns.firstLacking? (u.vars ++ v.vars) = some w) :
  (ofVectors u s v).linearRows columns = .error (.variableNotFound w.id .columns)
  := by
  obtain ⟨e, he, hr⟩ := exists_movedLeft_vector hl ho
  have hleft : (ofVectors e s v.constantPart).vectorLeft = .ok e := rfl
  rw [← columns.firstLacking?_congr hr.distinct_vars] at hw
  rw [linearRows, simplifiedLinear_ofVectors s he, Outcome.ok_bind, hleft, Outcome.ok_bind,
    hcolumns.indices_eq_error hw, Outcome.error_bind]

/-- A constraint between scalar expressions has no row where one of its variables has no column. -/
theorem linearRow_eq_error_iff (hcolumns : columns.IsBijective) (ha : a.degree ≤ 1)
    (hb : b.degree ≤ 1) (e : Error) :
  (ofScalars a s b).linearRow columns = .error e
    ↔ ∃ w, columns.firstLacking? (a.vars ++ b.vars) = some w ∧ e = .variableNotFound w.id .columns
  := by
  rcases hfirst : columns.firstLacking? (a.vars ++ b.vars) with - | w
  · obtain ⟨r, t, hr, -⟩ := exists_linearRow (s := s) ha hb (hcolumns.finds hfirst)
    simp [hr]
  · simp [linearRow_eq_error hcolumns ha hb hfirst, eq_comm]

/-- A constraint between vectors of one shape has no rows where one of its variables has no
column. -/
theorem linearRows_eq_error_iff (hcolumns : columns.IsBijective) (hl : u.length = v.length)
    (ho : u.orientation = v.orientation) (e : Error) :
  (ofVectors u s v).linearRows columns = .error e
    ↔ ∃ w, columns.firstLacking? (u.vars ++ v.vars) = some w ∧ e = .variableNotFound w.id .columns
  := by
  rcases hfirst : columns.firstLacking? (u.vars ++ v.vars) with - | w
  · obtain ⟨r, ts, hr, -⟩ := exists_linearRows (s := s) hl ho (hcolumns.finds hfirst)
    simp [hr]
  · simp [linearRows_eq_error hcolumns hl ho hfirst, eq_comm]

/-- A row is given only if all variables have columns. -/
theorem finds_of_linearRow (hcolumns : columns.IsBijective) (ha : a.degree ≤ 1) (hb : b.degree ≤ 1)
    {r : LinearRow ℚ columns.width} (hr : (ofScalars a s b).linearRow columns = .ok r) :
  columns.Finds (a.vars ++ b.vars)
  := by
  rcases hfirst : columns.firstLacking? (a.vars ++ b.vars) with - | w
  · apply hcolumns.finds hfirst
  · cases hr.symm.trans (linearRow_eq_error hcolumns ha hb hfirst)

/-- Rows are given only if all variables have columns. -/
theorem finds_of_linearRows (hcolumns : columns.IsBijective) (hl : u.length = v.length)
    (ho : u.orientation = v.orientation) {r : LinearRows ℚ columns.width}
    (hr : (ofVectors u s v).linearRows columns = .ok r) :
  columns.Finds (u.vars ++ v.vars)
  := by
  rcases hfirst : columns.firstLacking? (u.vars ++ v.vars) with - | w
  · apply hcolumns.finds hfirst
  · cases hr.symm.trans (linearRows_eq_error hcolumns hl ho hfirst)

/-- The row of a constraint between scalar expressions, less its bound, is the difference of the
sides. -/
theorem differences_of_linearRow (ha : a.degree ≤ 1) (hb : b.degree ≤ 1)
    (h : columns.Finds (a.vars ++ b.vars)) {r : LinearRow ℚ columns.width}
    (hr : (ofScalars a s b).linearRow columns = .ok r) :
  ∃ t, r.bound = .single t ∧ ∀ y : List ℚ, y.length = columns.width →
    (ofScalars a s b).differences (columns.assignment y) = .ok [dot r.coefficients y - t]
  := by
  obtain ⟨r', t, hr', ht, hvalue⟩ := exists_linearRow (s := s) ha hb h
  obtain rfl : r = r' := Except.ok.inj (hr.symm.trans hr')
  use t, ht
  intro y hy
  rw [differences_ofScalars, lookingUp_of_covers (h.covers_assignment hy),
    hvalue _ y (columns.carries_assignment _ y)]

/-- The rows of a constraint between vectors of one shape, less their bounds, are the differences
of the sides. -/
theorem differences_of_linearRows (hl : u.length = v.length) (ho : u.orientation = v.orientation)
    (h : columns.Finds (u.vars ++ v.vars)) {r : LinearRows ℚ columns.width}
    (hr : (ofVectors u s v).linearRows columns = .ok r) :
  ∃ ts, r.bound = .list ts ∧ r.coefficients.rows = u.length ∧ ts.length = u.length
    ∧ ∀ y : List ℚ, y.length = columns.width →
        (ofVectors u s v).differences (columns.assignment y)
          = .ok (List.zipWith (· - ·) (r.coefficients.mulVec y) ts)
  := by
  obtain ⟨r', ts, hr', hts, hrows, hlength, hvalue⟩ := exists_linearRows (s := s) hl ho h
  obtain rfl : r = r' := Except.ok.inj (hr.symm.trans hr')
  use ts, hts, hrows, hlength
  intro y hy
  have hmulVec : (r.coefficients.mulVec y).length = ts.length := by
    rw [Matrix.length_mulVec, hrows, hlength]
  rw [differences_ofVectors _ hl, lookingUp_of_covers (h.covers_assignment hy)]
  congr 1
  symm
  apply eq_map_range
  · rw [List.length_zipWith, hmulVec, min_self, hlength]
  · intro i hi
    rw [getD_zipWith_sub hmulVec, hvalue _ y (columns.carries_assignment _ y) i hi]

theorem finds_entries (h : columns.Finds (u.vars ++ v.vars)) {k : ℕ} (hu : k < u.length)
    (hv : k < v.length) :
  columns.Finds ((u.entry k hu).vars ++ (v.entry k hv).vars)
  := by
  intro axis w hw
  apply h axis
  rcases List.mem_append.mp hw with hw | hw
  · apply List.mem_append_left _ (Vec.mem_vars_of_mem_vars_entry hu hw)
  · apply List.mem_append_right _ (Vec.mem_vars_of_mem_vars_entry hv hw)

/-- The row of the constraint on an entry is the row of that entry. -/
theorem exists_linearRow_at (hl : u.length = v.length) (ho : u.orientation = v.orientation)
    (h : columns.Finds (u.vars ++ v.vars)) {r : LinearRows ℚ columns.width} {ts : List ℚ}
    (hr : (ofVectors u s v).linearRows columns = .ok r) (hts : r.bound = .list ts) {i : ℤ} {k : ℕ}
    (hk : position? i r.coefficients.rows = some k) :
  ∃ e q, (ofVectors u s v).at? i = .ok e ∧ e.linearRow columns = .ok q
    ∧ q.coefficients = r.coefficients.rowList.getD k [] ∧ q.bound = .single (ts.getD k 0)
  := by
  obtain ⟨r', ts', hr', hts', hrows, -, hvalue⟩ := exists_linearRows (s := s) hl ho h
  obtain rfl : r = r' := Except.ok.inj (hr.symm.trans hr')
  obtain rfl : ts = ts' := Bound.list.inj (hts.symm.trans hts')
  rw [hrows] at hk
  have hu := position?_lt hk
  have hv : k < v.length := hl ▸ hu
  obtain ⟨q, t, hq, ht, hentry⟩ := exists_linearRow (s := s) (Vec.degree_entry_le hu)
    (Vec.degree_entry_le hv) (finds_entries h hu hv)
  have hlength : (r.coefficients.rowList.getD k []).length = columns.width := by
    rw [Matrix.length_rowList_getD _ (hrows ▸ hu), r.cols_coefficients]
  have hsame : ∀ y : List ℚ, y.length = columns.width →
      dot q.coefficients y - t = dot (r.coefficients.rowList.getD k []) y - ts.getD k 0 := by
    intro y _
    rw [← Matrix.getD_mulVec_eq_dot, hentry _ y (columns.carries_assignment _ y),
      hvalue _ y (columns.carries_assignment _ y) k hu, Vec.valueAt_entry, Vec.valueAt_entry]
  obtain ⟨hcoefficients, hbound⟩ := eq_of_dot_sub_eq q.length_coefficients hlength hsame
  exact ⟨_, q, at?_ofVectors hl hk, hq, hcoefficients, hbound ▸ ht⟩

/-- Over columns that are given to distinct variables, one for each column, a linear constraint
that passes its check has no row or rows if and only if one of its variables has no column, and the
error names the first that has none. Otherwise the row less its bound is the difference of the sides
at every point, and each row of a vector constraint is the one of the constraint on its entry. -/
theorem rows_give_differences {c : Constraint ℚ} (hcolumns : columns.IsBijective)
    (hsides : c.HasSides) (hcheck : c.check = .ok ()) (hlinear : c.isLinear = true) :
  (c.form = .scalar →
    (∀ e, c.linearRow columns = .error e
      ↔ ∃ w, columns.firstLacking? (c.lhs.vars ++ c.rhs.vars) = some w
        ∧ e = .variableNotFound w.id .columns)
    ∧ ∀ r, c.linearRow columns = .ok r → ∃ t, r.bound = .single t
      ∧ ∀ y : List ℚ, y.length = columns.width →
          c.differences (columns.assignment y) = .ok [dot r.coefficients y - t])
  ∧ (c.form = .vector →
    (∀ e, c.linearRows columns = .error e
      ↔ ∃ w, columns.firstLacking? (c.lhs.vars ++ c.rhs.vars) = some w
        ∧ e = .variableNotFound w.id .columns)
    ∧ ∀ r, c.linearRows columns = .ok r → ∃ ts, r.bound = .list ts
      ∧ c.length = .ok r.coefficients.rows ∧ c.length = .ok ts.length
      ∧ (∀ y : List ℚ, y.length = columns.width →
          c.differences (columns.assignment y)
            = .ok (List.zipWith (· - ·) (r.coefficients.mulVec y) ts))
      ∧ ∀ i k, position? i r.coefficients.rows = some k →
          ∃ e q, c.at? i = .ok e ∧ e.linearRow columns = .ok q
            ∧ q.coefficients = r.coefficients.rowList.getD k [] ∧ q.bound = .single (ts.getD k 0))
  := by
  have hshape := (hsides.check_eq_ok_iff.mp hcheck).1
  cases hsides with
  | scalars a s b =>
      obtain ⟨ha, hb⟩ := isLinear_ofScalars.mp hlinear
      constructor
      · intro _
        use linearRow_eq_error_iff hcolumns ha hb
        intro r hr
        apply differences_of_linearRow ha hb (finds_of_linearRow hcolumns ha hb hr) hr
      · nofun
  | vectors u s v =>
      obtain ⟨hl, ho⟩ := hshape u s v rfl
      constructor
      · nofun
      · intro _
        use linearRows_eq_error_iff hcolumns hl ho
        intro r hr
        have hfinds := finds_of_linearRows hcolumns hl ho hr
        obtain ⟨ts, hts, hrows, hlength, hvalue⟩ := differences_of_linearRows hl ho hfinds hr
        use ts, hts, congrArg Except.ok hrows.symm, congrArg Except.ok hlength.symm, hvalue
        intro i k hk
        apply exists_linearRow_at hl ho hfinds hr hts hk

/-- Two columns, the first of which is that of the second variable. -/
def exchanged : Columns := ⟨2, [(0, 1), (1, 0)]⟩

/-- Two variables in exchanged columns. -/
theorem rows_give_differences_exchanged :
  exchanged.IsBijective ∧ boundedEach.HasSides ∧ boundedEach.check = .ok ()
    ∧ boundedEach.isLinear = true
    ∧ ∃ r ts, boundedEach.linearRows exchanged = .ok r
      ∧ boundedEach.differences (exchanged.assignment [3, 5])
        = .ok (List.zipWith (· - ·) (r.coefficients.mulVec [3, 5]) ts)
  := by
  have hcolumns : exchanged.IsBijective := ⟨by decide, by decide⟩
  have hsides : boundedEach.HasSides := .vectors ..
  obtain ⟨-, hvector⟩ := rows_give_differences hcolumns hsides rfl rfl
  obtain ⟨herror, hrows⟩ := hvector rfl
  refine ⟨hcolumns, hsides, rfl, rfl, ?_⟩
  cases hr : boundedEach.linearRows exchanged with
  | error e =>
      obtain ⟨w, hw, -⟩ := (herror e).mp hr
      cases hw
  | ok r =>
      obtain ⟨ts, -, -, -, hvalue, -⟩ := hrows r hr
      use r, ts, rfl, hvalue _ rfl

end Constraint

end QuadraticProgram
