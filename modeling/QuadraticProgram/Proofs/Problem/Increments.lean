import QuadraticProgram.Proofs.Problem.RowOrder

/-!
# Matrices of growing problems

What becomes of the matrices of a problem when it grows (`Problem.extraction_incremental`). Another
variable adds a column of zeros at the end. Another linear constraint adds its rows to the matrix
of its family, a scalar constraint one row after those of the other scalar constraints, a vector
constraint its rows after all others. Any other constraint changes neither matrix.
-/

namespace QuadraticProgram

open QuadraticProgram.Alignment Coefficient

/-! ### Another column -/

/-- A row with its bound and with a zero in another column at its end. -/
def widened (r : List ℚ × ℚ) : List ℚ × ℚ := (r.1 ++ [0], r.2)

theorem Sense.signed_widened (s : Sense) (r : List ℚ × ℚ) :
  s.signed (widened r) = widened (s.signed r)
  := by
  simp [signed, widened]

/-- It does not matter whether the zeros are put in before the rows get their signs and bounds. -/
theorem Sense.map_signed_zip (s : Sense) (rows : List (List ℚ)) (bounds : List ℚ) :
  ((rows.map (· ++ [0])).zip bounds).map s.signed = ((rows.zip bounds).map s.signed).map widened
  := by
  have hzip : (rows.map (· ++ [0])).zip bounds = (rows.zip bounds).map widened :=
    List.zip_map_left
  rw [hzip, List.map_map, List.map_map]
  apply List.map_congr_left
  intro r _
  apply s.signed_widened

namespace Columns

variable {columns columns' : Columns} {axis : ℕ} {vs : List Variable} {ks : List ℕ}

/-- Columns with another one at the end, which is none of those of the variables found before. -/
structure Extends (columns' columns : Columns) : Prop where
  width_eq : columns'.width = columns.width + 1
  index_eq : ∀ {axis v k}, columns.index axis v = .ok k → columns'.index axis v = .ok k

theorem indices_lt (h : columns.indices axis vs = .ok ks) :
  ∀ k ∈ ks, k < columns.width
  := by
  intro k hk
  obtain ⟨v, -, hv⟩ := (Outcome.mem_mapM_iff h).mp hk
  apply index_lt hv

/-- Variables that have columns keep them beside another column. -/
theorem Extends.indices_eq (hcolumns : columns'.Extends columns)
    (h : columns.indices axis vs = .ok ks) :
  columns'.indices axis vs = .ok ks
  := by
  have hindices := Outcome.mapM_of_mapM (g := columns'.index axis) (k := id) h
    fun v k hk => hcolumns.index_eq hk
  rw [List.map_id] at hindices
  apply hindices

/-- Beside another column a row has one more zero. -/
theorem Extends.row_eq (hcolumns : columns'.Extends columns) (hks : ∀ k ∈ ks, k < columns.width)
    (l : List ℚ) :
  columns'.row ks l = columns.row ks l ++ [0]
  := by
  have hlast : some columns.width ∉ ks.map some := by
    intro hmem
    obtain ⟨k, hk, hwidth⟩ := List.mem_map.mp hmem
    apply (hks k hk).ne (Option.some.inj hwidth)
  rw [row, hcolumns.width_eq, List.range_succ, List.map_append, List.map_singleton,
    gather_eq_nil hlast, total_eq_sum, List.sum_nil]
  rfl

/-- Beside another column each row of a matrix has one more zero. -/
theorem Extends.rowList_matrix (hcolumns : columns'.Extends columns)
    (hks : ∀ k ∈ ks, k < columns.width) (m : Matrix ℚ) :
  (columns'.matrix ks m).rowList = (columns.matrix ks m).rowList.map (· ++ [0])
  := by
  rw [matrix, matrix, List.map_map]
  apply List.map_congr_left
  intro row _
  apply hcolumns.row_eq hks

end Columns

namespace Constraint

variable {c : Constraint ℚ} {columns columns' : Columns}

/-- The row of a constraint has one more zero beside another column, and the same bound. -/
theorem exists_linearRow_of_extends (hcolumns : columns'.Extends columns)
    {r : LinearRow ℚ columns.width} (h : c.linearRow columns = .ok r) :
  ∃ r', c.linearRow columns' = .ok r' ∧ r'.coefficients = r.coefficients ++ [0]
    ∧ r'.bound = r.bound
  := by
  obtain ⟨d, hd, h⟩ := Outcome.bind_eq_ok_iff.mp h
  obtain ⟨e, he, h⟩ := Outcome.bind_eq_ok_iff.mp h
  obtain ⟨ks, hks, h⟩ := Outcome.bind_eq_ok_iff.mp h
  obtain ⟨b, hb, h⟩ := Outcome.bind_eq_ok_iff.mp h
  cases h
  use ⟨columns'.row ks e.coefficients, b, by simp⟩
  constructor
  · rw [linearRow, hd, Outcome.ok_bind, he, Outcome.ok_bind, hcolumns.indices_eq hks,
      Outcome.ok_bind, hb]
    rfl
  · use hcolumns.row_eq (Columns.indices_lt hks) _

/-- The rows of a constraint have one more zero each beside another column, and the same bounds. -/
theorem exists_linearRows_of_extends (hcolumns : columns'.Extends columns)
    {r : LinearRows ℚ columns.width} (h : c.linearRows columns = .ok r) :
  ∃ r', c.linearRows columns' = .ok r'
    ∧ r'.coefficients.rowList = r.coefficients.rowList.map (· ++ [0]) ∧ r'.bound = r.bound
  := by
  obtain ⟨d, hd, h⟩ := Outcome.bind_eq_ok_iff.mp h
  obtain ⟨v, hv, h⟩ := Outcome.bind_eq_ok_iff.mp h
  obtain ⟨ks, hks, h⟩ := Outcome.bind_eq_ok_iff.mp h
  obtain ⟨b, hb, h⟩ := Outcome.bind_eq_ok_iff.mp h
  cases h
  use ⟨columns'.matrix ks v.linearCoeff, b, rfl⟩
  constructor
  · rw [linearRows, hd, Outcome.ok_bind, hv, Outcome.ok_bind, hcolumns.indices_eq hks,
      Outcome.ok_bind, hb]
    rfl
  · use hcolumns.rowList_matrix (Columns.indices_lt hks) _

/-- Another column adds a zero to each row of a constraint. -/
theorem signedRows_of_extends (hcolumns : columns'.Extends columns) {rows : List (List ℚ × ℚ)}
    (h : c.signedRows columns = .ok rows) :
  c.signedRows columns' = .ok (rows.map widened)
  := by
  rw [signedRows] at h ⊢
  cases hform : c.form with
  | scalar =>
      rw [hform] at h
      obtain ⟨r, hr, rfl⟩ := Outcome.map_eq_ok_iff.mp h
      obtain ⟨r', hr', hcoefficients, hbound⟩ := exists_linearRow_of_extends hcolumns hr
      apply Outcome.map_eq_ok_iff.mpr
      use r', hr'
      rw [hcoefficients, hbound]
      apply c.sense.map_signed_zip [r.coefficients]
  | vector =>
      rw [hform] at h
      obtain ⟨r, hr, rfl⟩ := Outcome.map_eq_ok_iff.mp h
      obtain ⟨r', hr', hcoefficients, hbound⟩ := exists_linearRows_of_extends hcolumns hr
      apply Outcome.map_eq_ok_iff.mpr
      use r', hr'
      rw [hcoefficients, hbound]
      apply c.sense.map_signed_zip

/-- A comparison of vectors has a row for each entry. -/
theorem IsComparison.length_eq_rowCount (hc : c.IsComparison) (hform : c.form = .vector) :
  c.length = .ok c.rowCount
  := by
  rcases hc.sides with ⟨a, s, b, rfl⟩ | ⟨u, s, v, -, -, rfl⟩
  · cases hform
  · rfl

end Constraint

/-- Rows with the same bounds have the same array of bounds. -/
theorem Consists.bounds_eq {n n' : ℕ} {rows rows' : List (List ℚ × ℚ)} {A A' : Matrix ℚ}
    {t t' : Tensor ℚ} (h : Consists n rows A t) (h' : Consists n' rows' A' t')
    (hbounds : rows'.map Prod.snd = rows.map Prod.snd) :
  t' = t
  := by
  have hlength : rows'.length = rows.length := by
    simpa using congrArg List.length hbounds
  rcases t with ⟨shape, entries⟩
  rcases t' with ⟨shape', entries'⟩
  cases h.shape_eq
  cases h'.shape_eq
  cases h.entries_eq
  cases h'.entries_eq
  rw [hlength, hbounds]

namespace Problem

variable {p : Problem ℚ} {f : Family} {form : ConstraintForm}

/-- Only variables with numbers in range have columns. -/
theorem Numbered.lt_of_index {axis k : ℕ} {v : Variable} (hp : p.Numbered)
    (h : p.columnPositions.index axis v = .ok k) :
  v.id < p.vars.length
  := by
  obtain ⟨i, hi, -⟩ := Columns.index_eq_ok_iff.mp h
  obtain ⟨before, after, hpositions, -⟩ := List.lookup_eq_some_iff.mp hi
  have hmem : (v.id, i) ∈ p.columnPositions.positions := by
    rw [hpositions]
    apply List.mem_append_right before List.mem_cons_self
  rw [columnPositions, hp.columns_eq, List.map_map] at hmem
  obtain ⟨j, hj, hid⟩ := List.mem_map.mp hmem
  cases hid
  apply List.mem_range.mp hj

theorem length_vars_addVariable (p : Problem ℚ) (kind : VariableKind) (name : Label) (tag : ℕ) :
  (p.addVariable kind name tag).vars.length = p.vars.length + 1
  := List.length_append

/-- Another variable is another column behind the ones that there were. -/
theorem Numbered.extends_addVariable (hp : p.Numbered) (kind : VariableKind) (name : Label)
    (tag : ℕ) :
  (p.addVariable kind name tag).columnPositions.Extends p.columnPositions
  := by
  constructor
  · apply (hp.addVariable kind name tag).width_eq.trans
    rw [length_vars_addVariable, ← hp.width_eq]
    rfl
  · intro axis v k h
    have hlt := hp.lt_of_index h
    rw [← h, hp.index_eq_ok axis hlt]
    apply (hp.addVariable kind name tag).index_eq_ok
    rw [length_vars_addVariable]
    apply Nat.lt_succ_of_lt hlt

/-- Another variable adds a zero to each row. -/
theorem Numbered.rowsOf_addVariable (hp : p.Numbered) {rows : List (List ℚ × ℚ)}
    (h : p.rowsOf f form = .ok rows) (kind : VariableKind) (name : Label) (tag : ℕ) :
  (p.addVariable kind name tag).rowsOf f form = .ok (rows.map widened)
  := by
  obtain ⟨ls, hls, hrows⟩ := Outcome.bind_eq_ok_iff.mp h
  cases hrows
  have hwidened := Outcome.mapM_of_mapM hls fun c _ hc =>
    c.signedRows_of_extends (hp.extends_addVariable kind name tag) hc
  have hmembers : (p.addVariable kind name tag).members f form = p.members f form := rfl
  rw [rowsOf, hmembers, hwidened, Outcome.ok_bind, Outcome.pure_eq_ok, List.map_flatten]

/-- Another variable adds a column of zeros to the matrix of a family and keeps its bounds. -/
theorem Numbered.exists_matricesOr_addVariable (hp : p.Numbered)
    (hc : ∀ c ∈ p.constraints, p.Extractable c.value) {scalars vectors : List (List ℚ × ℚ)}
    (hscalars : p.rowsOf f .scalar = .ok scalars) (hvectors : p.rowsOf f .vector = .ok vectors)
    {A : Matrix ℚ} {t : Tensor ℚ} (h : Consists p.vars.length (scalars ++ vectors) A t)
    (kind : VariableKind) (name : Label) (tag : ℕ) :
  ∃ A', (p.addVariable kind name tag).matricesOr f true = .ok (A', t)
    ∧ Consists (p.vars.length + 1) ((scalars ++ vectors).map widened) A' t
  := by
  have hextractable : ∀ c ∈ (p.addVariable kind name tag).constraints,
      (p.addVariable kind name tag).Extractable c.value := by
    intro c hmem hlinear
    obtain ⟨hcomparison, hvars⟩ := hc c hmem hlinear
    use hcomparison
    intro v hv
    rw [length_vars_addVariable]
    apply Nat.lt_succ_of_lt (hvars v hv)
  obtain ⟨scalars', vectors', A', t', hscalars', hvectors', hmatrix, hconsists⟩ :=
    (hp.addVariable kind name tag).exists_consists f hextractable
  cases (hp.rowsOf_addVariable hscalars kind name tag).symm.trans hscalars'
  cases (hp.rowsOf_addVariable hvectors kind name tag).symm.trans hvectors'
  rw [← List.map_append, length_vars_addVariable] at hconsists
  have hbounds : t' = t := by
    apply h.bounds_eq hconsists
    rw [List.map_map]
    rfl
  subst hbounds
  use A'

/-! ### Another constraint -/

/-- Another constraint comes last among those of its family and form, if it is linear. -/
theorem members_addConstraint (p : Problem ℚ) (d : Tagged (Constraint ℚ)) :
  (p.addConstraint d).members f form = p.members f form
    ++ [d.value].filter fun c => f.contains c.sense && (c.isLinear && c.form == form)
  := by
  rw [members, members, addConstraint, List.map_append, List.filter_append]
  rfl

/-- A linear constraint of the family and the form adds its rows at the end. -/
theorem rowsOf_addConstraint {d : Tagged (Constraint ℚ)} (hf : f.contains d.value.sense = true)
    (hlinear : d.value.isLinear = true) {rows more : List (List ℚ × ℚ)}
    (hrows : p.rowsOf f d.value.form = .ok rows)
    (hmore : d.value.signedRows p.columnPositions = .ok more) :
  (p.addConstraint d).rowsOf f d.value.form = .ok (rows ++ more)
  := by
  obtain ⟨ls, hls, hflatten⟩ := Outcome.bind_eq_ok_iff.mp hrows
  cases hflatten
  have hmember : (p.addConstraint d).members f d.value.form
      = p.members f d.value.form ++ [d.value] := by
    rw [members_addConstraint, List.filter_cons_of_pos (by simp [hf, hlinear]), List.filter_nil]
  have hcolumns : (p.addConstraint d).columnPositions = p.columnPositions := rfl
  rw [rowsOf, hmember, hcolumns, List.mapM_append, hls, Outcome.ok_bind, List.mapM_cons, hmore]
  simp

/-- A constraint of another form adds no rows. -/
theorem rowsOf_addConstraint_of_ne {d : Tagged (Constraint ℚ)} (h : d.value.form ≠ form) :
  (p.addConstraint d).rowsOf f form = p.rowsOf f form
  := by
  have hmember : (p.addConstraint d).members f form = p.members f form := by
    rw [members_addConstraint, List.filter_cons_of_neg (by simp [h]), List.filter_nil,
      List.append_nil]
  rw [rowsOf, hmember]
  rfl

/-- A constraint of the other family or one that is not linear adds no block. -/
theorem blocks_addConstraint_of_not (d : Tagged (Constraint ℚ))
    (h : f.contains d.value.sense = false ∨ d.value.isLinear = false) :
  (p.addConstraint d).blocks f = p.blocks f
  := by
  have hfamily : (p.addConstraint d).family f = p.family f
      ++ [(d.value, p.constraints.length)].filter fun x => f.contains x.1.sense := by
    rw [family, addConstraint, List.map_append, List.zipIdx_append, List.filter_append,
      List.length_map, zero_add]
    rfl
  -- both problems have the same columns, and therefore the same blocks for all constraints
  have hblocks : ((p.addConstraint d).family f).mapM (fun x => p.block? x.1) >>= (fun found =>
      pure (found.filterMap id)) = ((p.family f).mapM fun x => p.block? x.1) >>= fun found =>
        pure (found.filterMap id) := by
    rw [hfamily]
    by_cases hf : f.contains d.value.sense = true
    · have hnone : p.block? d.value = .ok none := by
        rw [block?, if_neg (by simp [h.resolve_left (by simp [hf])])]
        rfl
      rw [List.filter_cons_of_pos (by simp [hf]), List.filter_nil, List.mapM_append,
        List.mapM_cons, hnone]
      generalize (p.family f).mapM (fun x => p.block? x.1) = outcome
      cases outcome with
      | error e => rfl
      | ok found => simp
    · rw [List.filter_cons_of_neg (by simp [hf]), List.filter_nil, List.append_nil]
  apply hblocks

/-- A constraint of the other family or one that is not linear changes no matrix. -/
theorem matricesOr_addConstraint_of_not (d : Tagged (Constraint ℚ)) (allowEmpty : Bool)
    (h : f.contains d.value.sense = false ∨ d.value.isLinear = false) :
  (p.addConstraint d).matricesOr f allowEmpty = p.matricesOr f allowEmpty
  := by
  have hmatrices : (p.addConstraint d).matrices f = p.matrices f :=
    congrArg (fun bs : Except Error (List (Block ℚ p.width)) => bs >>= fun blocks => do
      return (Matrix.stack p.width ((Block.ordered blocks).map Block.rows),
        ← Block.joinBounds ((Block.ordered blocks).map Block.bounds)))
      (blocks_addConstraint_of_not d h)
  unfold matricesOr
  rw [hmatrices]
  rfl

/-- The rows of a linear constraint are as many as it stands for. -/
theorem Numbered.exists_signedRows (hp : p.Numbered) {c : Constraint ℚ} (hc : p.Extractable c)
    (hlinear : c.isLinear = true) :
  ∃ rows, c.signedRows p.columnPositions = .ok rows ∧ rows.length = c.rowCount
  := by
  obtain ⟨b, hb, hsized⟩ := hp.exists_block_of_extractable hc hlinear
  use b.pairs, (signedRows_of_block? hb).1
  rw [hsized.length_pairs, rows_of_block? hb]

/-- A linear constraint of a family adds its rows to the matrix of the family: below those of the
other scalar constraints if it is a scalar constraint, below all others if it is a vector
constraint. -/
theorem Numbered.exists_matricesOr_addConstraint (hp : p.Numbered)
    (hc : ∀ c ∈ p.constraints, p.Extractable c.value)
    {scalars vectors rows : List (List ℚ × ℚ)} (hscalars : p.rowsOf f .scalar = .ok scalars)
    (hvectors : p.rowsOf f .vector = .ok vectors) {d : Tagged (Constraint ℚ)}
    (hd : p.Extractable d.value) (hf : f.contains d.value.sense = true)
    (hlinear : d.value.isLinear = true) (hrows : d.value.signedRows p.columnPositions = .ok rows) :
  ∃ A t, (p.addConstraint d).matricesOr f true = .ok (A, t)
    ∧ (d.value.form = .scalar → Consists p.vars.length (scalars ++ rows ++ vectors) A t)
    ∧ (d.value.form = .vector → Consists p.vars.length (scalars ++ vectors ++ rows) A t)
  := by
  have hextractable : ∀ c ∈ (p.addConstraint d).constraints,
      (p.addConstraint d).Extractable c.value := by
    intro c hmem
    rcases List.mem_append.mp hmem with hmem | hmem
    · apply hc c hmem
    · rw [List.mem_singleton.mp hmem]
      apply hd
  obtain ⟨scalars', vectors', A, t, hscalars', hvectors', hmatrix, hconsists⟩ :=
    (hp.addConstraint d).exists_consists f hextractable
  use A, t, hmatrix
  constructor
  · intro hform
    have hother : d.value.form ≠ .vector := by simp [hform]
    rw [rowsOf_addConstraint_of_ne hother] at hvectors'
    rw [← hform] at hscalars hscalars'
    cases (rowsOf_addConstraint hf hlinear hscalars hrows).symm.trans hscalars'
    cases hvectors.symm.trans hvectors'
    apply hconsists
  · intro hform
    have hother : d.value.form ≠ .scalar := by simp [hform]
    rw [rowsOf_addConstraint_of_ne hother] at hscalars'
    rw [← hform] at hvectors hvectors'
    cases (rowsOf_addConstraint hf hlinear hvectors hrows).symm.trans hvectors'
    cases hscalars.symm.trans hscalars'
    rw [List.append_assoc]
    apply hconsists

/-- The extraction of matrices is incremental. In a reachable problem that passes its check, with
constraints that comparisons give, the matrix of a family and its bounds consist of the rows of the
linear scalar constraints of the family and then of those of the vector constraints, both in the
order in which they were added. Another variable adds a zero to each row. A constraint of the other
family, or one that is not linear, changes nothing. A linear constraint of the family over the
variables of the problem adds its rows, a scalar constraint a single one after those of the scalar
constraints, a vector constraint one for each entry at the end. -/
theorem extraction_incremental (hp : p.Reachable)
    (hc : ∀ c ∈ p.constraints, c.value.IsComparison) (hcheck : p.check = .ok ()) (f : Family) :
  ∃ scalars vectors A t,
    p.rowsOf f .scalar = .ok scalars ∧ p.rowsOf f .vector = .ok vectors
    ∧ p.matricesOr f true = .ok (A, t)
    ∧ Consists p.vars.length (scalars ++ vectors) A t
    ∧ (∀ kind name tag, ∃ A', (p.addVariable kind name tag).matricesOr f true = .ok (A', t)
        ∧ Consists (p.vars.length + 1) ((scalars ++ vectors).map widened) A' t)
    ∧ ∀ d : Tagged (Constraint ℚ),
        (f.contains d.value.sense = false ∨ d.value.isLinear = false →
          (p.addConstraint d).matricesOr f true = .ok (A, t))
        ∧ (f.contains d.value.sense = true → d.value.isLinear = true →
          d.value.IsComparison → (∀ v ∈ d.value.lhs.vars ++ d.value.rhs.vars, p.Owns v) →
          ∃ rows A' t', d.value.signedRows p.columnPositions = .ok rows
            ∧ (p.addConstraint d).matricesOr f true = .ok (A', t')
            ∧ (d.value.form = .scalar → rows.length = 1
              ∧ Consists p.vars.length (scalars ++ rows ++ vectors) A' t')
            ∧ (d.value.form = .vector → d.value.length = .ok rows.length
              ∧ Consists p.vars.length (scalars ++ vectors ++ rows) A' t'))
  := by
  have hextractable : ∀ c ∈ p.constraints, p.Extractable c.value := by
    intro c hmem _
    use hc c hmem
    intro v hv
    apply hp.numbered.lt_of_check hcheck hmem hv
  obtain ⟨scalars, vectors, A, t, hscalars, hvectors, hmatrix, hconsists⟩ :=
    hp.numbered.exists_consists f hextractable
  use scalars, vectors, A, t, hscalars, hvectors, hmatrix, hconsists
  constructor
  · apply hp.numbered.exists_matricesOr_addVariable hextractable hscalars hvectors hconsists
  · intro d
    constructor
    · intro h
      rw [matricesOr_addConstraint_of_not d true h, hmatrix]
    · intro hf hlinear hcomparison howns
      have hd : p.Extractable d.value := by
        intro _
        use hcomparison
        intro v hv
        apply hp.numbered.lt_of_owns (howns v hv)
      obtain ⟨rows, hrows, hlength⟩ := hp.numbered.exists_signedRows hd hlinear
      obtain ⟨A', t', hmatrix', hscalar, hvector⟩ := hp.numbered.exists_matricesOr_addConstraint
        hextractable hscalars hvectors hd hf hlinear hrows
      use rows, A', t', hrows, hmatrix'
      constructor
      · intro hform
        use hlength.trans (Constraint.rowCount_of_scalar hform)
        apply hscalar hform
      · intro hform
        rw [hcomparison.length_eq_rowCount hform, hlength]
        use rfl
        apply hvector hform

/-- The constraint that a variable is five. -/
def laterEquality : Tagged (Constraint ℚ) :=
  ⟨3, .ofScalars (.var loneVariable) .equal (.const 5)⟩

/-- A scalar constraint that is added after a vector constraint has its row above those of the
vector constraint. -/
theorem extraction_incremental_mixedForms :
  mixedForms.Reachable ∧ (∀ c ∈ mixedForms.constraints, c.value.IsComparison)
    ∧ mixedForms.check = .ok ()
    ∧ (∀ v ∈ laterEquality.value.lhs.vars ++ laterEquality.value.rhs.vars, mixedForms.Owns v)
    ∧ ∃ (row : List ℚ × ℚ) (A A' : Matrix ℚ) (t t' : Tensor ℚ),
      mixedForms.matricesOr .equalities true = .ok (A, t)
      ∧ (mixedForms.addConstraint laterEquality).matricesOr .equalities true = .ok (A', t')
      ∧ A'.rowList = row.1 :: A.rowList ∧ t'.entries = row.2 :: t.entries
  := by
  have hreach : mixedForms.Reachable := ⟨_, _, rfl⟩
  have hcomparison : ∀ c ∈ mixedForms.constraints, c.value.IsComparison := by
    intro c hc
    rcases List.mem_cons.mp hc with rfl | hc
    · apply Constraint.isComparison_ofScalars
    · rw [List.mem_singleton.mp hc]
      apply Constraint.isComparison_ofVectors
      · rfl
      · rfl
  have hcheck : mixedForms.check = .ok () := rfl
  have howns : ∀ v ∈ laterEquality.value.lhs.vars ++ laterEquality.value.rhs.vars,
      mixedForms.Owns v := by
    intro v hv
    rw [List.mem_singleton.mp hv]
    decide +kernel
  have hnone : mixedForms.rowsOf .equalities .scalar = .ok [] := rfl
  obtain ⟨scalars, vectors, A, t, hscalars, -, hmatrix, hconsists, -, hadd⟩ :=
    extraction_incremental hreach hcomparison hcheck .equalities
  cases hnone.symm.trans hscalars
  obtain ⟨rows, A', t', -, hmatrix', hscalar, -⟩ :=
    (hadd laterEquality).2 rfl rfl (Constraint.isComparison_ofScalars _ _ _) howns
  obtain ⟨hone, hconsists'⟩ := hscalar rfl
  obtain ⟨row, rfl⟩ := List.length_eq_one_iff.mp hone
  use hreach, hcomparison, hcheck, howns, row, A, A', t, t', hmatrix, hmatrix'
  constructor
  · rw [hconsists'.rowList_eq, hconsists.rowList_eq]
    rfl
  · rw [hconsists'.entries_eq, hconsists.entries_eq]
    rfl

end Problem

end QuadraticProgram
