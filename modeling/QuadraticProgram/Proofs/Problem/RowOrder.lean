import QuadraticProgram.Proofs.Problem.Extraction
import QuadraticProgram.Proofs.Problem.Feasibility

/-!
# Order of rows

Where the rows of each constraint stand in the matrix of its family. The rows of a linear
constraint with their bounds, their signs as in the matrix, are `Constraint.signedRows`. Those of
all scalar constraints of a family, in the order in which the constraints were added, and then
those of all its vector constraints are the rows of the matrix (`Problem.Numbered.exists_consists`).
-/

namespace QuadraticProgram

instance : LawfulBEq ConstraintForm where
  eq_of_beq {a b} h := by
    cases a <;> cases b <;> first | rfl | cases h
  rfl {a} := by
    cases a <;> rfl

/-! ### Rows with their bounds -/

/-- The coefficients of a bound. -/
def Bound.values {α : Type} : Bound α → List α
  | .single a => [a]
  | .list l => l

/-- A row with its bound as it stands in the matrix of a family. -/
def Sense.signed (s : Sense) (r : List ℚ × ℚ) : List ℚ × ℚ :=
  (r.1.map (s.sign * ·), s.sign * r.2)

/-- The rows of a linear constraint with their bounds, as they stand in the matrix of a family. -/
def Constraint.signedRows (c : Constraint ℚ) (columns : Columns) :
    Except Error (List (List ℚ × ℚ)) :=
  match c.form with
  | .scalar => (c.linearRow columns).map fun r =>
      ([r.coefficients].zip r.bound.values).map c.sense.signed
  | .vector => (c.linearRows columns).map fun r =>
      (r.coefficients.rowList.zip r.bound.values).map c.sense.signed

namespace Block

variable {width : ℕ} {s : Sense} {b : Block ℚ width}

/-- The rows of a block with their bounds. -/
def pairs (b : Block ℚ width) : List (List ℚ × ℚ) := b.rows.val.rowList.zip b.bounds.entries

/-- The block of a scalar constraint has its row with its bound. -/
theorem pairs_ofRow (r : LinearRow ℚ width) :
  (ofRow r).pairs = [r.coefficients].zip r.bound.values
  := by
  rcases r with ⟨coefficients, bound, hlength⟩
  cases bound <;> rfl

/-- The block of a vector constraint has its rows with their bounds. -/
theorem pairs_ofRows (r : LinearRows ℚ width) :
  (ofRows r).pairs = r.coefficients.rowList.zip r.bound.values
  := by
  rcases r with ⟨coefficients, bound, hlength⟩
  cases bound <;> rfl

/-- A sense that points the right way changes no signs. -/
theorem signed_of_sign_eq_one (h : s.sign = 1) :
  s.signed = id
  := by
  funext r
  simp [Sense.signed, h]

/-- An inequality the other way changes the signs of row and bound. -/
theorem signed_greaterEqual :
  Sense.greaterEqual.signed = Prod.map (List.map (- ·)) (- ·)
  := by
  funext r
  simp only [Sense.signed, Sense.sign, neg_one_mul]
  rfl

theorem pairs_negated (b : Block ℚ width) :
  b.negated.pairs = b.pairs.map Sense.greaterEqual.signed
  := by
  rw [signed_greaterEqual]
  apply List.zip_map

/-- The rows of a block change their signs with their bounds. -/
theorem pairs_signed (s : Sense) (b : Block ℚ width) :
  (b.signed s).pairs = b.pairs.map s.signed
  := by
  cases s with
  | greaterEqual => apply pairs_negated
  | lessEqual =>
      rw [signed_of_sign_eq_one rfl, List.map_id]
      rfl
  | equal =>
      rw [signed_of_sign_eq_one rfl, List.map_id]
      rfl

theorem form_signed (s : Sense) (b : Block ℚ width) :
  (b.signed s).form = b.form
  := by
  rw [signed]
  split <;> rfl

/-- No row is lost if there is a bound for each. -/
theorem Sized.map_fst_pairs (h : b.Sized) :
  b.pairs.map Prod.fst = b.rows.val.rowList
  := List.map_fst_zip h.length_eq.ge

/-- No bound is lost if there is a row for each. -/
theorem Sized.map_snd_pairs (h : b.Sized) :
  b.pairs.map Prod.snd = b.bounds.entries
  := List.map_snd_zip h.length_eq.le

theorem Sized.length_pairs (h : b.Sized) :
  b.pairs.length = b.rows.val.rows
  := by
  rw [← List.length_map Prod.fst, h.map_fst_pairs]
  rfl

end Block

/-- A matrix with a number of columns and an array of bounds that consist of given rows with their
bounds. -/
structure Consists (width : ℕ) (rows : List (List ℚ × ℚ)) (A : Matrix ℚ) (t : Tensor ℚ) :
    Prop where
  cols_eq : A.cols = width
  rowList_eq : A.rowList = rows.map Prod.fst
  shape_eq : t.shape = [rows.length]
  entries_eq : t.entries = rows.map Prod.snd

/-- Sized blocks one below the other consist of the rows of each of them. -/
theorem Block.exists_consists {width : ℕ} {bs : List (Block ℚ width)}
    (h : ∀ b ∈ bs, b.Sized) :
  ∃ t, Block.joinBounds (bs.map Block.bounds) = .ok t
    ∧ Consists width (bs.flatMap Block.pairs) (Matrix.stack width (bs.map Block.rows)) t
  := by
  obtain ⟨t, ht, hentries, hshape⟩ := Block.exists_joinBounds h
  have hrows : (Matrix.stack width (bs.map Block.rows)).rowList
      = (bs.flatMap Block.pairs).map Prod.fst := by
    change ((bs.map Block.rows).flatMap fun m => m.val.rowList) = _
    rw [List.map_flatMap, List.flatMap_map]
    apply List.flatMap_congr
    intro b hb
    apply (h b hb).map_fst_pairs.symm
  use t, ht
  constructor
  · rfl
  · apply hrows
  · rw [hshape, Matrix.rows, hrows, List.length_map]
  · rw [hentries, List.map_flatMap]
    apply List.flatMap_congr
    intro b hb
    apply (h b hb).map_snd_pairs.symm

namespace Problem

variable {p : Problem ℚ} {c : Constraint ℚ} {f : Family} {b : Block ℚ p.width}
  {bs : List (Block ℚ p.width)} {form : ConstraintForm}

/-- The linear constraints of a family and of one form, in the order in which they were added. -/
def members (p : Problem ℚ) (f : Family) (form : ConstraintForm) : List (Constraint ℚ) :=
  (p.constraints.map Tagged.value).filter fun c =>
    f.contains c.sense && (c.isLinear && c.form == form)

/-- The rows of these constraints with their bounds, one constraint after the other. -/
def rowsOf (p : Problem ℚ) (f : Family) (form : ConstraintForm) :
    Except Error (List (List ℚ × ℚ)) := do
  return (← (p.members f form).mapM (·.signedRows p.columnPositions)).flatten

/-- The block of a constraint has its rows in order, with the signs of its sense. -/
theorem signedRows_of_block? (h : p.block? c = .ok (some b)) :
  c.signedRows p.columnPositions = .ok b.pairs ∧ b.form = c.form
  := by
  obtain ⟨hform, r, hr, rfl⟩ | ⟨hform, r, hr, rfl⟩ := exists_rows_of_block? h
  · rw [Constraint.signedRows, hform, Block.form_signed]
    simp only [hr, Outcome.map_ok]
    constructor
    · rw [← Block.pairs_ofRow]
      exact congrArg Except.ok (Block.pairs_signed _ _).symm
    · rfl
  · rw [Constraint.signedRows, hform, Block.form_signed]
    simp only [hr, Outcome.map_ok]
    constructor
    · rw [← Block.pairs_ofRows]
      exact congrArg Except.ok (Block.pairs_signed _ _).symm
    · rfl

/-- The rows of the linear ones of some constraints are those of their blocks. -/
theorem mapM_signedRows_of_blocks {cs : List (Constraint ℚ)}
    {found : List (Option (Block ℚ p.width))} (h : cs.mapM p.block? = .ok found)
    (form : ConstraintForm) :
  (cs.filter fun c => c.isLinear && c.form == form).mapM (·.signedRows p.columnPositions)
    = .ok (((found.filterMap id).filter (·.form == form)).map Block.pairs)
  := by
  have hall := Outcome.forall₂_of_mapM h
  clear h
  induction hall with
  | nil => rfl
  | @cons c o _ found ho _ ih =>
      have hiff := isSome_iff_of_block? ho
      cases o with
      | none =>
          have hlinear : c.isLinear = false := by simpa using hiff
          rw [List.filter_cons_of_neg (by simp [hlinear]), ih]
          rfl
      | some b =>
          obtain ⟨hrows, hform⟩ := signedRows_of_block? ho
          have hlinear : c.isLinear = true := hiff.mp rfl
          have hfound : (some b :: found).filterMap id = b :: found.filterMap id := rfl
          rw [hfound]
          by_cases hc : c.form = form
          · rw [List.filter_cons_of_pos (by simp [hlinear, hc]),
              List.filter_cons_of_pos (by simp [hform, hc]), List.mapM_cons, hrows, ih]
            rfl
          · rw [List.filter_cons_of_neg (by simp [hc]),
              List.filter_cons_of_neg (by simp [hform, hc]), ih]

/-- A family is made of the constraints with its senses, in their order. -/
theorem map_fst_family (p : Problem ℚ) (f : Family) :
  (p.family f).map Prod.fst = (p.constraints.map Tagged.value).filter fun c => f.contains c.sense
  := by
  conv_rhs => rw [← List.zipIdx_map_fst 0 (p.constraints.map Tagged.value), List.filter_map]
  rfl

/-- The rows of one form are those of the blocks of that form, in their order. -/
theorem rowsOf_of_blocks (h : p.blocks f = .ok bs) (form : ConstraintForm) :
  p.rowsOf f form = .ok ((bs.filter (·.form == form)).flatMap Block.pairs)
  := by
  obtain ⟨found, hfound, hbs⟩ := Outcome.bind_eq_ok_iff.mp h
  cases hbs
  have hfound : ((p.family f).map Prod.fst).mapM p.block? = .ok found := by
    rw [List.mapM_map]
    apply hfound
  have hrows := mapM_signedRows_of_blocks hfound form
  have hmembers : ((p.family f).map Prod.fst).filter (fun c => c.isLinear && c.form == form)
      = p.members f form := by
    rw [map_fst_family, List.filter_filter]
    apply List.filter_congr
    intro c _
    rw [Bool.and_comm]
  rw [hmembers] at hrows
  rw [rowsOf, hrows, Outcome.ok_bind, Outcome.pure_eq_ok, List.flatMap_def]

/-- A linear constraint that a comparison gives and whose variables are the problem's, or one that
is not linear. -/
def Extractable (p : Problem ℚ) (c : Constraint ℚ) : Prop :=
  c.isLinear = true → c.IsComparison ∧ ∀ v ∈ c.lhs.vars ++ c.rhs.vars, v.id < p.vars.length

/-- A linear constraint that can be extracted has a block whose sizes are in step. -/
theorem Numbered.exists_block_of_extractable (hp : p.Numbered) (hc : p.Extractable c)
    (hlinear : c.isLinear = true) :
  ∃ b, p.block? c = .ok (some b) ∧ b.Sized
  := by
  obtain ⟨hcomparison, hvars⟩ := hc hlinear
  obtain ⟨b, hb, hsized, -⟩ := hp.exists_block hcomparison hlinear hvars
  use b.signed c.sense, hb
  apply Block.sized_signed_iff.mpr hsized

/-- The matrix of a family and its bounds consist of the rows of the linear scalar constraints of
the family and then of those of its vector constraints. -/
theorem Numbered.exists_consists (hp : p.Numbered) (f : Family)
    (hc : ∀ c ∈ p.constraints, p.Extractable c.value) :
  ∃ scalars vectors A t, p.rowsOf f .scalar = .ok scalars ∧ p.rowsOf f .vector = .ok vectors
    ∧ p.matricesOr f true = .ok (A, t) ∧ Consists p.vars.length (scalars ++ vectors) A t
  := by
  have hblocks : ∀ c ∈ p.constraints, f.contains c.value.sense = true →
      ∃ o, p.block? c.value = .ok o := by
    intro c hmem _
    by_cases hlinear : c.value.isLinear = true
    · obtain ⟨b, hb, -⟩ := hp.exists_block_of_extractable (hc c hmem) hlinear
      use some b
    · use none
      rw [block?, if_neg hlinear]
      rfl
  obtain ⟨bs, hbs⟩ := exists_blocks_of_forall hblocks
  have hsized : ∀ b ∈ Block.ordered bs, b.Sized := by
    intro b hb
    obtain ⟨c, hmem, -, hblock⟩ := (mem_blocks_iff hbs).mp (Block.mem_ordered.mp hb)
    obtain ⟨b', hb', hsized⟩ :=
      hp.exists_block_of_extractable (hc c hmem) ((isSome_iff_of_block? hblock).mp rfl)
    cases hblock.symm.trans hb'
    apply hsized
  obtain ⟨t, ht, hconsists⟩ := Block.exists_consists hsized
  refine ⟨_, _, _, t, rowsOf_of_blocks hbs .scalar, rowsOf_of_blocks hbs .vector,
    matricesOr_of_blocks hbs ht, ?_⟩
  rw [← hp.width_eq, ← List.flatMap_append]
  apply hconsists

end Problem

end QuadraticProgram
