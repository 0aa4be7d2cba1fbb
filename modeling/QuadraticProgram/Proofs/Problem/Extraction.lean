import QuadraticProgram.Proofs.Constraint.Sizes
import QuadraticProgram.Proofs.Problem.Families
import QuadraticProgram.Proofs.Problem.WellDefined

/-!
# Extraction of matrices

What the matrices of a problem are like, whichever constraints it holds. There is a column for
each variable, and the bounds are one for each row if the sides of the constraints fit
(`Problem.bounds_match_rows`). The check of a linear problem compares the sides of vector
constraints only. Whether the matrices are extracted after it depends on those of the scalar
constraints (`Problem.extraction_defined_iff`).
-/

namespace QuadraticProgram

variable {α : Type} [Coefficient α]

/-! ### Checked constraints -/

namespace Constraint

variable {c : Constraint α}

/-- The check of a vector constraint finds vectors on both sides. -/
theorem exists_vectors_of_check (hc : c.form = .vector) (h : c.check = .ok ()) :
  ∃ u v, c = ofVectors u c.sense v
  := by
  rcases c with ⟨form, lhs, rhs, s⟩
  cases hc
  obtain ⟨⟨⟩, hshapes, -⟩ := Outcome.bind_eq_ok_iff.mp h
  obtain ⟨n, hn, hshapes⟩ := Outcome.bind_eq_ok_iff.mp hshapes
  obtain ⟨k, hk, -⟩ := Outcome.bind_eq_ok_iff.mp hshapes
  cases lhs with
  | vector u =>
      cases rhs with
      | vector v => exact ⟨u, v, rfl⟩
      | _ => cases hk
  | _ => cases hn

/-- A constraint that passes its check fits together. -/
theorem HasSides.fits (hc : c.HasSides) (h : c.check = .ok ()) :
  c.Fits
  := by
  have hshape := (hc.check_eq_ok_iff.mp h).1
  cases hc with
  | scalars a s b => nofun
  | vectors u s v =>
      rintro u' v' hu hv hone
      cases hu
      cases hv
      rw [← (hshape u s v rfl).1, hone]

end Constraint

namespace Problem

variable {p : Problem α} {c : Constraint α} {b : Block α p.width} {f : Family}
  {bs : List (Block α p.width)}

/-! ### Blocks of constraints -/

/-- The block of a linear constraint has its rows, with the signs of its sense. -/
theorem block?_of_isLinear (h : c.isLinear = true) :
  p.block? c =
    (match c.form with
      | .scalar => (c.linearRow p.columnPositions).map Block.ofRow
      | .vector => (c.linearRows p.columnPositions).map Block.ofRows).map
      fun b : Block α p.width => some (b.signed c.sense)
  := by
  rw [block?, if_pos h]
  cases c.form <;> rfl

/-- A block comes from the row of a scalar constraint or from the rows of a vector constraint. -/
theorem exists_rows_of_block? (h : p.block? c = .ok (some b)) :
  (c.form = .scalar ∧ ∃ r, c.linearRow p.columnPositions = .ok r
      ∧ b = (Block.ofRow r).signed c.sense)
    ∨ (c.form = .vector ∧ ∃ r, c.linearRows p.columnPositions = .ok r
      ∧ b = (Block.ofRows r).signed c.sense)
  := by
  by_cases hlinear : c.isLinear = true
  · rw [block?_of_isLinear hlinear] at h
    obtain ⟨block, hblock, hb⟩ := Outcome.map_eq_ok_iff.mp h
    cases hb
    cases hform : c.form with
    | scalar =>
        rw [hform] at hblock
        obtain ⟨r, hr, rfl⟩ := Outcome.map_eq_ok_iff.mp hblock
        exact .inl ⟨rfl, r, hr, rfl⟩
    | vector =>
        rw [hform] at hblock
        obtain ⟨r, hr, rfl⟩ := Outcome.map_eq_ok_iff.mp hblock
        exact .inr ⟨rfl, r, hr, rfl⟩
  · rw [block?, if_neg hlinear] at h
    cases h

/-- A constraint has a block exactly if it is linear. -/
theorem isSome_iff_of_block? {o : Option (Block α p.width)} (h : p.block? c = .ok o) :
  o.isSome = true ↔ c.isLinear = true
  := by
  by_cases hlinear : c.isLinear = true
  · rw [block?_of_isLinear hlinear] at h
    obtain ⟨block, -, rfl⟩ := Outcome.map_eq_ok_iff.mp h
    simp [hlinear]
  · rw [block?, if_neg hlinear] at h
    cases h
    simp [hlinear]

/-- The block of a constraint has as many rows as the constraint calls for. -/
theorem rows_of_block? (h : p.block? c = .ok (some b)) :
  b.rows.val.rows = c.rowCount
  := by
  obtain ⟨hform, r, hr, rfl⟩ | ⟨hform, r, hr, rfl⟩ := exists_rows_of_block? h
  · apply (Block.rows_signed _ _).trans
    rw [Block.rows_ofRow, Constraint.rowCount_of_scalar hform]
  · obtain ⟨u, ts, hu, hrows, -⟩ := Constraint.sides_of_linearRows hr
    apply (Block.rows_signed _ _).trans
    rw [Constraint.rowCount, hform, Constraint.length, hu]
    apply hrows

/-- The block of a constraint has a bound for each row exactly if the sides fit. -/
theorem sized_iff_fits (h : p.block? c = .ok (some b)) :
  b.Sized ↔ c.Fits
  := by
  obtain ⟨hform, r, hr, rfl⟩ | ⟨hform, r, hr, rfl⟩ := exists_rows_of_block? h
  · apply Block.sized_signed_iff.trans
    rw [Constraint.Fits, hform]
    obtain ⟨-, ⟨d, t, hd, ht⟩ | ⟨v, ts, hv, -, hts, -⟩⟩ := Constraint.sides_of_linearRow hr
    · apply iff_of_true (Block.sized_ofRow ht)
      intro v hv
      cases hd.symm.trans hv
    · constructor
      · rintro ⟨hshape, -⟩
        rw [Block.shape_ofRow_list hts] at hshape
        cases hshape
      · intro hfits
        exact absurd hv (hfits v)
  · apply Block.sized_signed_iff.trans
    obtain ⟨u, ts, hu, hrows, hts, hiff⟩ := Constraint.sides_of_linearRows hr
    have hfits : c.Fits ↔ ts.length = u.length := by
      rw [hiff, Constraint.Fits, hform]
      constructor
      · intro h v
        apply h u v hu
      · intro h u' v hu'
        cases hu.symm.trans hu'
        apply h v
    rw [hfits, ← hrows]
    constructor
    · rintro ⟨-, hlength⟩
      rw [Block.length_entries_ofRows hts] at hlength
      apply hlength
    · apply Block.sized_ofRows hts

/-- A checked constraint with a block has sides that are both scalar expressions or both vectors,
or it spreads. -/
theorem hasSides_or_spreads_of_block? (h : p.block? c = .ok (some b)) (hcheck : c.check = .ok ()) :
  c.HasSides ∨ ∃ n, c.Spreads n
  := by
  obtain ⟨hform, r, hr, -⟩ | ⟨hform, -⟩ := exists_rows_of_block? h
  · obtain ⟨⟨a, ha⟩, hright⟩ := Constraint.sides_of_linearRow hr
    rcases c with ⟨form, lhs, rhs, s⟩
    cases hform
    cases ha
    obtain ⟨d, t, hd, -⟩ | ⟨v, ts, hv, hvars, -⟩ := hright
    · cases hd
      left
      exact .scalars a s d
    · cases hv
      right
      exact ⟨v.length, a, s, v, rfl, hvars, rfl⟩
  · obtain ⟨u, v, hc⟩ := Constraint.exists_vectors_of_check hform hcheck
    left
    rw [hc]
    exact .vectors u c.sense v

/-- The bounds of a constraint that passes its check are a list. -/
theorem axes_of_hasSides (h : p.block? c = .ok (some b)) (hc : c.HasSides)
    (hcheck : c.check = .ok ()) :
  b.bounds.shape.length = 1
  := by
  rw [((sized_iff_fits h).mpr (hc.fits hcheck)).shape_eq, List.length_singleton]

/-- The bounds of a scalar constraint with a vector on its right side are a row. -/
theorem shape_of_spreads {n : ℕ} (h : p.block? c = .ok (some b)) (hc : c.Spreads n) :
  b.bounds.shape = [1, n]
  := by
  obtain ⟨a, s, v, rfl, -, hn⟩ := hc
  obtain ⟨-, r, hr, rfl⟩ | ⟨hform, -⟩ := exists_rows_of_block? h
  · obtain ⟨-, ⟨d, t, hd, -⟩ | ⟨w, ts, hw, -, hts, hlength⟩⟩ := Constraint.sides_of_linearRow hr
    · cases hd
    · cases hw
      rw [Block.shape_signed, Block.shape_ofRow_list hts, hlength, hn]
  · cases hform

/-- A checked linear constraint between two scalar expressions or between two vectors has a
block, if its variables are the problem's. -/
theorem Numbered.exists_block_of_hasSides (hp : p.Numbered) (hc : c.HasSides)
    (hlinear : c.isLinear = true) (hcheck : c.check = .ok ())
    (hvars : ∀ v ∈ c.lhs.vars ++ c.rhs.vars, v.id < p.vars.length) :
  ∃ b, p.block? c = .ok (some b)
  := by
  have hshape := (hc.check_eq_ok_iff.mp hcheck).1
  rw [block?_of_isLinear hlinear]
  cases hc with
  | scalars a s b =>
      obtain ⟨r, hr⟩ := Constraint.exists_linearRow_of_scalars hlinear (hp.finds hvars)
      use (Block.ofRow r).signed s
      exact Outcome.map_eq_ok_iff.mpr ⟨.ofRow r, Outcome.map_eq_ok_iff.mpr ⟨r, hr, rfl⟩, rfl⟩
  | vectors u s v =>
      obtain ⟨hl, ho⟩ := hshape u s v rfl
      obtain ⟨r, hr⟩ := Constraint.exists_linearRows_of_sameShape (s := s) hl ho (hp.finds hvars)
      use (Block.ofRows r).signed s
      exact Outcome.map_eq_ok_iff.mpr ⟨.ofRows r, Outcome.map_eq_ok_iff.mpr ⟨r, hr, rfl⟩, rfl⟩

/-- A linear constraint that spreads has a block, if its variables are the problem's. -/
theorem Numbered.exists_block_of_spreads (hp : p.Numbered) {n : ℕ} (hc : c.Spreads n)
    (hlinear : c.isLinear = true) (hvars : ∀ v ∈ c.lhs.vars ++ c.rhs.vars, v.id < p.vars.length) :
  ∃ b, p.block? c = .ok (some b)
  := by
  have hleft : ∀ v ∈ c.lhs.vars, v.id < p.vars.length := by
    intro v hv
    apply hvars v (List.mem_append_left _ hv)
  obtain ⟨r, hr⟩ := hc.exists_linearRow hlinear (hp.finds hleft)
  obtain ⟨a, s, v, rfl, -⟩ := hc
  rw [block?_of_isLinear hlinear]
  use (Block.ofRow r).signed s
  exact Outcome.map_eq_ok_iff.mpr ⟨.ofRow r, Outcome.map_eq_ok_iff.mpr ⟨r, hr, rfl⟩, rfl⟩

/-! ### Blocks of families -/

/-- The blocks of a family are given if the block of each constraint is. -/
theorem exists_blocks_of_forall (h : ∀ c ∈ p.constraints, f.contains c.value.sense = true →
    ∃ o, p.block? c.value = .ok o) :
  ∃ bs, p.blocks f = .ok bs
  := by
  have hfamily := (forall_mem_family (Q := fun c => ∃ o, p.block? c = .ok o)).mpr h
  obtain ⟨found, hfound⟩ : ∃ found, (p.family f).mapM (fun x => p.block? x.1) = .ok found :=
    Outcome.exists_mapM_iff.mpr hfamily
  use found.filterMap id
  exact Outcome.bind_eq_ok_iff.mpr ⟨found, hfound, rfl⟩

/-- The blocks of a family are those of its constraints that have one. -/
theorem mem_blocks_iff (h : p.blocks f = .ok bs) :
  b ∈ bs ↔ ∃ c ∈ p.constraints,
    f.contains c.value.sense = true ∧ p.block? c.value = .ok (some b)
  := by
  obtain ⟨found, hfound, hbs⟩ := Outcome.bind_eq_ok_iff.mp h
  cases hbs
  rw [← exists_mem_family (Q := fun c => p.block? c = .ok (some b)),
    ← Outcome.mem_mapM_iff hfound]
  simp

/-- Every linear constraint of a family has a block among those of the family. -/
theorem exists_mem_blocks (h : p.blocks f = .ok bs) {c : Tagged (Constraint α)}
    (hc : c ∈ p.constraints) (hf : f.contains c.value.sense = true)
    (hlinear : c.value.isLinear = true) :
  ∃ b ∈ bs, p.block? c.value = .ok (some b)
  := by
  obtain ⟨found, hfound, -⟩ := Outcome.bind_eq_ok_iff.mp h
  have hblocks := (forall_mem_family (Q := fun c => ∃ o, p.block? c = .ok o)).mp
    fun x hx => Outcome.exists_of_mapM hfound hx
  obtain ⟨o, ho⟩ := hblocks c hc hf
  obtain ⟨b, rfl⟩ := Option.isSome_iff_exists.mp ((isSome_iff_of_block? ho).mpr hlinear)
  use b, (mem_blocks_iff h).mpr ⟨c, hc, hf, ho⟩

/-- The blocks of a family are sized exactly if the sides of its linear constraints fit. -/
theorem forall_sized_iff (h : p.blocks f = .ok bs) :
  (∀ b ∈ bs, b.Sized) ↔ ∀ c ∈ p.constraints,
    f.contains c.value.sense = true → c.value.isLinear = true → c.value.Fits
  := by
  constructor
  · intro hsized c hc hf hlinear
    obtain ⟨b, hb, hblock⟩ := exists_mem_blocks h hc hf hlinear
    apply (sized_iff_fits hblock).mp (hsized b hb)
  · intro hfits b hb
    obtain ⟨c, hc, hf, hblock⟩ := (mem_blocks_iff h).mp hb
    apply (sized_iff_fits hblock).mpr
    apply hfits c hc hf ((isSome_iff_of_block? hblock).mp rfl)

/-- The rows of the blocks of a family are those of its linear constraints. -/
theorem sum_rows_blocks (h : p.blocks f = .ok bs) :
  (bs.map fun b => b.rows.val.rows).sum
    = ((p.family f).map fun x => if x.1.isLinear then x.1.rowCount else 0).sum
  := by
  obtain ⟨found, hfound, hbs⟩ := Outcome.bind_eq_ok_iff.mp h
  cases hbs
  have hall := Outcome.forall₂_of_mapM hfound
  clear hfound h
  generalize p.family f = cs at hall
  induction hall with
  | nil => rfl
  | @cons x o _ _ ho _ ih =>
      have hiff := isSome_iff_of_block? ho
      cases o with
      | none => simpa [← hiff] using ih
      | some b => simpa [← hiff, rows_of_block? ho] using ih

/-! ### Bounds beside rows -/

/-- A matrix that is extracted has a column for each variable. The bounds are one for each row if
the sides of all linear constraints of the family fit. -/
theorem bounds_match_rows (hp : p.Reachable) {allowEmpty : Bool} {A : Matrix α} {t : Tensor α}
    (h : p.matricesOr f allowEmpty = .ok (A, t)) :
  A.cols = p.vars.length
    ∧ ((∀ c ∈ p.constraints, f.contains c.value.sense = true → c.value.isLinear = true →
        c.value.Fits) → t.shape = [A.rows] ∧ t.entries.length = A.rows)
  := by
  obtain ⟨bs, hbs, rfl, ht⟩ := exists_blocks_of_matricesOr h
  use hp.numbered.width_eq
  intro hfits
  have hsized : ∀ b ∈ Block.ordered bs, b.Sized := by
    intro b hb
    apply (forall_sized_iff hbs).mpr hfits b (Block.mem_ordered.mp hb)
  obtain ⟨t', ht', hentries, hshape⟩ := Block.exists_joinBounds hsized
  cases ht.symm.trans ht'
  use hshape
  rw [hentries, Block.length_flatMap_entries hsized]

/-- A binary variable. -/
def loneVariable : Variable := ⟨0, 0.0, 1.0, .binary, .text "x", 0⟩

/-- The problem to minimise a variable that is at least one and that stands twice in a vector
which is to be one. -/
def mixedForms : Problem ℚ :=
  (empty (.text "mixed")).run [
    .addVariable .binary (.text "x") 0,
    .addConstraint (.constraint ⟨1, .ofScalars (.var loneVariable) .greaterEqual (.const 1)⟩),
    .addConstraint (.constraint ⟨2, .ofVectors ⟨.vars [loneVariable, loneVariable], .column⟩
      .equal ⟨.const [1, 1], .column⟩⟩),
    .setObjective (.expression (.scalar (.var loneVariable))) .minimize]

/-- A problem with scalar and vector constraints, and its equalities. -/
theorem bounds_match_rows_mixedForms :
  mixedForms.Reachable
    ∧ ∃ A t, mixedForms.matricesOr .equalities true = .ok (A, t)
      ∧ A.cols = 1 ∧ t.shape = [A.rows] ∧ t.entries.length = A.rows
  := by
  have hreach : mixedForms.Reachable := ⟨_, _, rfl⟩
  obtain ⟨⟨A, t⟩, h⟩ : ∃ x, mixedForms.matricesOr .equalities true = .ok x := ⟨_, rfl⟩
  obtain ⟨hcols, hbounds⟩ := bounds_match_rows hreach h
  use hreach, A, t, h, hcols
  apply hbounds
  intro c hc _ _
  rcases List.mem_cons.mp hc with rfl | hc
  · nofun
  · rw [List.mem_singleton.mp hc]
    rintro u v ⟨⟩ ⟨⟩ hone
    cases hone

/-- A problem whose vector of one variable is compared with three numbers. -/
def spreadVector : Problem ℚ :=
  (empty (.text "spread")).run [
    .addVariable .binary (.text "x") 0,
    .addConstraint (.constraint
      ⟨1, .ofVectors ⟨.vars [loneVariable], .column⟩ .lessEqual ⟨.const [1, 2, 3], .column⟩⟩)]

/-- The single entry of a vector is spread to the bounds, not to the rows. -/
theorem bounds_exceed_rows_spreadVector :
  spreadVector.Reachable
    ∧ ∃ A t, spreadVector.matricesOr .inequalities true = .ok (A, t)
      ∧ A.rows = 1 ∧ t.entries.length = 3
  := by
  use ⟨_, _, rfl⟩
  exact ⟨_, _, rfl, rfl, rfl⟩

/-! ### Extraction after a check -/

/-- Only linear constraints pass the check. -/
theorem isLinear_of_requireLinear {k : ℕ} {cs : List (Tagged (Constraint α))}
    (h : p.requireLinear k cs = .ok ()) :
  ∀ c ∈ cs, c.value.isLinear = true
  := by
  induction cs generalizing k with
  | nil => simp
  | cons c cs ih =>
      rw [requireLinear] at h
      split_ifs at h with hlinear
      rw [List.forall_mem_cons]
      use hlinear, ih h

/-- A problem that is found to be linear passes its check, and all its constraints are linear. -/
theorem check_of_checkLinear (h : p.checkLinear = .ok ()) :
  p.check = .ok () ∧ ∀ c ∈ p.constraints, c.value.isLinear = true
  := by
  rw [checkLinear] at h
  rcases hcheck : p.check with e | ⟨⟩
  · rw [hcheck] at h
    cases h
  · rw [hcheck] at h
    obtain ⟨o, -, h⟩ := Outcome.bind_eq_ok_iff.mp h
    split_ifs at h
    use rfl, isLinear_of_requireLinear h

/-- The matrix of a family is extracted if the constraints have blocks whose bounds can be
joined. -/
theorem exists_matricesOr_of_forall {S : Tensor α → Prop}
    (h : ∀ c ∈ p.constraints, f.contains c.value.sense = true →
      ∃ b, p.block? c.value = .ok (some b) ∧ S b.bounds)
    (hjoin : ∀ {t u}, S t → S u → Block.Joinable t u) :
  ∃ A t, p.matricesOr f true = .ok (A, t)
  := by
  obtain ⟨bs, hbs⟩ : ∃ bs, p.blocks f = .ok bs := by
    apply exists_blocks_of_forall
    intro c hc hf
    obtain ⟨b, hblock, -⟩ := h c hc hf
    use some b
  have hbounds : ∀ t ∈ (Block.ordered bs).map Block.bounds, S t := by
    intro t ht
    obtain ⟨b, hb, rfl⟩ := List.mem_map.mp ht
    obtain ⟨c, hc, hf, hblock⟩ := (mem_blocks_iff hbs).mp (Block.mem_ordered.mp hb)
    obtain ⟨b', hblock', hS⟩ := h c hc hf
    cases hblock.symm.trans hblock'
    apply hS
  obtain ⟨t, ht⟩ := Block.exists_joinBounds_iff.mpr fun t ht u hu =>
    hjoin (hbounds t ht) (hbounds u hu)
  exact ⟨_, t, matricesOr_of_blocks hbs ht⟩

/-- If the matrix of a family is extracted, the bounds of any two linear constraints of the family
can be joined. -/
theorem joinable_of_matricesOr {A : Matrix α} {t : Tensor α}
    (h : p.matricesOr f true = .ok (A, t)) {c d : Tagged (Constraint α)} (hc : c ∈ p.constraints)
    (hd : d ∈ p.constraints) (hcf : f.contains c.value.sense = true)
    (hdf : f.contains d.value.sense = true) (hcl : c.value.isLinear = true)
    (hdl : d.value.isLinear = true) :
  ∃ b b', p.block? c.value = .ok (some b) ∧ p.block? d.value = .ok (some b')
    ∧ Block.Joinable b.bounds b'.bounds
  := by
  obtain ⟨bs, hbs, -, ht⟩ := exists_blocks_of_matricesOr h
  have hmem : ∀ b ∈ bs, b.bounds ∈ (Block.ordered bs).map Block.bounds := by
    intro b hb
    apply List.mem_map_of_mem (Block.mem_ordered.mpr hb)
  obtain ⟨b, hb, hblock⟩ := exists_mem_blocks hbs hc hcf hcl
  obtain ⟨b', hb', hblock'⟩ := exists_mem_blocks hbs hd hdf hdl
  use b, b', hblock, hblock'
  apply Block.exists_joinBounds_iff.mp ⟨t, ht⟩ _ (hmem b hb) _ (hmem b' hb')

/-- A checked constraint whose bounds are joined to those of one that spreads does so, too. -/
theorem spreads_of_joinable {d : Constraint α} {b' : Block α p.width} {n : ℕ}
    (hc : p.block? c = .ok (some b)) (hd : p.block? d = .ok (some b'))
    (hjoin : Block.Joinable b.bounds b'.bounds) (hspreads : c.Spreads n)
    (hcheck : d.check = .ok ()) :
  d.Spreads n
  := by
  obtain ⟨haxes, hsize⟩ := hjoin
  rw [Tensor.axes, Tensor.axes, shape_of_spreads hc hspreads] at haxes
  rw [shape_of_spreads hc hspreads] at hsize
  obtain hsides | ⟨m, hm⟩ := hasSides_or_spreads_of_block? hd hcheck
  · rw [axes_of_hasSides hd hsides hcheck] at haxes
    cases haxes
  · rw [shape_of_spreads hd hm] at hsize
    cases hsize
    apply hm

/-- The matrix of a family of checked linear constraints is extracted exactly if the sides of each
are both scalar expressions or both vectors, or if all of them spread to the same length. -/
theorem Numbered.exists_matricesOr_iff (hp : p.Numbered) (hcheck : p.check = .ok ())
    (hlinear : ∀ c ∈ p.constraints, c.value.isLinear = true) :
  (∃ A t, p.matricesOr f true = .ok (A, t)) ↔
    (∀ c ∈ p.constraints, f.contains c.value.sense = true → c.value.HasSides)
      ∨ ∃ n, ∀ c ∈ p.constraints, f.contains c.value.sense = true → c.value.Spreads n
  := by
  have hchecked := fun c hc => (check_constraint_of_check hcheck (c := c) hc).1
  have hvars := fun c hc v => hp.lt_of_check hcheck (c := c) hc (v := v)
  constructor
  · rintro ⟨A, t, h⟩
    by_cases hall : ∀ c ∈ p.constraints, f.contains c.value.sense = true → c.value.HasSides
    · left
      apply hall
    · right
      -- one constraint without such sides spreads, and all others are joined to it
      push Not at hall
      obtain ⟨c, hc, hf, hnot⟩ := hall
      obtain ⟨b, -, hblock, -⟩ := joinable_of_matricesOr h hc hc hf hf (hlinear c hc) (hlinear c hc)
      obtain ⟨n, hspreads⟩ :=
        (hasSides_or_spreads_of_block? hblock (hchecked c hc)).resolve_left hnot
      use n
      intro d hd hf'
      obtain ⟨b, b', hb, hb', hjoin⟩ :=
        joinable_of_matricesOr h hc hd hf hf' (hlinear c hc) (hlinear d hd)
      apply spreads_of_joinable hb hb' hjoin hspreads (hchecked d hd)
  · rintro (hsides | ⟨n, hspreads⟩)
    · apply exists_matricesOr_of_forall (S := fun t => t.shape.length = 1) _
        Block.joinable_of_single
      intro c hc hf
      obtain ⟨b, hb⟩ := hp.exists_block_of_hasSides (hsides c hc hf) (hlinear c hc) (hchecked c hc)
        (hvars c hc)
      use b, hb
      apply axes_of_hasSides hb (hsides c hc hf) (hchecked c hc)
    · apply exists_matricesOr_of_forall (S := fun t => t.shape = [1, n]) _
        (Block.joinable_of_shape_eq (s := [1, n]))
      intro c hc hf
      obtain ⟨b, hb⟩ := hp.exists_block_of_spreads (hspreads c hc hf) (hlinear c hc) (hvars c hc)
      use b, hb
      apply shape_of_spreads hb (hspreads c hc hf)

/-- The rows of a matrix that is extracted are those of the linear constraints of its family. -/
theorem rows_of_matricesOr {A : Matrix α} {t : Tensor α} (h : p.matricesOr f true = .ok (A, t)) :
  A.rows = ((p.family f).map fun x => if x.1.isLinear then x.1.rowCount else 0).sum
  := by
  obtain ⟨bs, hbs, rfl, -⟩ := exists_blocks_of_matricesOr h
  rw [Block.rows_stack, ← sum_rows_blocks hbs]
  apply ((Block.perm_ordered bs).map _).sum_eq

/-- The matrices of a reachable problem that is found to be linear. They are extracted exactly if
in each family the sides of each constraint are both scalar expressions or both vectors, or if
all constraints of the family spread to the same length. Their rows are then one for each scalar
constraint and one for each entry of a vector constraint. -/
theorem extraction_defined_iff (hp : p.Reachable) (hcheck : p.checkLinear = .ok ()) :
  ((∃ A b C d, p.matricesOr .inequalities true = .ok (A, b)
      ∧ p.matricesOr .equalities true = .ok (C, d))
    ↔ ∀ f : Family,
      (∀ c ∈ p.constraints, f.contains c.value.sense = true → c.value.HasSides)
        ∨ ∃ n, ∀ c ∈ p.constraints, f.contains c.value.sense = true → c.value.Spreads n)
  ∧ ∀ A b C d, p.matricesOr .inequalities true = .ok (A, b)
      → p.matricesOr .equalities true = .ok (C, d)
      → A.rows + C.rows = (p.constraints.map fun c => c.value.rowCount).sum
  := by
  obtain ⟨hchecked, hlinear⟩ := check_of_checkLinear hcheck
  constructor
  · simp only [← hp.numbered.exists_matricesOr_iff hchecked hlinear]
    constructor
    · rintro ⟨A, b, C, d, hA, hC⟩ f
      cases f with
      | inequalities => use A, b
      | equalities => use C, d
    · intro h
      obtain ⟨A, b, hA⟩ := h .inequalities
      obtain ⟨C, d, hC⟩ := h .equalities
      use A, b, C, d
  · intro A b C d hA hC
    rw [rows_of_matricesOr hA, rows_of_matricesOr hC,
      p.sum_families fun c => if c.isLinear then c.rowCount else 0]
    apply congrArg List.sum
    apply List.map_congr_left
    intro c hc
    rw [if_pos (hlinear c hc)]

/-- A problem with scalar and vector constraints, and both families. -/
theorem extraction_defined_iff_mixedForms :
  mixedForms.Reachable ∧ mixedForms.checkLinear = .ok ()
    ∧ ∃ A b C d, mixedForms.matricesOr .inequalities true = .ok (A, b)
      ∧ mixedForms.matricesOr .equalities true = .ok (C, d) ∧ A.rows + C.rows = 3
  := by
  have hreach : mixedForms.Reachable := ⟨_, _, rfl⟩
  have hcheck : mixedForms.checkLinear = .ok () := rfl
  have hsides : ∀ c ∈ mixedForms.constraints, c.value.HasSides := by
    intro c hc
    rcases List.mem_cons.mp hc with rfl | hc
    · apply Constraint.HasSides.scalars
    · rw [List.mem_singleton.mp hc]
      apply Constraint.HasSides.vectors
  obtain ⟨hiff, hrows⟩ := extraction_defined_iff hreach hcheck
  obtain ⟨A, b, C, d, hA, hC⟩ := hiff.mpr fun f => .inl fun c hc _ => hsides c hc
  use hreach, hcheck, A, b, C, d, hA, hC
  apply hrows A b C d hA hC

/-- A problem with a scalar constraint whose left side is a vector. -/
def vectorInScalarForm : Problem ℚ :=
  (empty (.text "vector")).run [
    .addVariable .binary (.text "x") 0,
    .addConstraint (.constraint ⟨1, .scalar, .vector ⟨.vars [loneVariable], .column⟩,
      .scalar (.const 1), .lessEqual⟩),
    .setObjective (.expression (.scalar (.var loneVariable))) .minimize]

/-- The check of a linear problem does not find a vector in a scalar constraint, which has no row
then. -/
theorem extraction_refused_vectorInScalarForm :
  vectorInScalarForm.Reachable ∧ vectorInScalarForm.checkLinear = .ok ()
    ∧ vectorInScalarForm.matricesOr .inequalities true
      = .error (.lacks "VarVector" "coefficients")
  := by
  use ⟨_, _, rfl⟩
  exact ⟨rfl, rfl⟩

end Problem

end QuadraticProgram
