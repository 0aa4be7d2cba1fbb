import QuadraticProgram.Proofs.Constraint.Comparison
import QuadraticProgram.Proofs.Constraint.Rows
import QuadraticProgram.Proofs.Problem.Blocks
import QuadraticProgram.Proofs.Problem.Families

/-!
# The feasible set in matrices

The matrices of a problem describe the points that satisfy its linear constraints. Each linear
constraint that a comparison gives is turned into a block, which holds at a point exactly if
the constraint is satisfied there; every block stands in the matrix of its family, and every
sense belongs to a family (`Problem.matrices_hold_iff_satisfied`).
-/

namespace QuadraticProgram

open QuadraticProgram.Alignment

/-! ### Points -/

/-- The assignment that gives the identifiers below the length of a list its entries. -/
def assignmentOf (y : List ℚ) : ℕ → Option ℚ := fun id => y[id]?

/-- The assignment of a list gives each number the entry at its position. -/
theorem pointOf_assignmentOf (y : List ℚ) (id : ℕ) :
  pointOf (assignmentOf y) id = y.getD id 0
  := (List.getD_eq_getElem?_getD ..).symm

/-- The assignment of a list covers the variables with numbers below its length. -/
theorem covers_assignmentOf {y : List ℚ} {n : ℕ} (hy : y.length = n) {vs : List Variable}
    (h : ∀ v ∈ vs, v.id < n) :
  Covers (assignmentOf y) vs
  := by
  intro v hv
  simp [assignmentOf, hy, h v hv]

namespace Problem

variable {p : Problem ℚ}

/-! ### Columns -/

/-- The columns of a problem carry the values of its variables. -/
theorem Numbered.carries (hp : p.Numbered) {vs : List Variable}
    (h : ∀ v ∈ vs, v.id < p.vars.length) (y : List ℚ) :
  p.columnPositions.Carries vs (pointOf (assignmentOf y)) y
  := by
  intro axis v hv k hk
  cases (hp.index_eq_ok axis (h v hv)).symm.trans hk
  rw [pointOf_assignmentOf]

/-! ### Blocks of constraints -/

/-- The row of a linear constraint between scalar expressions. It holds at a point exactly if the
point satisfies the constraint. -/
theorem Numbered.exists_scalarBlock (hp : p.Numbered) {a b : Scalar ℚ} (s : Sense)
    (ha : a.degree ≤ 1) (hb : b.degree ≤ 1)
    (hvars : ∀ v ∈ a.vars ++ b.vars, v.id < p.vars.length) :
  ∃ block : Block ℚ p.width,
    ((Constraint.ofScalars a s b).linearRow p.columnPositions).map .ofRow = .ok block
    ∧ block.Sized ∧ ∀ y : List ℚ, y.length = p.vars.length →
        (block.Holds s y ↔ (Constraint.ofScalars a s b).Satisfied (assignmentOf y))
  := by
  obtain ⟨r, t, hr, ht, hvalue⟩ := Constraint.exists_linearRow (s := s) ha hb (hp.finds hvars)
  use .ofRow r
  constructor
  · rw [hr]
    rfl
  · use Block.sized_ofRow ht
    intro y hy
    obtain ⟨hleft, hright⟩ := covers_append.mp (covers_assignmentOf hy hvars)
    apply (Block.holds_ofRow ht (hvalue _ y (hp.carries hvars y))).trans
    apply (Constraint.satisfied_ofScalars_iff hleft hright).symm

/-- The rows of a constraint between vectors of one shape. They hold at a point exactly if the
point satisfies the constraint. -/
theorem Numbered.exists_vectorBlock (hp : p.Numbered) {u v : Vec ℚ} (s : Sense)
    (hl : u.length = v.length) (ho : u.orientation = v.orientation)
    (hvars : ∀ w ∈ u.vars ++ v.vars, w.id < p.vars.length) :
  ∃ block : Block ℚ p.width,
    ((Constraint.ofVectors u s v).linearRows p.columnPositions).map .ofRows = .ok block
    ∧ block.Sized ∧ ∀ y : List ℚ, y.length = p.vars.length →
        (block.Holds s y ↔ (Constraint.ofVectors u s v).Satisfied (assignmentOf y))
  := by
  obtain ⟨r, ts, hr, ht, hrows, hlength, hvalue⟩ :=
    Constraint.exists_linearRows (s := s) hl ho (hp.finds hvars)
  have hsize : ts.length = r.coefficients.rows := by
    rw [hlength, hrows]
  use .ofRows r
  constructor
  · rw [hr]
    rfl
  · use Block.sized_ofRows ht hsize
    intro y hy
    obtain ⟨hleft, hright⟩ := covers_append.mp (covers_assignmentOf hy hvars)
    apply (Block.holds_ofRows ht hsize (hrows ▸ hvalue _ y (hp.carries hvars y))).trans
    rw [hrows]
    apply (Constraint.satisfied_ofVectors_iff hl hleft hright).symm

/-- The block of a linear constraint that a comparison gives. It holds at a point in the sense of
the constraint exactly if the point satisfies it. -/
theorem Numbered.exists_block (hp : p.Numbered) {c : Constraint ℚ} (hc : c.IsComparison)
    (hlinear : c.isLinear = true)
    (hvars : ∀ v ∈ c.lhs.vars ++ c.rhs.vars, v.id < p.vars.length) :
  ∃ b : Block ℚ p.width, p.block? c = .ok (some (b.signed c.sense)) ∧ b.Sized
    ∧ ∀ y : List ℚ, y.length = p.vars.length →
        (b.Holds c.sense y ↔ c.Satisfied (assignmentOf y))
  := by
  rw [block?, if_pos hlinear]
  rcases hc.sides with ⟨a, s, b, rfl⟩ | ⟨u, s, v, hl, ho, rfl⟩
  · obtain ⟨ha, hb⟩ := Constraint.isLinear_ofScalars.mp hlinear
    obtain ⟨block, hblock, hholds⟩ := hp.exists_scalarBlock s ha hb hvars
    use block
    constructor
    · exact Outcome.bind_eq_ok_iff.mpr ⟨block, hblock, rfl⟩
    · apply hholds
  · obtain ⟨block, hblock, hholds⟩ := hp.exists_vectorBlock s hl ho hvars
    use block
    constructor
    · exact Outcome.bind_eq_ok_iff.mpr ⟨block, hblock, rfl⟩
    · apply hholds

/-- Blocks with one bound for each row that all hold in a sense exactly at the points, with a
value for each variable, of some set. -/
structure Describe (p : Problem ℚ) (s : Sense) (bs : List (Block ℚ p.width))
    (points : Set (List ℚ)) : Prop where
  sized : ∀ b ∈ bs, b.Sized
  holds_iff : ∀ y : List ℚ, y.length = p.vars.length →
    ((∀ b ∈ bs, b.Holds s y) ↔ y ∈ points)

/-- The points that satisfy a constraint if it is linear. -/
def satisfying (c : Constraint ℚ) : Set (List ℚ) :=
  { y | c.isLinear = true → c.Satisfied (assignmentOf y) }

/-- What a constraint adds to the matrix of its family: its block if it is linear, nothing
otherwise. -/
theorem Numbered.exists_block? (hp : p.Numbered) {c : Constraint ℚ} (hc : c.IsComparison)
    (hvars : ∀ v ∈ c.lhs.vars ++ c.rhs.vars, v.id < p.vars.length) {f : Family}
    (hf : f.contains c.sense = true) :
  ∃ o, p.block? c = .ok o ∧ p.Describe f.sense o.toList (satisfying c)
  := by
  by_cases hlinear : c.isLinear = true
  · obtain ⟨b, hb, hsized, hholds⟩ := hp.exists_block hc hlinear hvars
    use some (b.signed c.sense), hb
    constructor
    · intro b' hb'
      rw [List.mem_singleton.mp hb']
      apply Block.sized_signed_iff.mpr hsized
    · intro y hy
      rw [Option.toList_some, List.forall_mem_singleton, Block.holds_signed hf, hholds y hy]
      constructor
      · intro h _
        apply h
      · intro h
        apply h hlinear
  · use none
    constructor
    · rw [block?, if_neg hlinear]
      rfl
    · constructor
      · simp
      · intro y _
        simp [satisfying, hlinear]

/-- The blocks of some constraints describe the points that satisfy the linear ones of them. -/
theorem exists_blocks {s : Sense} {cs : List (Constraint ℚ × ℕ)}
    (h : ∀ x ∈ cs, ∃ o, p.block? x.1 = .ok o ∧ p.Describe s o.toList (satisfying x.1)) :
  ∃ found, cs.mapM (fun x => p.block? x.1) = .ok found
    ∧ p.Describe s (found.filterMap id) { y | ∀ x ∈ cs, y ∈ satisfying x.1 }
  := by
  induction cs with
  | nil =>
      use [], rfl
      constructor
      · simp
      · simp
  | cons x cs ih =>
      rw [List.forall_mem_cons] at h
      obtain ⟨⟨o, ho, hx⟩, hcs⟩ := h
      obtain ⟨found, hfound, hrest⟩ := ih hcs
      have happend : (o :: found).filterMap id = o.toList ++ found.filterMap id := by
        cases o with
        | none => rfl
        | some b => rfl
      use o :: found
      constructor
      · rw [List.mapM_cons, ho, hfound]
        rfl
      · rw [happend]
        constructor
        · rw [List.forall_mem_append]
          use hx.sized, hrest.sized
        · intro y hy
          rw [List.forall_mem_append, hx.holds_iff y hy, hrest.holds_iff y hy, Set.mem_ofPred_eq,
            Set.mem_ofPred_eq, List.forall_mem_cons]

/-! ### Families -/

/-- The blocks of a family describe the points that satisfy its linear constraints. -/
theorem Numbered.exists_familyBlocks (hp : p.Numbered) (f : Family)
    (hc : ∀ c ∈ p.constraints, c.value.IsComparison)
    (hvars : ∀ c ∈ p.constraints, ∀ v ∈ c.value.lhs.vars ++ c.value.rhs.vars,
      v.id < p.vars.length) :
  ∃ bs, p.blocks f = .ok bs ∧ p.Describe f.sense bs
    { y | ∀ c ∈ p.constraints, f.contains c.value.sense = true → y ∈ satisfying c.value }
  := by
  have hfamily : ∀ x ∈ p.family f,
      ∃ o, p.block? x.1 = .ok o ∧ p.Describe f.sense o.toList (satisfying x.1) := by
    apply (forall_mem_family (Q := fun c =>
      ∃ o, p.block? c = .ok o ∧ p.Describe f.sense o.toList (satisfying c))).mpr
    intro c hmem hf
    apply hp.exists_block? (hc c hmem) (hvars c hmem) hf
  obtain ⟨found, hfound, hdescribe⟩ := exists_blocks hfamily
  use found.filterMap id
  constructor
  · apply Outcome.bind_eq_ok_iff.mpr
    use found, hfound
    rfl
  · use hdescribe.sized
    intro y hy
    apply (hdescribe.holds_iff y hy).trans
    apply forall_mem_family (Q := fun c => y ∈ satisfying c)

/-- The matrix that some blocks make, those of the scalar constraints first. -/
theorem exists_matrices_of_blocks {f : Family} {bs : List (Block ℚ p.width)}
    (hblocks : p.blocks f = .ok bs) {points : Set (List ℚ)} (h : p.Describe f.sense bs points) :
  ∃ A t, p.matricesOr f true = .ok (A, t) ∧ A.cols = p.width ∧ t.shape = [A.rows]
    ∧ ∀ y : List ℚ, y.length = p.vars.length →
        (f.sense.HoldsAll (A.mulVec y) t.entries ↔ y ∈ points)
  := by
  have hordered := fun b hb => h.sized b (Block.mem_ordered.mp hb)
  obtain ⟨t, ht, hentries, hshape⟩ := Block.exists_joinBounds hordered
  use Matrix.stack p.width ((Block.ordered bs).map Block.rows), t, matricesOr_of_blocks hblocks ht,
    rfl, hshape
  intro y hy
  rw [hentries, Block.holdsAll_stack hordered]
  simp only [Block.mem_ordered]
  apply h.holds_iff y hy

/-- The matrix of a family. Its rows stand to their bounds at a point exactly if the point
satisfies the linear constraints of the family. -/
theorem Numbered.exists_matrices (hp : p.Numbered) (f : Family)
    (hc : ∀ c ∈ p.constraints, c.value.IsComparison)
    (hvars : ∀ c ∈ p.constraints, ∀ v ∈ c.value.lhs.vars ++ c.value.rhs.vars,
      v.id < p.vars.length) :
  ∃ A t, p.matricesOr f true = .ok (A, t) ∧ A.cols = p.vars.length ∧ t.shape = [A.rows]
    ∧ ∀ y : List ℚ, y.length = p.vars.length →
        (f.sense.HoldsAll (A.mulVec y) t.entries
          ↔ ∀ c ∈ p.constraints, f.contains c.value.sense = true → y ∈ satisfying c.value)
  := by
  obtain ⟨bs, hblocks, hdescribe⟩ := hp.exists_familyBlocks f hc hvars
  obtain ⟨A, t, hA, hcols, hholds⟩ := exists_matrices_of_blocks hblocks hdescribe
  use A, t, hA, hcols.trans hp.width_eq
  apply hholds

/-! ### The feasible set -/

/-- The matrices of the inequalities and of the equalities of a reachable problem that passes its
check. At a point with a value for each variable their rows stand to their bounds, at most and
equal, exactly if the point satisfies every linear constraint of the problem. -/
theorem matrices_hold_iff_satisfied (hp : p.Reachable)
    (hc : ∀ c ∈ p.constraints, c.value.IsComparison) (hcheck : p.check = .ok ()) :
  ∃ A b C d, p.matricesOr .inequalities true = .ok (A, b)
    ∧ p.matricesOr .equalities true = .ok (C, d)
    ∧ A.cols = p.vars.length ∧ b.shape = [A.rows] ∧ C.cols = p.vars.length ∧ d.shape = [C.rows]
    ∧ ∀ y : List ℚ, y.length = p.vars.length →
        (Sense.lessEqual.HoldsAll (A.mulVec y) b.entries
          ∧ Sense.equal.HoldsAll (C.mulVec y) d.entries
        ↔ ∀ c ∈ p.constraints, c.value.isLinear = true → c.value.Satisfied (assignmentOf y))
  := by
  have hvars := fun c hmem v => hp.numbered.lt_of_check hcheck (c := c) hmem (v := v)
  obtain ⟨A, b, hA, hcols, hshape, hleft⟩ := hp.numbered.exists_matrices .inequalities hc hvars
  obtain ⟨C, d, hC, hcols', hshape', hright⟩ := hp.numbered.exists_matrices .equalities hc hvars
  use A, b, C, d, hA, hC, hcols, hshape, hcols', hshape'
  intro y hy
  constructor
  · rintro ⟨hAy, hCy⟩ c hmem
    rcases Family.contains_or c.value.sense with hf | hf
    · apply (hleft y hy).mp hAy c hmem hf
    · apply (hright y hy).mp hCy c hmem hf
  · intro h
    constructor
    · apply (hleft y hy).mpr
      intro c hmem _
      apply h c hmem
    · apply (hright y hy).mpr
      intro c hmem _
      apply h c hmem

/-- A binary variable. -/
def firstOfPair : Variable := ⟨0, 0.0, 1.0, .binary, .text "x", 0⟩

/-- Another binary variable. -/
def secondOfPair : Variable := ⟨1, 0.0, 1.0, .binary, .text "y", 1⟩

/-- The problem to minimise the first of two equal variables that is at least one. -/
def equalPair : Problem ℚ :=
  (empty (.text "pair")).run [
    .addVariable .binary (.text "x") 0,
    .addVariable .binary (.text "y") 1,
    .addConstraint (.constraint ⟨2, .ofScalars (.var firstOfPair) .greaterEqual (.const 1)⟩),
    .addConstraint (.constraint ⟨3, (VariablePair.mk firstOfPair secondOfPair).toConstraint⟩),
    .setObjective (.expression (.scalar (.var firstOfPair))) .minimize]

/-- A problem with an inequality, and with an equality between two variables. -/
theorem matrices_hold_iff_satisfied_equalPair :
  equalPair.Reachable ∧ (∀ c ∈ equalPair.constraints, c.value.IsComparison)
    ∧ equalPair.check = .ok ()
    ∧ ∃ A b C d, equalPair.matricesOr .inequalities true = .ok (A, b)
      ∧ equalPair.matricesOr .equalities true = .ok (C, d)
      ∧ A.cols = 2 ∧ b.shape = [A.rows] ∧ C.cols = 2 ∧ d.shape = [C.rows]
      ∧ ∀ y : List ℚ, y.length = 2 →
          (Sense.lessEqual.HoldsAll (A.mulVec y) b.entries
            ∧ Sense.equal.HoldsAll (C.mulVec y) d.entries
          ↔ ∀ c ∈ equalPair.constraints,
              c.value.isLinear = true → c.value.Satisfied (assignmentOf y))
  := by
  have hreach : equalPair.Reachable := ⟨_, _, rfl⟩
  have hcomparison : ∀ c ∈ equalPair.constraints, c.value.IsComparison := by
    intro c hc
    rcases List.mem_cons.mp hc with rfl | hc
    · have h : Sense.greaterEqual.compare? (.expression (.scalar (.var firstOfPair)))
            (.number (.integer 1))
          = some (.ok (.constraint (.ofScalars (.var firstOfPair) .greaterEqual (.const (1 : ℚ)))))
        := rfl
      exact .constraint h
    · rw [List.mem_singleton.mp hc]
      have h : Sense.equal.compare? (α := ℚ) (.expression (.scalar (.var firstOfPair)))
            (.expression (.scalar (.var secondOfPair)))
          = some (.ok (.pair ⟨firstOfPair, secondOfPair⟩))
        := rfl
      exact .pair h
  have hcheck : equalPair.check = .ok () := rfl
  use hreach, hcomparison, hcheck
  apply matrices_hold_iff_satisfied hreach hcomparison hcheck

end Problem

end QuadraticProgram
