import QuadraticProgram.Proofs.Constraint.Exactness

/-!
# Constraints entry by entry

A vector constraint says what the scalar constraints on its entries say, and a scalar constraint
is its own single entry (`Constraint.byEntry`). Both are normalised to the same rows, up to the
order of the coefficients (`NormalRow.Same`), so it makes no difference to the test for
implication how constraints are grouped (`Constraint.implies_iff_byEntry`).
-/

namespace QuadraticProgram

/-! ### Rows in another order -/

namespace NormalRow

variable {l l' m m' : List (ℕ × ℚ)} {r r' q q' : NormalRow ℚ}

/-- Whether two rows are the same up to the order of their coefficients. -/
structure Same (r q : NormalRow ℚ) : Prop where
  perm_coefficients : r.coefficients.Perm q.coefficients
  bound_eq : r.bound = q.bound
  isEquality_eq : r.isEquality = q.isEquality

theorem Same.symm (h : r.Same q) :
  q.Same r
  := ⟨h.perm_coefficients.symm, h.bound_eq.symm, h.isEquality_eq.symm⟩

/-- The order of the entries on the left plays no part in the comparison of coefficients. -/
theorem sameCoefficients_congr_left (h : l.Perm l') :
  sameCoefficients l m = sameCoefficients l' m
  := by
  rw [sameCoefficients, sameCoefficients, h.length_eq, h.all_eq]

/-- The coefficient of an identifier that occurs once does not depend on the order. -/
theorem lookup_congr (hm : (m.map Prod.fst).Nodup) (h : m.Perm m') (id : ℕ) :
  m.lookup id = m'.lookup id
  := by
  have hm' : (m'.map Prod.fst).Nodup := (h.map Prod.fst).nodup hm
  rcases hb : m.lookup id with - | b
  · rw [List.lookup_eq_none_iff] at hb
    rw [eq_comm, List.lookup_eq_none_iff]
    intro p hp
    apply hb p (h.mem_iff.mpr hp)
  · obtain ⟨before, after, rfl, -⟩ := List.lookup_eq_some_iff.mp hb
    have hmem : (id, b) ∈ m' := h.subset (List.mem_append_right before List.mem_cons_self)
    rw [lookup_of_mem hm' hmem]

/-- The order of the entries on the right plays no part if they are for different variables. -/
theorem sameCoefficients_congr_right (hm : (m.map Prod.fst).Nodup) (h : m.Perm m') :
  sameCoefficients l m = sameCoefficients l m'
  := by
  simp only [sameCoefficients, h.length_eq, lookup_congr hm h]

/-- Verdicts on rows do not depend on the order of the coefficients of the first row. -/
theorem implies_congr_left (h : r.Same r') (q : NormalRow ℚ) :
  r.implies q = r'.implies q
  := by
  obtain ⟨l, t, e⟩ := r
  obtain ⟨l', t', e'⟩ := r'
  obtain ⟨hl, rfl, rfl⟩ := h
  rw [implies, implies, sameCoefficients_congr_left hl, sameCoefficients_congr_left (hl.map _)]

/-- Verdicts on rows do not depend on the order of the coefficients of the second row. -/
theorem implies_congr_right (hq : q.Proper) (h : q.Same q') (r : NormalRow ℚ) :
  r.implies q = r.implies q'
  := by
  obtain ⟨m, u, f⟩ := q
  obtain ⟨m', u', f'⟩ := q'
  obtain ⟨hm, rfl, rfl⟩ := h
  rw [implies, implies, sameCoefficients_congr_right hq.nodup_ids hm,
    sameCoefficients_congr_right hq.nodup_ids hm]

/-- Rows are the same if they read forms and bounds that are the same up to the signs of their
senses, and both or neither read equalities. -/
theorem Reads.same {s s' : Sense} {f g : (ℕ → ℚ) → ℚ} {t u : ℚ} (hr : r.Reads s f t)
    (hq : q.Reads s' g u) (hform : ∀ x, s.sign * f x = s'.sign * g x)
    (hbound : s.sign * t = s'.sign * u) (hequal : s = .equal ↔ s' = .equal) :
  r.Same q
  := by
  constructor
  · apply perm_of_sumAt_single hr.nodup_ids hr.ne_zero hq.nodup_ids hq.ne_zero
    intro id
    rw [hr.sumAt_eq, hq.sumAt_eq, hform]
  · rw [hr.bound_eq, hq.bound_eq, hbound]
  · rw [Bool.eq_iff_iff, hr.isEquality_iff, hq.isEquality_iff, hequal]

end NormalRow

namespace Constraint

/-! ### Entries as constraints -/

/-- The scalar constraints on the entries of a vector constraint. A scalar constraint is its own
single entry. -/
def byEntry {α : Type} [Coefficient α] (c : Constraint α) :
    Except Error (List (Constraint α)) :=
  match c.form with
  | .scalar => .ok [c]
  | .vector => do (List.range (← c.length)).mapM fun (i : ℕ) => c.at? i

/-- An entry of a comparison of vectors compares the entries. -/
theorem at?_ofVectors {u v : Vec ℚ} {s : Sense} {i : ℤ} {k : ℕ} (hl : u.length = v.length)
    (hk : position? i u.length = some k) :
  (ofVectors u s v).at? i
    = .ok (ofScalars (u.entry k (position?_lt hk)) s (v.entry k (hl ▸ position?_lt hk)))
  := by
  have hleft := Vec.at?_eq_ok hk
  have hright := Vec.at?_eq_ok (v := v) (hl ▸ hk)
  change (u.at? i >>= fun a => v.at? i >>= fun b => .ok (ofScalars a s b)) = _
  rw [hleft, Outcome.ok_bind, hright, Outcome.ok_bind]

/-- A comparison consists of the comparisons of its entries. -/
theorem IsComparison.byEntry_eq {c : Constraint ℚ} (hc : c.IsComparison) :
  c.byEntry = .ok (c.entries.map fun p => ofScalars p.1 c.sense p.2)
  := by
  rcases hc.sides with ⟨a, s, b, rfl⟩ | ⟨u, s, v, hl, -, rfl⟩
  · rfl
  · change (List.range u.length).mapM (fun (i : ℕ) => (ofVectors u s v).at? i) = _
    rw [entries_ofVectors hl, List.map_map, ← List.map_coe_finRange_eq_range, List.mapM_map]
    apply Outcome.mapM_eq_ok
    intro i _
    apply at?_ofVectors hl (position?_natCast i.isLt)

/-! ### Rows of the entries -/

variable {c d : Constraint ℚ} {r q : NormalRow ℚ} {rows others : List (NormalRow ℚ)}

/-- A single row decides alone. -/
theorem implies_eq_of_row (hlinear : (c.isLinear && d.isLinear) = true)
    (hc : c.normalRows = .ok [r]) (hd : d.normalRows = .ok others) :
  c.implies d = others.allM fun q => r.implies q
  := by
  rw [implies, if_pos hlinear, hc, hd]
  simp only [Outcome.ok_bind, Outcome.anyM_singleton]

/-- A linear constraint with a single row, which is the same as a given proper one. -/
structure HasRow (c : Constraint ℚ) (r : NormalRow ℚ) : Prop where
  isLinear : c.isLinear = true
  proper : r.Proper
  exists_same : ∃ q, c.normalRows = .ok [q] ∧ q.Same r

/-- The verdict on constraints with one row each is that on their rows. -/
theorem HasRow.implies_eq (hc : c.HasRow r) (hd : d.HasRow q) :
  c.implies d = r.implies q
  := by
  obtain ⟨r', hr', hr⟩ := hc.exists_same
  obtain ⟨q', hq', hq⟩ := hd.exists_same
  have hlinear : (c.isLinear && d.isLinear) = true := by
    rw [hc.isLinear, hd.isLinear]
    rfl
  rw [implies_eq_of_row hlinear hr' hq', Outcome.allM_singleton,
    NormalRow.implies_congr_left hr, NormalRow.implies_congr_right hd.proper hq.symm]

/-- The constraint on an entry has the row that reads the entry. -/
theorem hasRow_of_reads {p : Scalar ℚ × Scalar ℚ} {s : Sense} (hleft : p.1.degree ≤ 1)
    (hright : p.2.degree ≤ 1) (h : r.Reads s (movedValue · p) (movedBound p)) :
  (ofScalars p.1 s p.2).HasRow r
  := by
  have hlinear : (ofScalars p.1 s p.2).isLinear = true := isLinear_ofScalars.mpr ⟨hleft, hright⟩
  obtain ⟨rows, hrows, hread⟩ := (isComparison_ofScalars p.1 s p.2).exists_normalRows hlinear
  obtain ⟨q, rfl, hq⟩ := readBy_ofScalars_iff.mp hread
  constructor
  · apply hlinear
  · apply h.proper
  · use q, hrows
    apply hq.same h (fun _ => rfl) rfl Iff.rfl

/-- A linear comparison has a row for each entry, and it is the row of the constraint on that
entry. -/
theorem IsComparison.exists_rows_byEntry (hc : c.IsComparison) (hlinear : c.isLinear = true) :
  ∃ rows cs, c.normalRows = .ok rows ∧ c.byEntry = .ok cs ∧ List.Forall₂ HasRow cs rows
  := by
  obtain ⟨rows, hrows, hread⟩ := hc.exists_normalRows hlinear
  use rows, c.entries.map fun p => ofScalars p.1 c.sense p.2, hrows, hc.byEntry_eq
  rw [List.forall₂_map_left_iff]
  have hdegree : ∀ p ∈ c.entries, p.1.degree ≤ 1 ∧ p.2.degree ≤ 1 := fun p hp =>
    degree_le_of_mem_entries hc hlinear hp
  apply ((List.forall₂_and_left _ _).mpr ⟨hdegree, hread⟩).imp
  rintro p r ⟨⟨hleft, hright⟩, hreads⟩
  apply hasRow_of_reads hleft hright hreads

/-- The rows of scalar constraints have numbers for their bounds. -/
theorem proper_of_hasRow {cs : List (Constraint ℚ)} (h : List.Forall₂ HasRow cs rows) :
  ∀ r ∈ rows, r.Proper
  := by
  apply Outcome.forall_mem_of_forall₂ (R := fun _ => True) h fun _ _ hr _ => hr.proper
  simp

/-- Constraints that have rows have a verdict on each other. -/
theorem exists_implies_of_hasRow {cs ds : List (Constraint ℚ)} (hc : List.Forall₂ HasRow cs rows)
    (hd : List.Forall₂ HasRow ds others) :
  ∀ e ∈ cs, ∀ e' ∈ ds, ∃ b, e.implies e' = .ok b
  := by
  intro e he e' he'
  obtain ⟨r, -, hr⟩ := Outcome.exists_mem_of_forall₂ hc he
  obtain ⟨q, -, hq⟩ := Outcome.exists_mem_of_forall₂ hd he'
  rw [hr.implies_eq hq]
  apply NormalRow.exists_implies hr.proper hq.proper

/-- The test for implication asks of every entry of the other constraint whether the constraint on
it is implied by the one on some entry. The rows of a constraint are those of the constraints on
its entries, up to the order of their coefficients. -/
theorem implies_iff_byEntry (hc : c.HasSides) (hd : d.HasSides) (hccheck : c.check = .ok ())
    (hdcheck : d.check = .ok ()) (hclinear : c.isLinear = true) (hdlinear : d.isLinear = true) :
  ∃ cs ds, c.byEntry = .ok cs ∧ d.byEntry = .ok ds
    ∧ (∃ rows, c.normalRows = .ok rows ∧ List.Forall₂ HasRow cs rows)
    ∧ (∃ others, d.normalRows = .ok others ∧ List.Forall₂ HasRow ds others)
    ∧ (∀ e ∈ cs, ∀ e' ∈ ds, ∃ b, e.implies e' = .ok b)
    ∧ ∃ b, c.implies d = .ok b
      ∧ (b = true ↔ ∀ e' ∈ ds, ∃ e ∈ cs, e.implies e' = .ok true)
  := by
  obtain ⟨rows, cs, hrows, hcs, hread⟩ :=
    (hc.isComparison hccheck).exists_rows_byEntry hclinear
  obtain ⟨others, ds, hothers, hds, hread'⟩ :=
    (hd.isComparison hdcheck).exists_rows_byEntry hdlinear
  have hlinear : (c.isLinear && d.isLinear) = true := by
    rw [hclinear, hdlinear]
    rfl
  obtain ⟨b, hb, hiff⟩ := exists_implies_of_rows hlinear hrows (proper_of_hasRow hread) hothers
    (proper_of_hasRow hread')
  refine ⟨cs, ds, hcs, hds, ⟨rows, hrows, hread⟩, ⟨others, hothers, hread'⟩, ?_, b, hb, ?_⟩
  · apply exists_implies_of_hasRow hread hread'
  · rw [hiff]
    apply Outcome.forall_mem_iff_of_forall₂ hread'
    intro e' q hq
    apply Outcome.exists_mem_iff_of_forall₂ hread
    intro e r hr
    rw [hr.implies_eq hq]

/-- One variable is at most one and another one at most two. -/
def boundedEach : Constraint ℚ :=
  ofVectors ⟨.vars [minuend, subtrahend], .column⟩ .lessEqual ⟨.const [1, 2], .column⟩

/-- The second of the variables is at most three. -/
def boundedLast : Constraint ℚ := ofScalars (.var subtrahend) .lessEqual (.const 3)

/-- Two bounded variables, and the second of them alone. -/
theorem implies_iff_byEntry_boundedEach :
  boundedEach.HasSides ∧ boundedLast.HasSides ∧ boundedEach.check = .ok ()
    ∧ boundedLast.check = .ok () ∧ boundedEach.isLinear = true ∧ boundedLast.isLinear = true
    ∧ boundedEach.implies boundedLast = .ok true
    ∧ ∃ cs, boundedEach.byEntry = .ok cs ∧ ∃ e ∈ cs, e.implies boundedLast = .ok true
  := by
  have hc : boundedEach.HasSides := .vectors ..
  have hd : boundedLast.HasSides := .scalars ..
  have hccheck : boundedEach.check = .ok () := rfl
  have hdcheck : boundedLast.check = .ok () := by
    apply Outcome.eq_ok_of_toOption
    decide +kernel
  have htrue : boundedEach.implies boundedLast = .ok true := by
    apply Outcome.eq_ok_of_toOption
    decide +kernel
  refine ⟨hc, hd, hccheck, hdcheck, rfl, rfl, htrue, ?_⟩
  obtain ⟨cs, ds, hcs, hds, -, -, -, b, hb, hiff⟩ :=
    implies_iff_byEntry hc hd hccheck hdcheck rfl rfl
  cases hds
  rw [htrue] at hb
  use cs, hcs
  apply hiff.mp (Except.ok.inj hb).symm boundedLast List.mem_cons_self

end Constraint

end QuadraticProgram
