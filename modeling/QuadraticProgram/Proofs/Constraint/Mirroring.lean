import QuadraticProgram.Proofs.Constraint.Grouping

/-!
# Exchanged sides

A constraint says the same with its sides exchanged (`Constraint.mirrored`). If it is an inequality
its rows are the same as well, up to the order of the coefficients; if it is an equality all their
signs are changed (`NormalRow.negated`). The test for implication tries an equality with both signs
on an upper bound, but not on an equality. So its verdicts depend on the side on which an equality
was written beside another equality, and beside an upper bound where no coefficient tells the two
signs apart, and nowhere else (`Constraint.implies_mirrored`, `Constraint.implies_depends_on_side`).
-/

namespace QuadraticProgram

/-! ### Opposite rows -/

namespace Coefficient

variable {a b : ℚ}

/-- A change of both signs keeps what is close. -/
theorem close_neg (a b : ℚ) :
  close (-a) (-b) = close a b
  := by
  rw [Bool.eq_iff_iff, close_iff, close_iff, neg_inj, abs_neg, abs_neg, neg_sub_neg, abs_sub_comm]

/-- Only zero is close to a number and to its opposite. -/
theorem eq_zero_of_close_of_close_neg (h : close a b = true) (hneg : close (-a) b = true) :
  a = 0
  := by
  have hle := abs_sub_le_of_close h
  have hle' := abs_sub_le_of_close hneg
  have hdouble : 2 * |b| ≤ 2 * (slack * |b|) := by
    calc 2 * |b| = |(b - a) + (b - -a)| := by
          rw [sub_add_sub_comm, add_neg_cancel, sub_zero, ← two_mul, abs_mul, abs_two]
      _ ≤ |b - a| + |b - -a| := abs_add_le _ _
      _ ≤ 2 * (slack * |b|) := by linarith
  have hb : b = 0 := by
    rw [slack] at hdouble
    apply abs_nonpos_iff.mp
    linarith
  rw [hb, abs_zero, mul_zero, zero_sub, abs_neg, abs_nonpos_iff] at hle
  apply hle

end Coefficient

namespace NormalRow

variable {l m : List (ℕ × ℚ)} {r q : NormalRow ℚ} {t : ℚ}

/-- The row with all signs changed. -/
def negated (r : NormalRow ℚ) : NormalRow ℚ :=
  ⟨r.coefficients.map fun (id, a) => (id, -a), r.bound.negated, r.isEquality⟩

/-- With all signs changed a row reads the opposite values. -/
theorem Reads.negated {f : (ℕ → ℚ) → ℚ} (h : r.Reads .equal f t) :
  r.negated.Reads .equal (fun x => -f x) (-t)
  := by
  have hmem : ∀ p ∈ r.negated.coefficients, ∃ q ∈ r.coefficients, (q.1, -q.2) = p := fun p hp =>
    List.mem_map.mp hp
  constructor
  · rw [NormalRow.negated, h.bound_eq, mul_neg]
    rfl
  · apply h.isEquality_iff
  · rw [NormalRow.negated, List.map_map]
    apply h.nodup_ids
  · intro p hp
    obtain ⟨q, hq, rfl⟩ := hmem p hp
    apply neg_ne_zero.mpr (h.ne_zero q hq)
  · intro x
    rw [NormalRow.negated, sumAt_neg, h.sumAt_eq, mul_neg]

theorem lookup_neg (m : List (ℕ × ℚ)) (id : ℕ) :
  (m.map fun (id, a) => (id, -a)).lookup id = (m.lookup id).map (- ·)
  := by
  induction m with
  | nil => rfl
  | cons p m ih =>
      rw [List.map_cons, List.lookup_cons, List.lookup_cons, ih]
      cases id == p.1 <;> rfl

/-- A change of all signs on both sides keeps the comparison of coefficients. -/
theorem sameCoefficients_neg (l m : List (ℕ × ℚ)) :
  sameCoefficients (l.map fun (id, a) => (id, -a)) (m.map fun (id, a) => (id, -a))
    = sameCoefficients l m
  := by
  rw [sameCoefficients, sameCoefficients, List.length_map, List.length_map, List.all_map]
  congr 1
  apply List.all_congr rfl
  rintro ⟨id, a⟩
  simp only [Function.comp_apply, lookup_neg]
  cases m.lookup id with
  | none => rfl
  | some b => apply Coefficient.close_neg

/-- Coefficients that are not zero are not both the same as others and opposite to them. -/
theorem eq_nil_of_sameCoefficients_neg (hzero : ∀ p ∈ l, p.2 ≠ 0) (h : sameCoefficients l m = true)
    (hneg : sameCoefficients (l.map fun (id, a) => (id, -a)) m = true) :
  l = []
  := by
  rw [List.eq_nil_iff_forall_not_mem]
  intro p hp
  apply hzero p hp
  rw [sameCoefficients, Bool.and_eq_true, List.all_eq_true] at h hneg
  have hclose := h.2 p hp
  have hclose' := hneg.2 (p.1, -p.2) (List.mem_map_of_mem hp)
  cases hb : m.lookup p.1 with
  | none => simp [hb] at hclose
  | some b =>
      simp only [hb] at hclose hclose'
      apply Coefficient.eq_zero_of_close_of_close_neg hclose hclose'

/-- Between two equalities only the coefficients as they are are compared. -/
theorem equality_implies_equality (l m : List (ℕ × ℚ)) (t u : Bound ℚ) :
  (⟨l, t, true⟩ : NormalRow ℚ).implies ⟨m, u, true⟩
    = if sameCoefficients l m then t.close u else .ok false
  := by
  simp [implies]

/-- The coefficients of an equality are compared with those of an upper bound as they are, and if
they differ with all signs changed. -/
theorem equality_implies_upperBound (l m : List (ℕ × ℚ)) (t u : Bound ℚ) :
  (⟨l, t, true⟩ : NormalRow ℚ).implies ⟨m, u, false⟩
    = if sameCoefficients l m then t.atMost u
      else if sameCoefficients (l.map fun (id, a) => (id, -a)) m then t.negated.atMost u
      else .ok false
  := by
  simp [implies]

/-- An upper bound implies no equality. -/
theorem upperBound_implies_equality (hr : r.isEquality = false) (hq : q.isEquality = true) :
  r.implies q = .ok false
  := by
  simp [implies, hr, hq]

/-- A row implies itself. -/
theorem implies_self (h : r.Proper) :
  r.implies r = .ok true
  := by
  obtain ⟨l, b, e⟩ := r
  obtain ⟨t, rfl⟩ := h.bound_eq
  have hatMost : Coefficient.atMost t t = true := (Coefficient.atMost_iff t t).mpr le_rfl
  rw [implies_of_sameCoefficients (sameCoefficients_of_perm h.nodup_ids (.refl l)),
    Coefficient.close_self, hatMost]
  cases e <;> rfl

/-- A row reads a form without coefficients if it has none itself. -/
theorem Reads.coefficients_eq_nil_iff {s : Sense} {f : (ℕ → ℚ) → ℚ} (h : r.Reads s f t) :
  r.coefficients = [] ↔ ∀ id, f (Pi.single id 1) = 0
  := by
  constructor
  · intro hnil id
    have hsum := h.sumAt_eq (Pi.single id 1)
    rw [hnil, eq_comm] at hsum
    apply (mul_eq_zero.mp hsum).resolve_left s.sign_ne_zero
  · intro hzero
    rw [List.eq_nil_iff_forall_not_mem]
    intro p hp
    apply h.ne_zero p hp
    rw [← sumAt_single_of_mem h.nodup_ids hp, h.sumAt_eq, hzero, mul_zero]

/-- Two equalities keep their verdict if all signs of both are changed. -/
theorem negated_implies_negated (hr : r.Proper) (hq : q.Proper) (hre : r.isEquality = true)
    (hqe : q.isEquality = true) :
  r.negated.implies q.negated = r.implies q
  := by
  obtain ⟨l, t, e⟩ := r
  obtain ⟨m, u, f⟩ := q
  obtain ⟨t, rfl⟩ := hr.bound_eq
  obtain ⟨u, rfl⟩ := hq.bound_eq
  obtain rfl : e = true := hre
  obtain rfl : f = true := hqe
  have hbounds : (Bound.single t).negated.close (Bound.single u).negated
      = (Bound.single t).close (.single u) := by
    change Except.ok (Coefficient.close (-t) (-u)) = .ok (Coefficient.close t u)
    rw [Coefficient.close_neg]
  rw [NormalRow.negated, NormalRow.negated, equality_implies_equality, equality_implies_equality,
    sameCoefficients_neg, hbounds]

/-- Two equalities of which one is the other with all signs changed, up to the order of the
coefficients. -/
structure Opposite (r q : NormalRow ℚ) : Prop where
  proper_left : r.Proper
  proper_right : q.Proper
  isEquality : r.isEquality = true
  same : r.negated.Same q

/-- The verdict on two rows is that on their opposites. -/
theorem Opposite.implies_eq {r' q' : NormalRow ℚ} (hr : r.Opposite r') (hq : q.Opposite q') :
  r.implies q = r'.implies q'
  := by
  rw [← negated_implies_negated hr.proper_left hq.proper_left hr.isEquality hq.isEquality,
    implies_congr_left hr.same, implies_congr_right hq.proper_right hq.same.symm]

/-- An equality implies the one with all signs changed only if it has neither coefficients nor a
bound. -/
theorem implies_negated_iff (h : r.Proper) (hr : r.isEquality = true)
    (hbound : r.bound = .single t) (hzero : ∀ p ∈ r.coefficients, p.2 ≠ 0) :
  r.implies r.negated = .ok true ↔ r.coefficients = [] ∧ t = 0
  := by
  obtain ⟨l, b, e⟩ := r
  obtain rfl : b = .single t := hbound
  obtain rfl : e = true := hr
  rw [NormalRow.negated, equality_implies_equality]
  constructor
  · intro himplies
    split_ifs at himplies with hsame
    · have hclose : Coefficient.close t (-t) = true := Except.ok.inj himplies
      have hnodup : ((l.map fun (id, a) => (id, -a)).map Prod.fst).Nodup := by
        rw [List.map_map]
        apply h.nodup_ids
      use eq_nil_of_sameCoefficients_neg hzero hsame (sameCoefficients_of_perm hnodup (.refl _))
      apply Coefficient.eq_zero_of_close_of_close_neg hclose (Coefficient.close_self _)
    · cases himplies
  · rintro ⟨rfl, rfl⟩
    rw [Bound.negated, neg_zero]
    apply congrArg Except.ok (Coefficient.close_self 0)

/-- An upper bound is implied by an equality if it is by the one with all signs changed, unless
no coefficient tells the two apart. -/
theorem negated_implies (hr : r.isEquality = true) (hq : q.isEquality = false)
    (hbound : r.bound = .single t) (hzero : ∀ p ∈ r.coefficients, p.2 ≠ 0)
    (h : r.coefficients ≠ [] ∨ t = 0) :
  r.negated.implies q = r.implies q
  := by
  obtain ⟨l, b, e⟩ := r
  obtain ⟨m, u, f⟩ := q
  obtain rfl : b = .single t := hbound
  obtain rfl : e = true := hr
  obtain rfl : f = false := hq
  have htwice : (l.map fun (id, a) => (id, -a)).map (fun (id, a) => (id, -a)) = l := by
    rw [List.map_map]
    simp [Function.comp_def]
  have hbound : (Bound.single t).negated.negated = .single t := by
    rw [Bound.negated, Bound.negated, neg_neg]
  rw [NormalRow.negated, equality_implies_upperBound, equality_implies_upperBound, htwice, hbound]
  split_ifs with hneg hsame hsame
  · rcases h with hne | rfl
    · exact absurd (eq_nil_of_sameCoefficients_neg hzero hsame hneg) hne
    · rw [Bound.negated, neg_zero]
  · rfl
  · rfl
  · rfl

/-- A row is an equality exactly if it was made for one. -/
theorem isEquality_of_ofForm {vs : List Variable} {l : List ℚ} {b : Bound ℚ} {s : Sense}
    (h : ofForm vs l b s = .ok r) :
  r.isEquality = true ↔ s = .equal
  := by
  cases s with
  | lessEqual =>
      obtain ⟨t, -, ht⟩ := Outcome.bind_eq_ok_iff.mp h
      cases ht
      simp
  | greaterEqual =>
      cases h
      simp
  | equal =>
      obtain ⟨t, -, ht⟩ := Outcome.bind_eq_ok_iff.mp h
      cases ht
      simp

end NormalRow

/-! ### Exchanged sides -/

namespace Sense

theorem mirrored_eq_equal_iff (s : Sense) :
  s.mirrored = .equal ↔ s = .equal
  := by
  cases s <;> simp [mirrored]

/-- An inequality written from the other side has the opposite sign. -/
theorem sign_mirrored {s : Sense} (h : s ≠ .equal) :
  s.mirrored.sign = -s.sign
  := by
  cases s with
  | lessEqual => rfl
  | greaterEqual => rw [mirrored, sign, sign, neg_neg]
  | equal => exact absurd rfl h

end Sense

namespace Constraint

/-- The constraint with its sides exchanged, in the sense that says the same. -/
def mirrored {α : Type} [Coefficient α] (c : Constraint α) : Constraint α :=
  ⟨c.form, c.rhs, c.lhs, c.sense.mirrored⟩

variable {a b : Scalar ℚ} {s : Sense} {c d : Constraint ℚ} {r q : NormalRow ℚ}
  {p : Scalar ℚ × Scalar ℚ}

theorem isLinear_mirrored (c : Constraint ℚ) :
  c.mirrored.isLinear = c.isLinear
  := Bool.and_comm ..

/-- A comparison written from the other side is one. -/
theorem IsComparison.mirrored (h : c.IsComparison) :
  c.mirrored.IsComparison
  := by
  rcases h.sides with ⟨a, s, b, rfl⟩ | ⟨u, s, v, hl, ho, rfl⟩
  · apply isComparison_ofScalars b s.mirrored a
  · apply isComparison_ofVectors hl.symm ho.symm s.mirrored

/-- With exchanged sides the opposite is moved to the left. -/
theorem movedValue_swap (x : ℕ → ℚ) (p : Scalar ℚ × Scalar ℚ) :
  movedValue x p.swap = -movedValue x p
  := (neg_sub _ _).symm

/-- With exchanged sides the opposite is moved to the right. -/
theorem movedBound_swap (p : Scalar ℚ × Scalar ℚ) :
  movedBound p.swap = -movedBound p
  := (neg_sub _ _).symm

/-- With exchanged sides the moved coefficients are the opposites. -/
theorem movedCoefficient_swap (id : ℕ) (p : Scalar ℚ × Scalar ℚ) :
  movedCoefficient id p.swap = -movedCoefficient id p
  := (neg_sub _ _).symm

/-- Whether nothing is left of two sides once all variables and constants have been moved. -/
def Cancels (p : Scalar ℚ × Scalar ℚ) : Prop :=
  (∀ id, movedCoefficient id p = 0) ∧ movedBound p = 0

/-- Variables that cancel each other do so on exchanged sides. -/
theorem cancels_swap (p : Scalar ℚ × Scalar ℚ) :
  Cancels p.swap ↔ Cancels p
  := by
  simp only [Cancels, movedCoefficient_swap, movedBound_swap, neg_eq_zero]

/-- The rows of an inequality do not tell on which side its terms were written. -/
theorem same_of_reads_swap (hs : s ≠ .equal) (hr : r.Reads s (movedValue · p) (movedBound p))
    (hq : q.Reads s.mirrored (movedValue · p.swap) (movedBound p.swap)) :
  r.Same q
  := by
  apply hr.same hq
  · intro x
    rw [movedValue_swap, Sense.sign_mirrored hs, neg_mul_neg]
  · rw [movedBound_swap, Sense.sign_mirrored hs, neg_mul_neg]
  · rw [Sense.mirrored_eq_equal_iff]

/-- Exchanging the sides of an equality changes all signs of its row. -/
theorem negated_same_of_reads_swap (hr : r.Reads .equal (movedValue · p) (movedBound p))
    (hq : q.Reads .equal (movedValue · p.swap) (movedBound p.swap)) :
  r.negated.Same q
  := by
  apply hr.negated.same hq
  · intro x
    rw [movedValue_swap]
  · rw [movedBound_swap]
  · rfl

/-- All rows of a constraint are equalities if it is one. -/
theorem isEquality_of_mem_normalRows {rows : List (NormalRow ℚ)} (h : d.normalRows = .ok rows) :
  ∀ r ∈ rows, r.isEquality = true ↔ d.sense = .equal
  := by
  obtain ⟨simplified, -, h⟩ := Outcome.bind_eq_ok_iff.mp h
  obtain ⟨form, lhs, rhs, sense⟩ := d
  cases form with
  | scalar =>
      obtain ⟨e, -, h⟩ := Outcome.bind_eq_ok_iff.mp h
      obtain ⟨bound, -, h⟩ := Outcome.bind_eq_ok_iff.mp h
      obtain ⟨r, hr, h⟩ := Outcome.bind_eq_ok_iff.mp h
      cases h
      intro q hq
      obtain rfl := List.mem_singleton.mp hq
      apply NormalRow.isEquality_of_ofForm hr
  | vector =>
      obtain ⟨v, -, h⟩ := Outcome.bind_eq_ok_iff.mp h
      obtain ⟨bounds, -, h⟩ := Outcome.bind_eq_ok_iff.mp h
      simp only at h
      split_ifs at h
      · cases h
      · intro q hq
        obtain ⟨x, -, hx⟩ := (Outcome.mem_mapM_iff h).mp hq
        apply NormalRow.isEquality_of_ofForm hx

/-! ### Verdicts -/

/-- The row of a linear constraint between scalar expressions, and that of its mirror. -/
theorem exists_mirrored_rows (hlinear : (ofScalars a s b).isLinear = true) :
  ∃ r q, (ofScalars a s b).normalRows = .ok [r] ∧ (ofScalars a s b).mirrored.normalRows = .ok [q]
    ∧ r.Reads s (movedValue · (a, b)) (movedBound (a, b))
    ∧ q.Reads s.mirrored (movedValue · (b, a)) (movedBound (b, a))
  := by
  have hc := isComparison_ofScalars a s b
  obtain ⟨rows, hrows, hread⟩ := hc.exists_normalRows hlinear
  obtain ⟨others, hothers, hread'⟩ :=
    hc.mirrored.exists_normalRows ((isLinear_mirrored _).trans hlinear)
  obtain ⟨r, rfl, hr⟩ := readBy_ofScalars_iff.mp hread
  obtain ⟨q, rfl, hq⟩ := readBy_ofScalars_iff.mp hread'
  use r, q, hrows, hothers, hr
  apply hq

/-- Constraints with a single row each have the same verdicts on another one if the rows have on
its rows. -/
theorem implies_congr_left {c' : Constraint ℚ} (hlinear : c.isLinear = c'.isLinear)
    (h : c.isLinear = true → ∃ r q, c.normalRows = .ok [r] ∧ c'.normalRows = .ok [q]
      ∧ ∀ rows, d.normalRows = .ok rows → ∀ o ∈ rows, r.implies o = q.implies o) :
  c.implies d = c'.implies d
  := by
  by_cases hboth : (c.isLinear && d.isLinear) = true
  · obtain ⟨r, q, hr, hq, hrows⟩ := h (Bool.and_eq_true_iff.mp hboth).1
    rw [implies, implies, if_pos hboth, if_pos (hlinear ▸ hboth), hr, hq]
    simp only [Outcome.ok_bind, Outcome.anyM_singleton]
    cases hd : d.normalRows with
    | error e => rfl
    | ok rows => apply Outcome.allM_congr (List.forall₂_same.mpr (hrows rows hd))
  · rw [implies, implies, if_neg hboth, if_neg (hlinear ▸ hboth)]

/-- The same for the constraint that is implied. -/
theorem implies_congr_right {c' : Constraint ℚ} (hlinear : c.isLinear = c'.isLinear)
    (h : c.isLinear = true → ∃ r q, c.normalRows = .ok [r] ∧ c'.normalRows = .ok [q]
      ∧ ∀ rows, d.normalRows = .ok rows → ∀ o ∈ rows, o.implies r = o.implies q) :
  d.implies c = d.implies c'
  := by
  by_cases hboth : (d.isLinear && c.isLinear) = true
  · obtain ⟨r, q, hr, hq, hrows⟩ := h (Bool.and_eq_true_iff.mp hboth).2
    rw [implies, implies, if_pos hboth, if_pos (hlinear ▸ hboth), hr, hq]
    cases hd : d.normalRows with
    | error e => rfl
    | ok rows =>
        simp only [Outcome.ok_bind, Outcome.allM_singleton]
        apply Outcome.anyM_congr (List.forall₂_same.mpr (hrows rows hd))
  · rw [implies, implies, if_neg hboth, if_neg (hlinear ▸ hboth)]

/-- The rows of an inequality are no equalities. -/
theorem isEquality_eq_false_of_mem_normalRows {rows : List (NormalRow ℚ)}
    (h : d.normalRows = .ok rows) (hd : d.sense ≠ .equal) (hr : r ∈ rows) :
  r.isEquality = false
  := by
  rw [← Bool.not_eq_true, isEquality_of_mem_normalRows h r hr]
  apply hd

/-- The verdicts of a constraint on others are those of its mirror, unless it is an equality and
the other one is one too or no coefficient tells it from its opposite. -/
theorem mirrored_implies_eq (h : s ≠ .equal
    ∨ d.sense ≠ .equal ∧ ((∃ id, movedCoefficient id (a, b) ≠ 0) ∨ movedBound (a, b) = 0)) :
  (ofScalars a s b).implies d = (ofScalars a s b).mirrored.implies d
  := by
  apply implies_congr_left (isLinear_mirrored _).symm
  intro hlinear
  obtain ⟨r, q, hr, hq, hreads, hreads'⟩ := exists_mirrored_rows hlinear
  use r, q, hr, hq
  intro rows hrows o ho
  by_cases hs : s = .equal
  · subst hs
    obtain ⟨hd, hdistinct⟩ := h.resolve_left (not_not.mpr rfl)
    have ho' := isEquality_eq_false_of_mem_normalRows hrows hd ho
    rw [← NormalRow.implies_congr_left (negated_same_of_reads_swap hreads hreads'),
      NormalRow.negated_implies (hreads.isEquality_iff.mpr rfl) ho' hreads.bound_eq hreads.ne_zero]
    rcases hdistinct with ⟨id, hid⟩ | hbound
    · left
      rw [Ne, hreads.coefficients_eq_nil_iff]
      intro hzero
      rw [← movedValue_single] at hid
      apply hid (hzero id)
    · right
      rw [hbound, mul_zero]
  · apply NormalRow.implies_congr_left (same_of_reads_swap hs hreads hreads')

/-- The verdicts of others on a constraint are those on its mirror, unless both are equalities. -/
theorem implies_mirrored_eq (h : s ≠ .equal ∨ d.sense ≠ .equal) :
  d.implies (ofScalars a s b) = d.implies (ofScalars a s b).mirrored
  := by
  apply implies_congr_right (isLinear_mirrored _).symm
  intro hlinear
  obtain ⟨r, q, hr, hq, hreads, hreads'⟩ := exists_mirrored_rows hlinear
  use r, q, hr, hq
  intro rows hrows o ho
  by_cases hs : s = .equal
  · subst hs
    have ho' := isEquality_eq_false_of_mem_normalRows hrows (h.resolve_left (not_not.mpr rfl)) ho
    rw [NormalRow.upperBound_implies_equality ho' (hreads.isEquality_iff.mpr rfl),
      NormalRow.upperBound_implies_equality ho' (hreads'.isEquality_iff.mpr rfl)]
  · apply NormalRow.implies_congr_right hreads.proper (same_of_reads_swap hs hreads hreads')

/-- A linear constraint implies its mirror, unless it is an equality that is not trivial. -/
theorem implies_mirrored_iff (hlinear : (ofScalars a s b).isLinear = true) :
  (ofScalars a s b).implies (ofScalars a s b).mirrored = .ok true
    ↔ s ≠ .equal ∨ Cancels (a, b)
  := by
  obtain ⟨r, q, hr, hq, hreads, hreads'⟩ := exists_mirrored_rows hlinear
  have hboth : ((ofScalars a s b).isLinear && (ofScalars a s b).mirrored.isLinear) = true := by
    rw [isLinear_mirrored, hlinear]
    rfl
  rw [implies_eq_of_row hboth hr hq, Outcome.allM_singleton]
  by_cases hs : s = .equal
  · subst hs
    rw [NormalRow.implies_congr_right hreads'.proper
        (negated_same_of_reads_swap hreads hreads').symm,
      NormalRow.implies_negated_iff hreads.proper (hreads.isEquality_iff.mpr rfl) hreads.bound_eq
        hreads.ne_zero, hreads.coefficients_eq_nil_iff]
    simp only [Cancels, movedValue_single, Sense.sign, one_mul, ne_eq, not_true_eq_false, false_or]
  · rw [← NormalRow.implies_congr_right hreads.proper (same_of_reads_swap hs hreads hreads'),
      NormalRow.implies_self hreads.proper]
    simp [hs]

/-! ### Equalities beside equalities -/

/-- The entries of a constraint written from the other side are exchanged. -/
theorem entries_mirrored (c : Constraint ℚ) :
  c.mirrored.entries = c.entries.map Prod.swap
  := by
  obtain ⟨form, lhs, rhs, sense⟩ := c
  cases lhs <;> cases rhs <;> simp [mirrored, entries, List.zip_swap]

/-- The rows of an equality and those of its mirror are opposite to each other. -/
theorem IsComparison.exists_opposite_rows (hc : c.IsComparison) (hlinear : c.isLinear = true)
    (hs : c.sense = .equal) :
  ∃ rows others, c.normalRows = .ok rows ∧ c.mirrored.normalRows = .ok others
    ∧ List.Forall₂ NormalRow.Opposite rows others
  := by
  obtain ⟨rows, hrows, hread⟩ := hc.exists_normalRows hlinear
  obtain ⟨others, hothers, hread'⟩ :=
    hc.mirrored.exists_normalRows ((isLinear_mirrored _).trans hlinear)
  use rows, others, hrows, hothers
  have hs' : c.mirrored.sense = .equal := c.sense.mirrored_eq_equal_iff.mpr hs
  rw [ReadBy, hs] at hread
  rw [ReadBy, hs', entries_mirrored, List.forall₂_map_left_iff] at hread'
  apply Outcome.forall₂_of_forall₂ hread hread'
  intro p r q hr hq
  constructor
  · apply hr.proper
  · apply hq.proper
  · apply hr.isEquality_iff.mpr rfl
  · apply negated_same_of_reads_swap hr hq

/-- An equality has the verdict on another one that its mirror has on the mirror of the other. -/
theorem mirrored_implies_mirrored_eq (hc : c.IsComparison) (hd : d.IsComparison)
    (hcs : c.sense = .equal) (hds : d.sense = .equal) :
  c.implies d = c.mirrored.implies d.mirrored
  := by
  by_cases hlinear : (c.isLinear && d.isLinear) = true
  · obtain ⟨hclinear, hdlinear⟩ := Bool.and_eq_true_iff.mp hlinear
    obtain ⟨rows, rows', hrows, hrows', hopposite⟩ := hc.exists_opposite_rows hclinear hcs
    obtain ⟨others, others', hothers, hothers', hopposite'⟩ := hd.exists_opposite_rows hdlinear hds
    rw [implies, implies, isLinear_mirrored, isLinear_mirrored, if_pos hlinear, if_pos hlinear,
      hrows, hrows', hothers, hothers']
    simp only [Outcome.ok_bind]
    apply Outcome.allM_congr
    apply hopposite'.imp
    intro q q' hq
    apply Outcome.anyM_congr
    apply hopposite.imp
    intro r r' hr
    apply hr.implies_eq hq
  · rw [implies, implies, isLinear_mirrored, isLinear_mirrored, if_neg hlinear, if_neg hlinear]

/-! ### The side on which a constraint is written -/

/-- To exchange the sides twice gives the constraint back. -/
theorem mirrored_mirrored (c : Constraint ℚ) :
  c.mirrored.mirrored = c
  := by
  obtain ⟨form, lhs, rhs, sense⟩ := c
  cases sense <;> rfl

/-- It makes no difference to the test for implication on which side an inequality was written,
and none beside an inequality on which side an equality was written if some variable is left in
it. Between equalities it makes none if both are mirrored. A constraint and its mirror imply each
other if they are inequalities or nothing is left of them. -/
theorem implies_mirrored (a : Scalar ℚ) (s : Sense) (b : Scalar ℚ) (d : Constraint ℚ) :
  (s ≠ .equal ∨ d.sense ≠ .equal →
      d.implies (ofScalars a s b) = d.implies (ofScalars a s b).mirrored)
  ∧ (s ≠ .equal
      ∨ d.sense ≠ .equal ∧ ((∃ id, movedCoefficient id (a, b) ≠ 0) ∨ movedBound (a, b) = 0) →
      (ofScalars a s b).implies d = (ofScalars a s b).mirrored.implies d)
  ∧ (s = .equal → d.sense = .equal → d.IsComparison →
      d.implies (ofScalars a s b) = d.mirrored.implies (ofScalars a s b).mirrored
      ∧ (ofScalars a s b).implies d = (ofScalars a s b).mirrored.implies d.mirrored)
  ∧ ((ofScalars a s b).isLinear = true →
      ((ofScalars a s b).implies (ofScalars a s b).mirrored = .ok true
        ↔ s ≠ .equal ∨ Cancels (a, b))
      ∧ ((ofScalars a s b).mirrored.implies (ofScalars a s b) = .ok true
        ↔ s ≠ .equal ∨ Cancels (a, b)))
  := by
  have hc := isComparison_ofScalars a s b
  use implies_mirrored_eq, mirrored_implies_eq
  constructor
  · intro hs hds hd
    use mirrored_implies_mirrored_eq hd hc hds hs, mirrored_implies_mirrored_eq hc hd hs hds
  · intro hlinear
    use implies_mirrored_iff hlinear
    have hback := implies_mirrored_iff (a := b) (s := s.mirrored) (b := a)
      ((isLinear_mirrored (ofScalars a s b)).trans hlinear)
    have hmirrored : (ofScalars b s.mirrored a).mirrored = ofScalars a s b :=
      mirrored_mirrored (ofScalars a s b)
    rw [hmirrored, Ne, s.mirrored_eq_equal_iff] at hback
    apply hback.trans (or_congr_right (cancels_swap (a, b)))

/-- One variable is at most another one. -/
def ordered : Constraint ℚ := ofScalars (.var minuend) .lessEqual (.var subtrahend)

/-- One variable is another one. -/
def agreeing {α : Type} [Coefficient α] : Constraint α :=
  ofScalars (.var minuend) .equal (.var subtrahend)

/-- An equality and an inequality between the same variables, each written from either side. -/
theorem implies_mirrored_ordered :
  (∃ id, movedCoefficient id ((.var minuend : Scalar ℚ), .var subtrahend) ≠ 0)
    ∧ ordered.sense ≠ .equal ∧ agreeing.implies ordered = .ok true
    ∧ (agreeing : Constraint ℚ).mirrored.implies ordered = .ok true
    ∧ ordered.implies ordered.mirrored = .ok true ∧ ordered.mirrored.implies ordered = .ok true
  := by
  have hdistinct : ∃ id, movedCoefficient id ((.var minuend : Scalar ℚ), .var subtrahend) ≠ 0 := by
    use 0
    decide +kernel
  have hsense : ordered.sense ≠ .equal := by decide
  have htrue : agreeing.implies ordered = .ok true := by
    apply Outcome.eq_ok_of_toOption
    decide +kernel
  obtain ⟨-, hverdict, -⟩ := implies_mirrored (.var minuend) .equal (.var subtrahend) ordered
  obtain ⟨-, -, -, hmutual⟩ := implies_mirrored (.var minuend) .lessEqual (.var subtrahend) ordered
  obtain ⟨hforth, hback⟩ := hmutual rfl
  have hmirrored : (agreeing : Constraint ℚ).mirrored.implies ordered = .ok true :=
    (hverdict (.inr ⟨hsense, .inl hdistinct⟩)).symm.trans htrue
  use hdistinct, hsense, htrue, hmirrored, hforth.mpr (.inl (by decide)),
    hback.mpr (.inl (by decide))

/-- A number is another one. -/
def unequalNumbers {α : Type} [Coefficient α] : Constraint α :=
  ofScalars (.const 0) .equal (.const 1)

/-- A number is at most itself. -/
def equalNumbers {α : Type} [Coefficient α] : Constraint α :=
  ofScalars (.const 0) .lessEqual (.const 0)

/-- Of the same equality, written the other way round, nothing is known, and an equality that
nothing satisfies is known to imply an upper bound on one side only. With doubles the verdicts are
the same. -/
theorem implies_depends_on_side :
  (agreeing : Constraint ℚ).implies agreeing = .ok true
    ∧ (agreeing : Constraint ℚ).mirrored.implies agreeing = .ok false
    ∧ (agreeing : Constraint ℚ).implies agreeing.mirrored = .ok false
    ∧ (unequalNumbers : Constraint ℚ).implies equalNumbers = .ok false
    ∧ (unequalNumbers : Constraint ℚ).mirrored.implies equalNumbers = .ok true
    ∧ (agreeing : Constraint Float).implies agreeing = .ok true
    ∧ (agreeing : Constraint Float).mirrored.implies agreeing = .ok false
    ∧ (agreeing : Constraint Float).implies agreeing.mirrored = .ok false
    ∧ (unequalNumbers : Constraint Float).implies equalNumbers = .ok false
    ∧ (unequalNumbers : Constraint Float).mirrored.implies equalNumbers = .ok true
  := by
  refine ⟨?_, ?_, ?_, ?_, ?_, rfl, rfl, rfl, rfl, rfl⟩
  all_goals
    apply Outcome.eq_ok_of_toOption
    decide +kernel

end Constraint

end QuadraticProgram
