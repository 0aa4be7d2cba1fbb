import Mathlib.Algebra.Order.Ring.Rat
import Mathlib.Algebra.Order.BigOperators.Group.List
import QuadraticProgram.Constraint.Implication
import QuadraticProgram.Proofs.Constraint.Rows
import QuadraticProgram.Proofs.Constraint.Comparison
import QuadraticProgram.Proofs.Constraint.Satisfaction

/-!
# Normal rows

A row in normal form holds at a point up to some share of its own size (`NormalRow.HoldsWithin`),
and without any slack if that share is zero. The normal rows of a linear comparison read its
entries one by one (`Constraint.ReadBy`), with all variables moved to the left and all constants
to the right, so it is satisfied exactly if all of them hold without slack.
-/

namespace QuadraticProgram

open QuadraticProgram.Alignment

variable {x : ℕ → ℚ}

/-! ### Coefficients by identifier -/

namespace NormalRow

/-- The sum of the products of coefficients and values. -/
def sumAt (x : ℕ → ℚ) (l : List (ℕ × ℚ)) : ℚ := (l.map fun p => p.2 * x p.1).sum

/-- The sum of the absolute values of the products of coefficients and values. -/
def sizeAt (x : ℕ → ℚ) (l : List (ℕ × ℚ)) : ℚ := (l.map fun p => |p.2 * x p.1|).sum

theorem sumAt_cons (x : ℕ → ℚ) (p : ℕ × ℚ) (l : List (ℕ × ℚ)) :
  sumAt x (p :: l) = p.2 * x p.1 + sumAt x l
  := List.sum_cons

theorem sizeAt_cons (x : ℕ → ℚ) (p : ℕ × ℚ) (l : List (ℕ × ℚ)) :
  sizeAt x (p :: l) = |p.2 * x p.1| + sizeAt x l
  := List.sum_cons

/-- The order of the entries plays no part in their sum. -/
theorem sumAt_perm {l m : List (ℕ × ℚ)} (h : l.Perm m) :
  sumAt x l = sumAt x m
  := (h.map _).sum_eq

theorem sizeAt_perm {l m : List (ℕ × ℚ)} (h : l.Perm m) :
  sizeAt x l = sizeAt x m
  := (h.map _).sum_eq

/-- A change of all signs changes the sign of the sum. -/
theorem sumAt_neg (x : ℕ → ℚ) (l : List (ℕ × ℚ)) :
  sumAt x (l.map fun (id, a) => (id, -a)) = -sumAt x l
  := by
  induction l with
  | nil => simp [sumAt]
  | cons p l ih =>
      rw [List.map_cons, sumAt_cons, sumAt_cons, ih]
      ring

/-- Coefficients that are zero do not count. -/
theorem sumAt_filter (x : ℕ → ℚ) (l : List (ℕ × ℚ)) :
  sumAt x (l.filter fun (_, a) => !(a == 0)) = sumAt x l
  := by
  induction l with
  | nil => rfl
  | cons p l ih =>
      by_cases h : p.2 = 0
      · rw [List.filter_cons_of_neg (by simpa using h), ih, sumAt_cons, h, zero_mul, zero_add]
      · rw [List.filter_cons_of_pos (by simpa using h), sumAt_cons, sumAt_cons, ih]

/-- Coefficients with the identifiers of their variables have the linear value for their sum. -/
theorem sumAt_zip (x : ℕ → ℚ) (vs : List Variable) (l : List ℚ) :
  sumAt x ((vs.map Variable.id).zip l) = linearValue x vs l
  := by
  induction vs generalizing l with
  | nil => rfl
  | cons v vs ih =>
      cases l with
      | nil => rw [linearValue_nil_right, List.zip_nil_right, sumAt, List.map_nil, List.sum_nil]
      | cons a l =>
          rw [List.map_cons, List.zip_cons_cons, sumAt_cons, ih, linearValue, linearValue,
            List.length_cons, Finset.sum_range_succ', add_comm]
          rfl

/-! ### Rows -/

/-- Whether a row holds at a point, up to a share of its own size. -/
def HoldsWithin (ε : ℚ) (x : ℕ → ℚ) (r : NormalRow ℚ) : Prop :=
  ∃ t, r.bound = .single t ∧
    if r.isEquality then
      |sumAt x r.coefficients - t| ≤ ε * (sizeAt x r.coefficients + |t|)
    else sumAt x r.coefficients ≤ t + ε * sizeAt x r.coefficients

/-- A row with a single bound and at most one coefficient for each identifier. -/
structure Proper (r : NormalRow ℚ) : Prop where
  bound_eq : ∃ t, r.bound = .single t
  nodup_ids : (r.coefficients.map Prod.fst).Nodup

/-- An inequality holds up to a part of the size of its row. -/
theorem holdsWithin_inequality_iff {ε t : ℚ} {l : List (ℕ × ℚ)} :
  (⟨l, .single t, false⟩ : NormalRow ℚ).HoldsWithin ε x ↔ sumAt x l ≤ t + ε * sizeAt x l
  := by
  constructor
  · rintro ⟨u, hu, h⟩
    cases hu
    apply h
  · intro h
    use t, rfl
    apply h

/-- An equality holds up to a part of the sizes of its row and its bound. -/
theorem holdsWithin_equality_iff {ε t : ℚ} {l : List (ℕ × ℚ)} :
  (⟨l, .single t, true⟩ : NormalRow ℚ).HoldsWithin ε x
    ↔ |sumAt x l - t| ≤ ε * (sizeAt x l + |t|)
  := by
  constructor
  · rintro ⟨u, hu, h⟩
    cases hu
    apply h
  · intro h
    use t, rfl
    apply h

/-- Without slack an upper bound holds if the sum is at most the bound. -/
theorem holdsWithin_zero_inequality_iff {t : ℚ} {l : List (ℕ × ℚ)} :
  (⟨l, .single t, false⟩ : NormalRow ℚ).HoldsWithin 0 x ↔ sumAt x l ≤ t
  := by
  rw [holdsWithin_inequality_iff, zero_mul, add_zero]

/-- Without slack an equality holds if the sum is the bound. -/
theorem holdsWithin_zero_equality_iff {t : ℚ} {l : List (ℕ × ℚ)} :
  (⟨l, .single t, true⟩ : NormalRow ℚ).HoldsWithin 0 x ↔ sumAt x l = t
  := by
  rw [holdsWithin_equality_iff, zero_mul, abs_nonpos_iff, sub_eq_zero]

/-- The entries of a row: the merged coefficients that are not zero. -/
def entries (vs : List Variable) (l : List ℚ) : List (ℕ × ℚ) :=
  (((distinct vs).map Variable.id).zip (spread vs l (distinct vs))).filter fun (_, a) => !(a == 0)

/-- Entries in which repeated variables are added up keep the value. -/
theorem sumAt_entries (x : ℕ → ℚ) (vs : List Variable) (l : List ℚ) :
  sumAt x (entries vs l) = linearValue x vs l
  := by
  rw [entries, sumAt_filter, sumAt_zip]
  apply linearValue_spread
  intro v hv
  apply exists_mem_distinct_iff.mpr
  use v

/-- No variable has two entries. -/
theorem nodup_entries (vs : List Variable) (l : List ℚ) :
  ((entries vs l).map Prod.fst).Nodup
  := by
  have hzip : (((distinct vs).map Variable.id).zip (spread vs l (distinct vs))).map Prod.fst
      = (distinct vs).map Variable.id := by
    apply List.map_fst_zip
    rw [List.length_map, length_spread]
  apply List.Nodup.sublist _ (nodup_distinct vs)
  rw [← hzip]
  apply List.filter_sublist.map

/-- A row that says of a linear form that it stands in some sense to a bound. -/
structure Reads (s : Sense) (f : (ℕ → ℚ) → ℚ) (t : ℚ) (r : NormalRow ℚ) : Prop where
  bound_eq : r.bound = .single (s.sign * t)
  isEquality_iff : r.isEquality = true ↔ s = .equal
  nodup_ids : (r.coefficients.map Prod.fst).Nodup
  ne_zero : ∀ p ∈ r.coefficients, p.2 ≠ 0
  sumAt_eq : ∀ x, sumAt x r.coefficients = s.sign * f x

variable {s : Sense} {f g : (ℕ → ℚ) → ℚ} {t u : ℚ} {r : NormalRow ℚ}

theorem Reads.proper (h : r.Reads s f t) :
  r.Proper
  := ⟨⟨_, h.bound_eq⟩, h.nodup_ids⟩

/-- What a row reads only depends on the values and the bound. -/
theorem Reads.congr (h : r.Reads s f t) (hf : ∀ x, f x = g x) (ht : t = u) :
  r.Reads s g u
  := by
  obtain rfl : f = g := funext hf
  obtain rfl := ht
  apply h

theorem Reads.isEquality_eq_false (h : r.Reads s f t) (hs : s ≠ .equal) :
  r.isEquality = false
  := by
  rw [← Bool.not_eq_true, h.isEquality_iff]
  apply hs

/-- Without slack a row holds if the form stands in its sense to the bound. -/
theorem Reads.holdsWithin_iff (h : r.Reads s f t) :
  r.HoldsWithin 0 x ↔ s.holds (f x) t = true
  := by
  obtain ⟨l, bound, e⟩ := r
  obtain rfl : bound = _ := h.bound_eq
  cases s with
  | lessEqual =>
      obtain rfl : e = false := h.isEquality_eq_false (by decide)
      rw [holdsWithin_zero_inequality_iff, h.sumAt_eq]
      simp [Sense.sign, Sense.holds, Coefficient.atMost]
  | greaterEqual =>
      obtain rfl : e = false := h.isEquality_eq_false (by decide)
      rw [holdsWithin_zero_inequality_iff, h.sumAt_eq]
      simp [Sense.sign, Sense.holds, Coefficient.atMost]
  | equal =>
      obtain rfl : e = true := h.isEquality_iff.mpr rfl
      rw [holdsWithin_zero_equality_iff, h.sumAt_eq]
      simp [Sense.sign, Sense.holds]

/-- No entry is zero. -/
theorem ne_zero_of_mem_entries {vs : List Variable} {l : List ℚ} {p : ℕ × ℚ}
    (h : p ∈ entries vs l) :
  p.2 ≠ 0
  := by
  simpa using (List.mem_filter.mp h).2

/-- A linear form in some sense to a bound has a row that says so. -/
theorem exists_ofForm (vs : List Variable) (l : List ℚ) (t : ℚ) (s : Sense) :
  ∃ r, ofForm vs l (.single t) s = .ok r ∧ r.Reads s (linearValue · vs l) t
  := by
  cases s with
  | lessEqual =>
      use ⟨entries vs l, .single t, false⟩, rfl
      constructor
      · rw [Sense.sign, one_mul]
      · simp
      · apply nodup_entries
      · intro p
        apply ne_zero_of_mem_entries
      · intro x
        rw [Sense.sign, one_mul, sumAt_entries]
  | greaterEqual =>
      use ⟨(entries vs l).map fun (id, a) => (id, -a), .single (-t), false⟩, rfl
      constructor
      · rw [Sense.sign, neg_one_mul]
      · simp
      · rw [List.map_map]
        apply nodup_entries
      · intro p hp
        obtain ⟨q, hq, rfl⟩ := List.mem_map.mp hp
        apply neg_ne_zero.mpr (ne_zero_of_mem_entries hq)
      · intro x
        rw [Sense.sign, neg_one_mul, sumAt_neg, sumAt_entries]
  | equal =>
      use ⟨entries vs l, .single t, true⟩, rfl
      constructor
      · rw [Sense.sign, one_mul]
      · simp
      · apply nodup_entries
      · intro p
        apply ne_zero_of_mem_entries
      · intro x
        rw [Sense.sign, one_mul, sumAt_entries]

end NormalRow

/-- The pairs of two lists of one length, by position. -/
theorem zip_eq_map_finRange {β γ : Type} {xs : List β} {ys : List γ} {n : ℕ} (hxs : xs.length = n)
    (hys : ys.length = n) (b : β) (c : γ) :
  xs.zip ys = (List.finRange n).map fun (i : Fin n) => (xs.getD i b, ys.getD i c)
  := by
  apply List.ext_getElem
  · simp [hxs, hys]
  · intro i hi _
    obtain ⟨hi, hi'⟩ := lt_min_iff.mp (List.length_zip ▸ hi)
    rw [List.getElem_zip, List.getElem_map, List.getElem_finRange, Fin.val_cast,
      List.getD_eq_getElem _ _ hi, List.getD_eq_getElem _ _ hi']

/-! ### Rows of a comparison -/

namespace Constraint

open NormalRow

/-- Rows that are proper, and all of which hold where a constraint is satisfied and only there. -/
def IsNormalised (c : Constraint ℚ) (rows : List (NormalRow ℚ)) : Prop :=
  (∀ r ∈ rows, r.Proper) ∧ ∀ s, Covers s (c.lhs.vars ++ c.rhs.vars) →
    (c.Satisfied s ↔ ∀ r ∈ rows, r.HoldsWithin 0 (pointOf s))

/-- The value of two sides with all variables moved to the left. -/
def movedValue (x : ℕ → ℚ) (p : Scalar ℚ × Scalar ℚ) : ℚ :=
  linearValue x p.1.vars p.1.coefficients - linearValue x p.2.vars p.2.coefficients

/-- The bound of two sides with all constants moved to the right. -/
def movedBound (p : Scalar ℚ × Scalar ℚ) : ℚ := p.2.constant - p.1.constant

/-- What is moved to the left less what is moved to the right is the difference of the sides. -/
theorem movedValue_sub_movedBound {a b : Scalar ℚ} (ha : a.degree ≤ 1) (hb : b.degree ≤ 1) :
  movedValue x (a, b) - movedBound (a, b) = a.valueAt x - b.valueAt x
  := by
  rw [Scalar.valueAt_of_degree_le ha, Scalar.valueAt_of_degree_le hb, movedValue, movedBound]
  ring

/-- A row for each entry of a constraint. -/
def ReadBy (c : Constraint ℚ) (rows : List (NormalRow ℚ)) : Prop :=
  List.Forall₂ (fun p r => r.Reads c.sense (movedValue · p) (movedBound p)) c.entries rows

/-- A form less a bound that is the difference of two sides everywhere is what they are with all
variables moved to the left and all constants to the right. -/
theorem moved_eq {vs : List Variable} {l : List ℚ} {t : ℚ} {a b : Scalar ℚ} (ha : a.degree ≤ 1)
    (hb : b.degree ≤ 1) (h : ∀ x, linearValue x vs l - t = a.valueAt x - b.valueAt x) :
  (∀ x, linearValue x vs l = movedValue x (a, b)) ∧ t = movedBound (a, b)
  := by
  have hmoved : ∀ x, linearValue x vs l - t = movedValue x (a, b) - movedBound (a, b) := by
    intro x
    rw [h, movedValue_sub_movedBound ha hb]
  have hbound : t = movedBound (a, b) := by
    have hzero := hmoved 0
    rw [movedValue, linearValue_zero, linearValue_zero, linearValue_zero] at hzero
    linarith
  constructor
  · intro x
    linarith [hmoved x]
  · apply hbound

/-- An assignment satisfies a constraint if it gives values in its sense to all entries. -/
theorem satisfied_iff_entries {c : Constraint ℚ} (hc : c.IsComparison) {s : ℕ → Option ℚ}
    (hs : Covers s (c.lhs.vars ++ c.rhs.vars)) :
  c.Satisfied s
    ↔ ∀ p ∈ c.entries, c.sense.holds (p.1.valueAt (pointOf s)) (p.2.valueAt (pointOf s)) = true
  := by
  obtain ⟨hleft, hright⟩ := covers_append.mp hs
  rcases hc.sides with ⟨a, sense, b, rfl⟩ | ⟨u, sense, v, hl, -, rfl⟩
  · rw [satisfied_ofScalars_iff hleft hright, entries_ofScalars, List.forall_mem_singleton]
    rfl
  · apply satisfied_ofVectors_iff_entries hl hleft hright

theorem degree_le_of_mem_entries {c : Constraint ℚ} (hc : c.IsComparison)
    (hlinear : c.isLinear = true) {p : Scalar ℚ × Scalar ℚ} (hp : p ∈ c.entries) :
  p.1.degree ≤ 1 ∧ p.2.degree ≤ 1
  := by
  rcases hc.sides with ⟨a, sense, b, rfl⟩ | ⟨u, sense, v, hl, -, rfl⟩
  · obtain rfl := List.mem_singleton.mp hp
    apply isLinear_ofScalars.mp hlinear
  · rw [entries_ofVectors hl] at hp
    obtain ⟨i, -, rfl⟩ := List.mem_map.mp hp
    use Vec.degree_entry_le i.isLt, Vec.degree_entry_le (hl ▸ i.isLt)

/-- Rows that read the entries of a constraint one by one hold where it is satisfied. -/
theorem ReadBy.isNormalised {c : Constraint ℚ} {rows : List (NormalRow ℚ)} (h : c.ReadBy rows)
    (hc : c.IsComparison) (hlinear : c.isLinear = true) :
  c.IsNormalised rows
  := by
  constructor
  · apply (Outcome.forall_mem_iff_of_forall₂ (R := fun _ => True) h
      fun p r hr => iff_of_true hr.proper trivial).mpr
    simp
  · intro s hs
    rw [satisfied_iff_entries hc hs,
      Outcome.forall_mem_iff_of_forall₂ h fun p r hr => hr.holdsWithin_iff (x := pointOf s)]
    apply forall₂_congr
    intro p hp
    obtain ⟨hleft, hright⟩ := degree_le_of_mem_entries hc hlinear hp
    apply Sense.holds_of_sub_eq
    rw [movedValue_sub_movedBound hleft hright]

/-- A linear comparison of scalar expressions has a row that reads it. -/
theorem exists_normalRows_scalar {a b : Scalar ℚ} {sense : Sense} (ha : a.degree ≤ 1)
    (hb : b.degree ≤ 1) :
  ∃ rows, (ofScalars a sense b).normalRows = .ok rows ∧ (ofScalars a sense b).ReadBy rows
  := by
  obtain ⟨e, he, hdegree, -, hvalue⟩ := exists_movedLeft_scalar a b
  obtain ⟨r, hr, hreads⟩ :=
    exists_ofForm e.vars e.coefficients (b.constant - e.constant) sense
  have hrows : (ofScalars a sense b).normalRows
      = (ofForm e.vars e.coefficients (.single (b.constant - e.constant)) sense >>=
          fun r => .ok [r]) := by
    rw [normalRows, simplify_ofScalars sense he]
    rfl
  have hmoved : ∀ x, linearValue x e.vars e.coefficients - (b.constant - e.constant)
      = a.valueAt x - b.valueAt x := by
    intro x
    have hvalue' := hvalue x
    rw [Scalar.valueAt_of_degree_le (hdegree.trans (max_le ha hb))] at hvalue'
    linarith
  obtain ⟨hform, hbound⟩ := moved_eq ha hb hmoved
  use [r]
  constructor
  · rw [hrows, hr, Outcome.ok_bind]
  · exact .cons (hreads.congr hform hbound) .nil

/-- A comparison of vectors has a row for each entry that reads it. -/
theorem exists_normalRows_vector {u v : Vec ℚ} {sense : Sense} (hl : u.length = v.length)
    (ho : u.orientation = v.orientation) :
  ∃ rows, (ofVectors u sense v).normalRows = .ok rows ∧ (ofVectors u sense v).ReadBy rows
  := by
  obtain ⟨w, hw, hr⟩ := exists_movedLeft_vector hl ho
  have hlength : v.constant.length = w.constant.length := by
    rw [Vec.length_constant, Vec.length_constant, hr.length_eq, hl]
  have hbound : (ofVectors w sense v.constantPart).bound
      = .ok (.list (List.zipWith (· - ·) v.constant w.constant)) := if_pos hlength
  let bounds := List.zipWith (· - ·) v.constant w.constant
  have hbounds : bounds.length = u.length := by
    rw [List.length_zipWith, ← hlength, min_self, Vec.length_constant, hl]
  have hrowList : w.linearCoeff.rowList.length = u.length := by
    rw [← hr.length_eq, ← Vec.length_constant]
    apply w.rows_linearCoeff
  have hrows : (ofVectors u sense v).normalRows
      = (w.linearCoeff.rowList.zip bounds).mapM fun (row, b) =>
          ofForm w.vars row (.single b) sense := by
    rw [normalRows, simplify_ofVectors sense hw]
    have hleft : (ofVectors w sense v.constantPart).vectorLeft = .ok w := rfl
    have hshort : ¬ bounds.length < w.length := by
      rw [hbounds, hr.length_eq]
      apply lt_irrefl
    simp only [Outcome.ok_bind, hleft, hbound]
    change (if bounds.length < w.length then _ else _) = _
    rw [if_neg hshort]
    rfl
  rw [hrows, zip_eq_map_finRange hrowList hbounds [] 0, List.mapM_map]
  simp only [ReadBy, entries_ofVectors hl, List.forall₂_map_left_iff]
  apply Outcome.exists_mapM
  intro i _
  have hmoved : ∀ x, linearValue x w.vars (w.linearCoeff.rowList.getD i []) - bounds.getD i 0
      = (u.entry i i.isLt).valueAt x - (v.entry i (hl ▸ i.isLt)).valueAt x := by
    intro x
    have hvalue := hr.valueAt_eq x i.isLt
    rw [Vec.valueAt, rowValue] at hvalue
    rw [Vec.valueAt_entry, Vec.valueAt_entry, Coefficient.getD_zipWith_sub hlength]
    linarith
  obtain ⟨hform, hbound⟩ :=
    moved_eq (Vec.degree_entry_le i.isLt) (Vec.degree_entry_le (hl ▸ i.isLt)) hmoved
  obtain ⟨r, hr, hreads⟩ :=
    exists_ofForm w.vars (w.linearCoeff.rowList.getD i []) (bounds.getD i 0) sense
  use r, hr
  apply hreads.congr hform hbound

/-- A linear comparison has normal rows. -/
theorem IsComparison.exists_normalRows {c : Constraint ℚ} (hc : c.IsComparison)
    (hlinear : c.isLinear = true) :
  ∃ rows, c.normalRows = .ok rows ∧ c.ReadBy rows
  := by
  rcases hc.sides with ⟨a, s, b, rfl⟩ | ⟨u, s, v, hl, ho, rfl⟩
  · obtain ⟨ha, hb⟩ := isLinear_ofScalars.mp hlinear
    apply exists_normalRows_scalar ha hb
  · apply exists_normalRows_vector hl ho

end Constraint

end QuadraticProgram
