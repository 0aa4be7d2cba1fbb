import QuadraticProgram.Proofs.Constraint.Implication
import QuadraticProgram.Proofs.Problem.WellDefined

/-!
# Exactness of the test for implication

Where the rows of two constraints have small integers for coefficients and bounds, numbers that
count as close are equal. The test for implication is then sound without any slack. Between two
constraints that are parallel it is complete as well: their rows take any value somewhere, so a
point on the boundary of the first one tells whether the bounds are in order
(`Constraint.implies_exact`).
-/

namespace QuadraticProgram

open QuadraticProgram.Alignment

/-! ### Small integers -/

namespace Coefficient

variable {a b : ℚ}

/-- An integer of an absolute value at most `10 ^ 8`. -/
def IsSmallInteger (a : ℚ) : Prop := (∃ n : ℤ, a = n) ∧ |a| ≤ 10 ^ 8

theorem IsSmallInteger.neg (h : IsSmallInteger a) :
  IsSmallInteger (-a)
  := by
  obtain ⟨⟨n, rfl⟩, hn⟩ := h
  constructor
  · use -n
    rw [Int.cast_neg]
  · rw [abs_neg]
    apply hn

theorem IsSmallInteger.sign_mul (h : IsSmallInteger a) (s : Sense) :
  IsSmallInteger (s.sign * a)
  := by
  cases s with
  | lessEqual =>
      rw [Sense.sign, one_mul]
      apply h
  | greaterEqual =>
      rw [Sense.sign, neg_one_mul]
      apply h.neg
  | equal =>
      rw [Sense.sign, one_mul]
      apply h

/-- Small integers that count as close differ by less than one. -/
theorem eq_of_close (ha : IsSmallInteger a) (hb : IsSmallInteger b) (h : close a b = true) :
  a = b
  := by
  obtain ⟨⟨m, rfl⟩, -⟩ := ha
  obtain ⟨⟨n, rfl⟩, hn⟩ := hb
  have hlt : |(n : ℚ) - m| < 1 := by
    calc |(n : ℚ) - m| ≤ slack * |(n : ℚ)| := abs_sub_le_of_close h
      _ ≤ slack * 10 ^ 8 := mul_le_mul_of_nonneg_left hn (by norm_num [slack])
      _ < 1 := by norm_num [slack]
  have hint : |n - m| < 1 := by
    exact_mod_cast hlt
  rw [sub_eq_zero.mp (Int.abs_lt_one_iff.mp hint)]

theorem isSmallInteger_of_eq (n : ℤ) (h : a = n) (hn : |n| ≤ 10 ^ 8) :
  IsSmallInteger a
  := by
  rw [h]
  use ⟨n, rfl⟩
  exact_mod_cast hn

theorem close_self (a : ℚ) :
  close a a = true
  := (close_iff a a).mpr (.inl rfl)

end Coefficient

/-! ### Rows at unit points -/

namespace NormalRow

variable {l m : List (ℕ × ℚ)} {t u : ℚ} {e f : Bool} {p : ℕ × ℚ} {id : ℕ}

/-- The sum of a row is linear in the point. -/
theorem sumAt_smul (a : ℚ) (x : ℕ → ℚ) (l : List (ℕ × ℚ)) :
  sumAt (a • x) l = a * sumAt x l
  := by
  induction l with
  | nil => simp [sumAt]
  | cons p l ih =>
      rw [sumAt_cons, sumAt_cons, ih, Pi.smul_apply, smul_eq_mul]
      ring

/-- At the unit point of a variable that it lacks a row has sum zero. -/
theorem sumAt_single_of_notMem (h : id ∉ l.map Prod.fst) :
  sumAt (Pi.single id 1) l = 0
  := by
  induction l with
  | nil => rfl
  | cons p l ih =>
      rw [List.map_cons, List.mem_cons, not_or] at h
      obtain ⟨hp, hl⟩ := h
      rw [sumAt_cons, ih hl, Pi.single_eq_of_ne (Ne.symm hp), mul_zero, add_zero]

/-- At a unit point the sum is the coefficient of the identifier. -/
theorem sumAt_single_of_mem (hl : (l.map Prod.fst).Nodup) (hp : p ∈ l) :
  sumAt (Pi.single p.1 1) l = p.2
  := by
  induction l with
  | nil => cases hp
  | cons q l ih =>
      obtain ⟨hq, hl⟩ := List.nodup_cons.mp hl
      rw [sumAt_cons]
      rcases List.mem_cons.mp hp with rfl | hp
      · rw [sumAt_single_of_notMem hq, Pi.single_eq_same, mul_one, add_zero]
      · have hne : q.1 ≠ p.1 := by
          intro heq
          apply hq
          rw [heq]
          apply List.mem_map_of_mem hp
        rw [ih hl hp, Pi.single_eq_of_ne hne, mul_zero, zero_add]

/-- Coefficients that are not zero can be read off at the unit points. -/
theorem mem_iff_sumAt_single (hl : (l.map Prod.fst).Nodup) (hzero : ∀ p ∈ l, p.2 ≠ 0) :
  p ∈ l ↔ sumAt (Pi.single p.1 1) l = p.2 ∧ p.2 ≠ 0
  := by
  constructor
  · intro hp
    use sumAt_single_of_mem hl hp, hzero p hp
  · rintro ⟨hsum, hne⟩
    by_cases hid : p.1 ∈ l.map Prod.fst
    · obtain ⟨q, hq, heq⟩ := List.mem_map.mp hid
      have hpq : p = q := by
        apply Prod.ext heq.symm
        rw [← hsum, ← heq, sumAt_single_of_mem hl hq]
      rw [hpq]
      apply hq
    · rw [sumAt_single_of_notMem hid] at hsum
      exact absurd hsum.symm hne

/-- Two rows with equal sums at all unit points have the same entries, in some order. -/
theorem perm_of_sumAt_single (hl : (l.map Prod.fst).Nodup) (hlzero : ∀ p ∈ l, p.2 ≠ 0)
    (hm : (m.map Prod.fst).Nodup) (hmzero : ∀ p ∈ m, p.2 ≠ 0)
    (h : ∀ id, sumAt (Pi.single id 1) l = sumAt (Pi.single id 1) m) :
  l.Perm m
  := by
  apply (List.perm_ext_iff_of_nodup (.of_map _ hl) (.of_map _ hm)).mpr
  intro p
  rw [mem_iff_sumAt_single hl hlzero, mem_iff_sumAt_single hm hmzero, h]

/-- Among entries for different variables each one is found. -/
theorem lookup_of_mem (hm : (m.map Prod.fst).Nodup) (hp : p ∈ m) :
  m.lookup p.1 = some p.2
  := by
  induction m with
  | nil => cases hp
  | cons q m ih =>
      obtain ⟨hq, hm⟩ := List.nodup_cons.mp hm
      rcases List.mem_cons.mp hp with rfl | hp
      · apply List.lookup_cons_self
      · have hne : p.1 ≠ q.1 := by
          intro heq
          apply hq
          rw [← heq]
          apply List.mem_map_of_mem hp
        rw [List.lookup_cons, beq_false_of_ne hne]
        apply ih hm hp

/-- Rows with the same entries in some order have the same coefficients. -/
theorem sameCoefficients_of_perm (hm : (m.map Prod.fst).Nodup) (h : l.Perm m) :
  sameCoefficients l m = true
  := by
  rw [sameCoefficients, Bool.and_eq_true, beq_iff_eq, List.all_eq_true]
  use h.length_eq
  rintro ⟨id, a⟩ hp
  have hlookup : m.lookup id = some a := lookup_of_mem hm (h.subset hp)
  simp only [hlookup]
  apply Coefficient.close_self

/-! ### Verdicts on rows -/

/-- Between rows with the same coefficients the bounds decide. -/
theorem implies_of_sameCoefficients (h : sameCoefficients l m = true) :
  (⟨l, .single t, e⟩ : NormalRow ℚ).implies ⟨m, .single u, f⟩
    = .ok (if e && f then Coefficient.close t u else (e || !f) && Coefficient.atMost t u)
  := by
  rw [implies, if_pos h]
  cases e <;> cases f <;> rfl

/-- A row whose sum takes every value implies another one with the same sum that holds where it
holds: a point on the boundary of the one tells whether the bounds are in order. -/
theorem implies_of_forall_holds (hsame : sameCoefficients l m = true)
    (hsum : ∀ x, sumAt x m = sumAt x l) (hvalue : ∀ a, ∃ x, sumAt x l = a)
    (h : ∀ x, (⟨l, .single t, e⟩ : NormalRow ℚ).HoldsWithin 0 x →
      (⟨m, .single u, f⟩ : NormalRow ℚ).HoldsWithin 0 x) :
  (⟨l, .single t, e⟩ : NormalRow ℚ).implies ⟨m, .single u, f⟩ = .ok true
  := by
  obtain ⟨x, hx⟩ := hvalue t
  rw [implies_of_sameCoefficients hsame]
  cases e with
  | true =>
      have hq := h x (holdsWithin_zero_equality_iff.mpr hx)
      cases f with
      | true =>
          rw [holdsWithin_zero_equality_iff, hsum, hx] at hq
          rw [hq]
          apply congrArg _ (Coefficient.close_self u)
      | false =>
          rw [holdsWithin_zero_inequality_iff, hsum, hx] at hq
          apply congrArg _ ((Coefficient.atMost_iff t u).mpr hq)
  | false =>
      have hq := h x (holdsWithin_zero_inequality_iff.mpr hx.le)
      cases f with
      | true =>
          -- A sum below the bound is possible, so no equality holds wherever the bound does.
          obtain ⟨y, hy⟩ := hvalue (t - 1)
          have hq' := h y (holdsWithin_zero_inequality_iff.mpr (by linarith))
          rw [holdsWithin_zero_equality_iff, hsum] at hq hq'
          linarith
      | false =>
          rw [holdsWithin_zero_inequality_iff, hsum, hx] at hq
          apply congrArg _ ((Coefficient.atMost_iff t u).mpr hq)

/-- The same for an equality and an upper bound on the sum with its sign changed. -/
theorem implies_of_forall_holds_neg (hsame : sameCoefficients l m = false)
    (hnegated : sameCoefficients (l.map fun (id, a) => (id, -a)) m = true)
    (hsum : ∀ x, sumAt x m = -sumAt x l) (hvalue : ∀ a, ∃ x, sumAt x l = a)
    (h : ∀ x, (⟨l, .single t, true⟩ : NormalRow ℚ).HoldsWithin 0 x →
      (⟨m, .single u, false⟩ : NormalRow ℚ).HoldsWithin 0 x) :
  (⟨l, .single t, true⟩ : NormalRow ℚ).implies ⟨m, .single u, false⟩ = .ok true
  := by
  obtain ⟨x, hx⟩ := hvalue t
  have hq := h x (holdsWithin_zero_equality_iff.mpr hx)
  rw [holdsWithin_zero_inequality_iff, hsum, hx] at hq
  have hverdict : (⟨l, .single t, true⟩ : NormalRow ℚ).implies ⟨m, .single u, false⟩
      = .ok (Coefficient.atMost (-t) u) := by
    rw [implies, hsame, if_neg Bool.false_ne_true, if_pos (by simpa using hnegated)]
    rfl
  rw [hverdict, (Coefficient.atMost_iff (-t) u).mpr hq]

/-- A sum that is not zero at all unit points takes every value. -/
theorem exists_sumAt_eq (h : ∃ id, sumAt (Pi.single id 1) l ≠ 0) (a : ℚ) :
  ∃ x, sumAt x l = a
  := by
  obtain ⟨id, hid⟩ := h
  use (a / sumAt (Pi.single id 1) l) • Pi.single id 1
  rw [sumAt_smul, div_mul_cancel₀ _ hid]

/-- Coefficients that count as the same have the same sums, if numbers that are close are
equal. -/
theorem sumAt_eq_of_sameCoefficients (hl : (l.map Prod.fst).Nodup)
    (hexact : ∀ p ∈ l, ∀ q ∈ m, Coefficient.close p.2 q.2 = true → p.2 = q.2)
    (h : sameCoefficients l m = true) (x : ℕ → ℚ) :
  sumAt x m = sumAt x l
  := by
  have hle : |sumAt x m - sumAt x l| ≤ 0 * sizeAt x m := by
    apply abs_sumAt_sub_le hl h
    intro p hp q hq hclose
    rw [hexact p hp q hq hclose, sub_self, abs_zero, zero_mul]
  rw [zero_mul, abs_nonpos_iff, sub_eq_zero] at hle
  apply hle

section Reads

variable {r q : NormalRow ℚ} {s s' : Sense} {v w : (ℕ → ℚ) → ℚ}

/-- The numbers of a row are small integers if its bound and its values at unit points are. -/
theorem Reads.isSmallInteger_of_mem_numbers (h : r.Reads s v t)
    (ht : Coefficient.IsSmallInteger t)
    (hv : ∀ id, Coefficient.IsSmallInteger (v (Pi.single id 1))) {a : ℚ} (ha : a ∈ r.numbers) :
  Coefficient.IsSmallInteger a
  := by
  rw [numbers, h.bound_eq] at ha
  rcases List.mem_append.mp ha with ha | ha
  · obtain rfl := List.mem_singleton.mp ha
    apply ht.sign_mul
  · obtain ⟨p, hp, rfl⟩ := List.mem_map.mp ha
    rw [← sumAt_single_of_mem h.nodup_ids hp, h.sumAt_eq]
    apply (hv p.1).sign_mul

/-- A row that holds wherever another one does is implied by it, if the forms that they read are
the same up to the sign of their senses and not zero. -/
theorem Reads.implies_of_same (hr : r.Reads s v t) (hq : q.Reads s' w u)
    (hne : ∃ id, s.sign * v (Pi.single id 1) ≠ 0)
    (hunits : ∀ id, s.sign * v (Pi.single id 1) = s'.sign * w (Pi.single id 1))
    (h : ∀ x, r.HoldsWithin 0 x → q.HoldsWithin 0 x) :
  r.implies q = .ok true
  := by
  have hperm : r.coefficients.Perm q.coefficients := by
    apply perm_of_sumAt_single hr.nodup_ids hr.ne_zero hq.nodup_ids hq.ne_zero
    intro id
    rw [hr.sumAt_eq, hq.sumAt_eq, hunits]
  obtain ⟨l, bound, e⟩ := r
  obtain ⟨m, bound', f⟩ := q
  obtain rfl : bound = _ := hr.bound_eq
  obtain rfl : bound' = _ := hq.bound_eq
  apply implies_of_forall_holds (sameCoefficients_of_perm hq.nodup_ids hperm)
    (fun x => sumAt_perm hperm.symm) _ h
  apply exists_sumAt_eq
  simpa only [hr.sumAt_eq] using hne

/-- An upper bound that holds wherever an equality does is implied by it, if the forms that they
read are opposite up to the sign of their senses and not zero. -/
theorem Reads.implies_of_opposite (hr : r.Reads .equal v t) (hq : q.Reads s' w u)
    (hs' : s' ≠ .equal) (hne : ∃ id, v (Pi.single id 1) ≠ 0)
    (hunits : ∀ id, v (Pi.single id 1) = -(s'.sign * w (Pi.single id 1)))
    (hexact : ∀ a ∈ r.numbers, ∀ b ∈ q.numbers, Coefficient.close a b = true → a = b)
    (h : ∀ x, r.HoldsWithin 0 x → q.HoldsWithin 0 x) :
  r.implies q = .ok true
  := by
  have hform : ∀ x, sumAt x r.coefficients = v x := by
    intro x
    rw [hr.sumAt_eq, Sense.sign, one_mul]
  have hperm : (r.coefficients.map fun (id, a) => (id, -a)).Perm q.coefficients := by
    apply perm_of_sumAt_single _ _ hq.nodup_ids hq.ne_zero
    · intro id
      rw [sumAt_neg, hform, hq.sumAt_eq, hunits, neg_neg]
    · rw [List.map_map]
      apply hr.nodup_ids
    · intro p hp
      obtain ⟨o, ho, rfl⟩ := List.mem_map.mp hp
      apply neg_ne_zero.mpr (hr.ne_zero o ho)
  have hsame : sameCoefficients r.coefficients q.coefficients = false := by
    -- The sums would be their own opposites, so all of them zero.
    rw [← Bool.not_eq_true]
    intro htrue
    obtain ⟨id, hid⟩ := hne
    have heq := sumAt_eq_of_sameCoefficients hr.nodup_ids
      (fun p hp o ho => hexact _ (List.mem_append_right _ (List.mem_map_of_mem hp)) _
        (List.mem_append_right _ (List.mem_map_of_mem ho))) htrue (Pi.single id 1)
    rw [hq.sumAt_eq, hform] at heq
    apply hid
    linarith [hunits id]
  obtain ⟨l, bound, e⟩ := r
  obtain ⟨m, bound', f⟩ := q
  obtain rfl : bound = _ := hr.bound_eq
  obtain rfl : bound' = _ := hq.bound_eq
  obtain rfl : e = true := hr.isEquality_iff.mpr rfl
  obtain rfl : f = false := hq.isEquality_eq_false hs'
  apply implies_of_forall_holds_neg hsame (sameCoefficients_of_perm hq.nodup_ids hperm) _ _ h
  · intro x
    rw [← sumAt_perm hperm, sumAt_neg]
  · apply exists_sumAt_eq
    simpa only [hform] using hne

end Reads

end NormalRow

/-! ### Entries -/

/-- What an identifier is multiplied by in the linear part, all its occurrences added up. -/
def Scalar.coefficientOf (id : ℕ) (e : Scalar ℚ) : ℚ :=
  ((e.vars.zip e.coefficients).map fun p => if p.1.id = id then p.2 else 0).sum

/-- The linear value at a unit point is the coefficient of its variable, repeated ones added up. -/
theorem Scalar.linearValue_single (id : ℕ) (e : Scalar ℚ) :
  linearValue (Pi.single id 1) e.vars e.coefficients = e.coefficientOf id
  := by
  rw [← NormalRow.sumAt_zip, NormalRow.sumAt, coefficientOf, List.zip_map_left, List.map_map]
  congr 1
  apply List.map_congr_left
  intro p _
  simp [Pi.single_apply]

namespace Constraint

/-- What an identifier is multiplied by with all variables moved to the left. -/
def movedCoefficient (id : ℕ) (p : Scalar ℚ × Scalar ℚ) : ℚ :=
  p.1.coefficientOf id - p.2.coefficientOf id

/-- What is moved to the left has the moved coefficient at a unit point. -/
theorem movedValue_single (id : ℕ) (p : Scalar ℚ × Scalar ℚ) :
  movedValue (Pi.single id 1) p = movedCoefficient id p
  := by
  rw [movedValue, Scalar.linearValue_single, Scalar.linearValue_single, movedCoefficient]

/-- Whether all rows of a constraint have small integers for coefficients and bounds, once the
variables have been moved to the left and those that are repeated have been added up. -/
def IsIntegral (c : Constraint ℚ) : Prop :=
  ∀ p ∈ c.entries, Coefficient.IsSmallInteger (movedBound p)
    ∧ ∀ id, Coefficient.IsSmallInteger (movedCoefficient id p)

/-- Whether every point that satisfies a constraint satisfies another one. -/
def Entails (c d : Constraint ℚ) : Prop :=
  ∀ s, Covers s (c.lhs.vars ++ c.rhs.vars) → Covers s (d.lhs.vars ++ d.rhs.vars) →
    c.Satisfied s → d.Satisfied s

/-- Whether two constraints between scalar expressions have the same coefficients, not all of them
zero, once they read as equalities or upper bounds, or opposite ones if only the first is an
equality. -/
def Parallel (c d : Constraint ℚ) : Prop :=
  ∃ a s b a' s' b', c = ofScalars a s b ∧ d = ofScalars a' s' b'
    ∧ (∃ id, movedCoefficient id (a, b) ≠ 0)
    ∧ ((∀ id, s.sign * movedCoefficient id (a, b) = s'.sign * movedCoefficient id (a', b'))
      ∨ s = .equal ∧ s' ≠ .equal
        ∧ ∀ id, s.sign * movedCoefficient id (a, b)
            = -(s'.sign * movedCoefficient id (a', b')))

/-- A constraint that passes its check is one that a comparison builds. -/
theorem HasSides.isComparison {c : Constraint ℚ} (h : c.HasSides) (hcheck : c.check = .ok ()) :
  c.IsComparison
  := by
  have hshape := (h.check_eq_ok_iff.mp hcheck).1
  cases h with
  | scalars a s b => apply isComparison_ofScalars
  | vectors u s v =>
      obtain ⟨hl, ho⟩ := hshape u s v rfl
      apply isComparison_ofVectors hl ho

/-! ### Verdicts -/

/-- The rows of a constraint between scalar expressions are a single one. -/
theorem readBy_ofScalars_iff {a b : Scalar ℚ} {s : Sense} {rows : List (NormalRow ℚ)} :
  (ofScalars a s b).ReadBy rows
    ↔ ∃ r, rows = [r] ∧ r.Reads s (movedValue · (a, b)) (movedBound (a, b))
  := by
  rw [ReadBy, entries_ofScalars, List.forall₂_cons_left_iff]
  constructor
  · rintro ⟨r, _, hr, hnil, rfl⟩
    cases hnil
    use r, rfl
    apply hr
  · rintro ⟨r, rfl, hr⟩
    use r, [], hr, .nil

variable {c d : Constraint ℚ} {rows others : List (NormalRow ℚ)}

/-- The rows of an integral constraint are made of small integers. -/
theorem IsIntegral.isSmallInteger_of_mem_numbers (hc : c.IsIntegral) (hread : c.ReadBy rows) :
  ∀ r ∈ rows, ∀ a ∈ r.numbers, Coefficient.IsSmallInteger a
  := by
  refine Outcome.forall_mem_of_forall₂ hread ?_ hc
  rintro p r hr ⟨hbound, hcoefficients⟩ a ha
  apply hr.isSmallInteger_of_mem_numbers hbound _ ha
  intro id
  rw [movedValue_single]
  apply hcoefficients

/-- Between small integers nothing is lost to the tolerance. -/
theorem IsIntegral.resolves (hc : c.IsIntegral) (hrows : c.normalRows = .ok rows)
    (hread : c.ReadBy rows) (hd : d.IsIntegral) (hothers : d.normalRows = .ok others)
    (hread' : d.ReadBy others) :
  c.Resolves d
  := by
  intro rows' others' hrows' hothers' r hr q hq a ha b hb
  cases hrows.symm.trans hrows'
  cases hothers.symm.trans hothers'
  have ha := hc.isSmallInteger_of_mem_numbers hread r hr a ha
  have hb := hd.isSmallInteger_of_mem_numbers hread' q hq b hb
  constructor
  · intro hclose
    rw [Coefficient.eq_of_close ha hb hclose, sub_self, abs_zero, zero_mul]
  · intro hclose
    rw [Coefficient.eq_of_close ha.neg hb hclose, sub_self, abs_zero, zero_mul]

/-- The rows of a constraint that is entailed hold wherever those of the other one do. -/
theorem Entails.forall_holdsWithin (h : c.Entails d) (hrows : c.IsNormalised rows)
    (hothers : d.IsNormalised others) {x : ℕ → ℚ} (hx : ∀ r ∈ rows, r.HoldsWithin 0 x) :
  ∀ q ∈ others, q.HoldsWithin 0 x
  := by
  have hcovers : ∀ vs, Covers (fun id => some (x id)) vs := fun _ _ _ => rfl
  apply (hothers.2 _ (hcovers _)).mp
  apply h _ (hcovers _) (hcovers _)
  apply (hrows.2 _ (hcovers _)).mpr hx

/-- Between parallel constraints every row that holds wherever the other one does is implied. -/
theorem Parallel.forall_implies (h : c.Parallel d) (hc : c.IsIntegral) (hread : c.ReadBy rows)
    (hd : d.IsIntegral) (hread' : d.ReadBy others)
    (hholds : ∀ x, (∀ r ∈ rows, r.HoldsWithin 0 x) → ∀ q ∈ others, q.HoldsWithin 0 x) :
  ∀ q ∈ others, ∃ r ∈ rows, r.implies q = .ok true
  := by
  have hsmall := hc.isSmallInteger_of_mem_numbers hread
  have hsmall' := hd.isSmallInteger_of_mem_numbers hread'
  obtain ⟨a, s, b, a', s', b', rfl, rfl, ⟨id, hid⟩, hunits⟩ := h
  obtain ⟨r, rfl, hr⟩ := readBy_ofScalars_iff.mp hread
  obtain ⟨q, rfl, hq⟩ := readBy_ofScalars_iff.mp hread'
  simp only [List.forall_mem_singleton] at hholds hsmall hsmall' ⊢
  use r, List.mem_cons_self
  rcases hunits with hsame | ⟨rfl, hs', hopposite⟩
  · apply hr.implies_of_same hq _ _ hholds
    · use id
      rw [movedValue_single]
      apply mul_ne_zero s.sign_ne_zero hid
    · intro id
      rw [movedValue_single, movedValue_single, hsame]
  · apply hr.implies_of_opposite hq hs' _ _ _ hholds
    · use id
      rw [movedValue_single]
      apply hid
    · intro id
      rw [movedValue_single, movedValue_single, ← hopposite, Sense.sign, one_mul]
    · intro a ha b hb
      apply Coefficient.eq_of_close (hsmall a ha) (hsmall' b hb)

/-- On linear constraints that pass their checks and whose rows have small integers for
coefficients and bounds the test for implication has a verdict. A positive one is sound, and
between parallel constraints every implication is found. -/
theorem implies_exact (hc : c.HasSides) (hcheck : c.check = .ok ()) (hlinear : c.isLinear = true)
    (hintegral : c.IsIntegral) (hd : d.HasSides) (hcheck' : d.check = .ok ())
    (hlinear' : d.isLinear = true) (hintegral' : d.IsIntegral) :
  ∃ verdict, c.implies d = .ok verdict ∧ (verdict = true → c.Entails d)
    ∧ (c.Parallel d → (verdict = true ↔ c.Entails d))
  := by
  have hcomparison := hc.isComparison hcheck
  have hcomparison' := hd.isComparison hcheck'
  obtain ⟨rows, hrows, hread⟩ := hcomparison.exists_normalRows hlinear
  obtain ⟨others, hothers, hread'⟩ := hcomparison'.exists_normalRows hlinear'
  have hnormal := hread.isNormalised hcomparison hlinear
  have hnormal' := hread'.isNormalised hcomparison' hlinear'
  have hboth : (c.isLinear && d.isLinear) = true := by
    rw [hlinear, hlinear', Bool.and_self]
  obtain ⟨verdict, hverdict, hiff⟩ :=
    exists_implies_of_rows hboth hrows hnormal.1 hothers hnormal'.1
  have hsound : verdict = true → c.Entails d := by
    rintro rfl s hs hs' hsatisfied
    have hresolves := hintegral.resolves hrows hread hintegral' hothers hread'
    apply (satisfiedWithin_of_implies hcomparison hcomparison' hverdict hs hsatisfied).2
      hresolves hs'
  use verdict, hverdict, hsound
  intro hparallel
  use hsound
  intro hentails
  apply hiff.mpr
  apply hparallel.forall_implies hintegral hread hintegral' hread'
  intro x hx
  apply hentails.forall_holdsWithin hnormal hnormal' hx

/-- Two variables add up to two. -/
def sumOfTwo : Constraint ℚ := ofScalars (combination 1) .equal (.const 2)

/-- The sum of two variables is at least one. -/
def atLeastOne : Constraint ℚ := ofScalars (.const 1) .lessEqual (combination 1)

theorem coefficientOf_combination (id : ℕ) :
  (combination (1 : ℚ)).coefficientOf id = if id = 0 ∨ id = 1 then 1 else 0
  := by
  change (if 0 = id then (1 : ℚ) else 0) + ((if 1 = id then 1 else 0) + 0) = _
  rcases eq_or_ne id 0 with rfl | h0
  · norm_num
  · simp [h0, h0.symm, eq_comm (a := 1)]

/-- A comparison is integral if the differences of its constants and of its coefficients are small
integers. -/
theorem isIntegral_ofScalars {a b : Scalar ℚ} {s : Sense}
    (hbound : Coefficient.IsSmallInteger (b.constant - a.constant))
    (h : ∀ id, Coefficient.IsSmallInteger (a.coefficientOf id - b.coefficientOf id)) :
  (ofScalars a s b).IsIntegral
  := by
  rw [IsIntegral, entries_ofScalars, List.forall_mem_singleton]
  use hbound, h

theorem isSmallInteger_coefficientOf_combination (id : ℕ) :
  Coefficient.IsSmallInteger ((combination (1 : ℚ)).coefficientOf id)
  := by
  rw [coefficientOf_combination]
  split_ifs
  · apply Coefficient.isSmallInteger_of_eq 1 (by norm_num) (by norm_num)
  · apply Coefficient.isSmallInteger_of_eq 0 (by norm_num) (by norm_num)

theorem isIntegral_sumOfTwo :
  sumOfTwo.IsIntegral
  := by
  apply isIntegral_ofScalars
  · apply Coefficient.isSmallInteger_of_eq 2 _ (by norm_num)
    norm_num [Scalar.constant, combination]
  · intro id
    have hconst : (Scalar.const (2 : ℚ)).coefficientOf id = 0 := rfl
    rw [hconst, sub_zero]
    apply isSmallInteger_coefficientOf_combination

theorem isIntegral_atLeastOne :
  atLeastOne.IsIntegral
  := by
  apply isIntegral_ofScalars
  · apply Coefficient.isSmallInteger_of_eq (-1) _ (by norm_num)
    norm_num [Scalar.constant, combination]
  · intro id
    have hconst : (Scalar.const (1 : ℚ)).coefficientOf id = 0 := rfl
    rw [hconst, zero_sub]
    apply (isSmallInteger_coefficientOf_combination id).neg

theorem parallel_atLeastOne :
  sumOfTwo.Parallel atLeastOne
  := by
  use combination 1, .equal, .const 2, .const 1, .lessEqual, combination 1, rfl, rfl
  constructor
  · use 0
    rw [movedCoefficient, coefficientOf_combination]
    change (1 : ℚ) - 0 ≠ 0
    norm_num
  · right
    use rfl, nofun
    intro id
    change 1 * ((combination (1 : ℚ)).coefficientOf id - 0)
      = -(1 * (0 - (combination (1 : ℚ)).coefficientOf id))
    ring

/-- An equality and an inequality with the opposite coefficients. -/
theorem implies_exact_opposite :
  (sumOfTwo.HasSides ∧ sumOfTwo.check = .ok () ∧ sumOfTwo.isLinear = true ∧ sumOfTwo.IsIntegral)
    ∧ (atLeastOne.HasSides ∧ atLeastOne.check = .ok () ∧ atLeastOne.isLinear = true
      ∧ atLeastOne.IsIntegral)
    ∧ sumOfTwo.Parallel atLeastOne ∧ sumOfTwo.implies atLeastOne = .ok true
    ∧ sumOfTwo.Entails atLeastOne
  := by
  have hsides : sumOfTwo.HasSides := .scalars ..
  have hsides' : atLeastOne.HasSides := .scalars ..
  have hverdict : sumOfTwo.implies atLeastOne = .ok true := by
    apply Outcome.eq_ok_of_toOption
    decide +kernel
  obtain ⟨verdict, hb, -, hiff⟩ := implies_exact hsides rfl rfl isIntegral_sumOfTwo hsides' rfl rfl
    isIntegral_atLeastOne
  have htrue : verdict = true := Except.ok.inj (hb.symm.trans hverdict)
  use ⟨hsides, rfl, rfl, isIntegral_sumOfTwo⟩, ⟨hsides', rfl, rfl, isIntegral_atLeastOne⟩,
    parallel_atLeastOne, hverdict, (hiff parallel_atLeastOne).mp htrue

/-! ### Coefficients that cancel each other -/

/-- A variable with a coefficient, with one and with the opposite of the first, and another
variable, are at most zero. -/
def cancelling {α : Type} [Coefficient α] (a : α) : Constraint α :=
  ofScalars (.linear ⟨[minuend, minuend, minuend, subtrahend], [a, 1, -a, 1], 0, rfl⟩) .lessEqual
    (.const 0)

/-- The other variable is at most zero. -/
def remaining {α : Type} [Coefficient α] : Constraint α :=
  ofScalars (.var subtrahend) .lessEqual (.const 0)

/-- Added up exactly, the coefficient of either variable is one. -/
theorem isIntegral_cancelling (a : ℚ) :
  (cancelling a).IsIntegral
  := by
  apply isIntegral_ofScalars
  · apply Coefficient.isSmallInteger_of_eq 0 _ (by norm_num)
    norm_num [Scalar.constant]
  · intro id
    have hsum : (Scalar.linear ⟨[minuend, minuend, minuend, subtrahend], [a, 1, -a, 1], 0, rfl⟩
        : Scalar ℚ).coefficientOf id = (combination 1).coefficientOf id := by
      change (if 0 = id then a else 0) + ((if 0 = id then 1 else 0)
          + ((if 0 = id then -a else 0) + ((if 1 = id then 1 else 0) + 0)))
        = (if 0 = id then (1 : ℚ) else 0) + ((if 1 = id then 1 else 0) + 0)
      split_ifs <;> ring
    have hconst : (Scalar.const (0 : ℚ)).coefficientOf id = 0 := rfl
    rw [hsum, hconst, sub_zero]
    apply isSmallInteger_coefficientOf_combination

theorem isIntegral_remaining :
  (remaining : Constraint ℚ).IsIntegral
  := by
  apply isIntegral_ofScalars
  · apply Coefficient.isSmallInteger_of_eq 0 _ (by norm_num)
    norm_num [Scalar.constant]
  · intro id
    change Coefficient.IsSmallInteger ((if 1 = id then 1 else 0) + 0 - 0)
    split_ifs
    · apply Coefficient.isSmallInteger_of_eq 1 (by norm_num) (by norm_num)
    · apply Coefficient.isSmallInteger_of_eq 0 (by norm_num) (by norm_num)

/-- An assignment of a value to the one variable and zero to the other. -/
def alongMinuend {α : Type} [Coefficient α] (a : α) : ℕ → Option α :=
  fun id => some (if id = 0 then a else 0)

/-- With doubles the verdict is wrong where large coefficients of one variable cancel each other and
a small one is lost to the rounding of their sum, although the rows, added up exactly, have small
integers only. -/
theorem implies_inexact :
  (remaining : Constraint ℚ).IsIntegral ∧ (cancelling (9007199254740992 : ℚ)).IsIntegral
    ∧ remaining.Satisfied (alongMinuend (1 : ℚ))
    ∧ ¬ (cancelling 9007199254740992).Satisfied (alongMinuend (1 : ℚ))
    ∧ (remaining : Constraint Float).check = .ok ()
    ∧ (cancelling 9007199254740992.0).check = .ok ()
    ∧ remaining.implies (cancelling 9007199254740992.0) = .ok true
    ∧ remaining.Satisfied (alongMinuend 3.0)
    ∧ ¬ (cancelling 9007199254740992.0).Satisfied (alongMinuend 3.0)
  := by
  use isIntegral_remaining, isIntegral_cancelling _
  constructor
  · exact (satisfied_iff rfl rfl).mpr ⟨rfl, by decide +kernel⟩
  · constructor
    · intro h
      exact absurd ((satisfied_iff rfl rfl).mp h).2 (by decide +kernel)
    · use rfl, rfl, rfl
      constructor
      · exact (satisfied_iff rfl rfl).mpr ⟨rfl, by decide +kernel⟩
      · intro h
        exact absurd ((satisfied_iff rfl rfl).mp h).2 (by decide +kernel)

end Constraint

end QuadraticProgram
