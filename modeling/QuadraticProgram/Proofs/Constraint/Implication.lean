import Mathlib.Algebra.Order.Field.Basic
import Mathlib.Algebra.Order.Field.Rat
import Mathlib.Data.List.Perm.Subperm
import QuadraticProgram.Problem.Redundancy
import QuadraticProgram.Proofs.Constraint.NormalRow

/-!
# Implied constraints

The test whether one constraint implies another compares numbers up to a tolerance. It is sound
up to a share `slack` of the size of the rows that are implied, and without any slack where
numbers that count as close are equal (`Constraint.implies_within`). Without that proviso it is
not sound (`Constraint.implies_unsound`).
-/

namespace QuadraticProgram

open QuadraticProgram.Alignment

variable {x : ℕ → ℚ} {ε : ℚ}

/-! ### Close numbers -/

namespace Coefficient

/-- The share of a number by which a close one may differ from it. -/
def slack : ℚ := 1 / 999999999

theorem magnitude_eq_abs (a : ℚ) :
  magnitude a = |a|
  := by
  change (if a < 0 then -a else a) = |a|
  split_ifs with h
  · rw [abs_of_neg h]
  · rw [abs_of_nonneg (not_lt.mp h)]

theorem tolerance_eq :
  (tolerance : ℚ) = 1 / 1000000000
  := by
  rw [tolerance]
  norm_num [instCoefficientRat, Rat.mkRat_eq_div]

theorem atMost_iff (a b : ℚ) :
  atMost a b = true ↔ a ≤ b
  := decide_eq_true_iff

/-- Rationals are close if they are equal, or differ by a small part of either. -/
theorem close_iff (a b : ℚ) :
  close a b = true ↔ a = b ∨ |b - a| ≤ |b| / 1000000000 ∨ |b - a| ≤ |a| / 1000000000
  := by
  have hscale : ∀ c : ℚ, |tolerance * c| = |c| / 1000000000 := by
    intro c
    rw [abs_mul, tolerance_eq, abs_of_pos (by norm_num)]
    ring
  have hfinite : ∀ c : ℚ, isInfinite c = false := fun _ => rfl
  rw [close, Bool.or_eq_true, beq_iff_eq, hfinite, hfinite]
  simp only [Bool.not_false, Bool.true_and, Bool.or_eq_true, atMost_iff, magnitude_eq_abs, hscale]

/-- Close rationals differ by a small part of the second one. -/
theorem abs_sub_le_of_close {a b : ℚ} (h : close a b = true) :
  |b - a| ≤ slack * |b|
  := by
  have hb := abs_nonneg b
  have htriangle : |a| ≤ |b| + |b - a| := by
    rw [abs_sub_comm]
    have := abs_sub_abs_le_abs_sub a b
    linarith
  rw [slack]
  rcases (close_iff a b).mp h with rfl | h | h
  · rw [sub_self, abs_zero]
    positivity
  · linarith
  · linarith

end Coefficient

/-! ### Rows -/

namespace NormalRow

/-- The numbers of a row: its bound and its coefficients. -/
def numbers (r : NormalRow ℚ) : List ℚ :=
  (match r.bound with
    | .single t => [t]
    | .list ts => ts) ++ r.coefficients.map Prod.snd

/-- Whether the numbers of a row, their signs changed or not, differ from those of another row
that they are close to by at most a share of the latter. -/
def ResolvesWithin (ε : ℚ) (r q : NormalRow ℚ) : Prop :=
  ∀ a ∈ r.numbers, ∀ b ∈ q.numbers,
    (Coefficient.close a b = true → |b - a| ≤ ε * |b|)
      ∧ (Coefficient.close (-a) b = true → |b - -a| ≤ ε * |b|)

/-- Between any rows numbers that are close differ by the slack at most. -/
theorem resolvesWithin_slack (r q : NormalRow ℚ) :
  r.ResolvesWithin Coefficient.slack q
  := by
  intro a _ b _
  use Coefficient.abs_sub_le_of_close
  apply Coefficient.abs_sub_le_of_close

/-- Coefficients in pairs by their identifiers. -/
theorem exists_pairs {l m : List (ℕ × ℚ)} (hl : (l.map Prod.fst).Nodup)
    (h : sameCoefficients l m = true) :
  ∃ pairs : List (ℕ × ℚ × ℚ), pairs.map (fun p => (p.1, p.2.1)) = l
    ∧ (pairs.map fun p => (p.1, p.2.2)).Perm m
    ∧ ∀ p ∈ pairs, Coefficient.close p.2.1 p.2.2 = true
  := by
  rw [sameCoefficients, Bool.and_eq_true, beq_iff_eq, List.all_eq_true] at h
  obtain ⟨hlength, hclose⟩ := h
  have hfound : ∀ p ∈ l, ∃ b, m.lookup p.1 = some b ∧ Coefficient.close p.2 b = true := by
    intro p hp
    have hp := hclose p hp
    rcases hb : m.lookup p.1 with - | b
    · simp [hb] at hp
    · use b, rfl
      simpa [hb] using hp
  choose! b hlookup hb using hfound
  use l.map fun p => (p.1, p.2, b p)
  simp only [List.map_map, Function.comp_def]
  refine ⟨List.map_id l, ?_, ?_⟩
  · have hnodup : (l.map fun p => (p.1, b p)).Nodup := by
      apply List.Nodup.of_map Prod.fst
      rw [List.map_map]
      apply hl
    have hsubset : (l.map fun p => (p.1, b p)) ⊆ m := by
      intro q hq
      obtain ⟨p, hp, rfl⟩ := List.mem_map.mp hq
      obtain ⟨before, after, hm, -⟩ := List.lookup_eq_some_iff.mp (hlookup p hp)
      rw [hm]
      apply List.mem_append_right before List.mem_cons_self
    apply (List.subperm_of_subset hnodup hsubset).perm_of_length_le
    rw [List.length_map, hlength]
  · intro q hq
    obtain ⟨p, hp, rfl⟩ := List.mem_map.mp hq
    apply hb p hp

/-- Sums of coefficients that differ in pairs by at most a share. -/
theorem abs_sumAt_pairs_le (pairs : List (ℕ × ℚ × ℚ))
    (h : ∀ p ∈ pairs, |p.2.2 - p.2.1| ≤ ε * |p.2.2|) :
  |sumAt x (pairs.map fun p => (p.1, p.2.2)) - sumAt x (pairs.map fun p => (p.1, p.2.1))|
    ≤ ε * sizeAt x (pairs.map fun p => (p.1, p.2.2))
  := by
  induction pairs with
  | nil => simp [sumAt, sizeAt]
  | cons p pairs ih =>
      rw [List.forall_mem_cons] at h
      obtain ⟨hp, hpairs⟩ := h
      have hterm : |p.2.2 * x p.1 - p.2.1 * x p.1| ≤ ε * |p.2.2 * x p.1| := by
        rw [← sub_mul, abs_mul, abs_mul, ← mul_assoc]
        apply mul_le_mul_of_nonneg_right hp (abs_nonneg _)
      simp only [List.map_cons, sumAt_cons, sizeAt_cons, add_sub_add_comm, mul_add]
      apply (abs_add_le _ _).trans (add_le_add hterm (ih hpairs))

/-- The sums of coefficients that count as the same. -/
theorem abs_sumAt_sub_le {l m : List (ℕ × ℚ)} (hl : (l.map Prod.fst).Nodup)
    (h : sameCoefficients l m = true)
    (hε : ∀ p ∈ l, ∀ q ∈ m, Coefficient.close p.2 q.2 = true → |q.2 - p.2| ≤ ε * |q.2|) :
  |sumAt x m - sumAt x l| ≤ ε * sizeAt x m
  := by
  obtain ⟨pairs, rfl, hperm, hclose⟩ := exists_pairs hl h
  rw [← sumAt_perm hperm, ← sizeAt_perm hperm]
  apply abs_sumAt_pairs_le
  intro p hp
  have hright : (p.1, p.2.2) ∈ m := hperm.subset (List.mem_map_of_mem hp)
  apply hε (p.1, p.2.1) (List.mem_map_of_mem hp) (p.1, p.2.2) hright (hclose p hp)

/-- Between rows with a number for their bound there is a verdict. -/
theorem exists_implies {r q : NormalRow ℚ} (hr : r.Proper) (hq : q.Proper) :
  ∃ b, r.implies q = .ok b
  := by
  obtain ⟨l, rbound, e⟩ := r
  obtain ⟨m, qbound, f⟩ := q
  obtain ⟨t, rfl⟩ := hr.bound_eq
  obtain ⟨u, rfl⟩ := hq.bound_eq
  rw [implies]
  split_ifs
  all_goals exact ⟨_, rfl⟩

/-- What a row says without slack: its sum is at most its bound, and the same if it is an
equality. -/
theorem sumAt_of_holdsWithin_zero {l : List (ℕ × ℚ)} {t : ℚ} {e : Bool}
    (h : (⟨l, .single t, e⟩ : NormalRow ℚ).HoldsWithin 0 x) :
  sumAt x l ≤ t ∧ (e = true → sumAt x l = t)
  := by
  cases e with
  | false =>
      use holdsWithin_zero_inequality_iff.mp h
      nofun
  | true =>
      have heq := holdsWithin_zero_equality_iff.mp h
      use heq.le
      intro _
      apply heq

/-- A row implies another one with the same coefficients, as equalities with close bounds or as
an upper bound that is no smaller, or an upper bound on the coefficients with their signs
changed. -/
theorem cases_of_implies {l m : List (ℕ × ℚ)} {t u : ℚ} {e f : Bool}
    (h : (⟨l, .single t, e⟩ : NormalRow ℚ).implies ⟨m, .single u, f⟩ = .ok true) :
  (e = true ∧ f = true ∧ sameCoefficients l m = true ∧ Coefficient.close t u = true)
    ∨ (f = false ∧ sameCoefficients l m = true ∧ t ≤ u)
    ∨ (e = true ∧ f = false ∧ sameCoefficients (l.map fun (id, a) => (id, -a)) m = true ∧ -t ≤ u)
  := by
  have hatMost : ∀ a b : ℚ, Bound.atMost (.single a) (.single b) = .ok true → a ≤ b := by
    intro a b hab
    apply (Coefficient.atMost_iff a b).mp (Except.ok.inj hab)
  rw [implies] at h
  split at h
  next hsame =>
    split at h
    next hboth =>
      left
      obtain ⟨he, hf⟩ := Bool.and_eq_true_iff.mp hboth
      use he, hf, hsame, Except.ok.inj h
    next hboth =>
      right
      left
      split at h
      next hupper =>
        have hf : f = false := by
          cases e <;> cases f <;> simp_all
        use hf, hsame, hatMost t u h
      next => cases h
  next =>
    split at h
    next hnegated =>
      right
      right
      simp only [Bool.and_eq_true, Bool.not_eq_true'] at hnegated
      use hnegated.1.1, hnegated.1.2, hnegated.2, hatMost (-t) u h
    next => cases h

/-- A row that is implied by one that holds without slack holds up to the share by which close
numbers differ. -/
theorem holdsWithin_of_implies {r q : NormalRow ℚ} (hr : r.Proper) (hq : q.Proper)
    (hε : r.ResolvesWithin ε q) (himplies : r.implies q = .ok true) (h : r.HoldsWithin 0 x) :
  q.HoldsWithin ε x
  := by
  obtain ⟨l, rbound, e⟩ := r
  obtain ⟨m, qbound, f⟩ := q
  obtain ⟨t, rfl⟩ := hr.bound_eq
  obtain ⟨u, rfl⟩ := hq.bound_eq
  obtain ⟨hle, heq⟩ := sumAt_of_holdsWithin_zero h
  have hl : ∀ p ∈ l, p.2 ∈ (⟨l, .single t, e⟩ : NormalRow ℚ).numbers := by
    intro p hp
    apply List.mem_append_right [t] (List.mem_map_of_mem hp)
  have hm : ∀ p ∈ m, p.2 ∈ (⟨m, .single u, f⟩ : NormalRow ℚ).numbers := by
    intro p hp
    apply List.mem_append_right [u] (List.mem_map_of_mem hp)
  have hsum : sameCoefficients l m = true → |sumAt x m - sumAt x l| ≤ ε * sizeAt x m := by
    intro hsame
    apply abs_sumAt_sub_le hr.nodup_ids hsame
    intro p hp q hq
    apply (hε _ (hl p hp) _ (hm q hq)).1
  rcases cases_of_implies himplies with
    ⟨rfl, rfl, hsame, hclose⟩ | ⟨rfl, hsame, htu⟩ | ⟨rfl, rfl, hsame, htu⟩
  · have hbound := (hε t List.mem_cons_self u List.mem_cons_self).1 hclose
    rw [holdsWithin_equality_iff, mul_add]
    calc |sumAt x m - u| = |(sumAt x m - sumAt x l) + (t - u)| := by
          rw [heq rfl, sub_add_sub_cancel]
      _ ≤ |sumAt x m - sumAt x l| + |t - u| := abs_add_le _ _
      _ ≤ ε * sizeAt x m + ε * |u| := by
          rw [abs_sub_comm t u]
          apply add_le_add (hsum hsame) hbound
  · rw [holdsWithin_inequality_iff]
    have hdifference := (le_abs_self _).trans (hsum hsame)
    linarith
  · rw [holdsWithin_inequality_iff]
    have hnodup : ((l.map fun (id, a) => (id, -a)).map Prod.fst).Nodup := by
      rw [List.map_map]
      apply hr.nodup_ids
    have hdifference : |sumAt x m - sumAt x (l.map fun (id, a) => (id, -a))| ≤ ε * sizeAt x m := by
      apply abs_sumAt_sub_le hnodup hsame
      intro p hp q hq
      obtain ⟨o, ho, rfl⟩ := List.mem_map.mp hp
      apply (hε _ (hl o ho) _ (hm q hq)).2
    rw [sumAt_neg, heq rfl] at hdifference
    have hdifference := (le_abs_self _).trans hdifference
    linarith

end NormalRow

/-! ### Constraints -/

namespace Constraint

/-- Whether a linear constraint holds at a point, row by row, up to a share of each row's own
size. -/
def SatisfiedWithin (ε : ℚ) (x : ℕ → ℚ) (c : Constraint ℚ) : Prop :=
  ∃ rows, c.normalRows = .ok rows ∧ ∀ r ∈ rows, r.HoldsWithin ε x

/-- Whether the numbers of a constraint's rows are equal to the numbers of another's rows that
they are close to. -/
def Resolves (c d : Constraint ℚ) : Prop :=
  ∀ rows others, c.normalRows = .ok rows → d.normalRows = .ok others →
    ∀ r ∈ rows, ∀ q ∈ others, r.ResolvesWithin 0 q

/-- The verdict on linear constraints is whether every row of the other one is implied by a row. -/
theorem exists_implies_of_rows {c d : Constraint ℚ} {rows others : List (NormalRow ℚ)}
    (hlinear : (c.isLinear && d.isLinear) = true) (hrows : c.normalRows = .ok rows)
    (hproper : ∀ r ∈ rows, r.Proper) (hothers : d.normalRows = .ok others)
    (hproper' : ∀ q ∈ others, q.Proper) :
  ∃ b, c.implies d = .ok b ∧ (b = true ↔ ∀ q ∈ others, ∃ r ∈ rows, r.implies q = .ok true)
  := by
  have hany : ∀ q ∈ others, ∃ b, (rows.anyM fun r => r.implies q) = .ok b
      ∧ (b = true ↔ ∃ r ∈ rows, r.implies q = .ok true) := by
    intro q hq
    apply Outcome.exists_anyM
    intro r hr
    apply NormalRow.exists_implies (hproper r hr) (hproper' q hq)
  obtain ⟨b, hb, hiff⟩ := Outcome.exists_allM fun q hq => (hany q hq).imp fun _ => And.left
  use b
  constructor
  · rw [implies, if_pos hlinear, hrows, hothers]
    apply hb
  · rw [hiff]
    apply forall₂_congr
    intro q hq
    obtain ⟨a, ha, ha'⟩ := hany q hq
    rw [ha, ← ha', Except.ok.injEq]

/-- A comparison has a verdict on another one. A positive one says of linear constraints that
every row of the other constraint is implied by a row. -/
theorem exists_implies {c d : Constraint ℚ} (hc : c.IsComparison) (hd : d.IsComparison) :
  ∃ b, c.implies d = .ok b ∧ (b = true →
    ∃ rows others, c.normalRows = .ok rows ∧ c.IsNormalised rows
      ∧ d.normalRows = .ok others ∧ d.IsNormalised others
      ∧ ∀ q ∈ others, ∃ r ∈ rows, r.implies q = .ok true)
  := by
  by_cases hlinear : (c.isLinear && d.isLinear) = true
  · obtain ⟨hclinear, hdlinear⟩ := Bool.and_eq_true_iff.mp hlinear
    obtain ⟨rows, hrows, hread⟩ := hc.exists_normalRows hclinear
    obtain ⟨others, hothers, hread'⟩ := hd.exists_normalRows hdlinear
    have hnormal := hread.isNormalised hc hclinear
    have hnormal' := hread'.isNormalised hd hdlinear
    obtain ⟨b, hb, hiff⟩ := exists_implies_of_rows hlinear hrows hnormal.1 hothers hnormal'.1
    use b, hb
    intro htrue
    use rows, others, hrows, hnormal, hothers, hnormal', hiff.mp htrue
  · use false
    rw [implies, if_neg hlinear]
    use rfl
    nofun

/-- The verdict on two comparisons is sound up to the share by which close numbers differ. -/
theorem satisfiedWithin_of_implies {c d : Constraint ℚ} (hc : c.IsComparison) (hd : d.IsComparison)
    (h : c.implies d = .ok true) {s : ℕ → Option ℚ}
    (hs : Covers s (c.lhs.vars ++ c.rhs.vars)) (hsatisfied : c.Satisfied s) :
  d.SatisfiedWithin Coefficient.slack (pointOf s)
    ∧ (c.Resolves d → Covers s (d.lhs.vars ++ d.rhs.vars) → d.Satisfied s)
  := by
  obtain ⟨b, hb, himplied⟩ := exists_implies hc hd
  rw [h] at hb
  obtain ⟨rows, others, hrows, hnormal, hothers, hnormal', hq⟩ :=
    himplied (Except.ok.inj hb).symm
  have hholds := (hnormal.2 s hs).mp hsatisfied
  have hwithin : ∀ ε, (∀ r ∈ rows, ∀ q ∈ others, r.ResolvesWithin ε q) →
      ∀ q ∈ others, q.HoldsWithin ε (pointOf s) := by
    intro ε hε q hmem
    obtain ⟨r, hr, himplies⟩ := hq q hmem
    apply NormalRow.holdsWithin_of_implies (hnormal.1 r hr) (hnormal'.1 q hmem) (hε r hr q hmem)
      himplies (hholds r hr)
  constructor
  · use others, hothers
    apply hwithin
    intro r _ q _
    apply r.resolvesWithin_slack q
  · intro hresolves hs'
    apply (hnormal'.2 s hs').mpr
    apply hwithin
    apply hresolves rows others hrows hothers

/-- A constraint has a verdict beside others, which says that an other one has it. -/
theorem exists_isImpliedByAny {c : Tagged (Constraint ℚ)} {others : List (Tagged (Constraint ℚ))}
    (hc : c.value.IsComparison) (hothers : ∀ d ∈ others, d.value.IsComparison) :
  ∃ b, isImpliedByAny c others = .ok b
    ∧ (b = true ↔ ∃ d ∈ others, d.tag ≠ c.tag ∧ d.value.implies c.value = .ok true)
  := by
  have hverdict : ∀ d ∈ others.filter fun d => d.tag != c.tag,
      ∃ b, d.value.implies c.value = .ok b := by
    intro d hd
    obtain ⟨b, hb, -⟩ := exists_implies (hothers d (List.mem_of_mem_filter hd)) hc
    use b
  obtain ⟨b, hb, hiff⟩ := Outcome.exists_anyM hverdict
  use b, hb
  rw [hiff]
  simp only [List.mem_filter, bne_iff_ne, and_assoc]

/-! ### A difference that counts as none -/

/-- A free variable. -/
def minuend : Variable :=
  ⟨0, Variable.unbounded.1, Variable.unbounded.2, .continuous, .text "x", 0⟩

/-- Another free variable. -/
def subtrahend : Variable :=
  ⟨1, Variable.unbounded.1, Variable.unbounded.2, .continuous, .text "y", 1⟩

/-- A variable plus a multiple of another one. -/
def combination {α : Type} [Coefficient α] (a : α) : Scalar α :=
  .linear ⟨[minuend, subtrahend], [1, a], 0, rfl⟩

/-- The constraint that a variable plus a multiple of another one is at most zero. -/
def combinationBound {α : Type} [Coefficient α] (a : α) : Constraint α :=
  ofScalars (combination a) .lessEqual (.const 0)

/-- An assignment of one value to all variables. -/
def everywhere {α : Type} (b : α) : ℕ → Option α := fun _ => some b

theorem covers_everywhere {α : Type} (b : α) (vs : List Variable) :
  Covers (everywhere b) vs
  := fun _ _ => rfl

theorem isComparison_combinationBound (a : ℚ) :
  (combinationBound a).IsComparison
  := by
  have h : Sense.lessEqual.compare? (.expression (.scalar (combination a))) (.number (.integer 0))
      = some (.ok (.constraint (combinationBound a))) := rfl
  exact .constraint h

/-- Where all variables have one value the combination is a multiple of it. -/
theorem satisfied_combinationBound_iff (a b : ℚ) :
  (combinationBound a).Satisfied (everywhere b) ↔ b + a * b ≤ 0
  := by
  rw [combinationBound, satisfied_ofScalars_iff (covers_everywhere b _) (covers_everywhere b _),
    combination, Scalar.valueAt_linear, Scalar.valueAt_const]
  simp [Sense.holds, Coefficient.atMost_iff, linearValue, Finset.sum_range_succ, valuesAt, pointOf,
    everywhere]

/-- The first constraint of two, of which it implies the second. -/
def firstBound : Tagged (Constraint ℚ) := ⟨0, combinationBound (-1)⟩

/-- The second constraint. -/
def secondBound : Tagged (Constraint ℚ) := ⟨1, combinationBound (-(10000000001 / 10000000000))⟩

/-- The verdict on two rows whose coefficients are close. -/
theorem implies_secondBound :
  firstBound.value.implies secondBound.value = .ok true
  := by
  apply Outcome.eq_ok_of_toOption
  decide +kernel

/-! ### Soundness -/

/-- The test for implication and the test for redundancy always have a verdict. A positive one is
sound up to the share by which close numbers differ, and without any slack where close numbers
are equal. -/
theorem implies_within {c : Tagged (Constraint ℚ)} {others : List (Tagged (Constraint ℚ))}
    (hc : c.value.IsComparison) (hothers : ∀ d ∈ others, d.value.IsComparison) :
  (∀ d ∈ others, ∃ b, d.value.implies c.value = .ok b ∧ (b = true →
    ∀ s, Covers s (d.value.lhs.vars ++ d.value.rhs.vars) → d.value.Satisfied s →
      c.value.SatisfiedWithin Coefficient.slack (pointOf s)
        ∧ (d.value.Resolves c.value → Covers s (c.value.lhs.vars ++ c.value.rhs.vars) →
            c.value.Satisfied s)))
  ∧ ∃ b, isImpliedByAny c others = .ok b ∧ (b = true →
    ∀ s, (∀ d ∈ others, d.tag ≠ c.tag →
        Covers s (d.value.lhs.vars ++ d.value.rhs.vars) ∧ d.value.Satisfied s) →
      c.value.SatisfiedWithin Coefficient.slack (pointOf s)
        ∧ ((∀ d ∈ others, d.value.Resolves c.value) →
            Covers s (c.value.lhs.vars ++ c.value.rhs.vars) → c.value.Satisfied s))
  := by
  constructor
  · intro d hd
    obtain ⟨b, hb, -⟩ := exists_implies (hothers d hd) hc
    use b, hb
    rintro rfl s hs hsatisfied
    apply satisfiedWithin_of_implies (hothers d hd) hc hb hs hsatisfied
  · obtain ⟨b, hb, hiff⟩ := exists_isImpliedByAny hc hothers
    use b, hb
    intro htrue s hs
    obtain ⟨d, hd, htag, himplies⟩ := hiff.mp htrue
    obtain ⟨hcovers, hsatisfied⟩ := hs d hd htag
    obtain ⟨hwithin, hexact⟩ :=
      satisfiedWithin_of_implies (hothers d hd) hc himplies hcovers hsatisfied
    use hwithin
    intro hresolves
    apply hexact (hresolves d hd)

/-- A bound that is implied by one with a coefficient that is close. -/
theorem implies_within_secondBound :
  secondBound.value.IsComparison ∧ (∀ d ∈ [firstBound], d.value.IsComparison)
    ∧ firstBound.value.Satisfied (everywhere (-1))
    ∧ secondBound.value.SatisfiedWithin Coefficient.slack (pointOf (everywhere (-1)))
  := by
  have hfirst : firstBound.value.IsComparison := isComparison_combinationBound _
  have hsecond : secondBound.value.IsComparison := isComparison_combinationBound _
  have hothers : ∀ d ∈ [firstBound], d.value.IsComparison := by
    simpa using hfirst
  have hsatisfied : firstBound.value.Satisfied (everywhere (-1)) := by
    rw [firstBound, satisfied_combinationBound_iff]
    norm_num
  use hsecond, hothers, hsatisfied
  obtain ⟨h, -⟩ := implies_within hsecond hothers
  obtain ⟨b, hb, hsound⟩ := h firstBound List.mem_cons_self
  have htrue : b = true := Except.ok.inj (hb.symm.trans implies_secondBound)
  apply (hsound htrue _ (covers_everywhere _ _) hsatisfied).1

/-- A constraint is said to be implied by another one, and to be redundant beside it, although a
point satisfies that one only. With doubles the verdict is the same. -/
theorem implies_unsound :
  firstBound.value.IsComparison ∧ secondBound.value.IsComparison
    ∧ firstBound.value.implies secondBound.value = .ok true
    ∧ isImpliedByAny secondBound [firstBound, secondBound] = .ok true
    ∧ firstBound.value.Satisfied (everywhere (-1))
    ∧ ¬ secondBound.value.Satisfied (everywhere (-1))
    ∧ (combinationBound (-1.0)).implies (combinationBound (-1.0000000001)) = .ok true
    ∧ (combinationBound (-1.0)).Satisfied (everywhere (-1.0))
    ∧ ¬ (combinationBound (-1.0000000001)).Satisfied (everywhere (-1.0))
  := by
  have hredundant : isImpliedByAny secondBound [firstBound, secondBound] = .ok true := by
    change [firstBound].anyM (fun d => d.value.implies secondBound.value) = .ok true
    rw [List.anyM, implies_secondBound]
    rfl
  use isComparison_combinationBound _, isComparison_combinationBound _, implies_secondBound,
    hredundant
  rw [firstBound, secondBound, satisfied_combinationBound_iff, satisfied_combinationBound_iff]
  constructor
  · norm_num
  · constructor
    · norm_num
    · use rfl, ⟨_, _, rfl, rfl, rfl, by decide +kernel⟩
      rintro ⟨xs, ys, hx, hy, -, h⟩
      cases hx
      cases hy
      revert h
      decide +kernel

end Constraint

end QuadraticProgram
