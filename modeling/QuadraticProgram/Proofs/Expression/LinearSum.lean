import QuadraticProgram.Proofs.Expression.Rewriting
import QuadraticProgram.Proofs.Constraint.Simplify
import QuadraticProgram.Proofs.Expression.ScalarOperator
import QuadraticProgram.Proofs.Expression.Variables

/-!
# Sums of linear scalar expressions

Numbers and linear scalar expressions are added up in one pass over all their terms. The sum has
the values of its summands together (`Scalar.valueAt_sumOfLinear`), in whatever order they are
listed, and therefore the coefficients of the sum that is formed from left to right
(`Expression.sum_of_linear`).
-/

namespace QuadraticProgram

open QuadraticProgram.Alignment

/-! ### Terms together -/

namespace Scalar

variable {es : List (Scalar ℚ)}

/-- The value over all variables, one list behind the other, is the sum of the values. -/
theorem linearValue_flatMap (x : ℕ → ℚ) (es : List (Scalar ℚ)) :
  linearValue x (es.flatMap vars) (es.flatMap coefficients)
    = (es.map fun e => linearValue x e.vars e.coefficients).sum
  := by
  induction es with
  | nil => apply linearValue_nil_left
  | cons e es ih =>
      have hlength : (es.flatMap coefficients).length = (es.flatMap vars).length := by
        simp only [List.length_flatMap, length_coefficients]
      rw [List.flatMap_cons, List.flatMap_cons, linearValue_append e.length_coefficients _ hlength,
        ih, List.map_cons, List.sum_cons]

/-- The sum of linear expressions has the sum of their values. -/
theorem valueAt_sumOfLinear (h : ∀ e ∈ es, e.isLinear = true) (x : ℕ → ℚ) :
  (sumOfLinear es).valueAt x = (es.map (valueAt x)).sum
  := by
  have hlists : Lists (distinct (es.flatMap vars)) (es.flatMap vars) := by
    intro v hv
    apply exists_mem_distinct_iff.mpr
    use v
  have hform : linearValue x (linearTotal es).vars (linearTotal es).coeffs + (linearTotal es).const
      = (es.map (valueAt x)).sum := by
    simp only [linearTotal]
    rw [linearValue_spread hlists, linearValue_flatMap, Coefficient.total_eq_sum,
      ← List.sum_map_add]
    apply congrArg List.sum
    apply List.map_congr_left
    intro e he
    rw [valueAt_of_degree_le (isLinear_iff_degree_le.mp (h e he))]
  rw [sumOfLinear]
  split_ifs with hvars
  · rw [← hform, List.isEmpty_iff.mp hvars, linearValue_nil_left, zero_add, valueAt_const]
  · rw [valueAt_linear, hform]

/-- Without variables the sum is a constant, and otherwise a linear form over the distinct
variables of all summands. -/
theorem sumOfLinear_eq (es : List (Scalar ℚ)) :
  (es.flatMap vars = [] → ∃ c, sumOfLinear es = const c)
    ∧ (es.flatMap vars ≠ [] →
        ∃ f, sumOfLinear es = linear f ∧ f.vars = distinct (es.flatMap vars))
  := by
  have hvars : (linearTotal es).vars = distinct (es.flatMap vars) := rfl
  constructor
  · intro h
    use (linearTotal es).const
    rw [sumOfLinear, hvars, h, distinct, List.isEmpty_nil, if_pos rfl]
  · intro h
    obtain ⟨v, vs, hvs⟩ := List.exists_cons_of_ne_nil h
    use linearTotal es
    constructor
    · rw [sumOfLinear, hvars, hvs, distinct, List.isEmpty_cons, if_neg Bool.false_ne_true]
    · apply hvars

/-- A sum of linear expressions in one pass is linear. -/
theorem isLinear_sumOfLinear (es : List (Scalar ℚ)) :
  (sumOfLinear es).isLinear = true
  := by
  rw [sumOfLinear]
  split_ifs
  · rfl
  · rfl

/-! ### Coefficients of equal values -/

variable {d e : Scalar ℚ} {xs : List Variable}

/-- A linear expression over other variables is a linear form over them. -/
theorem moved_of_isLinear (h : e.isLinear = true) (xs : List Variable) :
  ∃ f, e.moved xs = linear f ∧ f.vars = xs
  := by
  cases e with
  | quadratic f => cases h
  | _ => exact ⟨_, rfl, rfl⟩

/-- Linear expressions with the same values have the same coefficients and constant over a list
of distinct variables. -/
theorem moved_eq_of_valueAt_eq (hd : d.isLinear = true) (he : e.isLinear = true)
    (hdxs : Lists xs d.vars) (hexs : Lists xs e.vars) (hxs : (xs.map Variable.id).Nodup)
    (h : ∀ x, d.valueAt x = e.valueAt x) :
  d.moved xs = e.moved xs
  := by
  obtain ⟨f, hf, hfvars⟩ := moved_of_isLinear hd xs
  obtain ⟨g, hg, hgvars⟩ := moved_of_isLinear he xs
  rw [hf, hg]
  apply congrArg linear
  apply LinearForm.eq_of_valueAt_eq (hfvars.trans hgvars.symm) (hfvars.symm ▸ hxs)
  intro x
  rw [← hf, ← hg, valueAt_moved hdxs, valueAt_moved hexs, h]

end Scalar

/-! ### Operands -/

namespace Operand

/-- Whether an operand is a number or a scalar expression without products of variables. -/
def isLinearScalar {α : Type} [Coefficient α] : Operand α → Bool
  | number _ => true
  | expression (.scalar e) => e.isLinear
  | _ => false

/-- The scalar expression that a number or a scalar expression stands for. -/
def summand : Operand ℚ → Scalar ℚ
  | number n => .const n.amount
  | expression (.scalar e) => e
  | _ => .const 0

variable {x : Operand ℚ}

/-- A summand is the scalar expression that an operand denotes. -/
theorem denotes_summand (h : x.isLinearScalar = true) :
  x.Denotes x.summand
  := by
  cases x with
  | number n => apply Denotes.number
  | expression e =>
      cases e with
      | scalar a => apply Denotes.expression
      | _ => cases h
  | _ => cases h

theorem isLinear_summand (h : x.isLinearScalar = true) :
  x.summand.isLinear = true
  := by
  cases x with
  | expression e =>
      cases e with
      | scalar a => exact h
      | _ => cases h
  | _ => rfl

/-- An operand is promoted to its summand. -/
theorem toExpression_summand (h : x.isLinearScalar = true) :
  x.toExpression = .ok (.scalar x.summand)
  := by
  cases x with
  | number n => rw [toExpression, Number.value_eq_ok, Outcome.map_ok, summand]
  | expression e =>
      cases e with
      | scalar a => rfl
      | _ => cases h
  | _ => cases h

theorem vars_summand (h : x.isLinearScalar = true) :
  x.summand.vars = x.vars
  := (vars_of_toExpression (toExpression_summand h)).symm ▸ rfl

end Operand

namespace Expression

variable {xs : List (Operand ℚ)}

/-! ### From left to right -/

/-- The sum of the operands of a list, formed from left to right; without operands it is zero. -/
def stepwiseSum {α : Type} [Coefficient α] : List (Operand α) → Except Error (Expression α)
  | [] => .ok (.scalar (.const 0))
  | x :: xs => do xs.foldlM plus (← x.toExpression)

/-- Linear operands are added one after the other, and their values to that of the start. -/
theorem exists_foldlM_plus {a : Scalar ℚ} (ha : a.isLinear = true)
    (h : ∀ x ∈ xs, x.isLinearScalar = true) :
  ∃ c, xs.foldlM plus (scalar a) = .ok (scalar c) ∧ c.isLinear = true
    ∧ distinct c.vars = distinct (a.vars ++ xs.flatMap Operand.vars)
    ∧ ∀ p, c.valueAt p = a.valueAt p + (xs.map fun x => x.summand.valueAt p).sum
  := by
  induction xs generalizing a with
  | nil =>
      use a, rfl, ha
      simp
  | cons x xs ih =>
      obtain ⟨hx, hxs⟩ := List.forall_mem_cons.mp h
      have hlinear := Operand.isLinear_summand hx
      obtain ⟨d, hd, hr⟩ := gives_plus a (Operand.denotes_summand hx)
      have hdlinear : d.isLinear = true := by
        rw [Scalar.isLinear_iff_degree_le, hr.degree_eq]
        apply max_le (Scalar.isLinear_iff_degree_le.mp ha)
        apply Scalar.isLinear_iff_degree_le.mp hlinear
      obtain ⟨c, hc, hclinear, hvars, hvalue⟩ := ih hdlinear hxs
      use c
      constructor
      · rw [List.foldlM_cons, hd, Outcome.ok_bind, hc]
      · use hclinear
        constructor
        · rw [hvars, List.flatMap_cons, ← List.append_assoc, ← Operand.vars_summand hx]
          apply distinct_append_congr hr.distinct_vars rfl
        · intro p
          rw [hvalue, hr.valueAt_eq, List.map_cons, List.sum_cons, add_assoc]

/-- A sum step by step exists and has the sum of the values. -/
theorem exists_stepwiseSum (h : ∀ x ∈ xs, x.isLinearScalar = true) :
  ∃ c, stepwiseSum xs = .ok (scalar c) ∧ c.isLinear = true
    ∧ distinct c.vars = distinct (xs.flatMap Operand.vars)
    ∧ ∀ p, c.valueAt p = (xs.map fun x => x.summand.valueAt p).sum
  := by
  cases xs with
  | nil =>
      use .const 0, rfl, rfl, rfl
      intro p
      apply Scalar.valueAt_const
  | cons x xs =>
      obtain ⟨hx, hxs⟩ := List.forall_mem_cons.mp h
      obtain ⟨c, hc, hlinear, hvars, hvalue⟩ :=
        exists_foldlM_plus (Operand.isLinear_summand hx) hxs
      use c
      constructor
      · rw [stepwiseSum, Operand.toExpression_summand hx, Outcome.ok_bind, hc]
      · use hlinear
        constructor
        · rw [hvars, List.flatMap_cons, Operand.vars_summand hx]
        · intro p
          rw [hvalue, List.map_cons, List.sum_cons]

/-! ### In one pass -/

theorem linearScalars?_map {es : List (Scalar ℚ)} (h : ∀ e ∈ es, e.isLinear = true) :
  linearScalars? (es.map scalar) = some es
  := by
  induction es with
  | nil => rfl
  | cons e es ih =>
      obtain ⟨he, hes⟩ := List.forall_mem_cons.mp h
      rw [List.map_cons, linearScalars?, if_pos he, ih hes, Option.map_some]

/-- Linear operands are summed up in one pass. -/
theorem sum_eq_sumOfLinear (h : ∀ x ∈ xs, x.isLinearScalar = true) :
  sum xs = .ok (scalar (.sumOfLinear (xs.map Operand.summand)))
  := by
  have hlinear : ∀ e ∈ xs.map Operand.summand, e.isLinear = true := by
    intro e he
    obtain ⟨x, hx, rfl⟩ := List.mem_map.mp he
    apply Operand.isLinear_summand (h x hx)
  have hpromoted : xs.mapM Operand.toExpression
      = .ok ((xs.map Operand.summand).map scalar) := by
    rw [List.map_map]
    apply Outcome.mapM_eq_ok
    intro x hx
    apply Operand.toExpression_summand (h x hx)
  rw [sum, hpromoted, Outcome.ok_bind, linearScalars?_map hlinear]
  rfl

theorem vars_summands (h : ∀ x ∈ xs, x.isLinearScalar = true) :
  (xs.map Operand.summand).flatMap Scalar.vars = xs.flatMap Operand.vars
  := by
  rw [List.flatMap_map]
  apply List.flatMap_congr
  intro x hx
  apply Operand.vars_summand (h x hx)

/-- In one pass the operands are added up to a linear expression over the distinct variables of
all of them, with the sum of their values. -/
theorem exists_sum (h : ∀ x ∈ xs, x.isLinearScalar = true) :
  ∃ total, sum xs = .ok (scalar total) ∧ total.isLinear = true
    ∧ (xs.flatMap Operand.vars = [] → ∃ c, total = .const c)
    ∧ (xs.flatMap Operand.vars ≠ [] →
        ∃ f, total = .linear f ∧ f.vars = distinct (xs.flatMap Operand.vars))
    ∧ distinct total.vars = distinct (xs.flatMap Operand.vars)
    ∧ ∀ p, total.valueAt p = (xs.map fun x => x.summand.valueAt p).sum
  := by
  have hsum := sum_eq_sumOfLinear h
  have hform := Scalar.sumOfLinear_eq (xs.map Operand.summand)
  rw [vars_summands h] at hform
  use .sumOfLinear (xs.map Operand.summand), hsum, Scalar.isLinear_sumOfLinear _, hform.1, hform.2
  constructor
  · apply distinct_vars_of_sum hsum
  · intro p
    rw [Scalar.valueAt_sumOfLinear, List.map_map]
    · rfl
    · intro e he
      obtain ⟨x, hx, rfl⟩ := List.mem_map.mp he
      apply Operand.isLinear_summand (h x hx)

/-- In one pass and from left to right the same values result. -/
theorem exists_sum_and_stepwiseSum (h : ∀ x ∈ xs, x.isLinearScalar = true) :
  ∃ total c, sum xs = .ok (scalar total) ∧ stepwiseSum xs = .ok (scalar c)
    ∧ ∀ s, total.evaluate s = c.evaluate s
  := by
  obtain ⟨total, htotal, -, -, -, hvars, hvalue⟩ := exists_sum h
  obtain ⟨c, hc, -, hcvars, hcvalue⟩ := exists_stepwiseSum h
  use total, c, htotal, hc
  intro s
  rw [Scalar.evaluate_eq_lookingUp, Scalar.evaluate_eq_lookingUp, hvalue, ← hcvalue]
  apply lookingUp_congr (hvars.trans hcvars.symm)

/-- Numbers and linear scalar expressions are added up to a constant if they have no variables,
and otherwise to a linear form over their distinct variables. The sum has the coefficients and the
constant of the one formed from left to right, and the value of any reordered one. -/
theorem sum_of_linear (h : ∀ x ∈ xs, x.isLinearScalar = true) :
  ∃ total, sum xs = .ok (scalar total)
    ∧ (xs.flatMap Operand.vars = [] → ∃ c, total = .const c)
    ∧ (xs.flatMap Operand.vars ≠ [] →
        ∃ f, total = .linear f ∧ f.vars = distinct (xs.flatMap Operand.vars))
    ∧ (∃ c, stepwiseSum xs = .ok (scalar c)
        ∧ ∀ vs, (vs.map Variable.id).Nodup → Lists vs (xs.flatMap Operand.vars) →
            ∃ d, total.rewrite vs = .ok d ∧ c.rewrite vs = .ok d)
    ∧ ∀ ys, ys.Perm xs → ∃ other, sum ys = .ok (scalar other)
        ∧ ∀ s q, other.evaluate s = .ok q ↔ total.evaluate s = .ok q
  := by
  obtain ⟨total, htotal, hlinear, hconst, hform, hvars, hvalue⟩ := exists_sum h
  obtain ⟨c, hc, hclinear, hcvars, hcvalue⟩ := exists_stepwiseSum h
  use total, htotal, hconst, hform
  constructor
  · use c, hc
    intro vs hnodup hlists
    have htotalLists := lists_of_distinct_eq hvars hlists
    have hcLists := lists_of_distinct_eq hcvars hlists
    have hmoved : total.moved vs = c.moved vs := by
      apply Scalar.moved_eq_of_valueAt_eq hlinear hclinear htotalLists hcLists hnodup
      intro p
      rw [hvalue, hcvalue]
    use total.moved vs, Scalar.rewrite_eq_ok_iff.mpr ⟨htotalLists, rfl⟩
    apply Scalar.rewrite_eq_ok_iff.mpr ⟨hcLists, hmoved.symm⟩
  · intro ys hperm
    have hys : ∀ y ∈ ys, y.isLinearScalar = true := fun y hy => h y (hperm.mem_iff.mp hy)
    obtain ⟨other, hother, -, -, -, hothervars, hothervalue⟩ := exists_sum hys
    use other, hother
    intro s q
    have hcovers : Covers s other.vars ↔ Covers s total.vars := by
      rw [covers_congr hothervars, covers_congr hvars]
      apply forall_congr'
      intro v
      rw [(hperm.flatMap_right Operand.vars).mem_iff]
    have hequal : other.valueAt (pointOf s) = total.valueAt (pointOf s) := by
      rw [hothervalue, hvalue]
      apply (hperm.map _).sum_eq
    rw [Scalar.evaluate_eq_lookingUp, Scalar.evaluate_eq_lookingUp, lookingUp_eq_ok_iff,
      lookingUp_eq_ok_iff, hcovers, hequal]

/-- A variable, a number, a form with that variable after another one, and the variable again. -/
def mixedSummands : List (Operand ℚ) :=
  [.expression (.scalar (.var default)), .number (.integer 2),
    .expression (.scalar (.linear (.ofPairs [(Scalar.second, 3), (default, -2)] 5))),
    .expression (.scalar (.var default))]

/-- The first variable cancels and stays in its place. -/
theorem sum_of_linear_mixedSummands :
  ∃ f c, sum mixedSummands = .ok (scalar (.linear f)) ∧ f.vars = [default, Scalar.second]
    ∧ stepwiseSum mixedSummands = .ok (scalar c)
    ∧ (∃ d, (Scalar.linear f).rewrite [Scalar.second, default] = .ok d
        ∧ c.rewrite [Scalar.second, default] = .ok d)
    ∧ ∃ other, sum mixedSummands.reverse = .ok (scalar other)
        ∧ ∀ s q, other.evaluate s = .ok q ↔ (Scalar.linear f).evaluate s = .ok q
  := by
  have hlinear : ∀ x ∈ mixedSummands, x.isLinearScalar = true := by
    decide
  obtain ⟨total, htotal, -, hform, ⟨c, hc, hrewrite⟩, hperm⟩ := sum_of_linear hlinear
  obtain ⟨f, rfl, hvars⟩ := hform (by decide)
  use f, c, htotal, hvars, hc
  constructor
  · apply hrewrite
    · decide
    · unfold Alignment.Lists
      decide
  · apply hperm _ (List.reverse_perm _)

end Expression

end QuadraticProgram
