import QuadraticProgram.Proofs.Scalar.Arithmetic

/-!
# Canonical forms

Promoted to a quadratic form and written over a list of distinct variables that contains its
own, a scalar expression has one form only: two expressions with the same values have the same
matrix, coefficients and constant (`QuadraticForm.eq_of_valueAt_eq`). The values of a
quadratic form at points where two variables at most differ from zero are enough to tell its
entries, since its matrix is symmetric. The laws of sums and products are therefore laws of
coefficients (`Scalar.forms_canonical`).
-/

namespace QuadraticProgram

open QuadraticProgram.Alignment

/-! ### Points that tell coefficients -/

/-- The values of distinct variables can be chosen freely. -/
theorem Alignment.exists_valuesAt {vs : List Variable} (h : (vs.map Variable.id).Nodup)
    (y : ℕ → ℚ) :
  ∃ x, ∀ a < vs.length, (valuesAt x vs).getD a 0 = y a
  := by
  use fun id => y ((vs.map Variable.id).idxOf id)
  intro a ha
  have ha' : a < (vs.map Variable.id).length := by
    simpa using ha
  rw [getD_valuesAt _ ha, ← List.getElem_map Variable.id (h := ha'), h.idxOf_getElem]

/-- The point that is zero but for two positions, to which it adds up two values. -/
def twoPositions (i j : ℕ) (s t : ℚ) (a : ℕ) : ℚ :=
  (if a = i then s else 0) + if a = j then t else 0

/-- A sum over a point with two entries has two terms. -/
theorem sum_twoPositions {n i j : ℕ} (hi : i < n) (hj : j < n) (s t : ℚ) (f : ℕ → ℚ) :
  ∑ a ∈ Finset.range n, f a * twoPositions i j s t a = f i * s + f j * t
  := by
  simp only [twoPositions, mul_add, Finset.sum_add_distrib, mul_ite, mul_zero]
  rw [Finset.sum_ite_eq', Finset.sum_ite_eq', if_pos (Finset.mem_range.mpr hi),
    if_pos (Finset.mem_range.mpr hj)]

/-- A linear form over distinct variables is determined by its values. -/
theorem LinearForm.eq_of_valueAt_eq {f g : LinearForm ℚ} (hvars : f.vars = g.vars)
    (hnodup : (f.vars.map Variable.id).Nodup)
    (h : ∀ x, (Scalar.linear f).valueAt x = (Scalar.linear g).valueAt x) :
  f = g
  := by
  have hconst : f.const = g.const := by
    have hzero := h 0
    rw [Scalar.valueAt_linear, Scalar.valueAt_linear, linearValue_zero, linearValue_zero, zero_add,
      zero_add] at hzero
    exact hzero
  have hcoeff : ∀ i < f.vars.length, f.coeffs.getD i 0 = g.coeffs.getD i 0 := by
    intro i hi
    obtain ⟨x, hx⟩ := exists_valuesAt hnodup (twoPositions i i 1 0)
    have hsum : ∀ l : List ℚ, linearValue x f.vars l = l.getD i 0 := by
      intro l
      calc linearValue x f.vars l
          = ∑ a ∈ Finset.range f.vars.length, l.getD a 0 * twoPositions i i 1 0 a := by
            apply Finset.sum_congr rfl
            intro a ha
            rw [hx a (Finset.mem_range.mp ha)]
        _ = l.getD i 0 * 1 + l.getD i 0 * 0 := sum_twoPositions hi hi 1 0 (l.getD · 0)
        _ = l.getD i 0 := by
            rw [mul_one, mul_zero, add_zero]
    have hvalue := h x
    rw [Scalar.valueAt_linear, Scalar.valueAt_linear, ← hvars, hsum, hsum, hconst] at hvalue
    exact add_right_cancel hvalue
  apply LinearForm.ext hvars
  · apply Coefficient.eq_of_getD_eq
    · rw [f.length_coeffs, g.length_coeffs, hvars]
    · intro i hi
      apply hcoeff i (f.length_coeffs ▸ hi)
  · apply hconst

namespace QuadraticForm

variable {f g : QuadraticForm ℚ}

/-- The matrix of a quadratic form is symmetric. -/
theorem entry_comm (f : QuadraticForm ℚ) (i j : ℕ) :
  f.quad.entry i j = f.quad.entry j i
  := by
  have hsquare : f.quad.rows = f.quad.cols := by
    rw [f.rows_quad, f.cols_quad]
  rcases lt_or_ge i f.quad.rows with hi | hi
  · rcases lt_or_ge j f.quad.cols with hj | hj
    · have h := f.isSymmetric
      simp only [Matrix.isSymmetric, Bool.and_eq_true, List.all_eq_true, List.mem_range,
        beq_iff_eq] at h
      apply h.2 i hi j hj
    · rw [f.quad.entry_of_cols_le i hj, f.quad.entry_of_rows_le (hsquare ▸ hj)]
  · rw [f.quad.entry_of_rows_le hi, f.quad.entry_of_cols_le j (hsquare ▸ hi)]

/-- The value of a form where all variables but two are zero. -/
theorem valueAt_twoPositions {x : ℕ → ℚ} {i j : ℕ} {s t : ℚ} (hi : i < f.vars.length)
    (hj : j < f.vars.length)
    (hx : ∀ a < f.vars.length, (valuesAt x f.vars).getD a 0 = twoPositions i j s t a) :
  (Scalar.quadratic f).valueAt x
    = f.quad.entry i i * s * s + 2 * f.quad.entry i j * s * t + f.quad.entry j j * t * t
      + (f.coeffs.getD i 0 * s + f.coeffs.getD j 0 * t) + f.const
  := by
  have hsum : ∀ c : ℕ → ℚ,
      ∑ a ∈ Finset.range f.vars.length, c a * (valuesAt x f.vars).getD a 0 = c i * s + c j * t := by
    intro c
    rw [← sum_twoPositions hi hj s t c]
    apply Finset.sum_congr rfl
    intro a ha
    rw [hx a (Finset.mem_range.mp ha)]
  have hrow : ∀ a, rowValue x f.vars f.quad a = f.quad.entry a i * s + f.quad.entry a j * t := by
    intro a
    rw [rowValue_eq_sum, hsum]
  rw [Scalar.valueAt_quadratic, quadraticValue, hsum, linearValue, hsum, hrow, hrow,
    f.entry_comm j i]
  ring

/-- A quadratic form over distinct variables is determined by its values. -/
theorem eq_of_valueAt_eq (hvars : f.vars = g.vars) (hnodup : (f.vars.map Variable.id).Nodup)
    (h : ∀ x, (Scalar.quadratic f).valueAt x = (Scalar.quadratic g).valueAt x) :
  f = g
  := by
  have hpair : ∀ i < f.vars.length, ∀ j < f.vars.length, ∀ s t : ℚ,
      f.quad.entry i i * s * s + 2 * f.quad.entry i j * s * t + f.quad.entry j j * t * t
          + (f.coeffs.getD i 0 * s + f.coeffs.getD j 0 * t) + f.const
        = g.quad.entry i i * s * s + 2 * g.quad.entry i j * s * t + g.quad.entry j j * t * t
          + (g.coeffs.getD i 0 * s + g.coeffs.getD j 0 * t) + g.const := by
    intro i hi j hj s t
    obtain ⟨x, hx⟩ := exists_valuesAt hnodup (twoPositions i j s t)
    rw [← valueAt_twoPositions hi hj hx, h x]
    rw [hvars] at hi hj hx
    apply valueAt_twoPositions hi hj hx
  have hconst : f.const = g.const := by
    have hzero : ∀ e : QuadraticForm ℚ, (Scalar.quadratic e).valueAt 0 = e.const := by
      intro e
      rw [Scalar.valueAt_quadratic]
      simp [quadraticValue_eq_sum, linearValue, valuesAt, List.getD_eq_getElem?_getD]
    rw [← hzero, h, hzero]
  have hdiagonal : ∀ i < f.vars.length, f.quad.entry i i = g.quad.entry i i
      ∧ f.coeffs.getD i 0 = g.coeffs.getD i 0 := by
    intro i hi
    have hplus := hpair i hi i hi 1 0
    have hminus := hpair i hi i hi (-1) 0
    constructor
    · linarith
    · linarith
  have hcross : ∀ i < f.vars.length, ∀ j < f.vars.length,
      f.quad.entry i j = g.quad.entry i j := by
    intro i hi j hj
    have hboth := hpair i hi j hj 1 1
    obtain ⟨hqi, hli⟩ := hdiagonal i hi
    obtain ⟨hqj, hlj⟩ := hdiagonal j hj
    linarith
  apply QuadraticForm.ext hvars
  · apply Matrix.eq_of_entry_eq
    · rw [f.rows_quad, g.rows_quad, hvars]
    · rw [f.cols_quad, g.cols_quad, hvars]
    · rw [f.rows_quad, f.cols_quad]
      exact hcross
  · apply (Coefficient.eq_map_range f.length_coeffs fun i hi => (hdiagonal i hi).2).trans
    symm
    apply Coefficient.eq_map_range (g.length_coeffs.trans (congrArg _ hvars.symm))
    intro i _
    rfl
  · apply hconst

end QuadraticForm

namespace Scalar

/-! ### Promotion -/

/-- The quadratic form of an expression. Without products of variables its matrix is zero. -/
def asQuadratic {α : Type} [Coefficient α] : Scalar α → Except Error (QuadraticForm α)
  | quadratic f => .ok f
  | e =>
    QuadraticForm.symmetrise? e.vars e.products e.coefficients e.constant e.rows_products
      e.cols_products e.length_coefficients

/-- The quadratic form of an expression, written over other variables. -/
def formOver {α : Type} [Coefficient α] (e : Scalar α) (xs : List Variable) :
    Except Error (Scalar α) := do
  (quadratic (← e.asQuadratic)).rewrite xs

variable {xs : List Variable} {a b c : Scalar ℚ}

/-- Every expression has a quadratic form with its values. -/
theorem exists_asQuadratic (e : Scalar ℚ) :
  ∃ f, e.asQuadratic = .ok f ∧ f.vars = e.vars ∧ ∀ x, (quadratic f).valueAt x = e.valueAt x
  := by
  have hsymmetrise := QuadraticForm.exists_symmetrise? e.vars e.products e.coefficients
    e.constant e.rows_products e.cols_products e.length_coefficients
  cases e with
  | quadratic f =>
      use f, rfl, rfl
      intro x
      rfl
  | _ => exact hsymmetrise

/-- A quadratic form can be rewritten over a list with all of its variables, and keeps its values.
-/
theorem exists_rewrite (f : QuadraticForm ℚ) (h : Lists xs f.vars) :
  ∃ g, (quadratic f).rewrite xs = .ok (quadratic g) ∧ g.vars = xs
    ∧ ∀ x, (quadratic g).valueAt x = (quadratic f).valueAt x
  := by
  obtain ⟨g, hg, hvars, hvalue⟩ := QuadraticForm.exists_symmetrise? xs
    (spreadPairs f.vars f.quad xs) (spread f.vars f.coeffs xs) f.const (by simp) (by simp)
    (by simp)
  have hall : requireAll (quadratic f).vars xs = .ok () := requireAll_eq_ok_iff.mpr h
  use g
  constructor
  · rw [rewrite, hall, Outcome.ok_bind, hg, Outcome.map_ok]
  · use hvars
    intro x
    rw [hvalue, quadraticValue_spreadPairs h, linearValue_spread h, valueAt_quadratic]

/-- An expression is written over variables that contain its own without being refused, and
keeps its values. -/
theorem exists_formOver (e : Scalar ℚ) (h : Lists xs e.vars) :
  ∃ g, e.formOver xs = .ok (quadratic g) ∧ g.vars = xs
    ∧ ∀ x, (quadratic g).valueAt x = e.valueAt x
  := by
  obtain ⟨f, hf, hvars, hvalue⟩ := e.exists_asQuadratic
  obtain ⟨g, hg, hgvars, hgvalue⟩ := exists_rewrite f (hvars ▸ h)
  use g
  constructor
  · rw [formOver, hf, Outcome.ok_bind, hg]
  · use hgvars
    intro x
    rw [hgvalue, hvalue]

/-- Two expressions agree exactly if they have equal values at all points. -/
theorem agrees_iff_valueAt_eq :
  Agrees (a.vars ++ b.vars) a b ↔ ∀ x, a.valueAt x = b.valueAt x
  := by
  constructor
  · intro h x
    have hcovers : ∀ ws, Covers (fun id => some (x id)) ws := fun _ _ _ => rfl
    obtain ⟨t, hat, hbt⟩ := h (fun id => some (x id)) (hcovers _)
    rw [evaluate_eq_ok (hcovers a.vars)] at hat
    rw [evaluate_eq_ok (hcovers b.vars)] at hbt
    apply Except.ok.inj (hat.trans hbt.symm)
  · apply agrees_of_valueAt_eq
    · intro s hs
      apply (covers_append.mp hs).1
    · intro s hs
      apply (covers_append.mp hs).2

/-- Two expressions have the same values exactly if their forms over distinct variables have
the same matrix, coefficients and constant. -/
theorem exists_forms (hxs : (xs.map Variable.id).Nodup) (ha : Lists xs a.vars)
    (hb : Lists xs b.vars) :
  ∃ f g, a.formOver xs = .ok (quadratic f) ∧ b.formOver xs = .ok (quadratic g)
    ∧ f.vars = xs ∧ g.vars = xs
    ∧ (Agrees (a.vars ++ b.vars) a b
        ↔ f.quad = g.quad ∧ f.coeffs = g.coeffs ∧ f.const = g.const)
  := by
  obtain ⟨f, hf, hfvars, hfvalue⟩ := a.exists_formOver ha
  obtain ⟨g, hg, hgvars, hgvalue⟩ := b.exists_formOver hb
  have hvars := hfvars.trans hgvars.symm
  use f, g, hf, hg, hfvars, hgvars
  rw [agrees_iff_valueAt_eq]
  constructor
  · intro h
    have hfg : f = g := by
      apply QuadraticForm.eq_of_valueAt_eq hvars (hfvars.symm ▸ hxs)
      intro x
      rw [hfvalue, hgvalue, h]
    rw [hfg]
    use rfl, rfl
  · rintro ⟨hquad, hcoeffs, hconst⟩ x
    rw [← hfvalue, ← hgvalue, QuadraticForm.ext hvars hquad hcoeffs hconst]

/-! ### Laws of coefficients -/

/-- Two outcomes that are expressions with the same form over some variables. -/
def EqualOver (xs : List Variable) (r t : Except Error (Scalar ℚ)) : Prop :=
  ∃ p q f, r = .ok p ∧ t = .ok q ∧ p.formOver xs = .ok f ∧ q.formOver xs = .ok f

/-- Two outcomes that are expressions with the same form over some variables, or both
refused. -/
def EqualIfDefined (xs : List Variable) (r t : Except Error (Scalar ℚ)) : Prop :=
  EqualOver xs r t ∨ (∃ e, r = .error e) ∧ ∃ e, t = .error e

/-- An outcome that is an expression over some of the variables of a list, with given values. -/
def HasValue (xs : List Variable) (r : Except Error (Scalar ℚ)) (value : (ℕ → ℚ) → ℚ) : Prop :=
  ∃ p, r = .ok p ∧ Lists xs p.vars ∧ ∀ x, p.valueAt x = value x

variable {r t : Except Error (Scalar ℚ)} {v w : (ℕ → ℚ) → ℚ}

theorem HasValue.congr (h : HasValue xs r v) (hvw : ∀ x, v x = w x) :
  HasValue xs r w
  := by
  obtain ⟨p, hp, hlists, hvalue⟩ := h
  use p, hp, hlists
  intro x
  rw [hvalue, hvw]

/-- Expressions with the same values have the same form. -/
theorem HasValue.equalOver (hr : HasValue xs r v) (ht : HasValue xs t v)
    (hxs : (xs.map Variable.id).Nodup) :
  EqualOver xs r t
  := by
  obtain ⟨p, hp, hplists, hpvalue⟩ := hr
  obtain ⟨q, hq, hqlists, hqvalue⟩ := ht
  obtain ⟨f, hf, hfvars, hfvalue⟩ := p.exists_formOver hplists
  obtain ⟨g, hg, hgvars, hgvalue⟩ := q.exists_formOver hqlists
  have hfg : f = g := by
    apply QuadraticForm.eq_of_valueAt_eq (hfvars.trans hgvars.symm) (hfvars.symm ▸ hxs)
    intro x
    rw [hfvalue, hpvalue, hgvalue, hqvalue]
  use p, q, quadratic f, hp, hq, hf
  rw [hfg, hg]

/-- An expression that represents values has them over a list with its variables. -/
theorem Represents.hasValue {p : Scalar ℚ} {vs : List Variable} {degree : ℕ}
    (h : p.Represents vs degree v) (hlists : Lists xs vs) :
  HasValue xs (.ok p) v
  := by
  use p, rfl
  constructor
  · apply lists_of_distinct_eq h.distinct_vars hlists
  · apply h.valueAt_eq

/-- Over a common list a sum has the sum of the values. -/
theorem hasValue_add (ha : Lists xs a.vars) (hb : Lists xs b.vars) :
  HasValue xs (a.add b) fun x => a.valueAt x + b.valueAt x
  := by
  obtain ⟨d, hd, hr⟩ := exists_add a b
  rw [hd]
  apply hr.hasValue
  apply List.forall_mem_append.mpr ⟨ha, hb⟩

/-- Over a common list a multiple has the multiple of the values. -/
theorem hasValue_scale (k : ℚ) (ha : Lists xs a.vars) :
  HasValue xs (a.scale k) fun x => k * a.valueAt x
  := by
  obtain ⟨d, hd, hr⟩ := exists_scale k a
  rw [hd]
  apply hr.hasValue ha

/-- An operation on an expression with given values. -/
theorem HasValue.bind {f : Scalar ℚ → Except Error (Scalar ℚ)} {u : (ℕ → ℚ) → ℚ → ℚ}
    (hr : HasValue xs r v)
    (hf : ∀ p : Scalar ℚ, Lists xs p.vars → HasValue xs (f p) fun x => u x (p.valueAt x)) :
  HasValue xs (r >>= f) fun x => u x (v x)
  := by
  obtain ⟨p, rfl, hlists, hvalue⟩ := hr
  apply (hf p hlists).congr
  intro x
  rw [hvalue]

/-- The sum of two outcomes. -/
theorem HasValue.add (hr : HasValue xs r v) (ht : HasValue xs t w) :
  HasValue xs (r >>= fun p => t >>= fun q => p.add q) fun x => v x + w x
  := by
  apply hr.bind (u := fun x y => y + w x)
  intro p hp
  apply ht.bind (u := fun x y => p.valueAt x + y)
  intro q hq
  apply hasValue_add hp hq

/-! ### Outcomes that may be refused -/

/-- An outcome that has given values if a condition holds and is refused otherwise. -/
structure HasValueIf (P : Prop) (xs : List Variable) (r : Except Error (Scalar ℚ))
    (value : (ℕ → ℚ) → ℚ) : Prop where
  hasValue : P → HasValue xs r value
  refused : ¬P → ∃ e, r = .error e

/-- Two outcomes that are defined alike and have equal values are equal as far as they are defined.
-/
theorem HasValueIf.equalIfDefined {P Q : Prop} (hr : HasValueIf P xs r v)
    (ht : HasValueIf Q xs t w) (hPQ : P ↔ Q) (hvw : ∀ x, v x = w x)
    (hxs : (xs.map Variable.id).Nodup) :
  EqualIfDefined xs r t
  := by
  by_cases h : P
  · left
    apply ((hr.hasValue h).congr hvw).equalOver (ht.hasValue (hPQ.mp h)) hxs
  · right
    constructor
    · apply hr.refused h
    · apply ht.refused fun hQ => h (hPQ.mpr hQ)

/-- A product has the product of the values if its degree allows it. -/
theorem hasValueIf_mul (ha : Lists xs a.vars) (hb : Lists xs b.vars) :
  HasValueIf (a.degree + b.degree ≤ 2) xs (a.mul b) fun x => a.valueAt x * b.valueAt x
  := by
  constructor
  · intro h
    obtain ⟨d, hd, hr⟩ := exists_mul h
    rw [hd]
    apply hr.hasValue
    apply List.forall_mem_append.mpr ⟨ha, hb⟩
  · intro h
    exact ⟨_, mul_eq_error (not_le.mp h)⟩

/-- The sum of two outcomes is refused if one of them is. -/
theorem HasValueIf.add {P Q : Prop} (hr : HasValueIf P xs r v) (ht : HasValueIf Q xs t w) :
  HasValueIf (P ∧ Q) xs (r >>= fun p => t >>= fun q => p.add q) fun x => v x + w x
  := by
  constructor
  · rintro ⟨hP, hQ⟩
    apply (hr.hasValue hP).add (ht.hasValue hQ)
  · intro h
    by_cases hP : P
    · obtain ⟨p, rfl, -⟩ := hr.hasValue hP
      obtain ⟨e, rfl⟩ := ht.refused fun hQ => h ⟨hP, hQ⟩
      use e
      rfl
    · obtain ⟨e, rfl⟩ := hr.refused hP
      use e
      rfl

/-- A product whose second factor is a sum is defined by the degree of the larger summand. -/
theorem hasValueIf_mul_add (ha : Lists xs a.vars) (hb : Lists xs b.vars)
    (hc : Lists xs c.vars) :
  HasValueIf (a.degree + max b.degree c.degree ≤ 2) xs (b.add c >>= fun d => a.mul d)
    fun x => a.valueAt x * (b.valueAt x + c.valueAt x)
  := by
  obtain ⟨d, hd, hlists, hvalue⟩ := hasValue_add hb hc
  obtain ⟨d', hd', hr⟩ := exists_add b c
  cases hd.symm.trans hd'
  rw [hd, Outcome.ok_bind, ← hr.degree_eq]
  simp only [← hvalue]
  apply hasValueIf_mul ha hlists

/-- A product with a sum has the product of the values if its degree allows it. -/
theorem hasValueIf_add_mul (ha : Lists xs a.vars) (hb : Lists xs b.vars)
    (hc : Lists xs c.vars) :
  HasValueIf (max b.degree c.degree + a.degree ≤ 2) xs (b.add c >>= fun d => d.mul a)
    fun x => (b.valueAt x + c.valueAt x) * a.valueAt x
  := by
  obtain ⟨d, hd, hlists, hvalue⟩ := hasValue_add hb hc
  obtain ⟨d', hd', hr⟩ := exists_add b c
  cases hd.symm.trans hd'
  rw [hd, Outcome.ok_bind, ← hr.degree_eq]
  simp only [← hvalue]
  apply hasValueIf_mul hlists ha

/-! ### The laws -/

/-- Over distinct variables that contain those of some expressions, two of the expressions have
the same values exactly if their forms have the same matrix, coefficients and constant. Sums
are commutative and associative and a coefficient distributes over them; products are
commutative and distribute over sums, and where one side of such a law is refused, so is the
other. -/
theorem forms_canonical (hxs : (xs.map Variable.id).Nodup) (ha : Lists xs a.vars)
    (hb : Lists xs b.vars) (hc : Lists xs c.vars) (k : ℚ) :
  (∃ f g, a.formOver xs = .ok (quadratic f) ∧ b.formOver xs = .ok (quadratic g)
      ∧ f.vars = xs ∧ g.vars = xs
      ∧ (Agrees (a.vars ++ b.vars) a b
          ↔ f.quad = g.quad ∧ f.coeffs = g.coeffs ∧ f.const = g.const))
    ∧ EqualOver xs (a.add b) (b.add a)
    ∧ EqualOver xs (a.add b >>= fun d => d.add c) (b.add c >>= fun d => a.add d)
    ∧ EqualOver xs (a.add b >>= fun d => d.scale k)
        (a.scale k >>= fun p => b.scale k >>= fun q => p.add q)
    ∧ EqualIfDefined xs (a.mul b) (b.mul a)
    ∧ EqualIfDefined xs (b.add c >>= fun d => a.mul d)
        (a.mul b >>= fun p => a.mul c >>= fun q => p.add q)
    ∧ EqualIfDefined xs (b.add c >>= fun d => d.mul a)
        (b.mul a >>= fun p => c.mul a >>= fun q => p.add q)
  := by
  use exists_forms hxs ha hb
  constructor
  · apply (hasValue_add ha hb).equalOver _ hxs
    apply (hasValue_add hb ha).congr
    intro x
    apply add_comm
  · constructor
    · have hleft := (hasValue_add ha hb).bind (f := fun d => d.add c)
        (u := fun x y => y + c.valueAt x) fun _ hd => hasValue_add hd hc
      have hright := (hasValue_add hb hc).bind (f := fun d => a.add d)
        (u := fun x y => a.valueAt x + y) fun _ hd => hasValue_add ha hd
      apply hleft.equalOver _ hxs
      apply hright.congr
      intro x
      rw [add_assoc]
    · constructor
      · have hleft := (hasValue_add ha hb).bind (f := fun d => d.scale k)
          (u := fun _ y => k * y) fun _ hd => hasValue_scale k hd
        apply hleft.equalOver _ hxs
        apply ((hasValue_scale k ha).add (hasValue_scale k hb)).congr
        intro x
        rw [mul_add]
      · constructor
        · apply (hasValueIf_mul ha hb).equalIfDefined (hasValueIf_mul hb ha) _ _ hxs
          · rw [add_comm]
          · intro x
            apply mul_comm
        · constructor
          · apply (hasValueIf_mul_add ha hb hc).equalIfDefined
              ((hasValueIf_mul ha hb).add (hasValueIf_mul ha hc)) _ _ hxs
            · omega
            · intro x
              rw [mul_add]
          · apply (hasValueIf_add_mul ha hb hc).equalIfDefined
              ((hasValueIf_mul hb ha).add (hasValueIf_mul hc ha)) _ _ hxs
            · omega
            · intro x
              rw [add_mul]

/-- A variable that is not the first one. -/
def second : Variable := { (default : Variable) with id := 1 }

/-- Two variables have different forms; twice their sum is the sum of twice each, and the first
one is multiplied by the second one and one in turn. -/
theorem forms_canonical_variables :
  ¬ Agrees [default, second] (var default) (var second)
    ∧ EqualOver [default, second] ((var default).add (var second) >>= fun d => d.scale 2)
        ((var default).scale 2 >>= fun p => (var second).scale 2 >>= fun q => p.add q)
    ∧ EqualIfDefined [default, second]
        ((var second).add (const 1) >>= fun d => (var default).mul d)
        ((var default).mul (var second) >>= fun p => (var default).mul (const 1) >>= fun q =>
          p.add q)
  := by
  have hxs : ([default, second].map Variable.id).Nodup := by decide
  obtain ⟨⟨f, g, hf, hg, -, -, hiff⟩, -, -, hscale, -, hmul, -⟩ := forms_canonical hxs
    (a := var default) (b := var second) (c := const 1) (by simp [Alignment.Lists, vars])
    (by simp [Alignment.Lists, vars]) (by simp [Alignment.Lists, vars]) 2
  have hcoeffs : ((var default : Scalar ℚ).formOver [default, second]).map coefficients
      ≠ ((var second : Scalar ℚ).formOver [default, second]).map coefficients := by
    decide +kernel
  constructor
  · intro h
    rw [hf, hg] at hcoeffs
    apply hcoeffs
    apply congrArg Except.ok (hiff.mp h).2.1
  · use hscale, hmul

end Scalar

end QuadraticProgram
