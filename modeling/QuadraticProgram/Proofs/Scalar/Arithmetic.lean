import QuadraticProgram.Proofs.Scalar.Value
import QuadraticProgram.Scalar.Algebra

/-!
# Values of sums and products

What the operations on scalar expressions give: over which variables their results are, of
which form they are and which values they have (`Scalar.Represents`). A sum is never refused
(`Scalar.exists_add`), and a product exactly if its degree would be above two
(`Scalar.exists_mul`, `Scalar.mul_eq_error`).
-/

namespace QuadraticProgram.Scalar

open QuadraticProgram.Alignment

/-- An expression that is no bare variable, over the variables of a list, of the form with a
given degree, and with given values. -/
structure Represents (c : Scalar ℚ) (vs : List Variable) (degree : ℕ) (value : (ℕ → ℚ) → ℚ) :
    Prop where
  distinct_vars : distinct c.vars = distinct vs
  degree_eq : c.degree = degree
  isVariable_eq : c.isVariable = false
  valueAt_eq (x : ℕ → ℚ) : c.valueAt x = value x

variable {vs : List Variable} {value : (ℕ → ℚ) → ℚ}

/-- A representation only depends on the distinct variables, the degree and the values. -/
theorem Represents.congr {c : Scalar ℚ} {degree degree' : ℕ} {vs' : List Variable}
    {value' : (ℕ → ℚ) → ℚ} (h : c.Represents vs degree value)
    (hvars : distinct vs = distinct vs') (hdegree : degree = degree')
    (hvalue : ∀ x, value x = value' x) :
  c.Represents vs' degree' value'
  := by
  constructor
  · rw [h.distinct_vars, hvars]
  · rw [h.degree_eq, hdegree]
  · apply h.isVariable_eq
  · intro x
    rw [h.valueAt_eq, hvalue]

/-- An assignment that covers the variables gives the value. -/
theorem Represents.evaluate_eq_ok {c : Scalar ℚ} {degree : ℕ} (h : c.Represents vs degree value)
    {s : ℕ → Option ℚ} (hs : Covers s vs) :
  c.evaluate s = .ok (value (pointOf s))
  := by
  rw [Scalar.evaluate_eq_ok (covers_of_distinct_eq h.distinct_vars hs), h.valueAt_eq]

/-- A constant has no variables and one value. -/
theorem represents_const {a : ℚ} (hvalue : ∀ x, a = value x) :
  (const a).Represents [] 0 value
  := by
  constructor
  · rfl
  · rfl
  · rfl
  · intro x
    rw [valueAt_const, hvalue]

/-- A linear form has degree one and the values of its coefficients. -/
theorem represents_linear {f : LinearForm ℚ} (hvars : distinct f.vars = distinct vs)
    (hvalue : ∀ x, linearValue x f.vars f.coeffs + f.const = value x) :
  (linear f).Represents vs 1 value
  := by
  constructor
  · apply hvars
  · rfl
  · rfl
  · intro x
    rw [valueAt_linear, hvalue]

/-- The quadratic form that a matrix, coefficients and a constant make. -/
theorem exists_represents_quadratic (xs : List Variable) (q : Matrix ℚ) (l : List ℚ) (c : ℚ)
    (hr : q.rows = xs.length) (hc : q.cols = xs.length) (hl : l.length = xs.length)
    (hvars : distinct xs = distinct vs)
    (hvalue : ∀ x, quadraticValue x xs q + linearValue x xs l + c = value x) :
  ∃ f, QuadraticForm.symmetrise? xs q l c hr hc hl = .ok f
    ∧ (quadratic f).Represents vs 2 value
  := by
  obtain ⟨f, hf, hxs, hvalueAt⟩ := QuadraticForm.exists_symmetrise? xs q l c hr hc hl
  use f, hf
  constructor
  · rw [vars, hxs, hvars]
  · rfl
  · rfl
  · intro x
    rw [hvalueAt, hvalue]

/-! ### Sums -/

/-- A constant can be added to every expression, and adds to its values. -/
theorem exists_addConst (e : Scalar ℚ) (a : ℚ) :
  ∃ c, e.addConst a = .ok c ∧ c.Represents e.vars e.degree fun x => e.valueAt x + a
  := by
  cases e with
  | const b =>
      use const (b + a), rfl
      apply represents_const
      intro x
      rw [valueAt_const]
  | var v =>
      use linear (.ofPairs [(v, 1)] a), rfl
      apply represents_linear rfl
      intro x
      rw [valueAt_var]
      simp [LinearForm.ofPairs, linearValue, valuesAt]
  | linear f =>
      use linear { f with const := f.const + a }, rfl
      apply represents_linear rfl
      intro x
      rw [valueAt_linear, add_assoc]
  | quadratic f =>
      obtain ⟨g, hg, hgr⟩ := exists_represents_quadratic f.vars f.quad f.coeffs (f.const + a)
        f.rows_quad f.cols_quad f.length_coeffs rfl fun x => by
          rw [← add_assoc]
      use quadratic g
      constructor
      · rw [addConst, resymmetrise?, hg, Outcome.map_ok]
      · apply hgr

/-- The common variables of two expressions are those of both, in the order of first occurrence. -/
theorem distinct_commonVars (a b : Scalar ℚ) :
  distinct (commonVars a b) = distinct (a.vars ++ b.vars)
  := distinct_distinct _

/-- Coefficients moved to the variables of both expressions keep the value. -/
theorem linearValue_coefficientsOver_left (a b : Scalar ℚ) (x : ℕ → ℚ) :
  linearValue x (commonVars a b) (a.coefficientsOver (commonVars a b))
    = linearValue x a.vars a.coefficients
  := by
  apply linearValue_spread
  apply lists_distinct_append_left

/-- Over the common variables the coefficients of the right side keep their value. -/
theorem linearValue_coefficientsOver_right (a b : Scalar ℚ) (x : ℕ → ℚ) :
  linearValue x (commonVars a b) (b.coefficientsOver (commonVars a b))
    = linearValue x b.vars b.coefficients
  := by
  apply linearValue_spread
  apply lists_distinct_append_right

/-- Over the common variables coefficients are added up. -/
theorem linearValue_sum_coefficientsOver (a b : Scalar ℚ) (x : ℕ → ℚ) :
  linearValue x (commonVars a b) (List.zipWith (· + ·) (a.coefficientsOver (commonVars a b))
      (b.coefficientsOver (commonVars a b)))
    = linearValue x a.vars a.coefficients + linearValue x b.vars b.coefficients
  := by
  rw [linearValue_add, linearValue_coefficientsOver_left, linearValue_coefficientsOver_right]
  simp [coefficientsOver]

/-- Over the common variables coefficients of products are added up. -/
theorem quadraticValue_sum_productsOver (a b : Scalar ℚ) (x : ℕ → ℚ) :
  quadraticValue x (commonVars a b)
      ((a.productsOver (commonVars a b)).add (b.productsOver (commonVars a b)))
    = quadraticValue x a.vars a.products + quadraticValue x b.vars b.products
  := by
  rw [quadraticValue_add]
  · congr 1
    · apply quadraticValue_spreadPairs
      apply lists_distinct_append_left
    · apply quadraticValue_spreadPairs
      apply lists_distinct_append_right
  · simp [productsOver]
  · simp [productsOver]

/-- The linear sum of two expressions of degree at most one has the sum of their values. -/
theorem represents_linearSum {a b : Scalar ℚ} (ha : a.degree ≤ 1) (hb : b.degree ≤ 1) :
  (linear (linearSum a b)).Represents (a.vars ++ b.vars) 1 fun x => a.valueAt x + b.valueAt x
  := by
  apply represents_linear (distinct_commonVars a b)
  intro x
  rw [linearSum, linearValue_sum_coefficientsOver, valueAt_of_degree_le ha,
    valueAt_of_degree_le hb]
  ring

/-- The quadratic sum of two expressions exists and has the sum of their values. -/
theorem exists_quadraticSum (a b : Scalar ℚ) :
  ∃ f, quadraticSum a b = .ok f
    ∧ (quadratic f).Represents (a.vars ++ b.vars) 2 fun x => a.valueAt x + b.valueAt x
  := by
  apply exists_represents_quadratic _ _ _ _ (by simp [productsOver]) (by simp [productsOver]) _
    (distinct_commonVars a b)
  intro x
  rw [quadraticValue_sum_productsOver, linearValue_sum_coefficientsOver, valueAt, valueAt]
  ring

/-- A variable and itself give twice the variable, two variables a form with both. -/
theorem exists_add_vars (v w : Variable) :
  ∃ c, (var v).add (var w) = .ok c
    ∧ c.Represents [v, w] 1 fun x => (var v).valueAt x + (var w).valueAt x
  := by
  by_cases h : v.id = w.id
  · use linear (.ofPairs [(v, 1 + 1)] 0)
    constructor
    · rw [add, if_pos h]
    · apply represents_linear
      · simp [LinearForm.ofPairs, distinct, h]
      · intro x
        rw [valueAt_var, valueAt_var, ← h]
        simp [LinearForm.ofPairs, linearValue, valuesAt]
        ring
  · use linear (.ofPairs [(v, 1), (w, 1)] 0)
    constructor
    · rw [add, if_neg h]
    · apply represents_linear rfl
      intro x
      rw [valueAt_var, valueAt_var]
      simp [LinearForm.ofPairs, linearValue, valuesAt, Finset.sum_range_succ]

/-- A constant on the right is added. -/
theorem exists_add_const (e : Scalar ℚ) (a : ℚ) :
  ∃ c, e.add (const a) = .ok c ∧ c.Represents (e.vars ++ []) (max e.degree 0)
    fun x => e.valueAt x + (const a).valueAt x
  := by
  have h : e.add (const a) = e.addConst a := by
    cases e <;> rfl
  obtain ⟨c, hc, hr⟩ := exists_addConst e a
  use c
  rw [h, List.append_nil, max_eq_left (Nat.zero_le _)]
  use hc
  simpa only [valueAt_const] using hr

/-- A constant on the left is added. -/
theorem exists_const_add (a : ℚ) (e : Scalar ℚ) :
  ∃ c, (const a).add e = .ok c ∧ c.Represents e.vars (max 0 e.degree)
    fun x => (const a).valueAt x + e.valueAt x
  := by
  have h : (const a).add e = e.addConst a := by
    cases e with
    | const b => rw [add, addConst, add_comm]
    | _ => rfl
  obtain ⟨c, hc, hr⟩ := exists_addConst e a
  use c
  rw [h, max_eq_right (Nat.zero_le _)]
  use hc
  simpa only [valueAt_const, add_comm] using hr

/-- A sum that is computed as a quadratic one has the sum of the values. -/
theorem exists_add_of_quadratic {a b : Scalar ℚ} (hdegree : max a.degree b.degree = 2)
    (h : a.add b = (quadraticSum a b).map quadratic) :
  ∃ c, a.add b = .ok c ∧ c.Represents (a.vars ++ b.vars) (max a.degree b.degree)
    fun x => a.valueAt x + b.valueAt x
  := by
  obtain ⟨f, hf, hr⟩ := exists_quadraticSum a b
  use quadratic f
  rw [h, hf, hdegree]
  use rfl

/-- A sum that is computed as a linear one has the sum of the values. -/
theorem exists_add_of_linear {a b : Scalar ℚ} (ha : a.degree = 1) (hb : b.degree = 1)
    (h : a.add b = .ok (linear (linearSum a b))) :
  ∃ c, a.add b = .ok c ∧ c.Represents (a.vars ++ b.vars) (max a.degree b.degree)
    fun x => a.valueAt x + b.valueAt x
  := by
  use linear (linearSum a b), h
  rw [ha, hb]
  apply represents_linearSum ha.le hb.le

/-- The sum of two expressions has the larger degree of both. -/
theorem exists_add (a b : Scalar ℚ) :
  ∃ c, a.add b = .ok c ∧ c.Represents (a.vars ++ b.vars) (max a.degree b.degree)
    fun x => a.valueAt x + b.valueAt x
  := by
  cases a with
  | const c => apply exists_const_add
  | var v =>
      cases b with
      | const d => apply exists_add_const
      | var w => apply exists_add_vars
      | linear g => exact exists_add_of_linear rfl rfl rfl
      | quadratic g => exact exists_add_of_quadratic rfl rfl
  | linear f =>
      cases b with
      | const d => apply exists_add_const
      | var w => exact exists_add_of_linear rfl rfl rfl
      | linear g => exact exists_add_of_linear rfl rfl rfl
      | quadratic g => exact exists_add_of_quadratic rfl rfl
  | quadratic f =>
      cases b with
      | const d => apply exists_add_const
      | var w => exact exists_add_of_quadratic rfl rfl
      | linear g => exact exists_add_of_quadratic rfl rfl
      | quadratic g => exact exists_add_of_quadratic rfl rfl

/-! ### Products -/

/-- Every multiple exists and multiplies the values. -/
theorem exists_scale (a : ℚ) (e : Scalar ℚ) :
  ∃ c, e.scale a = .ok c ∧ c.Represents e.vars e.degree fun x => a * e.valueAt x
  := by
  cases e with
  | const b =>
      use const (a * b), rfl
      apply represents_const
      intro x
      rw [valueAt_const]
  | var v =>
      use linear (.ofPairs [(v, a)] 0), rfl
      apply represents_linear rfl
      intro x
      rw [valueAt_var]
      simp [LinearForm.ofPairs, linearValue, valuesAt]
  | linear f =>
      use linear ⟨f.vars, f.coeffs.map (a * ·), a * f.const, by simp [f.length_coeffs]⟩, rfl
      apply represents_linear rfl
      intro x
      rw [valueAt_linear, linearValue_scale, mul_add]
  | quadratic f =>
      obtain ⟨g, hg, hgr⟩ := exists_represents_quadratic f.vars (f.quad.scale a)
        (f.coeffs.map (a * ·)) (a * f.const) (by simp [f.rows_quad]) (by simp [f.cols_quad])
        (by simp [f.length_coeffs]) rfl fun x => by
          rw [quadraticValue_scale, linearValue_scale, ← mul_add, ← mul_add, ← valueAt_quadratic]
      use quadratic g
      constructor
      · rw [scale, resymmetrise?, hg, Outcome.map_ok]
      · apply hgr

/-- The value of a product of two linear forms: of the product of the variable parts, of the
products of each with the other constant, and of the constants. -/
theorem exists_linearProduct {a b : Scalar ℚ} (ha : a.degree ≤ 1) (hb : b.degree ≤ 1) :
  ∃ f, linearProduct a b = .ok f
    ∧ (quadratic f).Represents (a.vars ++ b.vars) 2 fun x => a.valueAt x * b.valueAt x
  := by
  apply exists_represents_quadratic _ _ _ _ (by simp [coefficientsOver])
    (by simp [coefficientsOver]) _ (distinct_commonVars a b)
  intro x
  rw [quadraticValue_symmetrised, quadraticValue_outer, linearValue_add, linearValue_scale,
    linearValue_scale, linearValue_coefficientsOver_left, linearValue_coefficientsOver_right,
    valueAt_of_degree_le ha, valueAt_of_degree_le hb]
  · ring
  · simp [coefficientsOver]
  · simp [coefficientsOver]

/-- To multiply by a constant on the right is to scale. -/
theorem mul_const (e : Scalar ℚ) (a : ℚ) :
  e.mul (const a) = e.scale a
  := by
  cases e with
  | const b => rw [mul, scale, mul_comm]
  | _ => rfl

/-- To multiply by a constant on the left is to scale. -/
theorem const_mul (a : ℚ) (e : Scalar ℚ) :
  (const a).mul e = e.scale a
  := by
  cases e <;> rfl

theorem exists_mul_const (e : Scalar ℚ) (a : ℚ) :
  ∃ c, e.mul (const a) = .ok c ∧ c.Represents (e.vars ++ []) (e.degree + 0)
    fun x => e.valueAt x * (const a).valueAt x
  := by
  obtain ⟨c, hc, hr⟩ := exists_scale a e
  use c
  rw [mul_const, List.append_nil, add_zero]
  use hc
  simpa only [valueAt_const, mul_comm] using hr

theorem exists_const_mul (a : ℚ) (e : Scalar ℚ) :
  ∃ c, (const a).mul e = .ok c ∧ c.Represents e.vars (0 + e.degree)
    fun x => (const a).valueAt x * e.valueAt x
  := by
  obtain ⟨c, hc, hr⟩ := exists_scale a e
  use c
  rw [const_mul, zero_add]
  use hc
  simpa only [valueAt_const] using hr

/-- The product of two linear expressions is quadratic and has the product of the values. -/
theorem exists_mul_of_linear {a b : Scalar ℚ} (ha : a.degree = 1) (hb : b.degree = 1)
    (h : a.mul b = (linearProduct a b).map quadratic) :
  ∃ c, a.mul b = .ok c ∧ c.Represents (a.vars ++ b.vars) (a.degree + b.degree)
    fun x => a.valueAt x * b.valueAt x
  := by
  obtain ⟨f, hf, hr⟩ := exists_linearProduct ha.le hb.le
  use quadratic f
  rw [h, hf, ha, hb]
  use rfl

/-- A product of two expressions whose degrees add up to two at most has that degree. -/
theorem exists_mul {a b : Scalar ℚ} (h : a.degree + b.degree ≤ 2) :
  ∃ c, a.mul b = .ok c ∧ c.Represents (a.vars ++ b.vars) (a.degree + b.degree)
    fun x => a.valueAt x * b.valueAt x
  := by
  cases a with
  | const c => apply exists_const_mul
  | var v =>
      cases b with
      | const d => apply exists_mul_const
      | var w => exact exists_mul_of_linear rfl rfl rfl
      | linear g => exact exists_mul_of_linear rfl rfl rfl
      | quadratic g => simp [degree] at h
  | linear f =>
      cases b with
      | const d => apply exists_mul_const
      | var w => exact exists_mul_of_linear rfl rfl rfl
      | linear g => exact exists_mul_of_linear rfl rfl rfl
      | quadratic g => simp [degree] at h
  | quadratic f =>
      cases b with
      | const d => apply exists_mul_const
      | var w => simp [degree] at h
      | linear g => simp [degree] at h
      | quadratic g => simp [degree] at h

/-- A product whose degree would be above two is refused. -/
theorem mul_eq_error {a b : Scalar ℚ} (h : 2 < a.degree + b.degree) :
  a.mul b = .error (.degreeExceeded a.kind b.kind)
  := by
  cases a with
  | const c =>
      cases b with
      | _ => simp [degree] at h
  | var v =>
      cases b with
      | quadratic g => rfl
      | _ => simp [degree] at h
  | linear f =>
      cases b with
      | quadratic g => rfl
      | _ => simp [degree] at h
  | quadratic f =>
      cases b with
      | const d => simp [degree] at h
      | _ => rfl

/-! ### Sums of products -/

/-- An expression with a product added to it. -/
def addProduct (e : Scalar ℚ) (p : Scalar ℚ × Scalar ℚ) : Except Error (Scalar ℚ) := do
  e.add (← p.1.mul p.2)

/-- The products of the items of two lists, added up from zero and from left to right. -/
def sumOfProducts (as bs : List (Scalar ℚ)) : Except Error (Scalar ℚ) :=
  (as.zip bs).foldlM addProduct (const 0)

/-- A product of degree at most two is added. -/
theorem exists_addProduct (e : Scalar ℚ) {p : Scalar ℚ × Scalar ℚ}
    (h : p.1.degree + p.2.degree ≤ 2) :
  ∃ c, e.addProduct p = .ok c ∧ distinct c.vars = distinct (e.vars ++ (p.1.vars ++ p.2.vars))
    ∧ ∀ x, c.valueAt x = e.valueAt x + p.1.valueAt x * p.2.valueAt x
  := by
  obtain ⟨d, hd, hdr⟩ := exists_mul h
  obtain ⟨c, hc, hcr⟩ := exists_add e d
  use c
  constructor
  · rw [addProduct, hd, Outcome.ok_bind, hc]
  · constructor
    · rw [hcr.distinct_vars]
      apply distinct_append_congr rfl hdr.distinct_vars
    · intro x
      rw [hcr.valueAt_eq, hdr.valueAt_eq]

/-- Products of degree at most two are added one after the other, each to the sum so far. -/
theorem exists_foldlM_addProduct (e : Scalar ℚ) {ps : List (Scalar ℚ × Scalar ℚ)}
    (h : ∀ p ∈ ps, p.1.degree + p.2.degree ≤ 2) :
  ∃ c, ps.foldlM addProduct e = .ok c
    ∧ distinct c.vars = distinct (e.vars ++ ps.flatMap fun p => p.1.vars ++ p.2.vars)
    ∧ ∀ x, c.valueAt x = e.valueAt x + (ps.map fun p => p.1.valueAt x * p.2.valueAt x).sum
  := by
  induction ps generalizing e with
  | nil =>
      use e, rfl
      simp
  | cons p ps ih =>
      rw [List.forall_mem_cons] at h
      obtain ⟨d, hd, hdvars, hdvalue⟩ := exists_addProduct e h.1
      obtain ⟨c, hc, hvars, hvalue⟩ := ih d h.2
      use c
      constructor
      · rw [List.foldlM_cons, hd, Outcome.ok_bind, hc]
      · constructor
        · rw [hvars, List.flatMap_cons, ← List.append_assoc]
          apply distinct_append_congr hdvars rfl
        · intro x
          rw [hvalue, hdvalue, List.map_cons, List.sum_cons, add_assoc]

/-- A sum of products of linear expressions has the sum of the products of their values. -/
theorem exists_sumOfProducts {as bs : List (Scalar ℚ)} (ha : ∀ a ∈ as, a.degree ≤ 1)
    (hb : ∀ b ∈ bs, b.degree ≤ 1) :
  ∃ c, sumOfProducts as bs = .ok c
    ∧ (∀ s : ℕ → Option ℚ, (∀ a ∈ as, Covers s a.vars) → (∀ b ∈ bs, Covers s b.vars) →
        Covers s c.vars)
    ∧ ∀ x, c.valueAt x = Coefficient.dot (as.map (valueAt x)) (bs.map (valueAt x))
  := by
  have h : ∀ p ∈ as.zip bs, p.1.degree + p.2.degree ≤ 2 := by
    rintro ⟨a, b⟩ hp
    apply Nat.add_le_add (ha a (List.of_mem_zip hp).1) (hb b (List.of_mem_zip hp).2)
  obtain ⟨c, hc, hvars, hvalue⟩ := exists_foldlM_addProduct (const 0) h
  use c, hc
  constructor
  · intro s has hbs
    apply covers_of_distinct_eq hvars
    intro v hv
    obtain ⟨⟨a, b⟩, hp, hab⟩ := List.mem_flatMap.mp hv
    rcases List.mem_append.mp hab with hva | hvb
    · apply has a (List.of_mem_zip hp).1 v hva
    · apply hbs b (List.of_mem_zip hp).2 v hvb
  · intro x
    rw [hvalue, valueAt_const, zero_add, Coefficient.dot, Coefficient.total_eq_sum,
      List.zipWith_map, List.zip, List.map_zipWith]

/-! ### Agreement -/

/-- Two expressions have one value wherever the variables of a list have values. -/
def Agrees (vs : List Variable) (c d : Scalar ℚ) : Prop :=
  ∀ s, Covers s vs → ∃ t, c.evaluate s = .ok t ∧ d.evaluate s = .ok t

/-- Expressions with equal values at all points agree where both are covered. -/
theorem agrees_of_valueAt_eq {c d : Scalar ℚ}
    (hc : ∀ s : ℕ → Option ℚ, Covers s vs → Covers s c.vars)
    (hd : ∀ s : ℕ → Option ℚ, Covers s vs → Covers s d.vars) (h : ∀ x, c.valueAt x = d.valueAt x) :
  Agrees vs c d
  := by
  intro s hs
  use c.valueAt (pointOf s), Scalar.evaluate_eq_ok (hc s hs)
  rw [Scalar.evaluate_eq_ok (hd s hs), h]

end QuadraticProgram.Scalar
