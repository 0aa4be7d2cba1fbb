import QuadraticProgram.Expression.Operator
import QuadraticProgram.Proofs.Scalar.Arithmetic

/-!
# Operators between scalar expressions

A number and an array without axes stand for constants, so every operand of a scalar
expression denotes a scalar expression (`Operand.Denotes`). The operators are then the
operations on the denoted expressions, whichever side the number is on, and they take values
accordingly.
-/

namespace QuadraticProgram

open QuadraticProgram.Alignment

/-! ### Operands -/

/-- The rational that a number is. -/
def Number.amount : Number ℚ → ℚ
  | .integer n => n
  | .ratio q => q
  | .coefficient a => a
  | .entry a => a

/-- Every number is a rational. -/
theorem Number.value_eq_ok (n : Number ℚ) :
  n.value = .ok n.amount
  := by
  cases n <;> rfl

/-- A number with its sign changed is the opposite rational. -/
theorem Number.amount_negated (n : Number ℚ) :
  n.negated.amount = -n.amount
  := by
  cases n with
  | integer n => exact Int.cast_neg n
  | _ => rfl

/-- Only zero may refuse to divide. -/
theorem Number.refusesDivision_eq_false {n : Number ℚ} (h : n.amount ≠ 0) :
  n.refusesDivision = false
  := by
  cases n with
  | entry a => rfl
  | _ => exact beq_false_of_ne h

/-- The scalar expression that an operand stands for beside another one. -/
inductive Operand.Denotes : Operand ℚ → Scalar ℚ → Prop where
  | number (n : Number ℚ) : Denotes (.number n) (.const n.amount)
  | array (a : ℚ) : Denotes (.array (.single a)) (.const a)
  | expression (e : Scalar ℚ) : Denotes (.expression (.scalar e)) e

variable {x : Operand ℚ} {b : Scalar ℚ}

/-- An operand is promoted to the scalar expression that it denotes. -/
theorem Operand.Denotes.asScalar (h : x.Denotes b) (operation : Operation) :
  x.asScalar operation = .ok b
  := by
  cases h with
  | number n => rw [Operand.asScalar, Number.value_eq_ok, Outcome.map_ok]
  | array a => rfl
  | expression e => rfl

/-! ### Operations -/

namespace Expression

/-- An operation gives a scalar expression over the variables of a list, of the form with a
given degree, and with given values. -/
def Gives (outcome : Except Error (Expression ℚ)) (vs : List Variable) (degree : ℕ)
    (value : (ℕ → ℚ) → ℚ) : Prop :=
  ∃ c, outcome = .ok (scalar c) ∧ c.Represents vs degree value

/-- To add what an operand denotes adds the values. -/
theorem gives_plus (a : Scalar ℚ) (h : x.Denotes b) :
  Gives ((scalar a).plus x) (a.vars ++ b.vars) (max a.degree b.degree)
    fun p => a.valueAt p + b.valueAt p
  := by
  obtain ⟨c, hc, hr⟩ := Scalar.exists_add a b
  use c
  rw [plus, h.asScalar, Outcome.ok_bind, hc]
  use rfl

/-- A multiple of a scalar expression multiplies its values. -/
theorem gives_scale (a : Scalar ℚ) (t : ℚ) :
  Gives ((scalar a).scale t) a.vars a.degree fun p => t * a.valueAt p
  := by
  obtain ⟨c, hc, hr⟩ := Scalar.exists_scale t a
  use c
  rw [scale, hc]
  use rfl

/-- To multiply by a number is to scale. -/
theorem multiply_number (e : Expression ℚ) (n : Number ℚ) :
  e.multiply (.number n) = e.scale n.amount
  := by
  rw [multiply, Number.value_eq_ok, Outcome.ok_bind]

/-- To change the sign of a scalar expression changes the sign of its values. -/
theorem gives_negated (a : Scalar ℚ) :
  Gives (scalar a).negated a.vars a.degree fun p => -a.valueAt p
  := by
  obtain ⟨c, hc, hr⟩ := gives_scale a (-1)
  use c
  rw [negated, multiply_number]
  use hc
  apply hr.congr rfl rfl
  intro p
  apply neg_one_mul

/-- To subtract an operand is to add one with the opposite value. -/
theorem gives_minus (a : Scalar ℚ) (h : x.Denotes b) :
  Gives ((scalar a).minus x) (a.vars ++ b.vars) (max a.degree b.degree)
    fun p => a.valueAt p - b.valueAt p
  := by
  cases h with
  | number n =>
      obtain ⟨c, hc, hr⟩ := gives_plus a (.number n.negated)
      use c, hc
      apply hr.congr rfl rfl
      intro p
      rw [Scalar.valueAt_const, Scalar.valueAt_const, Number.amount_negated, sub_eq_add_neg]
  | array t =>
      obtain ⟨c, hc, hr⟩ := gives_plus a (.number (.coefficient (-t)))
      use c, hc
      apply hr.congr rfl rfl
      intro p
      rw [Scalar.valueAt_const, Scalar.valueAt_const, Number.amount, sub_eq_add_neg]
  | expression b =>
      obtain ⟨d, hd, hdr⟩ := gives_negated b
      obtain ⟨c, hc, hr⟩ := gives_plus a (.expression d)
      use c
      rw [minus, hd, Outcome.ok_bind]
      use hc
      apply hr.congr
      · apply distinct_append_congr rfl hdr.distinct_vars
      · rw [hdr.degree_eq]
      · intro p
        rw [hdr.valueAt_eq, sub_eq_add_neg]

/-- A product of two expressions whose degrees add up to two at most. -/
theorem gives_multiply {a : Scalar ℚ} (h : x.Denotes b) (hdegree : a.degree + b.degree ≤ 2) :
  Gives ((scalar a).multiply x) (a.vars ++ b.vars) (a.degree + b.degree)
    fun p => a.valueAt p * b.valueAt p
  := by
  obtain ⟨c, hc, hr⟩ := Scalar.exists_mul hdegree
  cases h with
  | number n =>
      obtain ⟨c, hc, hr⟩ := gives_scale a n.amount
      use c
      rw [multiply_number]
      use hc
      apply hr.congr
      · rw [Scalar.vars, List.append_nil]
      · rfl
      · intro p
        rw [Scalar.valueAt_const, mul_comm]
  | array t =>
      use c
      constructor
      · exact congrArg (Except.map scalar) hc
      · apply hr
  | expression b =>
      use c
      rw [multiply, times, hc]
      use rfl

/-- To divide by a number other than zero is to multiply by its reciprocal. -/
theorem gives_divide (a : Scalar ℚ) {n : Number ℚ} (h : n.amount ≠ 0) :
  Gives ((scalar a).divide (.number n)) a.vars a.degree fun p => a.valueAt p / n.amount
  := by
  obtain ⟨c, hc, hr⟩ := gives_scale a n.amount⁻¹
  use c
  constructor
  · rw [divide, Number.value_eq_ok, Outcome.ok_bind, Number.refusesDivision_eq_false h,
      if_neg Bool.false_ne_true, multiply_number]
    apply hc
  · apply hr.congr rfl rfl
    intro p
    rw [div_eq_inv_mul]

/-- A scalar expression is subtracted from what an operand denotes. -/
theorem gives_subtractedFrom (b : Scalar ℚ) {a : Scalar ℚ} (h : x.Denotes a) :
  Gives ((scalar b).subtractedFrom x) (b.vars ++ a.vars) (max b.degree a.degree)
    fun p => a.valueAt p - b.valueAt p
  := by
  obtain ⟨d, hd, hdr⟩ := gives_negated b
  obtain ⟨c, hc, hr⟩ := gives_plus d h
  use c
  rw [subtractedFrom, hd, Outcome.ok_bind]
  use hc
  apply hr.congr
  · apply distinct_append_congr hdr.distinct_vars rfl
  · rw [hdr.degree_eq]
  · intro p
    rw [hdr.valueAt_eq, neg_add_eq_sub]

end Expression

/-! ### Operators -/

namespace Arithmetic

/-- An operator gives a scalar expression of the form with a given degree, which is no bare
variable. Wherever both sides have values, its value is computed from theirs. -/
def Evaluates (op : Arithmetic) (x y : Operand ℚ) (a b : Scalar ℚ) (degree : ℕ)
    (f : ℚ → ℚ → ℚ) : Prop :=
  ∃ c, op.result? x y = some (.ok (.scalar c)) ∧ c.degree = degree ∧ c.isVariable = false
    ∧ ∀ s, Covers s a.vars → Covers s b.vars →
        ∃ p q, a.evaluate s = .ok p ∧ b.evaluate s = .ok q ∧ c.evaluate s = .ok (f p q)

variable {op : Arithmetic} {y : Operand ℚ} {a : Scalar ℚ}

/-- An operator evaluates as the expression that it gives does. -/
theorem evaluates_of_gives {outcome : Except Error (Expression ℚ)} {vs : List Variable}
    {degree degree' : ℕ} {value : (ℕ → ℚ) → ℚ} {f : ℚ → ℚ → ℚ}
    (hop : op.result? x y = some outcome) (h : Expression.Gives outcome vs degree value)
    (hvars : vs = a.vars ++ b.vars ∨ vs = b.vars ++ a.vars) (hdegree : degree = degree')
    (hvalue : ∀ p, value p = f (a.valueAt p) (b.valueAt p)) :
  op.Evaluates x y a b degree' f
  := by
  obtain ⟨c, hc, hr⟩ := h
  use c
  rw [hop, hc, ← hdegree]
  use rfl, hr.degree_eq, hr.isVariable_eq
  intro s ha hb
  use a.valueAt (pointOf s), b.valueAt (pointOf s), Scalar.evaluate_eq_ok ha,
    Scalar.evaluate_eq_ok hb
  rw [hr.evaluate_eq_ok, hvalue]
  rcases hvars with rfl | rfl
  · apply covers_append.mpr ⟨ha, hb⟩
  · apply covers_append.mpr ⟨hb, ha⟩

/-- The value that an operator gives where the values of both sides are known. -/
theorem Evaluates.exists_value {degree : ℕ} {f : ℚ → ℚ → ℚ} (h : op.Evaluates x y a b degree f)
    {s : ℕ → Option ℚ} {p q : ℚ} (hsa : Covers s a.vars) (hsb : Covers s b.vars)
    (ha : a.evaluate s = .ok p) (hb : b.evaluate s = .ok q) :
  ∃ c, op.result? x y = some (.ok (.scalar c)) ∧ c.evaluate s = .ok (f p q)
  := by
  obtain ⟨c, hc, -, -, hs⟩ := h
  obtain ⟨p', q', hp, hq, hpq⟩ := hs s hsa hsb
  cases ha.symm.trans hp
  cases hb.symm.trans hq
  use c, hc

/-- The operation is that of the left operand if it is an expression, else the reflected one
of the right operand. -/
theorem result?_cases (op : Arithmetic) (hx : x.Denotes a)
    (hxy : x = .expression (.scalar a) ∨ y = .expression (.scalar b)) :
  op.result? x y = some (op.onLeft (.scalar a) y)
    ∨ y = .expression (.scalar b) ∧ op.result? x y = op.reflected x (.scalar b)
  := by
  rcases hxy with rfl | rfl
  · left
    rfl
  · cases hx with
    | expression a =>
        left
        rfl
    | _ =>
        right
        use rfl
        rfl

/-- A sum evaluates to the sum of the values, whichever side is an expression. -/
theorem evaluates_add (hx : x.Denotes a) (hy : y.Denotes b)
    (hxy : x = .expression (.scalar a) ∨ y = .expression (.scalar b)) :
  add.Evaluates x y a b (max a.degree b.degree) (· + ·)
  := by
  rcases result?_cases add hx hxy with hop | ⟨-, hop⟩
  · apply evaluates_of_gives hop (Expression.gives_plus a hy) (.inl rfl) rfl
    intro p
    rfl
  · apply evaluates_of_gives hop (Expression.gives_plus b hx) (.inr rfl) (max_comm _ _)
    intro p
    apply add_comm

/-- A difference evaluates to the difference of the values, whichever side is an expression. -/
theorem evaluates_subtract (hx : x.Denotes a) (hy : y.Denotes b)
    (hxy : x = .expression (.scalar a) ∨ y = .expression (.scalar b)) :
  subtract.Evaluates x y a b (max a.degree b.degree) (· - ·)
  := by
  rcases result?_cases subtract hx hxy with hop | ⟨-, hop⟩
  · apply evaluates_of_gives hop (Expression.gives_minus a hy) (.inl rfl) rfl
    intro p
    rfl
  · apply evaluates_of_gives hop (Expression.gives_subtractedFrom b hx) (.inr rfl) (max_comm _ _)
    intro p
    rfl

/-- A product of degree at most two evaluates to the product of the values. -/
theorem evaluates_multiply (hx : x.Denotes a) (hy : y.Denotes b)
    (hxy : x = .expression (.scalar a) ∨ y = .expression (.scalar b))
    (hdegree : a.degree + b.degree ≤ 2) :
  multiply.Evaluates x y a b (a.degree + b.degree) (· * ·)
  := by
  rcases result?_cases multiply hx hxy with hop | ⟨-, hop⟩
  · apply evaluates_of_gives hop (Expression.gives_multiply hy hdegree) (.inl rfl) rfl
    intro p
    rfl
  · rw [add_comm] at hdegree
    apply evaluates_of_gives hop (Expression.gives_multiply hx hdegree) (.inr rfl) (add_comm _ _)
    intro p
    apply mul_comm

/-- A quotient evaluates to the quotient of the value and the number. -/
theorem evaluates_divide (a : Scalar ℚ) {n : Number ℚ} (h : n.amount ≠ 0) :
  divide.Evaluates (.expression (.scalar a)) (.number n) a (.const n.amount) a.degree (· / ·)
  := by
  apply evaluates_of_gives rfl (Expression.gives_divide a h) _ rfl
  · intro p
    rw [Scalar.valueAt_const]
  · left
    rw [Scalar.vars, List.append_nil]

/-- Sums and differences of scalar expressions, numbers and arrays without axes have the larger
degree and the sum or the difference of the values, and to change the sign of an expression, to
multiply it by a constant on either side and to divide it by a number other than zero does the
same to its value. -/
theorem evaluates_sum_difference_scaled (hx : x.Denotes a) (hy : y.Denotes b)
    (hxy : x = .expression (.scalar a) ∨ y = .expression (.scalar b)) :
  add.Evaluates x y a b (max a.degree b.degree) (· + ·)
    ∧ subtract.Evaluates x y a b (max a.degree b.degree) (· - ·)
    ∧ (∃ c, (Expression.scalar a).negated = .ok (.scalar c) ∧ c.degree = a.degree
        ∧ ∀ s, Covers s a.vars → ∃ p, a.evaluate s = .ok p ∧ c.evaluate s = .ok (-p))
    ∧ (∀ k t, Operand.Denotes k (.const t) →
        multiply.Evaluates k (.expression (.scalar a)) (.const t) a a.degree (· * ·)
          ∧ multiply.Evaluates (.expression (.scalar a)) k a (.const t) a.degree (· * ·))
    ∧ ∀ n : Number ℚ, n.amount ≠ 0 →
        divide.Evaluates (.expression (.scalar a)) (.number n) a (.const n.amount) a.degree (· / ·)
  := by
  use evaluates_add hx hy hxy, evaluates_subtract hx hy hxy
  constructor
  · obtain ⟨c, hc, hr⟩ := Expression.gives_negated a
    use c, hc, hr.degree_eq
    intro s hs
    use a.valueAt (pointOf s), Scalar.evaluate_eq_ok hs, hr.evaluate_eq_ok hs
  · constructor
    · intro k t hk
      have ha := Operand.Denotes.expression a
      constructor
      · have h := evaluates_multiply hk ha (.inr rfl)
        rw [Scalar.degree, zero_add] at h
        apply h a.degree_le_two
      · have h := evaluates_multiply ha hk (.inl rfl)
        rw [Scalar.degree, add_zero] at h
        apply h a.degree_le_two
    · intro n hn
      apply evaluates_divide a hn

/-- Three is added to a variable, which is divided by two, and by which one half is multiplied,
where the variable is five. -/
theorem evaluates_sum_difference_scaled_variable :
  (∃ c, add.result? (.expression (.scalar (.var default))) (.array (.single 3))
      = some (.ok (.scalar c)) ∧ c.evaluate (fun _ => some (5 : ℚ)) = .ok 8)
    ∧ (∃ c, multiply.result? (.number (.ratio (1 / 2))) (.expression (.scalar (.var default)))
        = some (.ok (.scalar c)) ∧ c.evaluate (fun _ => some (5 : ℚ)) = .ok (5 / 2))
    ∧ ∃ c, divide.result? (.expression (.scalar (.var default))) (.number (.integer 2))
        = some (.ok (.scalar c)) ∧ c.evaluate (fun _ => some (5 : ℚ)) = .ok (5 / 2)
  := by
  have hcovers : ∀ vs, Covers (fun _ => some (5 : ℚ)) vs := fun _ _ _ => rfl
  obtain ⟨hadd, -, -, hmultiply, hdivide⟩ := evaluates_sum_difference_scaled
    (.expression (.var default)) (.array 3) (.inl rfl)
  constructor
  · have h := hadd.exists_value (hcovers _) (hcovers _) rfl rfl
    norm_num at h
    apply h
  · constructor
    · have h := (hmultiply _ _ (.number (.ratio (1 / 2)))).1.exists_value (hcovers _) (hcovers _)
        rfl rfl
      norm_num [Number.amount] at h ⊢
      apply h
    · have h := (hdivide (.integer 2) (by simp [Number.amount])).exists_value (hcovers _)
        (hcovers _) rfl rfl
      norm_num [Number.amount] at h ⊢
      apply h

/-- The product of two scalar expressions is refused exactly when one of them is quadratic and
the other is not constant. Otherwise its degree is the sum of both degrees, and its value the
product of both values. -/
theorem multiply_refuses_or_evaluates (a b : Scalar ℚ) :
  (multiply.result? (.expression (.scalar a)) (.expression (.scalar b))
      = some (.error (.degreeExceeded a.kind b.kind))
        ↔ a.degree = 2 ∧ b.degree ≠ 0 ∨ b.degree = 2 ∧ a.degree ≠ 0)
    ∧ (¬(a.degree = 2 ∧ b.degree ≠ 0 ∨ b.degree = 2 ∧ a.degree ≠ 0) →
        multiply.Evaluates (.expression (.scalar a)) (.expression (.scalar b)) a b
          (a.degree + b.degree) (· * ·))
  := by
  have ha := a.degree_le_two
  have hb := b.degree_le_two
  have hle : ¬(a.degree = 2 ∧ b.degree ≠ 0 ∨ b.degree = 2 ∧ a.degree ≠ 0) →
      multiply.Evaluates (.expression (.scalar a)) (.expression (.scalar b)) a b
        (a.degree + b.degree) (· * ·) := by
    intro h
    apply evaluates_multiply (.expression a) (.expression b) (.inl rfl)
    omega
  constructor
  · constructor
    · intro h
      by_contra hnot
      obtain ⟨c, hc, -⟩ := hle hnot
      rw [hc] at h
      cases h
    · intro h
      have hdegree : 2 < a.degree + b.degree := by
        omega
      exact congrArg (fun outcome => some (Except.map Expression.scalar outcome))
        (Scalar.mul_eq_error hdegree)
  · apply hle

/-- A variable is multiplied by itself where it is five. -/
theorem multiply_refuses_or_evaluates_square :
  ∃ c, multiply.result? (.expression (.scalar (.var default)))
      (.expression (.scalar (.var default))) = some (.ok (.scalar c))
    ∧ c.evaluate (fun _ => some (5 : ℚ)) = .ok 25
  := by
  have hcovers : ∀ vs, Covers (fun _ => some (5 : ℚ)) vs := fun _ _ _ => rfl
  have h := (multiply_refuses_or_evaluates (.var default) (.var default)).2
    (by simp [Scalar.degree])
  have hvalue := h.exists_value (hcovers _) (hcovers _) rfl rfl
  norm_num at hvalue
  apply hvalue

end Arithmetic

end QuadraticProgram
