import QuadraticProgram.Proofs.Constraint.Mirroring
import QuadraticProgram.Proofs.Double
import QuadraticProgram.Proofs.Expression.LinearSum

/-!
# Functions beside operators

The functions `Operand.plus`, `Operand.compare` and `Expression.sum` promote operands by
themselves, while an operator promotes an operand to the form of the expression beside it. Both
lead to the same result but for two kinds of operands: an array of one axis beside a row, which by
itself is a column (`Operand.Crosses`), and a number that is compared with a vector, which by itself
is not repeated for each entry (`Operand.Broadcasts`). There the functions refuse what the operators
accept (`Operand.functions_agree`).
-/

namespace QuadraticProgram

open QuadraticProgram.Alignment

variable {α : Type} [Coefficient α]

/-! ### Sums that commute -/

/-- Sums of matrices of one shape commute if those of coefficients do. -/
theorem Matrix.add_comm_of (hadd : ∀ a b : α, a + b = b + a) {m n : Matrix α}
    (hr : m.rows = n.rows) (hc : m.cols = n.cols) :
  m.add n = n.add m
  := by
  rw [add, add, hr, hc]
  apply congrArg
  funext i j
  apply hadd

/-- Without variables on one side the order of the variables is the same. -/
theorem Vec.affineSum_comm_of (hadd : ∀ a b : α, a + b = b + a) {f g : AffineForm α}
    (h : f.consts.length = g.consts.length) (hf : f.vars = []) :
  affineSum f g h = affineSum g f h.symm
  := by
  have hrows : f.coeffs.rows = g.coeffs.rows := by
    rw [f.rows_coeffs, g.rows_coeffs, h]
  apply AffineForm.ext
  · simp only [affineSum, hf, List.nil_append, List.append_nil]
  · simp only [affineSum, hf, List.nil_append, List.append_nil]
    apply Matrix.add_comm_of hadd
    · rw [rows_spreadColumns, rows_spreadColumns, hrows]
    · rfl
  · apply List.zipWith_comm_of_comm hadd

/-- A constant vector may be added on either side if sums of coefficients commute. -/
theorem Vec.add_comm_of_const (hadd : ∀ a b : α, a + b = b + a) {values : List α}
    {o : Orientation} {v w : Vec α} (h : v.add ⟨.const values, o⟩ = .ok w) :
  (Vec.mk (.const values) o).add v = .ok w
  := by
  obtain ⟨hl, ho⟩ := sameShape_of_add h
  have hshape : v.requireSameShape .plus ⟨.const values, o⟩ = .ok () :=
    requireSameShape_eq_ok_iff.mpr ⟨hl, ho⟩
  have hshape' : (Vec.mk (.const values) o).requireSameShape .plus v = .ok () :=
    requireSameShape_eq_ok_iff.mpr ⟨hl.symm, ho.symm⟩
  have hconst : v.constant.length = (Vec.mk (.const values) o).constant.length := by
    rw [length_constant, length_constant, hl]
  rcases v with ⟨entries, o'⟩
  cases ho
  rw [add, hshape, Outcome.ok_bind] at h
  rw [add, hshape', Outcome.ok_bind, ← h]
  cases entries with
  | const values' =>
      apply congrArg fun sums => Except.ok (Vec.mk (.const sums) o)
      apply List.zipWith_comm_of_comm hadd
  | _ =>
      simp only [dif_pos hconst, dif_pos hconst.symm]
      apply congrArg fun f => Except.ok (Vec.mk (.affine f) o)
      apply affineSum_comm_of hadd hconst.symm rfl

namespace Expression

/-- Expressions that numbers and arrays stand for. -/
inductive Constant : Expression α → Prop where
  | scalar (a : α) : Constant (.scalar (.const a))
  | vector (values : List α) (o : Orientation) : Constant (.vector ⟨.const values, o⟩)
  | matrix (m : Matrix α) : Constant (.matrix m)

variable {d e f : Expression α} {x y : Operand α}

/-- A constant expression may be added on either side if sums of coefficients commute. -/
theorem plus_comm_of_constant (hadd : ∀ a b : α, a + b = b + a) (hf : f.Constant)
    (h : e.plus (.expression f) = .ok d) :
  f.plus (.expression e) = .ok d
  := by
  cases hf with
  | scalar a =>
      cases e with
      | scalar b =>
          rw [← h]
          cases b with
          | const c => exact congrArg (fun k => Except.ok (Expression.scalar (.const k))) (hadd a c)
          | _ => rfl
      | _ => cases h
  | vector values o =>
      cases e with
      | vector v =>
          obtain ⟨_, ⟨⟩, h⟩ := Outcome.bind_eq_ok_iff.mp h
          obtain ⟨w, hw, hd⟩ := Outcome.bind_eq_ok_iff.mp h
          rw [plus, Operand.asVector, Outcome.ok_bind, Vec.add_comm_of_const hadd hw, ← hd]
          rfl
      | _ => cases h
  | matrix m =>
      cases e with
      | matrix n =>
          simp only [plus] at h ⊢
          split_ifs at h with hdimensions
          obtain ⟨hrows, hcols⟩ := List.cons_eq_cons.mp hdimensions
          rw [if_pos hdimensions.symm, ← h, Matrix.add_comm_of hadd hrows (List.cons.inj hcols).1]
      | _ => cases h

end Expression

namespace Operand

variable {d e f g : Expression α} {x y : Operand α}

/-! ### Operands promoted by themselves -/

/-- An array of one axis, which by itself is a column, beside a row. -/
def Crosses (x y : Operand α) : Prop :=
  ∃ t v, x = .array t ∧ t.axes = 1 ∧ y = .expression (.vector v) ∧ v.orientation = .row

/-- A number, which by itself is a scalar, beside a vector. -/
def Broadcasts (x y : Operand α) : Prop :=
  ∃ n v, x = .number n ∧ y = .expression (.vector v)

/-- An array that does not cross a vector is beside a column. -/
theorem column_of_not_crosses {t : Tensor α} {u : Vec α}
    (h : ¬ (array t).Crosses (.expression (.vector u))) (ht : t.axes = 1) :
  u.orientation = .column
  := by
  rcases ho : u.orientation with - | -
  · rfl
  · exact absurd ⟨t, u, rfl, ht, rfl, ho⟩ h

/-- What is no expression is promoted to a constant one. -/
theorem constant_of_toExpression (hx : ∀ e, x ≠ .expression e) (h : x.toExpression = .ok f) :
  f.Constant
  := by
  cases x with
  | number n =>
      obtain ⟨a, -, rfl⟩ := Outcome.map_eq_ok_iff.mp h
      apply Expression.Constant.scalar
  | array t =>
      rw [toExpression] at h
      split at h
      · cases h
        apply Expression.Constant.vector
      · cases h
        apply Expression.Constant.matrix
      · cases h
  | expression e => exact absurd rfl (hx e)
  | other k => cases h

/-- What is added to an expression can be promoted by itself before. -/
theorem exists_toExpression_of_plus (hy : ∀ t, y = .array t → t.axes ≠ 0)
    (hcross : ¬ y.Crosses (.expression e)) (h : e.plus y = .ok d) :
  ∃ f, y.toExpression = .ok f ∧ e.plus (.expression f) = .ok d
  := by
  cases y with
  | expression f => use f, rfl
  | number n =>
      cases e with
      | scalar a =>
          obtain ⟨b, hb, h⟩ := Outcome.bind_eq_ok_iff.mp h
          obtain ⟨t, ht, rfl⟩ := Outcome.map_eq_ok_iff.mp hb
          use .scalar (.const t)
          rw [toExpression, ht]
          exact ⟨rfl, h⟩
      | _ => cases h
  | array t =>
      have haxes := hy t rfl
      cases e with
      | scalar a =>
          obtain ⟨b, hb, -⟩ := Outcome.bind_eq_ok_iff.mp h
          rw [asScalar, if_neg haxes] at hb
          cases hb
      | vector u =>
          obtain ⟨v, hv, h⟩ := Outcome.bind_eq_ok_iff.mp h
          rw [asVector] at hv
          split_ifs at hv with ht
          cases hv
          have hcolumn := column_of_not_crosses hcross ht
          use .vector (column t)
          rw [toExpression, ht]
          use rfl
          rw [hcolumn] at h
          exact h
      | matrix m =>
          simp only [Expression.plus] at h
          split_ifs at h with ht hdimensions
          use .matrix (.ofArray t)
          rw [toExpression, ht]
          use rfl
          rw [← h]
          exact if_pos hdimensions
  | other k =>
      cases e with
      | _ => cases h

/-- An array beside a row has another orientation. -/
theorem Crosses.plus_ne_ok (h : x.Crosses y) (hf : x.toExpression = .ok f)
    (hg : y = .expression g) :
  f.plus (.expression g) ≠ .ok d ∧ g.plus (.expression f) ≠ .ok d
  := by
  obtain ⟨t, v, rfl, ht, rfl, ho⟩ := h
  cases hg
  rw [toExpression, ht] at hf
  cases hf
  constructor
  · intro h
    obtain ⟨_, ⟨⟩, h⟩ := Outcome.bind_eq_ok_iff.mp h
    obtain ⟨w, hw, -⟩ := Outcome.bind_eq_ok_iff.mp h
    cases (Vec.sameShape_of_add hw).2.trans ho
  · intro h
    obtain ⟨_, ⟨⟩, h⟩ := Outcome.bind_eq_ok_iff.mp h
    obtain ⟨w, hw, -⟩ := Outcome.bind_eq_ok_iff.mp h
    cases (Vec.sameShape_of_add hw).2.symm.trans ho

/-- A sum is formed by the left operand if it is an expression, and otherwise by the right one. -/
theorem result?_add_cases (h : Arithmetic.add.result? x y = some (.ok d)) :
  (∃ e, x = .expression e ∧ e.plus y = .ok d)
    ∨ (∀ e, x ≠ .expression e) ∧ ∃ e, y = .expression e ∧ e.plus x = .ok d
  := by
  cases x with
  | expression e =>
      left
      use e, rfl
      exact Option.some.inj h
  | _ =>
      right
      cases y with
      | expression e =>
          constructor
          · rintro f ⟨⟩
          · use e, rfl
            exact Option.some.inj h
      | _ => cases h

section Add

variable (hadd : ∀ a b : α, a + b = b + a) (hx : ∀ t, x = .array t → t.axes ≠ 0)
  (hy : ∀ t, y = .array t → t.axes ≠ 0) (h : Arithmetic.add.result? x y = some (.ok d))

include hadd hx h in
/-- The function adds what the operator adds, but for an array beside a row. -/
theorem plus_eq_ok_iff :
  x.plus y = .ok e ↔ ¬ x.Crosses y ∧ e = d
  := by
  rcases result?_add_cases h with ⟨f, rfl, hf⟩ | ⟨hne, g, rfl, hg⟩
  · have hcross : ¬ (Operand.expression f).Crosses y := by
      rintro ⟨_, _, ⟨⟩, -⟩
    rw [plus, toExpression, Outcome.ok_bind, hf, Except.ok.injEq, eq_comm]
    exact ⟨fun hed => ⟨hcross, hed⟩, And.right⟩
  · constructor
    · intro he
      obtain ⟨f, hf, he⟩ := Outcome.bind_eq_ok_iff.mp he
      have hcross : ¬ x.Crosses (.expression g) := fun hc => (hc.plus_ne_ok hf rfl).1 he
      obtain ⟨f', hf', hgf⟩ := exists_toExpression_of_plus hx hcross hg
      cases hf.symm.trans hf'
      have hfg := Expression.plus_comm_of_constant hadd (constant_of_toExpression hne hf) hgf
      use hcross
      exact Except.ok.inj (he.symm.trans hfg)
    · rintro ⟨hcross, rfl⟩
      obtain ⟨f, hf, hgf⟩ := exists_toExpression_of_plus hx hcross hg
      rw [plus, hf, Outcome.ok_bind]
      apply Expression.plus_comm_of_constant hadd (constant_of_toExpression hne hf) hgf

include hadd hx hy h in
/-- Both operands can be promoted by themselves before they are added. -/
theorem exists_toExpressions_of_add (hxy : ¬ x.Crosses y) (hyx : ¬ y.Crosses x) :
  ∃ f g, x.toExpression = .ok f ∧ y.toExpression = .ok g ∧ f.plus (.expression g) = .ok d
  := by
  rcases result?_add_cases h with ⟨f, rfl, hf⟩ | ⟨hne, g, rfl, hg⟩
  · obtain ⟨g, hg, hfg⟩ := exists_toExpression_of_plus hy hyx hf
    use f, g, rfl
  · obtain ⟨f, hf, hgf⟩ := exists_toExpression_of_plus hx hxy hg
    use f, g, hf, rfl
    apply Expression.plus_comm_of_constant hadd (constant_of_toExpression hne hf) hgf

end Add

/-! ### Sums of two operands -/

/-- Expressions are not all linear exactly if one is not. -/
theorem linearScalars?_eq_none_iff {es : List (Expression α)} :
  Expression.linearScalars? es = none ↔ ∃ e ∈ es, ∀ a, e = .scalar a → a.isLinear = false
  := by
  induction es with
  | nil => simp [Expression.linearScalars?]
  | cons e es ih =>
      cases e with
      | scalar a =>
          rw [Expression.linearScalars?]
          cases ha : a.isLinear with
          | false => simp [ha]
          | true => simp [ha, ih]
      | _ => simp [Expression.linearScalars?]

/-- An operand is not linear exactly if its promotion is not. -/
theorem isLinearScalar_eq_false_iff (hf : x.toExpression = .ok f) :
  x.isLinearScalar = false ↔ ∀ a, f = .scalar a → a.isLinear = false
  := by
  cases x with
  | number n =>
      obtain ⟨a, -, rfl⟩ := Outcome.map_eq_ok_iff.mp hf
      simp [isLinearScalar, Scalar.isLinear]
  | array t =>
      rw [toExpression] at hf
      split at hf
      · cases hf
        simp [isLinearScalar]
      · cases hf
        simp [isLinearScalar]
      · cases hf
  | expression e =>
      cases hf
      cases f <;> simp [isLinearScalar]
  | other k => cases hf

/-- Unless both are linear scalar expressions, two operands are added from left to right. -/
theorem sum_pair_eq_plus (hf : x.toExpression = .ok f) (hg : y.toExpression = .ok g)
    (h : x.isLinearScalar = false ∨ y.isLinearScalar = false) :
  Expression.sum [x, y] = f.plus (.expression g)
  := by
  have hnone : Expression.linearScalars? [f, g] = none := by
    rw [isLinearScalar_eq_false_iff hf, isLinearScalar_eq_false_iff hg] at h
    rw [linearScalars?_eq_none_iff]
    simpa using h
  rw [Expression.sum, List.mapM_cons, hf, Outcome.ok_bind, List.mapM_cons, hg, Outcome.ok_bind]
  simp only [hnone, Outcome.ok_bind, List.mapM_nil, Outcome.pure_eq_ok, Expression.sumFrom,
    List.foldlM_cons, List.foldlM_nil]
  cases f.plus (.expression g) <;> rfl

/-- Two linear operands have a sum. -/
theorem exists_sum_pair_of_linear (hf : x.toExpression = .ok f) (hg : y.toExpression = .ok g)
    (h : x.isLinearScalar = true) (h' : y.isLinearScalar = true) :
  ∃ d, Expression.sum [x, y] = .ok d
  := by
  have hsome : ∃ es, Expression.linearScalars? [f, g] = some es := by
    apply Option.ne_none_iff_exists'.mp
    rw [ne_eq, linearScalars?_eq_none_iff]
    rintro ⟨e, he, hlinear⟩
    rcases List.mem_pair.mp he with rfl | rfl
    · rw [(isLinearScalar_eq_false_iff hf).mpr hlinear] at h
      cases h
    · rw [(isLinearScalar_eq_false_iff hg).mpr hlinear] at h'
      cases h'
  obtain ⟨es, hes⟩ := hsome
  use .scalar (.sumOfLinear es)
  rw [Expression.sum, List.mapM_cons, hf, Outcome.ok_bind, List.mapM_cons, hg, Outcome.ok_bind]
  simp only [hes, Outcome.ok_bind, List.mapM_nil, Outcome.pure_eq_ok]

/-- A sum of two operands is given only if both can be promoted. -/
theorem exists_toExpressions_of_sum (h : Expression.sum [x, y] = .ok d) :
  ∃ f g, x.toExpression = .ok f ∧ y.toExpression = .ok g
  := by
  obtain ⟨es, hes, -⟩ := Outcome.bind_eq_ok_iff.mp h
  rw [List.mapM_cons] at hes
  obtain ⟨f, hf, hes⟩ := Outcome.bind_eq_ok_iff.mp hes
  rw [List.mapM_cons] at hes
  obtain ⟨fs, hfs, -⟩ := Outcome.bind_eq_ok_iff.mp hes
  obtain ⟨g, hg, -⟩ := Outcome.bind_eq_ok_iff.mp hfs
  use f, g

/-- An array without axes is not promoted. -/
theorem axes_ne_zero_of_toExpression (h : x.toExpression = .ok f) :
  ∀ t, x = .array t → t.axes ≠ 0
  := by
  rintro t rfl ht
  rw [toExpression, ht] at h
  cases h

theorem Crosses.isLinearScalar_eq_false (h : x.Crosses y) :
  x.isLinearScalar = false
  := by
  obtain ⟨t, v, rfl, -⟩ := h
  rfl

theorem Crosses.eq_expression (h : x.Crosses y) (hg : y.toExpression = .ok g) :
  y = .expression g
  := by
  obtain ⟨t, v, -, -, rfl, -⟩ := h
  cases hg
  rfl

/-- An array of one axis and a row are not added up, in either order. -/
theorem not_crosses_of_sum (h : Expression.sum [x, y] = .ok d) :
  ¬ x.Crosses y ∧ ¬ y.Crosses x
  := by
  obtain ⟨f, g, hf, hg⟩ := exists_toExpressions_of_sum h
  constructor
  · intro hc
    rw [sum_pair_eq_plus hf hg (.inl hc.isLinearScalar_eq_false)] at h
    exact (hc.plus_ne_ok hf (hc.eq_expression hg)).1 h
  · intro hc
    rw [sum_pair_eq_plus hf hg (.inr hc.isLinearScalar_eq_false)] at h
    exact (hc.plus_ne_ok hg (hc.eq_expression hf)).2 h

/-- Unless both are linear scalar expressions, what is added up is what the operator adds. -/
theorem sum_pair_eq_of_add (hadd : ∀ a b : α, a + b = b + a)
    (h : Arithmetic.add.result? x y = some (.ok e)) (hd : Expression.sum [x, y] = .ok d)
    (hlinear : x.isLinearScalar = false ∨ y.isLinearScalar = false) :
  d = e
  := by
  obtain ⟨hxy, hyx⟩ := not_crosses_of_sum hd
  obtain ⟨f, g, hf, hg⟩ := exists_toExpressions_of_sum hd
  obtain ⟨f', g', hf', hg', he⟩ := exists_toExpressions_of_add hadd
    (axes_ne_zero_of_toExpression hf) (axes_ne_zero_of_toExpression hg) h hxy hyx
  rw [sum_pair_eq_plus hf' hg' hlinear, he] at hd
  exact (Except.ok.inj hd).symm

/-- Over the rationals what is added up has the value of what the operator adds. -/
theorem evaluate_sum_pair {x y : Operand ℚ} {d e : Expression ℚ}
    (h : Arithmetic.add.result? x y = some (.ok e)) (hd : Expression.sum [x, y] = .ok d)
    (s : ℕ → Option ℚ) :
  d.evaluate s = e.evaluate s
  := by
  by_cases hlinear : x.isLinearScalar = true ∧ y.isLinearScalar = true
  · obtain ⟨f, g, hf, hg⟩ := exists_toExpressions_of_sum hd
    have hboth : ∀ z ∈ [x, y], z.isLinearScalar = true := by
      simpa using hlinear
    obtain ⟨total, c, htotal, hc, hvalue⟩ := Expression.exists_sum_and_stepwiseSum hboth
    have hstepwise : Expression.stepwiseSum [x, y] = x.plus y := by
      rw [Expression.stepwiseSum, plus, hf, Outcome.ok_bind, Outcome.ok_bind, List.foldlM_cons]
      cases f.plus y <;> rfl
    have hcross : ¬ x.Crosses y := by
      intro hc
      rw [hc.isLinearScalar_eq_false] at hlinear
      cases hlinear.1
    have hplus : x.plus y = .ok e :=
      (plus_eq_ok_iff add_comm (axes_ne_zero_of_toExpression hf) h).mpr ⟨hcross, rfl⟩
    rw [hstepwise, hplus] at hc
    rw [htotal] at hd
    cases hc
    cases hd
    rw [Expression.evaluate, Expression.evaluate, hvalue]
  · have hfalse : x.isLinearScalar = false ∨ y.isLinearScalar = false := by
      rw [← Bool.not_eq_true, ← Bool.not_eq_true, ← not_and_or]
      exact hlinear
    rw [sum_pair_eq_of_add add_comm h hd hfalse]

end Operand

/-! ### Comparisons -/

/-- The constraint that a comparison stands for. -/
def Comparison.toConstraint : Comparison α → Constraint α
  | constraint c => c
  | pair p => p.toConstraint

/-- The constraint of a comparison with the left operand on the left; the comparison with an
expression on the right is the one of that expression, mirrored. -/
def Comparison.withLeft (r : Comparison α) : Operand α → Constraint α
  | .expression _ => r.toConstraint
  | _ => r.toConstraint.mirrored

namespace Operand

variable {e f g : Expression α} {x y : Operand α} {s : Sense} {r : Comparison α}
  {c : Constraint α}

/-- A comparison is made by the left operand if it is an expression, and otherwise the mirrored
one by the right operand. -/
theorem compare?_cases (h : s.compare? x y = some (.ok r)) :
  (∃ e, x = .expression e ∧ e.compare s y = .ok r.toConstraint ∧ r.withLeft x = r.toConstraint)
    ∨ (∀ e, x ≠ .expression e) ∧ r.withLeft x = r.toConstraint.mirrored
      ∧ ∃ e, y = .expression e ∧ e.compare s.mirrored x = .ok r.toConstraint
  := by
  have hmap : ∀ outcome : Except Error (Constraint α),
      some (outcome.map Comparison.constraint) = some (.ok r) → outcome = .ok r.toConstraint := by
    intro outcome hout
    obtain ⟨c, rfl, rfl⟩ := Outcome.map_eq_ok_iff.mp (Option.some.inj hout)
    rfl
  rw [Sense.compare?.eq_def] at h
  split at h
  · cases h
    left
    exact ⟨_, rfl, rfl, rfl⟩
  · left
    exact ⟨_, rfl, hmap _ h, rfl⟩
  · rename_i hne _
    right
    constructor
    · intro f hf
      exact hne f hf
    · constructor
      · cases x with
        | expression f => exact absurd rfl (hne f)
        | _ => rfl
      · exact ⟨_, rfl, hmap _ h⟩
  · cases h

/-- What an expression on the right is compared with can be promoted by itself and stands on the
left then. -/
theorem compare_of_mirrored (hx : ∀ t, x = .array t → t.axes ≠ 0)
    (hne : ∀ e, x ≠ .expression e) (hcross : ¬ x.Crosses (.expression e))
    (hbroadcast : ¬ x.Broadcasts (.expression e)) (h : e.compare s.mirrored x = .ok c) :
  x.compare s (.expression e) = .ok c.mirrored
  := by
  cases x with
  | number n =>
      cases e with
      | scalar a =>
          obtain ⟨b, hb, hc⟩ := Outcome.bind_eq_ok_iff.mp h
          obtain ⟨t, ht, rfl⟩ := Outcome.map_eq_ok_iff.mp hb
          cases hc
          rw [compare, toExpression, ht]
          cases s <;> rfl
      | vector u => exact absurd ⟨n, u, rfl, rfl⟩ hbroadcast
      | matrix m => cases h
  | array t =>
      cases e with
      | scalar a =>
          obtain ⟨b, hb, -⟩ := Outcome.bind_eq_ok_iff.mp h
          rw [asScalar, if_neg (hx t rfl)] at hb
          cases hb
      | vector u =>
          obtain ⟨v, hv, h⟩ := Outcome.bind_eq_ok_iff.mp h
          obtain ⟨⟨⟩, hshape, hc⟩ := Outcome.bind_eq_ok_iff.mp h
          rw [asVector] at hv
          split_ifs at hv with ht
          cases hv
          cases hc
          have hcolumn := column_of_not_crosses hcross ht
          have hlength := (Vec.requireSameShape_eq_ok_iff.mp hshape).1
          have hshape' : (column t).requireSameShape .comparison u = .ok () :=
            Vec.requireSameShape_eq_ok_iff.mpr ⟨hlength.symm, hcolumn.symm⟩
          have hbuilt : (Expression.vector (column t)).compare s (.expression (.vector u))
              = .ok (.ofVectors (column t) s u) := by
            rw [Expression.compare, asVector, Outcome.ok_bind, hshape']
            rfl
          rw [compare, toExpression, ht, hcolumn]
          apply hbuilt.trans
          cases s <;> rfl
      | matrix m => cases h
  | expression f => exact absurd rfl (hne f)
  | other k =>
      cases e with
      | _ => cases h

/-- A comparison with a row or a vector that refuses the left operand promoted by itself. -/
theorem not_crosses_of_compare (h : x.compare s y = .ok c) :
  ¬ x.Crosses y ∧ ¬ x.Broadcasts y
  := by
  obtain ⟨f, hf, h⟩ := Outcome.bind_eq_ok_iff.mp h
  constructor
  · rintro ⟨t, v, rfl, ht, rfl, ho⟩
    rw [toExpression, ht] at hf
    cases hf
    obtain ⟨_, ⟨⟩, h⟩ := Outcome.bind_eq_ok_iff.mp h
    obtain ⟨⟨⟩, hshape, -⟩ := Outcome.bind_eq_ok_iff.mp h
    cases (Vec.requireSameShape_eq_ok_iff.mp hshape).2.trans ho
  · rintro ⟨n, v, rfl, rfl⟩
    obtain ⟨a, -, rfl⟩ := Outcome.map_eq_ok_iff.mp hf
    cases h

/-- The function builds the constraint that the operator builds, but for an array beside a row and
a number beside a vector. -/
theorem compare_eq_ok_iff (hx : ∀ t, x = .array t → t.axes ≠ 0)
    (h : s.compare? x y = some (.ok r)) :
  x.compare s y = .ok c ↔ ¬ x.Crosses y ∧ ¬ x.Broadcasts y ∧ c = r.withLeft x
  := by
  have hunique : ∀ d, x.compare s y = .ok d → (x.compare s y = .ok c ↔ c = d) := by
    intro d hd
    rw [hd, Except.ok.injEq, eq_comm]
  rcases compare?_cases h with ⟨f, rfl, hf, hr⟩ | ⟨hne, hr, g, rfl, hg⟩
  · have hcompare : (Operand.expression f).compare s y = .ok r.toConstraint := hf
    obtain ⟨hcross, hbroadcast⟩ := not_crosses_of_compare hcompare
    rw [hunique _ hcompare, hr]
    exact ⟨fun hc => ⟨hcross, hbroadcast, hc⟩, fun hc => hc.2.2⟩
  · constructor
    · intro hc
      obtain ⟨hcross, hbroadcast⟩ := not_crosses_of_compare hc
      use hcross, hbroadcast
      rw [hr, ← hunique _ (compare_of_mirrored hx hne hcross hbroadcast hg)]
      exact hc
    · rintro ⟨hcross, hbroadcast, rfl⟩
      rw [hr]
      apply compare_of_mirrored hx hne hcross hbroadcast hg

/-! ### The functions -/

/-- The functions beside the operators. Where a sum by the operator is defined, the function `plus`
gives the same one unless an array of one axis stands before a row, and the sum of the list of both
operands is the same one unless an array and a row stand in any order or both are linear scalar
expressions, when it has the same variables in the same order and over the rationals the same value.
Where a comparison is defined, the function gives the same constraint with the left operand on the
left, unless an array stands before a row or a number before a vector. -/
theorem functions_agree (hadd : ∀ a b : α, a + b = b + a)
    (hx : ∀ t, x = .array t → t.axes ≠ 0) (hy : ∀ t, y = .array t → t.axes ≠ 0) :
  (∀ e, Arithmetic.add.result? x y = some (.ok e) →
      (∀ d, x.plus y = .ok d ↔ ¬ x.Crosses y ∧ d = e)
        ∧ ((∃ d, Expression.sum [x, y] = .ok d) ↔ ¬ x.Crosses y ∧ ¬ y.Crosses x)
        ∧ ∀ d, Expression.sum [x, y] = .ok d →
            d.distinctVars = e.distinctVars
              ∧ (x.isLinearScalar = false ∨ y.isLinearScalar = false → d = e))
    ∧ (∀ s r, Sense.compare? s x y = some (.ok r) →
        ∀ c, x.compare s y = .ok c ↔ ¬ x.Crosses y ∧ ¬ x.Broadcasts y ∧ c = r.withLeft x)
    ∧ ∀ (p q : Operand ℚ) d e, Arithmetic.add.result? p q = some (.ok e) →
        Expression.sum [p, q] = .ok d → ∀ s, d.evaluate s = e.evaluate s
  := by
  constructor
  · intro e he
    have hplus : ∀ d, x.plus y = .ok d ↔ ¬ x.Crosses y ∧ d = e := fun d =>
      plus_eq_ok_iff hadd hx he
    use hplus
    constructor
    · constructor
      · rintro ⟨d, hd⟩
        apply not_crosses_of_sum hd
      · rintro ⟨hxy, hyx⟩
        obtain ⟨f, g, hf, hg, hfg⟩ := exists_toExpressions_of_add hadd hx hy he hxy hyx
        by_cases hlinear : x.isLinearScalar = false ∨ y.isLinearScalar = false
        · use e
          rw [sum_pair_eq_plus hf hg hlinear, hfg]
        · simp only [not_or, Bool.not_eq_false] at hlinear
          apply exists_sum_pair_of_linear hf hg hlinear.1 hlinear.2
    · intro d hd
      constructor
      · have hboth : [x, y].flatMap vars = x.vars ++ y.vars := by
          rw [List.flatMap_cons, List.flatMap_cons, List.flatMap_nil, List.append_nil]
        rw [Expression.distinctVars, Expression.distinct_vars_of_sum hd, hboth,
          ← Arithmetic.distinct_vars_of_result? he, Expression.distinctVars]
      · intro hlinear
        apply sum_pair_eq_of_add hadd he hd hlinear
  · constructor
    · intro s r h c
      apply compare_eq_ok_iff hx h
    · intro p q d e he hd s
      apply evaluate_sum_pair he hd

/-- An array of one axis. -/
def lone : Operand Float := .array ⟨[1], [2.0]⟩

/-- A variable that stands alone in a vector. -/
def placed (o : Orientation) : Operand Float := .expression (.vector ⟨.vars [default], o⟩)

/-- An array before a column of doubles, and a variable before a number. -/
theorem functions_agree_column :
  (∃ e, Arithmetic.add.result? lone (placed .column) = some (.ok e)
      ∧ lone.plus (placed .column) = .ok e
      ∧ Expression.sum [lone, placed .column] = .ok e)
    ∧ (∃ r, Sense.lessEqual.compare? lone (placed .column) = some (.ok r)
        ∧ lone.compare .lessEqual (placed .column) = .ok (r.withLeft lone))
    ∧ ∃ d e, Arithmetic.add.result? (.expression (.scalar (.var default)) : Operand ℚ)
          (.number (.integer 3)) = some (.ok e)
        ∧ Expression.sum [.expression (.scalar (.var default)), .number (.integer 3)] = .ok d
        ∧ ∀ s, d.evaluate s = e.evaluate s
  := by
  have hcolumn : ∀ t, placed .column = .array t → t.axes ≠ 0 := by
    rintro t ⟨⟩
  have haxes : ∀ t, lone = .array t → t.axes ≠ 0 := by
    rintro t ⟨⟩
    decide
  have hcross : ¬ lone.Crosses (placed .column) := by
    rintro ⟨t, v, -, -, ⟨⟩, ⟨⟩⟩
  have hcross' : ¬ (placed .column).Crosses lone := by
    rintro ⟨t, v, ⟨⟩, -⟩
  have hbroadcast : ¬ lone.Broadcasts (placed .column) := by
    rintro ⟨n, v, ⟨⟩, -⟩
  obtain ⟨hadd, hcompare, hvalue⟩ := functions_agree Double.add_comm haxes hcolumn
  constructor
  · obtain ⟨hplus, hsum, hsame⟩ := hadd _ rfl
    obtain ⟨d, hd⟩ := hsum.mpr ⟨hcross, hcross'⟩
    rw [(hsame d hd).2 (.inl rfl)] at hd
    exact ⟨_, rfl, (hplus _).mpr ⟨hcross, rfl⟩, hd⟩
  · constructor
    · exact ⟨_, rfl, (hcompare _ _ rfl _).mpr ⟨hcross, hbroadcast, rfl⟩⟩
    · exact ⟨_, _, rfl, rfl,
        hvalue (.expression (.scalar (.var default))) (.number (.integer 3)) _ _ rfl rfl⟩

/-- A variable twice, with coefficients that cancel. -/
def cancelling : Operand Float :=
  .expression (.scalar (.linear (.ofPairs [(default, 9007199254740992.0),
    (default, -9007199254740992.0)] 0.0)))

/-- The functions refuse an array beside a row, in a list in any order, and a number that is
compared with a vector. The one pass over doubles rounds after each term, the operator after those
of each side. -/
theorem functions_differ :
  (∃ e, Arithmetic.add.result? lone (placed .row) = some (.ok e)
      ∧ ∀ d, lone.plus (placed .row) ≠ .ok d)
    ∧ (∃ e, Arithmetic.add.result? (placed .row) lone = some (.ok e)
        ∧ ∀ d, Expression.sum [placed .row, lone] ≠ .ok d)
    ∧ (∃ r, Sense.lessEqual.compare? lone (placed .row) = some (.ok r)
        ∧ ∀ c, lone.compare .lessEqual (placed .row) ≠ .ok c)
    ∧ (∃ r, Sense.lessEqual.compare? (.number (.integer 0)) (placed .column) = some (.ok r)
        ∧ ∀ c, (Operand.number (.integer 0)).compare .lessEqual (placed .column) ≠ .ok c)
    ∧ ∃ d e, Arithmetic.add.result? (.expression (.scalar (.var default))) cancelling
          = some (.ok (.scalar e))
        ∧ Expression.sum [.expression (.scalar (.var default)), cancelling] = .ok (.scalar d)
        ∧ e.evaluate (fun _ => some 1.0) = .ok 1.0 ∧ d.evaluate (fun _ => some 1.0) = .ok 0.0
  := by
  have hplus : ∀ d, lone.plus (placed .row) ≠ .ok d := by
    rintro d ⟨⟩
  have hsum : ∀ d, Expression.sum [placed .row, lone] ≠ .ok d := by
    rintro d ⟨⟩
  have hcompare : ∀ c, lone.compare .lessEqual (placed .row) ≠ .ok c := by
    rintro c ⟨⟩
  have hbroadcast : ∀ c,
      (Operand.number (.integer 0)).compare .lessEqual (placed .column) ≠ .ok c := by
    rintro c ⟨⟩
  use ⟨_, rfl, hplus⟩, ⟨_, rfl, hsum⟩, ⟨_, rfl, hcompare⟩, ⟨_, rfl, hbroadcast⟩
  refine ⟨_, _, rfl, rfl, ?_, ?_⟩
  · with_unfolding_all rfl
  · with_unfolding_all rfl

end Operand

end QuadraticProgram
