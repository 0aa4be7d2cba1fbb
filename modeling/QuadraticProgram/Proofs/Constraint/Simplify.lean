import QuadraticProgram.Proofs.Constraint.Sides
import QuadraticProgram.Proofs.Expression.VectorOperator

/-!
# Simplified constraints

A constraint between two scalar expressions or between two vectors of one shape is simplified
without being refused. The left side then has the variables of both sides and the value of the
left side less that of the variable part of the right side, and the right side is its constant
term.
-/

namespace QuadraticProgram

open QuadraticProgram.Alignment

/-! ### Parts -/

namespace Scalar

/-- The variable part exists and lacks the constant. -/
theorem exists_variablePart (e : Scalar ℚ) :
  ∃ d, e.variablePart = .ok d ∧ d.vars = e.vars ∧ d.degree = e.degree
    ∧ ∀ x, d.valueAt x = e.valueAt x - e.constant
  := by
  cases e with
  | const a =>
      use const 0, rfl, rfl, rfl
      intro x
      rw [valueAt_const, valueAt_const, constant, sub_self]
  | var v =>
      use var v, rfl, rfl, rfl
      intro x
      rw [constant, sub_zero]
  | linear f =>
      use linear { f with const := 0 }, rfl, rfl, rfl
      intro x
      rw [valueAt_linear, valueAt_linear, constant, add_sub_cancel_right, add_zero]
  | quadratic f =>
      obtain ⟨g, hg, hvars, hvalue⟩ := QuadraticForm.exists_symmetrise? f.vars f.quad f.coeffs 0
        f.rows_quad f.cols_quad f.length_coeffs
      use quadratic g
      constructor
      · rw [variablePart, resymmetrise?, hg, Outcome.map_ok]
      · use hvars, rfl
        intro x
        rw [hvalue, valueAt_quadratic, constant, add_sub_cancel_right, add_zero]

/-- Linear expressions are those of degree at most one. -/
theorem isLinear_iff_degree_le {e : Scalar ℚ} :
  e.isLinear = true ↔ e.degree ≤ 1
  := by
  cases e <;> simp [isLinear, degree]

/-- Without variables an expression is worth its constant. -/
theorem valueAt_of_vars_eq_nil {e : Scalar ℚ} (h : e.vars = []) (x : ℕ → ℚ) :
  e.valueAt x = e.constant
  := by
  rw [valueAt, h, linearValue_nil_left, quadraticValue, List.length_nil, Finset.sum_range_zero,
    zero_add, zero_add]

end Scalar

namespace Vec

/-- The entries of the variable part lack their constants. -/
theorem represents_variablePart (v : Vec ℚ) :
  v.variablePart.Represents v.vars v.length v.orientation
    fun x i => v.valueAt x i - v.constant.getD i 0
  := by
  rcases v with ⟨entries, o⟩
  cases entries with
  | const values =>
      constructor
      · rfl
      · apply List.length_replicate
      · rfl
      · intro x i hi
        have hi : i < values.length := hi
        have hzero : (List.replicate values.length (0 : ℚ)).getD i 0 = 0 :=
          List.getD_replicate _ hi
        rw [variablePart, valueAt_const, valueAt_const, hzero]
        exact (sub_self _).symm
  | vars elements =>
      constructor
      · rfl
      · rfl
      · rfl
      · intro x i hi
        have hzero : (Vec.mk (.vars elements) o : Vec ℚ).constant.getD i 0 = 0 :=
          List.getD_replicate _ hi
        rw [hzero, sub_zero]
        rfl
  | affine f =>
      constructor
      · rfl
      · apply List.length_replicate
      · rfl
      · intro x i hi
        have hi : i < f.consts.length := hi
        have hzero : (List.replicate f.consts.length (0 : ℚ)).getD i 0 = 0 :=
          List.getD_replicate _ hi
        rw [variablePart, valueAt_affine, valueAt_affine, hzero, add_zero]
        exact (add_sub_cancel_right _ _).symm

/-- Without variables the entries are their constants. -/
theorem valueAt_of_vars_eq_nil {v : Vec ℚ} (h : v.vars = []) (x : ℕ → ℚ) (i : ℕ) :
  v.valueAt x i = v.constant.getD i 0
  := by
  rw [valueAt, h, rowValue, linearValue_nil_left, zero_add]

end Vec

/-! ### Simplification -/

namespace Constraint

/-- The left side of a simplified constraint between scalar expressions. -/
theorem exists_movedLeft_scalar (a b : Scalar ℚ) :
  ∃ e, movedLeft (.scalar a) (.scalar b) = .ok (.scalar e) ∧ e.degree ≤ max a.degree b.degree
    ∧ distinct e.vars = distinct (a.vars ++ b.vars)
    ∧ ∀ x, e.valueAt x = a.valueAt x - (b.valueAt x - b.constant)
  := by
  by_cases hb : b.vars = []
  · use a, movedLeft_of_vars_eq_nil _ (.scalar b) hb, le_max_left _ _
    rw [hb, List.append_nil]
    use rfl
    intro x
    rw [Scalar.valueAt_of_vars_eq_nil hb, sub_self, sub_zero]
  · obtain ⟨d, hd, hvars, hdegree, hvalue⟩ := b.exists_variablePart
    obtain ⟨e, he, hr⟩ := Expression.gives_minus a (.expression d)
    have hpart : (Expression.scalar b).variablePart = .ok (.scalar d) := by
      rw [Expression.variablePart, hd, Outcome.map_ok]
    use e
    rw [movedLeft_of_vars_ne_nil _ (.scalar b) hb hpart, hr.distinct_vars, hr.degree_eq, hvars,
      hdegree]
    use he, le_refl _, rfl
    intro x
    rw [hr.valueAt_eq, hvalue]

/-- The left side of a simplified constraint between vectors of one shape. -/
theorem exists_movedLeft_vector {u v : Vec ℚ} (hl : u.length = v.length)
    (ho : u.orientation = v.orientation) :
  ∃ w, movedLeft (.vector u) (.vector v) = .ok (.vector w)
    ∧ w.Represents (u.vars ++ v.vars) u.length u.orientation
        fun x i => u.valueAt x i - (v.valueAt x i - v.constant.getD i 0)
  := by
  by_cases hv : v.vars = []
  · use u, movedLeft_of_vars_eq_nil _ (.vector v) hv
    rw [hv, List.append_nil]
    constructor
    · rfl
    · rfl
    · rfl
    · intro x i _
      rw [Vec.valueAt_of_vars_eq_nil hv, sub_self, sub_zero]
  · have hpart := Vec.represents_variablePart v
    obtain ⟨w, hw, hr⟩ := Expression.exists_vector_minus (hl.trans hpart.length_eq.symm)
      (ho.trans hpart.orientation_eq.symm)
    use w
    rw [movedLeft_of_vars_ne_nil _ (.vector v) hv rfl]
    use hw
    constructor
    · rw [hr.distinct_vars]
      apply distinct_append_congr rfl hpart.distinct_vars
    · apply hr.length_eq
    · apply hr.orientation_eq
    · intro x i hi
      rw [hr.valueAt_eq x hi, hpart.valueAt_eq x (hl ▸ hi)]

end Constraint

end QuadraticProgram
