import QuadraticProgram.Proofs.Alignment
import QuadraticProgram.Scalar.Algebra

/-!
# Linear expressions

Over coefficients of any type, to take the variable part of linear expressions, to multiply them
by a coefficient and to add them is never refused. The results are linear again and over the same
variables.
-/

namespace QuadraticProgram.Scalar

open QuadraticProgram.Alignment

variable {α : Type} [Coefficient α] {a b e : Scalar α}

/-- The variable part of an expression that is not quadratic is not quadratic either. -/
theorem exists_variablePart_of_isLinear (h : e.isLinear = true) :
  ∃ d, e.variablePart = .ok d ∧ d.vars = e.vars ∧ d.isLinear = true
  := by
  cases e with
  | const c => exact ⟨_, rfl, rfl, rfl⟩
  | var v => exact ⟨_, rfl, rfl, rfl⟩
  | linear f => exact ⟨_, rfl, rfl, rfl⟩
  | quadratic f => cases h

/-- A multiple of an expression that is not quadratic is not quadratic either. -/
theorem exists_scale_of_isLinear (c : α) (h : e.isLinear = true) :
  ∃ d, e.scale c = .ok d ∧ d.vars = e.vars ∧ d.isLinear = true
  := by
  cases e with
  | const c => exact ⟨_, rfl, rfl, rfl⟩
  | var v => exact ⟨_, rfl, rfl, rfl⟩
  | linear f => exact ⟨_, rfl, rfl, rfl⟩
  | quadratic f => cases h

/-- A constant makes no expression quadratic. -/
theorem exists_addConst_of_isLinear (c : α) (h : e.isLinear = true) :
  ∃ d, e.addConst c = .ok d ∧ d.vars = e.vars ∧ d.isLinear = true
  := by
  cases e with
  | const c => exact ⟨_, rfl, rfl, rfl⟩
  | var v => exact ⟨_, rfl, rfl, rfl⟩
  | linear f => exact ⟨_, rfl, rfl, rfl⟩
  | quadratic f => cases h

/-- Two variables are added to a form over one or both of them. -/
theorem exists_add_vars_over (v w : Variable) :
  ∃ d, (var v : Scalar α).add (var w) = .ok d ∧ distinct d.vars = distinct [v, w]
    ∧ d.isLinear = true
  := by
  by_cases h : v.id = w.id
  · use linear (.ofPairs [(v, 1 + 1)] 0)
    rw [add, if_pos h]
    simp [vars, isLinear, LinearForm.ofPairs, distinct, h]
  · use linear (.ofPairs [(v, 1), (w, 1)] 0)
    rw [add, if_neg h]
    exact ⟨rfl, rfl, rfl⟩

/-- The sum of two expressions that are not quadratic is not quadratic either. -/
theorem exists_add_of_isLinear (ha : a.isLinear = true) (hb : b.isLinear = true) :
  ∃ d, a.add b = .ok d ∧ distinct d.vars = distinct (a.vars ++ b.vars) ∧ d.isLinear = true
  := by
  have hsum : a.add b = .ok (linear (linearSum a b)) →
      ∃ d, a.add b = .ok d ∧ distinct d.vars = distinct (a.vars ++ b.vars)
        ∧ d.isLinear = true := by
    intro h
    use linear (linearSum a b), h, distinct_distinct _
    rfl
  have hconst : ∀ c, a.add b = a.addConst c → b.vars = [] →
      ∃ d, a.add b = .ok d ∧ distinct d.vars = distinct (a.vars ++ b.vars)
        ∧ d.isLinear = true := by
    intro c h hvars
    obtain ⟨d, hd, hdvars, hdlinear⟩ := exists_addConst_of_isLinear c ha
    use d
    rw [h, hdvars, hvars, List.append_nil]
    use hd
  cases a with
  | const c =>
      obtain ⟨d, hd, hdvars, hdlinear⟩ := exists_addConst_of_isLinear c hb
      cases b with
      | const k => exact ⟨_, rfl, rfl, rfl⟩
      | quadratic g => cases hb
      | _ => exact ⟨d, hd, congrArg distinct hdvars, hdlinear⟩
  | var v =>
      cases b with
      | const k => exact hconst k rfl rfl
      | var w => apply exists_add_vars_over
      | linear g => exact hsum rfl
      | quadratic g => cases hb
  | linear f =>
      cases b with
      | const k => exact hconst k rfl rfl
      | var w => exact hsum rfl
      | linear g => exact hsum rfl
      | quadratic g => cases hb
  | quadratic f => cases ha

end QuadraticProgram.Scalar
