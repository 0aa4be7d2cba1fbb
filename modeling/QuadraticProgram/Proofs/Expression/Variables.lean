import QuadraticProgram.Expression.Operator
import QuadraticProgram.Expression.Sum
import QuadraticProgram.Proofs.Scalar.Linear
import QuadraticProgram.Proofs.Vec.Shape
import QuadraticProgram.Proofs.Vec.Value

/-!
# Variables of results

Where an operation gives a result, the distinct variables of the result are those of its
operands, from left to right. Of several variables with one identifier only the first is kept.
Coefficients are of any type.
-/

namespace QuadraticProgram

open QuadraticProgram.Alignment

variable {α : Type} [Coefficient α]

/-! ### Scalar expressions -/

/-- To make a matrix symmetric keeps the variables. -/
theorem QuadraticForm.vars_of_symmetrise? {vs : List Variable} {q : Matrix α} {l : List α} {c : α}
    {hr : q.rows = vs.length} {hc : q.cols = vs.length} {hl : l.length = vs.length}
    {f : QuadraticForm α} (h : symmetrise? vs q l c hr hc hl = .ok f) :
  f.vars = vs
  := by
  rw [symmetrise?] at h
  split_ifs at h
  cases h
  rfl

namespace Scalar

variable {a b d e : Scalar α}

/-- To make the matrix of a form symmetric again keeps its variables. -/
theorem vars_of_resymmetrise? {f : QuadraticForm α} {q : Matrix α} {l : List α} {c : α}
    {hr : q.rows = f.vars.length} {hc : q.cols = f.vars.length} {hl : l.length = f.vars.length}
    (h : resymmetrise? f q l c hr hc hl = .ok d) :
  d.vars = f.vars
  := by
  obtain ⟨g, hg, rfl⟩ := Outcome.map_eq_ok_iff.mp h
  apply QuadraticForm.vars_of_symmetrise? hg

/-- A constant that is added brings no variables in. -/
theorem vars_of_addConst {c : α} (h : e.addConst c = .ok d) :
  d.vars = e.vars
  := by
  cases e with
  | quadratic f => apply vars_of_resymmetrise? h
  | _ =>
      cases h
      rfl

/-- A multiple has the same variables, zero or not. -/
theorem vars_of_scale {c : α} (h : e.scale c = .ok d) :
  d.vars = e.vars
  := by
  cases e with
  | quadratic f => apply vars_of_resymmetrise? h
  | _ =>
      cases h
      rfl

/-- A sum of quadratic forms is over the variables of both, in the order of first occurrence. -/
theorem distinct_vars_of_quadraticSum (h : (quadraticSum a b).map quadratic = .ok d) :
  distinct d.vars = distinct (a.vars ++ b.vars)
  := by
  obtain ⟨f, hf, rfl⟩ := Outcome.map_eq_ok_iff.mp h
  rw [quadraticSum] at hf
  rw [vars, QuadraticForm.vars_of_symmetrise? hf]
  apply distinct_distinct

/-- A product of linear forms is over the variables of both, in the order of first occurrence. -/
theorem distinct_vars_of_linearProduct (h : (linearProduct a b).map quadratic = .ok d) :
  distinct d.vars = distinct (a.vars ++ b.vars)
  := by
  obtain ⟨f, hf, rfl⟩ := Outcome.map_eq_ok_iff.mp h
  rw [linearProduct] at hf
  rw [vars, QuadraticForm.vars_of_symmetrise? hf]
  apply distinct_distinct

/-- A sum is over the variables of both sides, in the order of first occurrence. -/
theorem distinct_vars_of_add (h : a.add b = .ok d) :
  distinct d.vars = distinct (a.vars ++ b.vars)
  := by
  have hlinear : a.isLinear = true → b.isLinear = true →
      distinct d.vars = distinct (a.vars ++ b.vars) := by
    intro ha hb
    obtain ⟨d', hd', hvars, -⟩ := exists_add_of_isLinear ha hb
    rw [hd'] at h
    cases h
    apply hvars
  have hconst : ∀ c, a.addConst c = .ok d → b.vars = [] →
      distinct d.vars = distinct (a.vars ++ b.vars) := by
    intro c h hvars
    rw [vars_of_addConst h, hvars, List.append_nil]
  cases a with
  | quadratic f =>
      cases b with
      | const c => exact hconst c h rfl
      | _ => exact distinct_vars_of_quadraticSum h
  | const c =>
      cases b with
      | quadratic g => exact congrArg distinct (vars_of_addConst (e := quadratic g) h)
      | _ => exact hlinear rfl rfl
  | _ =>
      cases b with
      | quadratic g => exact distinct_vars_of_quadraticSum h
      | _ => exact hlinear rfl rfl

/-- A product is over the variables of both factors, in the order of first occurrence. -/
theorem distinct_vars_of_mul (h : a.mul b = .ok d) :
  distinct d.vars = distinct (a.vars ++ b.vars)
  := by
  have hconst : ∀ c, a.scale c = .ok d → b.vars = [] →
      distinct d.vars = distinct (a.vars ++ b.vars) := by
    intro c h hvars
    rw [vars_of_scale h, hvars, List.append_nil]
  have hconstLeft : ∀ (c : α) (e : Scalar α), e.scale c = .ok d →
      distinct d.vars = distinct ((const c).vars ++ e.vars) := by
    intro c e h
    rw [vars_of_scale h, vars, List.nil_append]
  cases a with
  | const c =>
      cases b with
      | const k =>
          cases h
          rfl
      | _ => exact hconstLeft c _ h
  | quadratic f =>
      cases b with
      | const c => exact hconst c h rfl
      | _ => cases h
  | _ =>
      cases b with
      | const c => exact hconst c h rfl
      | quadratic g => cases h
      | _ => exact distinct_vars_of_linearProduct h

end Scalar

/-! ### Vectors -/

namespace Vec

variable {u v w : Vec α}

/-- A sum of vectors is over the variables of both, in the order of first occurrence. -/
theorem distinct_vars_of_add (h : u.add v = .ok w) :
  distinct w.vars = distinct (u.vars ++ v.vars)
  := by
  obtain ⟨hl, ho⟩ := sameShape_of_add h
  obtain ⟨w', hw', hvars, -⟩ := exists_add_of_sameShape hl ho
  rw [hw'] at h
  cases h
  apply hvars

/-- A vector and a scalar expression are multiplied only if one of both has no variables. -/
theorem vars_of_timesScalar {e : Scalar α} (h : v.timesScalar e = .ok w) :
  w.vars = v.vars ++ e.vars ∧ w.vars = e.vars ++ v.vars
  := by
  have hlinear : (if v.isConstant then
        .ok ⟨.affine (timesLinear v.constant e.toLinear), v.orientation⟩
      else .error (.unsupportedProduct (.quadraticEntries v.kind e.kind)) : Except Error (Vec α))
      = .ok w → w.vars = v.vars ++ e.vars ∧ w.vars = e.vars ++ v.vars := by
    intro h
    split_ifs at h with hv
    cases h
    rw [vars_of_isConstant (v := v) hv, List.append_nil]
    exact ⟨rfl, rfl⟩
  cases e with
  | const a =>
      cases h
      rw [vars_scale]
      exact ⟨(List.append_nil _).symm, rfl⟩
  | quadratic f =>
      rw [timesScalar] at h
      split_ifs at h
  | _ => exact hlinear h

/-- A matrix on the left brings no variables in. -/
theorem vars_of_mulMatrixLeft {m : Matrix α} (h : mulMatrixLeft m v = .ok w) :
  w.vars = v.vars
  := by
  rw [mulMatrixLeft] at h
  split_ifs at h with hfits hv
  · cases h
    rw [vars_of_isConstant hv]
    rfl
  · cases h
    rfl

/-- A matrix on the right brings no variables in. -/
theorem vars_of_mulMatrixRight {m : Matrix α} (h : v.mulMatrixRight m = .ok w) :
  w.vars = v.vars
  := by
  rw [mulMatrixRight] at h
  split_ifs at h with hfits hv
  · cases h
    rw [vars_of_isConstant hv]
    rfl
  · cases h
    rfl

/-- A row times a column is over the variables of both, in the order of first occurrence. -/
theorem distinct_vars_of_dot {e : Scalar α} (h : u.dot v = .ok e) :
  distinct e.vars = distinct (u.vars ++ v.vars)
  := by
  rw [dot] at h
  cases hu : u.isConstant with
  | true =>
      cases hv : v.isConstant with
      | true =>
          rw [hu, hv] at h
          cases h
          rw [vars_of_isConstant hu, vars_of_isConstant hv]
          rfl
      | false =>
          rw [hu, hv] at h
          cases h
          rw [vars_of_isConstant hu]
          rfl
  | false =>
      cases hv : v.isConstant with
      | true =>
          rw [hu, hv] at h
          cases h
          rw [vars_of_isConstant hv, List.append_nil]
          rfl
      | false =>
          rw [hu, hv] at h
          obtain ⟨f, hf, rfl⟩ := Outcome.map_eq_ok_iff.mp h
          rw [quadraticDot] at hf
          rw [Scalar.vars, QuadraticForm.vars_of_symmetrise? hf]
          apply distinct_distinct

/-- The only entry of a vector is over the variables of the vector. -/
theorem vars_entry_of_length_eq_one (h : v.length = 1) (hlt : 0 < v.length) :
  (v.entry 0 hlt).vars = v.vars
  := by
  rcases v with ⟨entries, o⟩
  cases entries with
  | const values => rfl
  | vars elements =>
      obtain ⟨x, hx⟩ := List.length_eq_one_iff.mp h
      cases hx
      rfl
  | affine f => rfl

end Vec

/-! ### Operands -/

namespace Operand

variable {x : Operand α}

/-- The variables of an operand; only an expression has some. -/
def vars : Operand α → List Variable
  | expression e => e.vars
  | _ => []

/-- An operand as an expression is over the variables of the operand. -/
theorem vars_of_toExpression {e : Expression α} (h : x.toExpression = .ok e) :
  e.vars = x.vars
  := by
  cases x with
  | number n =>
      obtain ⟨a, -, rfl⟩ := Outcome.map_eq_ok_iff.mp h
      rfl
  | array t =>
      rw [toExpression] at h
      split at h
      · cases h
        rfl
      · cases h
        rfl
      · cases h
  | expression e =>
      cases h
      rfl
  | other k => cases h

/-- An operand as a scalar expression is over the variables of the operand. -/
theorem vars_of_asScalar {operation : Operation} {a : Scalar α}
    (h : x.asScalar operation = .ok a) :
  a.vars = x.vars
  := by
  cases x with
  | number n =>
      obtain ⟨c, -, rfl⟩ := Outcome.map_eq_ok_iff.mp h
      rfl
  | array t =>
      rw [asScalar] at h
      split_ifs at h
      cases h
      rfl
  | expression e =>
      cases e with
      | scalar a =>
          cases h
          rfl
      | _ => cases h
  | other k => cases h

/-- An operand as a vector is over the variables of the operand. -/
theorem vars_of_asVector {operation : Operation} {broadcast : Bool} {u v : Vec α}
    (h : x.asVector operation broadcast u = .ok v) :
  v.vars = x.vars
  := by
  cases x with
  | number n =>
      rw [asVector] at h
      split_ifs at h
      obtain ⟨c, -, rfl⟩ := Outcome.map_eq_ok_iff.mp h
      rfl
  | array t =>
      rw [asVector] at h
      split_ifs at h
      cases h
      rfl
  | expression e =>
      cases e with
      | vector v =>
          cases h
          rfl
      | _ => cases h
  | other k => cases h

end Operand

/-! ### Expressions -/

namespace Expression

variable {d e f : Expression α} {x : Operand α}

/-- The sum of an expression and an operand is over the variables of both. -/
theorem distinct_vars_of_plus (h : e.plus x = .ok d) :
  distinct d.vars = distinct (e.vars ++ x.vars)
  := by
  cases e with
  | scalar a =>
      obtain ⟨b, hb, h⟩ := Outcome.bind_eq_ok_iff.mp h
      obtain ⟨c, hc, h⟩ := Outcome.bind_eq_ok_iff.mp h
      cases h
      rw [← Operand.vars_of_asScalar hb]
      apply Scalar.distinct_vars_of_add hc
  | vector u =>
      obtain ⟨v, hv, h⟩ := Outcome.bind_eq_ok_iff.mp h
      obtain ⟨w, hw, h⟩ := Outcome.bind_eq_ok_iff.mp h
      cases h
      rw [← Operand.vars_of_asVector hv]
      apply Vec.distinct_vars_of_add hw
  | matrix m =>
      cases x with
      | number n => cases h
      | array t =>
          simp only [plus] at h
          split_ifs at h
          cases h
          rfl
      | expression f =>
          cases f with
          | matrix n =>
              simp only [plus] at h
              split_ifs at h
              cases h
              rfl
          | _ => cases h
      | other k => cases h

/-- A multiple of an expression of any form has the same variables. -/
theorem vars_of_scale {a : α} (h : e.scale a = .ok d) :
  d.vars = e.vars
  := by
  cases e with
  | scalar b =>
      obtain ⟨c, hc, rfl⟩ := Outcome.map_eq_ok_iff.mp h
      apply Scalar.vars_of_scale hc
  | vector v =>
      cases h
      apply Vec.vars_scale
  | matrix m =>
      cases h
      rfl

/-- A product of vectors is over the variables of both. -/
theorem distinct_vars_of_vectorProduct {u v : Vec α} (h : vectorProduct u v = .ok e) :
  distinct e.vars = distinct (u.vars ++ v.vars)
  := by
  have hdot : (u.dot v).map Expression.scalar = .ok e →
      distinct e.vars = distinct (u.vars ++ v.vars) := by
    intro h
    obtain ⟨a, ha, rfl⟩ := Outcome.map_eq_ok_iff.mp h
    apply Vec.distinct_vars_of_dot ha
  rw [vectorProduct] at h
  split at h
  · split_ifs at h
    apply hdot h
  · split_ifs at h
    apply hdot h
  · split_ifs at h with hv
    obtain ⟨w, hw, rfl⟩ := Outcome.map_eq_ok_iff.mp h
    rw [vars, (Vec.vars_of_timesScalar hw).1, Vec.vars_entry_of_length_eq_one hv]
  · split_ifs at h with hu
    obtain ⟨w, hw, rfl⟩ := Outcome.map_eq_ok_iff.mp h
    rw [vars, (Vec.vars_of_timesScalar hw).2, Vec.vars_entry_of_length_eq_one hu]

/-- Only constants multiply a matrix. -/
theorem vars_of_matrix_timesScalar {m n : Matrix α} {a : Scalar α} (h : m.timesScalar a = .ok n) :
  a.vars = []
  := by
  cases a with
  | const c => rfl
  | _ => cases h

/-- The product of two expressions of any forms is over the variables of both. -/
theorem distinct_vars_of_times (h : e.times f = .ok d) :
  distinct d.vars = distinct (e.vars ++ f.vars)
  := by
  cases e with
  | scalar a =>
      cases f with
      | scalar b =>
          obtain ⟨c, hc, rfl⟩ := Outcome.map_eq_ok_iff.mp h
          apply Scalar.distinct_vars_of_mul hc
      | vector v =>
          obtain ⟨w, hw, rfl⟩ := Outcome.map_eq_ok_iff.mp h
          apply congrArg distinct (Vec.vars_of_timesScalar hw).2
      | matrix m =>
          obtain ⟨n, hn, rfl⟩ := Outcome.map_eq_ok_iff.mp h
          rw [vars, vars, vars_of_matrix_timesScalar hn]
          rfl
  | vector u =>
      cases f with
      | scalar b =>
          obtain ⟨w, hw, rfl⟩ := Outcome.map_eq_ok_iff.mp h
          apply congrArg distinct (Vec.vars_of_timesScalar hw).1
      | vector v => apply distinct_vars_of_vectorProduct h
      | matrix m =>
          obtain ⟨w, hw, rfl⟩ := Outcome.map_eq_ok_iff.mp h
          rw [vars, vars, vars, List.append_nil, Vec.vars_of_mulMatrixRight hw]
  | matrix m =>
      cases f with
      | scalar b =>
          obtain ⟨n, hn, rfl⟩ := Outcome.map_eq_ok_iff.mp h
          rw [vars, vars, vars, vars_of_matrix_timesScalar hn]
          rfl
      | vector v =>
          obtain ⟨w, hw, rfl⟩ := Outcome.map_eq_ok_iff.mp h
          rw [vars, vars, vars, List.nil_append, Vec.vars_of_mulMatrixLeft hw]
      | matrix n =>
          obtain ⟨k, -, rfl⟩ := Outcome.map_eq_ok_iff.mp h
          rfl

/-- The product of an expression and an operand is over the variables of both. -/
theorem distinct_vars_of_multiply (h : e.multiply x = .ok d) :
  distinct d.vars = distinct (e.vars ++ x.vars)
  := by
  cases x with
  | number n =>
      obtain ⟨a, -, h⟩ := Outcome.bind_eq_ok_iff.mp h
      rw [vars_of_scale h]
      exact congrArg distinct (List.append_nil _).symm
  | array t =>
      simp only [multiply] at h
      split at h
      · obtain ⟨c, hc, rfl⟩ := Outcome.map_eq_ok_iff.mp h
        apply Scalar.distinct_vars_of_mul hc
      · apply distinct_vars_of_times h
      · apply distinct_vars_of_times h
      · cases h
  | expression f => apply distinct_vars_of_times h
  | other k => cases h

/-- To change the sign keeps the variables. -/
theorem vars_of_negated (h : e.negated = .ok d) :
  d.vars = e.vars
  := by
  obtain ⟨a, -, h⟩ := Outcome.bind_eq_ok_iff.mp h
  apply vars_of_scale h

/-- The difference of an expression and an operand is over the variables of both. -/
theorem distinct_vars_of_minus (h : e.minus x = .ok d) :
  distinct d.vars = distinct (e.vars ++ x.vars)
  := by
  cases x with
  | number n => apply distinct_vars_of_plus h
  | array t =>
      rw [minus] at h
      split_ifs at h
      · apply distinct_vars_of_plus h
      · apply distinct_vars_of_plus h
  | expression f =>
      obtain ⟨g, hg, h⟩ := Outcome.bind_eq_ok_iff.mp h
      rw [distinct_vars_of_plus h, Operand.vars, Operand.vars, vars_of_negated hg]
  | other k => cases h

/-- The difference of an operand and an expression is over the variables of both, those of the
expression first. -/
theorem distinct_vars_of_subtractedFrom (h : e.subtractedFrom x = .ok d) :
  distinct d.vars = distinct (e.vars ++ x.vars)
  := by
  obtain ⟨f, hf, h⟩ := Outcome.bind_eq_ok_iff.mp h
  rw [distinct_vars_of_plus h, vars_of_negated hf]

/-- A quotient is over the variables of the expression, since numbers have none. -/
theorem distinct_vars_of_divide (h : e.divide x = .ok d) :
  distinct d.vars = distinct (e.vars ++ x.vars)
  := by
  cases x with
  | number n =>
      obtain ⟨a, -, h⟩ := Outcome.bind_eq_ok_iff.mp h
      split_ifs at h
      apply distinct_vars_of_multiply h
  | _ => cases h

/-- An operand that is no expression has no variables, on whichever side it stands. -/
theorem distinct_vars_of_multipliedBy (h : e.multipliedBy x = .ok d) (hx : x.vars = []) :
  distinct d.vars = distinct e.vars
  := by
  have hmultiply : e.multiply x = .ok d → distinct d.vars = distinct e.vars := by
    intro h
    rw [distinct_vars_of_multiply h, hx, List.append_nil]
  cases e with
  | scalar a => exact hmultiply h
  | _ =>
      cases x with
      | array t =>
          simp only [multipliedBy] at h
          split at h
          · apply distinct_vars_of_times h
          · apply distinct_vars_of_times h
          · cases h
          · cases h
      | _ => exact hmultiply h

/-! ### Sums -/

/-- A sum from left to right is over the variables of all, in the order of first occurrence. -/
theorem distinct_vars_of_sumFrom {es : List (Expression α)} (h : sumFrom e es = .ok d) :
  distinct d.vars = distinct (e.vars ++ es.flatMap vars)
  := by
  induction es generalizing e with
  | nil =>
      cases h
      rw [List.flatMap_nil, List.append_nil]
  | cons f es ih =>
      obtain ⟨g, hg, h⟩ := Outcome.bind_eq_ok_iff.mp h
      rw [ih h, List.flatMap_cons, ← List.append_assoc]
      apply distinct_append_congr (distinct_vars_of_plus hg) rfl

/-- A sum in one pass is over the variables of all, in the order of first occurrence. -/
theorem distinct_vars_sumOfLinear (es : List (Scalar α)) :
  distinct (Scalar.sumOfLinear es).vars = distinct (es.flatMap Scalar.vars)
  := by
  rw [Scalar.sumOfLinear]
  split_ifs with h
  · exact (List.isEmpty_iff.mp h).symm
  · apply distinct_distinct

/-- Expressions that are all linear keep their variables as linear ones. -/
theorem flatMap_vars_of_linearScalars? {es : List (Expression α)} {as : List (Scalar α)}
    (h : linearScalars? es = some as) :
  as.flatMap Scalar.vars = es.flatMap vars
  := by
  induction es generalizing as with
  | nil =>
      cases h
      rfl
  | cons e es ih =>
      cases e with
      | scalar a =>
          rw [linearScalars?] at h
          split_ifs at h
          obtain ⟨bs, hbs, rfl⟩ := Option.map_eq_some_iff.mp h
          rw [List.flatMap_cons, ih hbs, List.flatMap_cons, vars]
      | _ => cases h

/-- Operands as expressions keep their variables. -/
theorem flatMap_vars_of_mapM_toExpression {xs : List (Operand α)} {es : List (Expression α)}
    (h : xs.mapM Operand.toExpression = .ok es) :
  es.flatMap vars = xs.flatMap Operand.vars
  := by
  have hsteps := Outcome.forall₂_of_mapM h
  clear h
  induction hsteps with
  | nil => rfl
  | cons hx _ ih =>
      rw [List.flatMap_cons, List.flatMap_cons, ih, Operand.vars_of_toExpression hx]

/-- A sum is over the distinct variables of all its operands. -/
theorem distinct_vars_of_sum {xs : List (Operand α)} (h : sum xs = .ok d) :
  distinct d.vars = distinct (xs.flatMap Operand.vars)
  := by
  obtain ⟨es, hes, h⟩ := Outcome.bind_eq_ok_iff.mp h
  rw [← flatMap_vars_of_mapM_toExpression hes]
  split at h
  · rename_i as has
    cases h
    rw [← flatMap_vars_of_linearScalars? has]
    apply distinct_vars_sumOfLinear
  · cases h
    rfl
  · apply distinct_vars_of_sumFrom h

end Expression

/-- The result of an operator is over the distinct variables of both operands. -/
theorem Arithmetic.distinct_vars_of_result? {op : Arithmetic} {x y : Operand α}
    {d : Expression α} (h : op.result? x y = some (.ok d)) :
  distinct d.vars = distinct (x.vars ++ y.vars)
  := by
  have hleft : ∀ e, x = .expression e → op.onLeft e y = .ok d →
      distinct d.vars = distinct (x.vars ++ y.vars) := by
    rintro e rfl h
    cases op with
    | add => apply Expression.distinct_vars_of_plus h
    | subtract => apply Expression.distinct_vars_of_minus h
    | multiply => apply Expression.distinct_vars_of_multiply h
    | matrixMultiply => apply Expression.distinct_vars_of_multiply h
    | divide => apply Expression.distinct_vars_of_divide h
  have hright : ∀ e, x.vars = [] → y = .expression e → op.reflected x e = some (.ok d) →
      distinct d.vars = distinct (x.vars ++ y.vars) := by
    rintro e hx rfl h
    rw [hx, List.nil_append, Operand.vars]
    have happend : distinct d.vars = distinct (e.vars ++ x.vars) →
        distinct d.vars = distinct e.vars := by
      rw [hx, List.append_nil]
      exact id
    cases op with
    | add => apply happend (Expression.distinct_vars_of_plus (Option.some.inj h))
    | subtract => apply happend (Expression.distinct_vars_of_subtractedFrom (Option.some.inj h))
    | multiply => apply Expression.distinct_vars_of_multipliedBy (Option.some.inj h) hx
    | matrixMultiply =>
        cases e with
        | scalar a => cases h
        | _ => apply Expression.distinct_vars_of_multipliedBy (Option.some.inj h) hx
    | divide => cases h
  cases x with
  | expression e => apply hleft e rfl (Option.some.inj h)
  | _ =>
      cases y with
      | expression e => exact hright e rfl rfl h
      | _ => cases h

end QuadraticProgram
