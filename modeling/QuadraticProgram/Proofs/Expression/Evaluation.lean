import QuadraticProgram.Proofs.Expression.Variables

/-!
# Evaluation of results

Every expression looks up its variables in their order and then has a value, whatever its
coefficients are; a variable without a value is reported even where its coefficient is zero.
Since an operator keeps the variables of both operands, its result can be evaluated exactly where
they can (`Expression.variables_kept`).
-/

namespace QuadraticProgram

open QuadraticProgram.Alignment

/-! ### Looking up -/

/-- The first identifier without a value, among the distinct ones of a list, is that of the first
variable without a value. -/
theorem Alignment.find?_map_distinct {β : Type} (s : ℕ → Option β) (vs : List Variable) :
  ((distinct vs).map Variable.id).find? (fun id => (s id).isNone)
    = (vs.find? fun v => (s v.id).isNone).map Variable.id
  := by
  rw [List.find?_map, ← find?_distinct fun id => (s id).isNone]
  rfl

variable {α : Type} [Coefficient α] {s : ℕ → Option α}

/-- To evaluate a scalar expression is to look up its variables. -/
theorem Scalar.exists_evaluate (s : ℕ → Option α) (e : Scalar α) :
  ∃ a, e.evaluate s = lookingUp s e.vars a
  := by
  cases e with
  | const a => exact ⟨a, rfl⟩
  | var v =>
      use (s v.id).getD 0
      rw [evaluate]
      cases hv : s v.id with
      | none => simp [lookingUp, vars, hv]
      | some a => simp [lookingUp, vars, hv]
  | linear f =>
      rw [evaluate, valuesOf_eq]
      exact ⟨_, lookingUp_bind_ok _⟩
  | quadratic f =>
      rw [evaluate, valuesOf_eq]
      exact ⟨_, lookingUp_bind_ok _⟩

/-- To evaluate a vector is to look up its variables. -/
theorem Vec.exists_evaluate (s : ℕ → Option α) (v : Vec α) :
  ∃ values, v.evaluate s = lookingUp s v.vars values
  := by
  rcases v with ⟨entries, o⟩
  cases entries with
  | const values => exact ⟨values, rfl⟩
  | vars elements => exact ⟨_, valuesOf_eq s elements⟩
  | affine f =>
      simp only [evaluate]
      rw [valuesOf_eq]
      exact ⟨_, lookingUp_bind_ok _⟩

namespace Expression

variable {d e : Expression α}

/-- To evaluate an expression of any form is to look up its variables. -/
theorem exists_evaluate (s : ℕ → Option α) (e : Expression α) :
  ∃ r, e.evaluate s = lookingUp s e.vars r
  := by
  cases e with
  | scalar a =>
      obtain ⟨r, hr⟩ := a.exists_evaluate s
      use .scalar r
      rw [evaluate, hr, lookingUp_map]
      rfl
  | vector v =>
      obtain ⟨r, hr⟩ := v.exists_evaluate s
      use .vector r
      rw [evaluate, hr, lookingUp_map]
      rfl
  | matrix m => exact ⟨.matrix m, rfl⟩

/-- An expression has a value exactly where all of its variables have one. -/
theorem evaluate_eq_ok_iff :
  (∃ r, e.evaluate s = .ok r) ↔ Covers s e.vars
  := by
  obtain ⟨r, hr⟩ := e.exists_evaluate s
  rw [hr]
  simp only [lookingUp_eq_ok_iff, exists_and_left, exists_eq', and_true]

/-- The only error of an evaluation names the first variable without a value. -/
theorem evaluate_eq_error_iff {error : Error} :
  e.evaluate s = .error error ↔
    ∃ id, (e.distinctVars.map Variable.id).find? (fun id => (s id).isNone) = some id
      ∧ error = .variableNotFound id .values
  := by
  obtain ⟨r, hr⟩ := e.exists_evaluate s
  rw [hr, distinctVars, find?_map_distinct, lookingUp]
  cases e.vars.find? fun v => (s v.id).isNone with
  | none => simp
  | some v => simp [eq_comm]

/-! ### Results -/

/-- Whether an operand can be evaluated; a number and an array are values already. -/
theorem covers_vars_iff {x : Operand α} :
  Covers s x.vars ↔ ∀ e, x = .expression e → ∃ r, e.evaluate s = .ok r
  := by
  cases x with
  | expression e =>
      simp only [Operand.expression.injEq, forall_eq', evaluate_eq_ok_iff]
      rfl
  | _ => simp [Operand.vars, Covers]

/-- An evaluation fails exactly if a variable has no value, and names the first such one. The
result of an operator is over the distinct variables of both operands in their order, whatever
the coefficients are, and can be evaluated exactly where both can. -/
theorem variables_kept (e : Expression α) (s : ℕ → Option α) :
  (∀ error, e.evaluate s = .error error ↔
      ∃ id, (e.distinctVars.map Variable.id).find? (fun id => (s id).isNone) = some id
        ∧ error = .variableNotFound id .values)
    ∧ ((∃ r, e.evaluate s = .ok r) ↔ ∀ id ∈ e.distinctVars.map Variable.id, (s id).isSome)
    ∧ ∀ op x y, Arithmetic.result? op x y = some (.ok e) →
        e.distinctVars = distinct (x.vars ++ y.vars)
          ∧ ((∃ r, e.evaluate s = .ok r) ↔
              ∀ f, x = .expression f ∨ y = .expression f → ∃ r, f.evaluate s = .ok r)
  := by
  constructor
  · intro error
    apply evaluate_eq_error_iff
  · constructor
    · rw [evaluate_eq_ok_iff, ← covers_congr (distinct_distinct e.vars), List.forall_mem_map]
      rfl
    · intro op x y h
      have hvars := Arithmetic.distinct_vars_of_result? h
      use hvars
      rw [evaluate_eq_ok_iff, covers_congr hvars, covers_append, covers_vars_iff, covers_vars_iff]
      simp only [or_imp, forall_and]

/-- A variable minus itself. -/
def cancelled : Expression ℚ := .scalar (.linear (.ofPairs [(default, 0)] 0))

/-- A variable that cancels is still looked up. -/
theorem variables_kept_cancelled :
  Arithmetic.subtract.result? (.expression (.scalar (.var default)))
      (.expression (.scalar (.var default))) = some (.ok cancelled)
    ∧ cancelled.distinctVars = [default]
    ∧ cancelled.evaluate (fun _ => none)
        = .error (.variableNotFound (default : Variable).id .values)
    ∧ ∃ r, cancelled.evaluate (fun _ => some 7) = .ok r
  := by
  have hresult : Arithmetic.subtract.result? (.expression (.scalar (.var default)))
      (.expression (.scalar (.var default))) = some (.ok cancelled) := by
    with_unfolding_all rfl
  obtain ⟨herror, -, hvars⟩ := variables_kept cancelled fun _ => none
  obtain ⟨-, hdefined, -⟩ := variables_kept cancelled fun _ => some 7
  use hresult, (hvars _ _ _ hresult).1, (herror _).mpr ⟨_, rfl, rfl⟩
  apply hdefined.mpr
  intro _ _
  rfl

end Expression

end QuadraticProgram
