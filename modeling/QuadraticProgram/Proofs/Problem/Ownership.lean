import QuadraticProgram.Proofs.Expression.Variables
import QuadraticProgram.Proofs.Problem.WellDefined

/-!
# Foreign variables

An expression may be built from variables that do not belong to the problem it is used in. The
check of the problem refuses such a variable if it stands before all others with its identifier
(`Problem.check_refuses_foreign`). A foreign variable that follows another one with its
identifier is merged into that one and goes unnoticed (`Problem.check_misses_foreign`).
-/

namespace QuadraticProgram

open QuadraticProgram.Alignment

variable {α : Type} [Coefficient α]

/-! ### Building expressions -/

/-- Whether an operand is built, by operators, changes of sign and sums, from operands that have
the variables of a list from left to right. -/
inductive Operand.BuiltFrom : Operand α → List Variable → Prop
  | operand (x : Operand α) : BuiltFrom x x.vars
  | operator {op : Arithmetic} {x y : Operand α} {vs ws : List Variable} {d : Expression α}
      (hx : BuiltFrom x vs) (hy : BuiltFrom y ws) (h : op.result? x y = some (.ok d)) :
      BuiltFrom (.expression d) (vs ++ ws)
  | negated {e d : Expression α} {vs : List Variable} (he : BuiltFrom (.expression e) vs)
      (h : e.negated = .ok d) : BuiltFrom (.expression d) vs
  | sum {xs : List (Operand α)} {vss : List (List Variable)} {d : Expression α}
      (hlength : xs.length = vss.length) (hxs : ∀ x vs, (x, vs) ∈ xs.zip vss → BuiltFrom x vs)
      (h : Expression.sum xs = .ok d) : BuiltFrom (.expression d) vss.flatten

/-- An expression has the distinct variables of the operands that it is built from: of several
variables with one identifier it has the first. -/
theorem Operand.BuiltFrom.distinct_vars {x : Operand α} {vs : List Variable}
    (h : x.BuiltFrom vs) :
  distinct x.vars = distinct vs
  := by
  induction h with
  | operand x => rfl
  | operator _ _ hd ihx ihy =>
      rw [vars, Arithmetic.distinct_vars_of_result? hd]
      apply distinct_append_congr ihx ihy
  | negated _ hd ih => rw [vars, Expression.vars_of_negated hd, ← ih, vars]
  | @sum xs vss d hlength hxs hd ih =>
      rw [vars, Expression.distinct_vars_of_sum hd]
      have hpairs : List.Forall₂ (fun x vs => distinct x.vars = distinct vs) xs vss :=
        List.forall₂_iff_zip.mpr ⟨hlength, ih _ _⟩
      clear hlength hxs hd ih
      induction hpairs with
      | nil => rfl
      | cons hx _ ih =>
          rw [List.flatMap_cons, List.flatten_cons]
          apply distinct_append_congr hx ih

/-- A variable before which no other has its identifier is one of the distinct variables. -/
theorem Alignment.mem_distinct_of_first {w : Variable} {before after : List Variable}
    (h : ∀ v ∈ before, v.id ≠ w.id) :
  w ∈ distinct (before ++ w :: after)
  := by
  induction before with
  | nil => apply List.mem_cons_self
  | cons v before ih =>
      rw [List.forall_mem_cons] at h
      apply List.mem_cons_of_mem
      rw [List.mem_filter, bne_iff_ne]
      exact ⟨ih h.2, h.1.symm⟩

/-- The distinct variables of a list are in it. -/
theorem Alignment.mem_of_mem_distinct {w : Variable} {vs : List Variable} (h : w ∈ distinct vs) :
  w ∈ vs
  := by
  induction vs with
  | nil => apply h
  | cons v vs ih =>
      rcases List.mem_cons.mp h with rfl | h
      · apply List.mem_cons_self
      · apply List.mem_cons_of_mem v (ih (List.mem_filter.mp h).1)

namespace Problem

/-! ### The check for foreign variables -/

/-- Whether an expression is a side of a constraint of a problem, or its objective. -/
def Uses (p : Problem α) (e : Expression α) : Prop :=
  (∃ c ∈ p.constraints, e = c.value.lhs ∨ e = c.value.rhs)
    ∨ ∃ o, p.objective? = some o ∧ e = .scalar o.expression

/-- The variables of an expression that a problem uses are asked for ownership. -/
theorem Uses.mem_checks {p : Problem α} {o : Objective α} (ho : p.objective? = some o)
    {e : Expression α} (h : p.Uses e) {v : Variable} (hv : v ∈ e.vars) :
  p.ownership v ∈ p.checks o
  := by
  rw [Problem.mem_checks]
  rcases h with ⟨c, hc, rfl | rfl⟩ | ⟨o', ho', rfl⟩
  · exact .inr (.inr (.inr (.inr ⟨c, hc, v, List.mem_append_left _ hv, rfl⟩)))
  · exact .inr (.inr (.inr (.inr ⟨c, hc, v, List.mem_append_right _ hv, rfl⟩)))
  · cases ho.symm.trans ho'
    exact .inr (.inr (.inr (.inl ⟨v, hv, rfl⟩)))

/-- A problem that uses a foreign variable is refused. -/
theorem exists_check_eq_error {p : Problem α} (hp : p.Numbered) {o : Objective α}
    (ho : p.objective? = some o) {e : Expression α} (h : p.Uses e) {v : Variable}
    (hv : v ∈ e.vars) (hforeign : ¬ p.Owns v) :
  ∃ err, p.check = .error err
  := by
  rw [check_eq_of_objective ho, hp.checkParts_eq]
  rcases hresult : Outcome.inTurn (p.checks o) with err | ⟨⟩
  · exact ⟨_, rfl⟩
  · have hown := Outcome.inTurn_eq_ok_iff.mp hresult _ (h.mem_checks ho hv)
    exact absurd ((p.ownership_eq_ok_iff v).mp hown) hforeign

/-- A problem is refused if it uses an expression that is built from a foreign variable and no
other variable with the same identifier stands before that one. -/
theorem check_refuses_foreign {p : Problem α} (hp : p.Reachable) {o : Objective α}
    (ho : p.objective? = some o) {e : Expression α} {w : Variable} {before after : List Variable}
    (hbuilt : Operand.BuiltFrom (.expression e) (before ++ w :: after)) (huses : p.Uses e)
    (hforeign : ¬ p.Owns w) (hfirst : ∀ v ∈ before, v.id ≠ w.id) :
  ∃ err, p.check = .error err
    ∧ ((∀ c ∈ p.constraints, c.value.HasSides) → ∃ source, err = .notWellDefined p.name source)
  := by
  have hw : w ∈ e.vars := by
    apply mem_of_mem_distinct
    rw [show distinct e.vars = _ from hbuilt.distinct_vars]
    apply mem_distinct_of_first hfirst
  obtain ⟨err, herr⟩ := exists_check_eq_error hp.numbered ho huses hw hforeign
  use err, herr
  intro hsides
  obtain ⟨source, hsource, -⟩ := (check_eq_error_iff hp.numbered hsides ho err).mp herr
  use source

/-- The variable of a problem. -/
def ownVariable : Variable :=
  ⟨0, Variable.unbounded.1, Variable.unbounded.2, .continuous, .text "x", 0⟩

/-- A variable of another problem with the same identifier and other bounds. -/
def foreignVariable : Variable := ⟨0, 0.0, 1.0, .continuous, .text "w", 1⟩

/-- The problem with one variable and the constraint that an expression is at most one. -/
def limiting (e : Scalar ℚ) : Problem ℚ :=
  (empty (.text "p")).run [
    .addVariable .real (.text "x") 0,
    .addConstraint (.constraint ⟨1, .ofScalars e .lessEqual (.const 1)⟩),
    .setObjective (.number (.integer 0)) .minimize]

/-- Twice a variable, which is what a sum of it and another one with its identifier is. -/
def twice (v : Variable) : Scalar ℚ := .linear (.ofPairs [(v, 1 + 1)] 0)

/-- The sum of two variables with one number is twice the first one. -/
theorem add_of_id_eq {v w : Variable} (h : v.id = w.id) :
  Arithmetic.add.result? (.expression (.scalar (.var v))) (.expression (.scalar (.var w)))
    = some (.ok (.scalar (twice v)))
  := by
  simp only [Arithmetic.result?, Arithmetic.onLeft, Expression.plus, Operand.asScalar,
    Outcome.ok_bind, Scalar.add, if_pos h]
  rfl

/-- The sum of a foreign variable and the problem's own is refused. -/
theorem check_refuses_foreign_first :
  (limiting (twice foreignVariable)).Reachable
    ∧ ¬ (limiting (twice foreignVariable)).Owns foreignVariable
    ∧ ∃ source, (limiting (twice foreignVariable)).check
        = .error (.notWellDefined (.text "p") source)
  := by
  have hreach : (limiting (twice foreignVariable)).Reachable := ⟨_, _, rfl⟩
  have hforeign : ¬ (limiting (twice foreignVariable)).Owns foreignVariable := by decide +kernel
  have hbuilt : Operand.BuiltFrom (.expression (.scalar (twice foreignVariable)))
      ([] ++ foreignVariable :: [ownVariable]) :=
    (Operand.BuiltFrom.operator (.operand _) (.operand _)
      (add_of_id_eq (v := foreignVariable) (w := ownVariable) rfl) :)
  have huses : (limiting (twice foreignVariable)).Uses (.scalar (twice foreignVariable)) :=
    .inl ⟨_, List.mem_singleton.mpr rfl, .inl rfl⟩
  have hsides : ∀ c ∈ (limiting (twice foreignVariable)).constraints, c.value.HasSides := by
    intro c hc
    rw [List.mem_singleton.mp hc]
    apply Constraint.HasSides.scalars
  obtain ⟨err, herr, hsource⟩ := check_refuses_foreign hreach (o := ⟨.const 0, .minimize⟩) rfl
    hbuilt huses hforeign (List.forall_mem_nil _)
  obtain ⟨source, rfl⟩ := hsource hsides
  exact ⟨hreach, hforeign, source, herr⟩

/-- The sum of the problem's own variable and a foreign one passes the check. -/
theorem check_misses_foreign :
  (limiting (twice ownVariable)).Reachable
    ∧ ¬ (limiting (twice ownVariable)).Owns foreignVariable
    ∧ Arithmetic.add.result? (.expression (.scalar (.var ownVariable)))
        (.expression (.scalar (.var foreignVariable)))
      = some (.ok (.scalar (twice ownVariable)))
    ∧ (limiting (twice ownVariable)).Uses (.scalar (twice ownVariable))
    ∧ (limiting (twice ownVariable)).objective?.isSome = true
    ∧ (limiting (twice ownVariable)).check = .ok ()
  := by
  use ⟨_, _, rfl⟩
  refine ⟨?_, ?_, ?_, ?_, ?_⟩
  · decide +kernel
  · apply add_of_id_eq (v := ownVariable) (w := foreignVariable) rfl
  · exact .inl ⟨_, List.mem_singleton.mpr rfl, .inl rfl⟩
  · rfl
  · rfl

end Problem

end QuadraticProgram
