import Mathlib.Data.Rat.Init
import QuadraticProgram.Proofs.Double
import QuadraticProgram.Proofs.Problem.Reachable

/-!
# Well-defined problems

A problem with an objective passes its check if its variables are well bounded, its vector
constraints have sides of one shape, and all expressions are over its own variables
(`Problem.WellDefined`). Otherwise the error is that of the first check that fails, in the order
of `Problem.checks`.
-/

namespace QuadraticProgram

variable {α : Type} [Coefficient α]

/-! ### Bounds -/

theorem Domain.beq_eq_true_iff (d e : Domain) :
  (d == e) = true ↔ d = e
  := by
  cases d <;> cases e <;> decide

namespace Variable

/-- Bounds that are numbers and do not cross, and that are zero and one for a binary variable. -/
structure WellBounded (v : Variable) : Prop where
  lower_isNumber : v.lower.isNaN = false
  upper_isNumber : v.upper.isNaN = false
  lower_le_upper : v.lower ≤ v.upper
  binary : v.domain = .binary → (v.lower == 0.0) = true ∧ (v.upper == 1.0) = true

/-- A variable passes its check if its bounds leave room for a value. -/
theorem check_eq_ok_iff (v : Variable) :
  v.check = .ok () ↔ v.WellBounded
  := by
  have hcheck : v.check = .ok () ↔ v.defect? = none := by
    rw [check]
    cases v.defect? <;> simp
  rw [hcheck, defect?]
  constructor
  · intro h
    split_ifs at h with hnumber hcrossed hbinary
    rw [Bool.not_eq_true, Bool.or_eq_false_iff] at hnumber
    constructor
    · apply hnumber.1
    · apply hnumber.2
    · apply (Double.not_lt_iff_le hnumber.1 hnumber.2).mp hcrossed
    · intro hdomain
      have hbeq := (Domain.beq_eq_true_iff _ _).mpr hdomain
      simpa [hbeq, bne] using hbinary
  · intro h
    have hnumber : (v.lower.isNaN || v.upper.isNaN) ≠ true := by
      rw [h.lower_isNumber, h.upper_isNumber]
      decide
    have hcrossed := (Double.not_lt_iff_le h.lower_isNumber h.upper_isNumber).mpr h.lower_le_upper
    have hbinary : (v.domain == .binary && (v.lower != 0.0 || v.upper != 1.0)) ≠ true := by
      cases hdomain : v.domain == .binary with
      | false => nofun
      | true =>
          obtain ⟨hlower, hupper⟩ := h.binary ((Domain.beq_eq_true_iff _ _).mp hdomain)
          simp [bne, hlower, hupper]
    rw [if_neg hnumber, if_neg hcrossed, if_neg hbinary]

/-- What is wrong with the bounds of a variable counts as structural. -/
theorem isStructural_of_check {v : Variable} {e : Error} (h : v.check = .error e) :
  e.isStructural = true
  := by
  rw [check] at h
  split at h
  · cases h
    rfl
  · cases h

/-- A copy of a well-bounded variable is well bounded. -/
theorem WellBounded.of_sameAs {v w : Variable} (h : w.WellBounded) (hsame : w.sameAs v = true) :
  v.WellBounded
  := by
  simp only [sameAs, Bool.and_eq_true, beq_iff_eq] at hsame
  obtain ⟨⟨⟨-, hlower⟩, hupper⟩, hdomain⟩ := hsame
  have hlower' := Double.isNaN_eq_false_of_beq (BEq.symm hlower)
  have hupper' := Double.isNaN_eq_false_of_beq (BEq.symm hupper)
  constructor
  · apply hlower'
  · apply hupper'
  · apply (Double.not_lt_iff_le hlower' hupper').mp
    intro hlt
    apply (Double.not_lt_iff_le h.lower_isNumber h.upper_isNumber).mpr h.lower_le_upper
    apply (Double.lt_congr hupper hlower).mpr hlt
  · intro hbinary
    rw [← BEq.congr_left hlower, ← BEq.congr_left hupper]
    apply h.binary (((Domain.beq_eq_true_iff _ _).mp hdomain).trans hbinary)

end Variable

/-! ### Expressions and constraints -/

namespace Scalar

/-- Only a variable alone is checked for its bounds. -/
theorem check_eq_ok_iff (a : Scalar α) :
  a.check = .ok () ↔ ∀ v, a = .var v → v.WellBounded
  := by
  cases a with
  | var v => simp [check, v.check_eq_ok_iff]
  | _ => simp [check]

/-- What is wrong with an expression counts as structural. -/
theorem isStructural_of_check {a : Scalar α} {e : Error} (h : a.check = .error e) :
  e.isStructural = true
  := by
  cases a with
  | var v => apply v.isStructural_of_check h
  | _ => cases h

end Scalar

namespace Constraint

/-- A constraint between two scalar expressions or between two vectors. -/
inductive HasSides : Constraint α → Prop
  | scalars (a : Scalar α) (s : Sense) (b : Scalar α) : HasSides (ofScalars a s b)
  | vectors (u : Vec α) (s : Sense) (v : Vec α) : HasSides (ofVectors u s v)

/-- If the sides are vectors, they have the same length and orientation. -/
def SameShape (c : Constraint α) : Prop :=
  ∀ u s v, c = ofVectors u s v → u.length = v.length ∧ u.orientation = v.orientation

/-- Both sides of a comparison of scalar expressions are checked. -/
theorem check_ofScalars (a : Scalar α) (s : Sense) (b : Scalar α) :
  (ofScalars a s b).check = (a.check >>= fun () => b.check)
  := rfl

/-- The shapes of a comparison of vectors are checked, the lengths first. -/
theorem check_ofVectors (u : Vec α) (s : Sense) (v : Vec α) :
  (ofVectors u s v).check =
    if u.length ≠ v.length then
      .error (.dimensionMismatch .comparison (Expression.vector u).dimensions
        (Expression.vector v).dimensions)
    else if u.orientation ≠ v.orientation then
      .error (.orientationMismatch .comparison u.kind u.orientation v.kind v.orientation)
    else .ok ()
  := by
  by_cases hl : u.length = v.length
  · by_cases ho : u.orientation = v.orientation
    · simp [check, ofVectors, checkShapes, Expression.length, Expression.vectorAsking,
        Expression.check, hl, ho]
    · simp [check, ofVectors, checkShapes, Expression.length, Expression.vectorAsking, hl, ho]
      rfl
  · simp [check, ofVectors, checkShapes, Expression.length, hl]
    rfl

/-- A constraint passes its check if its sides fit together and a side that is a variable alone
is well bounded. -/
theorem HasSides.check_eq_ok_iff {c : Constraint α} (h : c.HasSides) :
  c.check = .ok () ↔ c.SameShape
    ∧ ∀ v, c.lhs = .scalar (.var v) ∨ c.rhs = .scalar (.var v) → v.WellBounded
  := by
  cases h with
  | scalars a s b =>
      rw [check_ofScalars, Outcome.bind_eq_ok_iff]
      constructor
      · rintro ⟨⟨⟩, ha, hb⟩
        constructor
        · rintro u s v ⟨⟩
        · rintro v (hv | hv)
          · apply a.check_eq_ok_iff.mp ha v (Expression.scalar.inj hv)
          · apply b.check_eq_ok_iff.mp hb v (Expression.scalar.inj hv)
      · rintro ⟨-, h⟩
        use ()
        constructor
        · apply a.check_eq_ok_iff.mpr fun v hv => h v (.inl (congrArg _ hv))
        · apply b.check_eq_ok_iff.mpr fun v hv => h v (.inr (congrArg _ hv))
  | vectors u s v =>
      rw [check_ofVectors]
      constructor
      · intro h
        split_ifs at h with hl ho
        constructor
        · rintro u' s' v' ⟨⟩
          use not_not.mp hl, not_not.mp ho
        · rintro w (hw | hw)
          · cases hw
          · cases hw
      · rintro ⟨h, -⟩
        obtain ⟨hl, ho⟩ := h u s v rfl
        rw [if_neg (not_not.mpr hl), if_neg (not_not.mpr ho)]

/-- What is wrong with a constraint whose sides have their forms counts as structural. -/
theorem HasSides.isStructural_of_check {c : Constraint α} (h : c.HasSides) {e : Error}
    (he : c.check = .error e) :
  e.isStructural = true
  := by
  cases h with
  | scalars a s b =>
      rw [check_ofScalars] at he
      rcases ha : a.check with f | ⟨⟩
      · rw [ha] at he
        cases he
        apply a.isStructural_of_check ha
      · rw [ha] at he
        apply b.isStructural_of_check he
  | vectors u s v =>
      rw [check_ofVectors] at he
      split_ifs at he
      · cases he
        rfl
      · cases he
        rfl

end Constraint

/-! ### Variables of a problem -/

namespace Problem

/-- Whether a problem has a variable with the identifier, the bounds and the domain of a given
one. -/
def Owns (p : Problem α) (v : Variable) : Prop :=
  ∃ w ∈ p.vars, w.id = v.id ∧ (w.lower == v.lower) = true ∧ (w.upper == v.upper) = true
    ∧ w.domain = v.domain

instance (p : Problem α) (v : Variable) : Decidable (p.Owns v) :=
  inferInstanceAs (Decidable (∃ w ∈ p.vars, _))

/-- A problem owns the variables that are the same as one of its own. -/
theorem owns_iff (p : Problem α) (v : Variable) :
  p.Owns v ↔ ∃ w ∈ p.vars, w.sameAs v = true
  := by
  simp only [Owns, Variable.sameAs, Bool.and_eq_true, beq_iff_eq, Domain.beq_eq_true_iff, and_assoc]

/-- The outcome of asking for a variable of the problem's own. -/
def ownership (p : Problem α) (v : Variable) : Except Error Unit :=
  if p.Owns v then .ok () else .error (p.lacksVariable v.id)

/-- The variable at the position that an identifier names decides whether a variable is owned. -/
theorem Numbered.owns_iff_sameAs {p : Problem α} (hp : p.Numbered) {v : Variable}
    (h : v.id < p.vars.length) :
  p.Owns v ↔ p.vars[v.id].sameAs v = true
  := by
  rw [owns_iff]
  constructor
  · rintro ⟨w, hw, hsame⟩
    obtain ⟨i, hi, rfl⟩ := List.getElem_of_mem hw
    have hid : p.vars[i].id = v.id := by
      simp only [Variable.sameAs, Bool.and_eq_true, beq_iff_eq] at hsame
      apply hsame.1.1.1
    rw [hp.id_getElem hi] at hid
    simpa only [hid] using hsame
  · intro hsame
    use p.vars[v.id], List.getElem_mem h

/-- A variable of a problem has a number below the number of its variables. -/
theorem Numbered.lt_of_owns {p : Problem α} (hp : p.Numbered) {v : Variable} (h : p.Owns v) :
  v.id < p.vars.length
  := by
  obtain ⟨w, hw, hsame, -⟩ := h
  obtain ⟨i, hi, rfl⟩ := List.getElem_of_mem hw
  rw [hp.id_getElem hi] at hsame
  apply hsame ▸ hi

/-- To look a variable up by its number is to ask whether the problem owns it. -/
theorem Numbered.requireOwn_eq {p : Problem α} (hp : p.Numbered) (v : Variable) :
  p.requireOwn v = p.ownership v
  := by
  by_cases h : v.id < p.vars.length
  · rw [requireOwn, hp.own?_eq_ok h, Outcome.ok_bind, ownership]
    simp only [hp.owns_iff_sameAs h]
    rfl
  · have hid : ∀ i < p.vars.length, (i : ℤ) ≠ v.id := by
      intro i hi
      omega
    have howns : ¬ p.Owns v := by
      intro howns
      apply h (hp.lt_of_owns howns)
    rw [requireOwn, hp.own?_eq_error hid, Outcome.error_bind, ownership, if_neg howns]

/-! ### The checks of a problem -/

/-- The checks of a problem with an objective in their order: of the objective, of the
variables, of the constraints, and of the ownership of all variables that occur. -/
def checks (p : Problem α) (o : Objective α) : List (Except Error Unit) :=
  o.check :: p.vars.map Variable.check ++ p.constraints.map (fun c => c.value.check) ++
    o.expression.vars.map p.ownership ++
    p.constraints.flatMap fun c => (c.value.lhs.vars ++ c.value.rhs.vars).map p.ownership

/-- What it takes for a problem with an objective to be well defined. -/
structure WellDefined (p : Problem α) (o : Objective α) : Prop where
  bounds : ∀ v ∈ p.vars, v.WellBounded
  shapes : ∀ c ∈ p.constraints, c.value.SameShape
  objective_owned : ∀ v ∈ o.expression.vars, p.Owns v
  sides_owned : ∀ c ∈ p.constraints, ∀ v ∈ c.value.lhs.vars ++ c.value.rhs.vars, p.Owns v

/-- Several variables are asked about in turn. -/
theorem Numbered.requireOwnAll_eq {p : Problem α} (hp : p.Numbered) (vs : List Variable) :
  p.requireOwnAll vs = Outcome.inTurn (vs.map p.ownership)
  := by
  rw [requireOwnAll, Outcome.forM_eq_inTurn, funext hp.requireOwn_eq]

/-- The variables of both sides are asked about in turn, those on the left first. -/
theorem Numbered.requireOwnSides_eq {p : Problem α} (hp : p.Numbered) (c : Constraint α) :
  p.requireOwnSides c = Outcome.inTurn ((c.lhs.vars ++ c.rhs.vars).map p.ownership)
  := by
  rw [requireOwnSides, hp.requireOwnAll_eq, hp.requireOwnAll_eq, List.map_append,
    Outcome.inTurn_append]

/-- The parts of a problem are checked in turn. -/
theorem Numbered.checkParts_eq {p : Problem α} (hp : p.Numbered) (o : Objective α) :
  p.checkParts o = Outcome.inTurn (p.checks o)
  := by
  simp only [checkParts, hp.requireOwnAll_eq, hp.requireOwnSides_eq, Outcome.forM_inTurn]
  rw [Outcome.forM_eq_inTurn, Outcome.forM_eq_inTurn]
  simp only [checks, List.cons_append, List.append_assoc, Outcome.inTurn_cons,
    Outcome.inTurn_append]

/-- Exactly the variables that a problem owns are let through. -/
theorem ownership_eq_ok_iff (p : Problem α) (v : Variable) :
  p.ownership v = .ok () ↔ p.Owns v
  := by
  rw [ownership]
  split_ifs with h
  · simp [h]
  · simp [h]

/-- The checks are those of the objective, of the variables, of the constraints, and of the
ownership of all variables that occur. -/
theorem mem_checks {p : Problem α} {o : Objective α} {r : Except Error Unit} :
  r ∈ p.checks o ↔ r = o.check ∨ (∃ v ∈ p.vars, v.check = r)
    ∨ (∃ c ∈ p.constraints, c.value.check = r) ∨ (∃ v ∈ o.expression.vars, p.ownership v = r)
    ∨ ∃ c ∈ p.constraints, ∃ v ∈ c.value.lhs.vars ++ c.value.rhs.vars, p.ownership v = r
  := by
  simp only [checks, List.cons_append, List.append_assoc, List.mem_cons, List.mem_append,
    List.mem_map, List.mem_flatMap]

/-- A variable that a problem owns is bounded as well as the one it is compared with. -/
theorem Owns.wellBounded {p : Problem α} {v : Variable} (h : p.Owns v)
    (hp : ∀ w ∈ p.vars, w.WellBounded) :
  v.WellBounded
  := by
  obtain ⟨w, hw, hsame⟩ := (p.owns_iff v).mp h
  apply (hp w hw).of_sameAs hsame

/-- All checks pass exactly if the problem is well defined. -/
theorem wellDefined_iff {p : Problem α} (hsides : ∀ c ∈ p.constraints, c.value.HasSides)
    (o : Objective α) :
  (∀ r ∈ p.checks o, r = .ok ()) ↔ p.WellDefined o
  := by
  constructor
  · intro h
    constructor
    · intro v hv
      apply v.check_eq_ok_iff.mp
      apply h _ (mem_checks.mpr (.inr (.inl ⟨v, hv, rfl⟩)))
    · intro c hc
      have hcheck := h _ (mem_checks.mpr (.inr (.inr (.inl ⟨c, hc, rfl⟩))))
      apply ((hsides c hc).check_eq_ok_iff.mp hcheck).1
    · intro v hv
      apply (p.ownership_eq_ok_iff v).mp
      apply h _ (mem_checks.mpr (.inr (.inr (.inr (.inl ⟨v, hv, rfl⟩)))))
    · intro c hc v hv
      apply (p.ownership_eq_ok_iff v).mp
      apply h _ (mem_checks.mpr (.inr (.inr (.inr (.inr ⟨c, hc, v, hv, rfl⟩)))))
  · intro h r hr
    rcases mem_checks.mp hr with
      rfl | ⟨v, hv, rfl⟩ | ⟨c, hc, rfl⟩ | ⟨v, hv, rfl⟩ | ⟨c, hc, v, hv, rfl⟩
    · apply o.expression.check_eq_ok_iff.mpr
      intro v hv
      apply (h.objective_owned v _).wellBounded h.bounds
      simp [hv, Scalar.vars]
    · apply v.check_eq_ok_iff.mpr (h.bounds v hv)
    · apply (hsides c hc).check_eq_ok_iff.mpr
      use h.shapes c hc
      intro v hv
      apply (h.sides_owned c hc v _).wellBounded h.bounds
      rcases hv with hv | hv
      · simp [hv, Expression.vars, Scalar.vars]
      · simp [hv, Expression.vars, Scalar.vars]
    · apply (p.ownership_eq_ok_iff v).mpr (h.objective_owned v hv)
    · apply (p.ownership_eq_ok_iff v).mpr (h.sides_owned c hc v hv)

/-- Every error of a check is one of the algebra itself. -/
theorem isStructural_of_mem_checks {p : Problem α}
    (hsides : ∀ c ∈ p.constraints, c.value.HasSides) {o : Objective α} {e : Error}
    (h : .error e ∈ p.checks o) :
  e.isStructural = true
  := by
  have hownership : ∀ v, p.ownership v = .error e → e.isStructural = true := by
    intro v hv
    rw [ownership] at hv
    split_ifs at hv
    cases hv
    rfl
  rcases mem_checks.mp h with he | ⟨v, -, he⟩ | ⟨c, hc, he⟩ | ⟨v, -, he⟩ | ⟨c, -, v, -, he⟩
  · apply o.expression.isStructural_of_check he.symm
  · apply v.isStructural_of_check he
  · apply (hsides c hc).isStructural_of_check he
  · apply hownership v he
  · apply hownership v he

/-- The first check that fails is reported, as the reason why the problem is not well defined. -/
theorem check_eq_of_objective {p : Problem α} {o : Objective α} (h : p.objective? = some o) :
  p.check = match p.checkParts o with
    | .ok () => .ok ()
    | .error e => .error (if e.isStructural then .notWellDefined p.name e else e)
  := by
  rw [check, objective, h]
  rfl

/-- The check passes exactly if the problem is well defined. -/
theorem check_eq_ok_iff {p : Problem α} (hp : p.Numbered)
    (hsides : ∀ c ∈ p.constraints, c.value.HasSides) {o : Objective α}
    (ho : p.objective? = some o) :
  p.check = .ok () ↔ p.WellDefined o
  := by
  rw [← wellDefined_iff hsides, ← Outcome.inTurn_eq_ok_iff, ← hp.checkParts_eq,
    check_eq_of_objective ho]
  rcases p.checkParts o with e | ⟨⟩
  · simp
  · simp

/-- The errors of the check are those whose source is the first check that fails. -/
theorem check_eq_error_iff {p : Problem α} (hp : p.Numbered)
    (hsides : ∀ c ∈ p.constraints, c.value.HasSides) {o : Objective α}
    (ho : p.objective? = some o) (e : Error) :
  p.check = .error e ↔
    ∃ source, e = .notWellDefined p.name source ∧ Outcome.FirstFailure (p.checks o) source
  := by
  simp only [← Outcome.inTurn_eq_error_iff]
  rw [check_eq_of_objective ho, hp.checkParts_eq]
  rcases hresult : Outcome.inTurn (p.checks o) with source | ⟨⟩
  · have hstructural : source.isStructural = true := by
      obtain ⟨before, after, hchecks, -⟩ := Outcome.inTurn_eq_error_iff.mp hresult
      apply isStructural_of_mem_checks hsides (o := o)
      rw [hchecks]
      apply List.mem_append_right before List.mem_cons_self
    simp [hstructural, eq_comm]
  · simp

/-- A problem is refused if it has no objective or is not well defined, and then with the error
of the first check that fails. -/
theorem check_reports_first_failure {p : Problem α} (hp : p.Reachable)
    (hsides : ∀ c ∈ p.constraints, c.value.HasSides) :
  (p.check = .error (.noObjective p.name) ↔ p.objective? = none)
    ∧ p.vars.map Variable.id = List.range p.vars.length
    ∧ ∀ o, p.objective? = some o →
        (p.check = .ok () ↔ p.WellDefined o)
        ∧ ∀ e, p.check = .error e ↔
            ∃ source, e = .notWellDefined p.name source
              ∧ Outcome.FirstFailure (p.checks o) source
  := by
  constructor
  · constructor
    · intro h
      rcases ho : p.objective? with - | o
      · rfl
      · obtain ⟨source, hsource, -⟩ := (check_eq_error_iff hp.numbered hsides ho _).mp h
        cases hsource
    · intro h
      rw [check, objective, h]
      rfl
  · use hp.numbered.ids_eq
    intro o ho
    use check_eq_ok_iff hp.numbered hsides ho
    apply check_eq_error_iff hp.numbered hsides ho

/-- A copy of the first variable of a problem, under another name. -/
def copiedVariable : Variable := ⟨0, 0.0, 1.0, .binary, .text "copy", 7⟩

/-- The problem to minimise a copy of its variable, which stands in a vector of one entry that is
compared with one of two. -/
def misfitting : Problem ℚ :=
  (empty (.text "misfitting")).run [
    .addVariable .binary (.text "x") 0,
    .addConstraint (.constraint
      ⟨1, .ofVectors ⟨.vars [copiedVariable], .column⟩ .lessEqual ⟨.const [1, 2], .column⟩⟩),
    .setObjective (.expression (.scalar (.var copiedVariable))) .minimize]

/-- A problem with sides of different lengths, and a copy of its variable. -/
theorem check_reports_first_failure_misfitting :
  misfitting.Reachable ∧ (∀ c ∈ misfitting.constraints, c.value.HasSides)
    ∧ misfitting.Owns copiedVariable
    ∧ ∃ o, misfitting.objective? = some o ∧ ¬ misfitting.WellDefined o
      ∧ Outcome.FirstFailure (misfitting.checks o)
        (.dimensionMismatch .comparison [1, 1] [2, 1])
  := by
  have hreach : misfitting.Reachable := ⟨_, _, rfl⟩
  have hsides : ∀ c ∈ misfitting.constraints, c.value.HasSides := by
    intro c hc
    rw [List.mem_singleton.mp hc]
    apply Constraint.HasSides.vectors
  have howns : misfitting.Owns copiedVariable := by decide +kernel
  have hcheck : misfitting.check = .error (.notWellDefined (.text "misfitting")
      (.dimensionMismatch .comparison [1, 1] [2, 1])) := rfl
  obtain ⟨-, -, h⟩ := check_reports_first_failure hreach hsides
  obtain ⟨hok, herror⟩ := h ⟨.var copiedVariable, .minimize⟩ rfl
  use hreach, hsides, howns
  refine ⟨_, rfl, ?_, ?_⟩
  · rw [← hok, hcheck]
    nofun
  · obtain ⟨source, hsource, hfirst⟩ := (herror _).mp hcheck
    cases hsource
    apply hfirst

end Problem

end QuadraticProgram
