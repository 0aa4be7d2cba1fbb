import Mathlib.Order.Bounds.Defs
import QuadraticProgram.Proofs.Constraint.Comparison
import QuadraticProgram.Proofs.Problem.Extraction

/-!
# Linear problems

A problem that is well defined is looked at once more by the check of a linear problem: a quadratic
objective is refused first, then the first constraint with a quadratic side. The part that is
refused is the one that makes the problem not linear (`Problem.NonlinearAt`). If no part is
refused, the matrices leave out no constraint (`Problem.checkLinear_reports_nonlinear_part`).
-/

namespace QuadraticProgram

variable {α : Type} [Coefficient α]

/-! ### Quadratic parts -/

/-- A constraint with a quadratic expression on one of its sides. -/
def Constraint.HasQuadraticSide (c : Constraint α) : Prop :=
  ∃ f, c.lhs = .scalar (.quadratic f) ∨ c.rhs = .scalar (.quadratic f)

/-- Only quadratic forms are not linear, zero or not. -/
theorem Scalar.isLinear_eq_false_iff {a : Scalar α} :
  a.isLinear = false ↔ ∃ f, a = .quadratic f
  := by
  cases a with
  | quadratic f => simp [isLinear]
  | _ => simp [isLinear]

/-- Only quadratic forms are not linear, and vectors and matrices always are. -/
theorem Expression.isLinear_eq_false_iff {e : Expression α} :
  e.isLinear = false ↔ ∃ f, e = .scalar (.quadratic f)
  := by
  cases e with
  | scalar a =>
      rw [isLinear, Scalar.isLinear_eq_false_iff]
      simp
  | _ => simp [isLinear]

/-- A constraint is not linear exactly if a side is quadratic. -/
theorem Constraint.isLinear_eq_false_iff {c : Constraint α} :
  c.isLinear = false ↔ c.HasQuadraticSide
  := by
  rw [isLinear, Bool.and_eq_false_iff, Expression.isLinear_eq_false_iff,
    Expression.isLinear_eq_false_iff, HasQuadraticSide, exists_or]

theorem Constraint.isLinear_iff {c : Constraint α} :
  c.isLinear = true ↔ ¬ c.HasQuadraticSide
  := by
  rw [← isLinear_eq_false_iff, Bool.not_eq_false]

theorem Constraint.IsComparison.hasSides {c : Constraint α} (hc : c.IsComparison) :
  c.HasSides
  := by
  rcases hc.sides with ⟨a, s, b, rfl⟩ | ⟨u, s, v, -, -, rfl⟩
  · apply HasSides.scalars
  · apply HasSides.vectors

namespace Problem

variable {p : Problem α}

/-- A problem with an objective that is quadratic. -/
def HasQuadraticObjective (p : Problem α) : Prop :=
  ∃ o f, p.objective? = some o ∧ o.expression = .quadratic f

/-- The positions of the constraints with a quadratic side. -/
def quadraticPositions (cs : List (Tagged (Constraint α))) : Set ℕ :=
  {k | ∃ c, cs[k]? = some c ∧ c.value.HasQuadraticSide}

/-- The part of a problem that makes it not linear. The objective matters only in a problem that is
well defined, and the constraints only beside an objective that is linear. -/
inductive NonlinearAt (p : Problem α) : NonlinearPart → Prop
  | notWellDefined {e : Error} (h : p.check = .error e) : NonlinearAt p .notWellDefined
  | objective (h : p.check = .ok ()) (ho : p.HasQuadraticObjective) : NonlinearAt p .objective
  | constraint {k : ℕ} (h : p.check = .ok ()) (ho : ¬ p.HasQuadraticObjective)
      (hk : IsLeast (quadraticPositions p.constraints) k) : NonlinearAt p (.constraint k)

/-- The objective is quadratic exactly if it is not linear. -/
theorem hasQuadraticObjective_iff {o : Objective α} (ho : p.objective? = some o) :
  p.HasQuadraticObjective ↔ o.isLinear = false
  := by
  rw [HasQuadraticObjective, ho, Objective.isLinear, Scalar.isLinear_eq_false_iff]
  simp

/-- A problem is linear exactly if it has no quadratic part. -/
theorem isLinear_iff :
  p.isLinear = true ↔
    ¬ p.HasQuadraticObjective ∧ ∀ c ∈ p.constraints, ¬ c.value.HasQuadraticSide
  := by
  rw [isLinear, Bool.and_eq_true, List.all_eq_true]
  simp only [Constraint.isLinear_iff]
  apply and_congr_left'
  rcases ho : p.objective? with - | o
  · simp [HasQuadraticObjective, ho]
  · rw [hasQuadraticObjective_iff ho, Bool.not_eq_false]
    rfl

/-! ### The first constraint with a quadratic side -/

variable {c : Tagged (Constraint α)} {cs : List (Tagged (Constraint α))} {k : ℕ}

/-- A first constraint with a quadratic side is the least one. -/
theorem isLeast_quadraticPositions_cons (hc : c.value.HasQuadraticSide) :
  IsLeast (quadraticPositions (c :: cs)) k ↔ k = 0
  := by
  have hzero : IsLeast (quadraticPositions (c :: cs)) 0 := by
    constructor
    · use c, rfl
    · intro n _
      apply n.zero_le
  constructor
  · intro h
    apply h.unique hzero
  · rintro rfl
    apply hzero

/-- Another first constraint moves the least one back by one. -/
theorem isLeast_quadraticPositions_cons_of_not (hc : ¬ c.value.HasQuadraticSide) :
  IsLeast (quadraticPositions (c :: cs)) k ↔
    ∃ n, k = n + 1 ∧ IsLeast (quadraticPositions cs) n
  := by
  constructor
  · rintro ⟨⟨d, hd, hquadratic⟩, hleast⟩
    cases k with
    | zero =>
        cases hd
        exact absurd hquadratic hc
    | succ n =>
        use n, rfl
        constructor
        · use d, hd
        · rintro m ⟨b, hb, hm⟩
          apply Nat.le_of_succ_le_succ
          apply hleast
          use b, hb
  · rintro ⟨n, rfl, ⟨d, hd, hquadratic⟩, hleast⟩
    constructor
    · use d, hd
    · rintro m ⟨b, hb, hm⟩
      cases m with
      | zero =>
          cases hb
          exact absurd hm hc
      | succ m =>
          apply Nat.succ_le_succ
          apply hleast
          use b, hb

/-- The constraint that is refused is the one at the smallest position with a quadratic side. -/
theorem requireLinear_eq_error_iff {e : Error} :
  p.requireLinear k cs = .error e ↔
    ∃ n, e = .notLinear p.name (.constraint (k + n)) ∧ IsLeast (quadraticPositions cs) n
  := by
  induction cs generalizing k with
  | nil => simp [requireLinear, IsLeast, quadraticPositions]
  | cons c cs ih =>
      rw [requireLinear]
      by_cases hc : c.value.HasQuadraticSide
      · rw [Constraint.isLinear_eq_false_iff.mpr hc, if_neg Bool.false_ne_true]
        simp only [isLeast_quadraticPositions_cons hc, exists_eq_right, add_zero,
          Except.error.injEq]
        apply eq_comm
      · rw [if_pos (Constraint.isLinear_iff.mpr hc), ih]
        simp only [isLeast_quadraticPositions_cons_of_not hc]
        constructor
        · rintro ⟨n, he, hn⟩
          use n + 1
          rw [he, Nat.succ_add_eq_add_succ]
          use rfl, n
        · rintro ⟨m, he, n, rfl, hn⟩
          use n
          rw [he, Nat.succ_add_eq_add_succ]
          use rfl

/-- All constraints pass exactly if none has a quadratic side. -/
theorem requireLinear_eq_ok_iff :
  p.requireLinear k cs = .ok () ↔ ∀ c ∈ cs, ¬ c.value.HasQuadraticSide
  := by
  constructor
  · intro h c hc
    apply Constraint.isLinear_iff.mp (isLinear_of_requireLinear h c hc)
  · intro h
    rcases hresult : p.requireLinear k cs with e | ⟨⟩
    · obtain ⟨n, -, ⟨c, hc, hquadratic⟩, -⟩ := requireLinear_eq_error_iff.mp hresult
      exact absurd hquadratic (h c (List.mem_of_getElem? hc))
    · rfl

/-! ### The check of a linear problem -/

/-- A problem that is not well defined is refused with an error of the algebra itself. -/
theorem Numbered.isStructural_of_check (hp : p.Numbered)
    (hsides : ∀ c ∈ p.constraints, c.value.HasSides) {e : Error} (h : p.check = .error e) :
  e.isStructural = true
  := by
  rcases ho : p.objective? with - | o
  · rw [check, objective, ho] at h
    cases h
    rfl
  · obtain ⟨source, rfl, -⟩ := (check_eq_error_iff hp hsides ho e).mp h
    rfl

/-- A problem whose check fails for its structure is refused as not well defined. -/
theorem checkLinear_of_check_eq_error {e : Error} (h : p.check = .error e)
    (he : e.isStructural = true) :
  p.checkLinear = .error (.notLinear p.name .notWellDefined)
  := by
  rw [checkLinear, h]
  simp only [if_pos he]
  rfl

/-- In a problem that is well defined the objective is looked at before the constraints. -/
theorem checkLinear_of_check {o : Objective α} (h : p.check = .ok ()) (ho : p.objective? = some o) :
  p.checkLinear = if o.isLinear then p.requireLinear 0 p.constraints
    else .error (.notLinear p.name .objective)
  := by
  rw [checkLinear, h, objective, ho]
  rfl

/-- The check passes exactly for linear problems that are well defined. -/
theorem Numbered.checkLinear_eq_ok_iff (hp : p.Numbered)
    (hsides : ∀ c ∈ p.constraints, c.value.HasSides) :
  p.checkLinear = .ok () ↔ p.check = .ok () ∧ p.isLinear = true
  := by
  rcases h : p.check with e | ⟨⟩
  · rw [checkLinear_of_check_eq_error h (hp.isStructural_of_check hsides h)]
    simp
  · obtain ⟨o, ho⟩ := Option.isSome_iff_exists.mp (isSome_objective?_of_check h)
    rw [checkLinear_of_check h ho, isLinear_iff, hasQuadraticObjective_iff ho]
    by_cases hlinear : o.isLinear = true
    · simp [hlinear, requireLinear_eq_ok_iff]
    · simp [hlinear]

/-- The part that is not linear is the one that is reported. -/
theorem Numbered.checkLinear_of_nonlinearAt (hp : p.Numbered)
    (hsides : ∀ c ∈ p.constraints, c.value.HasSides) {part : NonlinearPart}
    (h : p.NonlinearAt part) :
  p.checkLinear = .error (.notLinear p.name part)
  := by
  cases h with
  | notWellDefined hcheck =>
      apply checkLinear_of_check_eq_error hcheck (hp.isStructural_of_check hsides hcheck)
  | objective hcheck hquadratic =>
      obtain ⟨o, ho⟩ := Option.isSome_iff_exists.mp (isSome_objective?_of_check hcheck)
      rw [checkLinear_of_check hcheck ho, (hasQuadraticObjective_iff ho).mp hquadratic]
      rfl
  | @constraint k hcheck hnot hk =>
      obtain ⟨o, ho⟩ := Option.isSome_iff_exists.mp (isSome_objective?_of_check hcheck)
      rw [hasQuadraticObjective_iff ho, Bool.not_eq_false] at hnot
      rw [checkLinear_of_check hcheck ho, if_pos hnot, requireLinear_eq_error_iff]
      use k
      rw [zero_add]
      use rfl

/-- Whatever is reported is a part that is not linear. -/
theorem exists_nonlinearAt_of_checkLinear {e : Error} (h : p.checkLinear = .error e)
    (hstructural : ∀ d, p.check = .error d → d.isStructural = true) :
  ∃ part, e = .notLinear p.name part ∧ p.NonlinearAt part
  := by
  rcases hcheck : p.check with d | ⟨⟩
  · rw [checkLinear_of_check_eq_error hcheck (hstructural d hcheck)] at h
    cases h
    use .notWellDefined, rfl, .notWellDefined hcheck
  · obtain ⟨o, ho⟩ := Option.isSome_iff_exists.mp (isSome_objective?_of_check hcheck)
    rw [checkLinear_of_check hcheck ho] at h
    have hobjective := hasQuadraticObjective_iff ho
    split_ifs at h with hlinear
    · obtain ⟨k, rfl, hk⟩ := requireLinear_eq_error_iff.mp h
      rw [zero_add]
      use .constraint k, rfl
      apply NonlinearAt.constraint hcheck _ hk
      rw [hobjective, hlinear]
      decide
    · cases h
      use .objective, rfl
      apply NonlinearAt.objective hcheck
      rw [hobjective, ← Bool.not_eq_true]
      apply hlinear

/-- The check fails exactly with the part that is not linear. -/
theorem Numbered.checkLinear_eq_error_iff (hp : p.Numbered)
    (hsides : ∀ c ∈ p.constraints, c.value.HasSides) {e : Error} :
  p.checkLinear = .error e ↔ ∃ part, e = .notLinear p.name part ∧ p.NonlinearAt part
  := by
  constructor
  · intro h
    apply exists_nonlinearAt_of_checkLinear h
    intro d hd
    apply hp.isStructural_of_check hsides hd
  · rintro ⟨part, rfl, hpart⟩
    apply hp.checkLinear_of_nonlinearAt hsides hpart

/-! ### Extraction without skipping -/

/-- The note on a constraint, counted from zero, that gives rows. -/
def rowsNote (p : Problem α) (x : Constraint α × ℕ) : Note :=
  ⟨.trace, "Constraint #" ++ toString x.2 ++ " of problem " ++ p.name.shown ++ " gives " ++
    toString x.1.rowCount ++ " row(s)"⟩

/-- Without skipping there is a note for each block of rows. -/
theorem notesOn_eq_map {xs : List (Constraint α × ℕ)}
    (h : ∀ x ∈ xs, ∃ b, p.block? x.1 = .ok (some b)) :
  p.notesOn xs = xs.map p.rowsNote
  := by
  induction xs with
  | nil => rfl
  | cons x xs ih =>
      obtain ⟨⟨b, hb⟩, hxs⟩ := List.forall_mem_cons.mp h
      rw [List.map_cons, ← ih hxs, rowsNote, ← rows_of_block? hb, notesOn, hb]

/-- A family whose constraints all have a block has these blocks, in the order of the
constraints. -/
theorem exists_blocks_of_forall_family {f : Family}
    (h : ∀ x ∈ p.family f, ∃ b, p.block? x.1 = .ok (some b)) :
  ∃ bs, p.blocks f = .ok bs
    ∧ List.Forall₂ (fun x b => p.block? x.1 = .ok (some b)) (p.family f) bs
  := by
  obtain ⟨found, hfound, hall⟩ := Outcome.exists_mapM (f := fun x => p.block? x.1)
    (P := fun x o => ∃ b, p.block? x.1 = .ok (some b) ∧ o = some b)
    fun x hx => (h x hx).elim fun b hb => ⟨some b, hb, b, hb, rfl⟩
  have hblocks : p.blocks f = .ok (found.filterMap id) :=
    Outcome.bind_eq_ok_iff.mpr ⟨found, hfound, rfl⟩
  use found.filterMap id, hblocks
  clear hfound hblocks
  generalize p.family f = xs at hall
  induction hall with
  | nil => apply List.Forall₂.nil
  | cons ho _ ih =>
      obtain ⟨b, hb, rfl⟩ := ho
      exact List.Forall₂.cons hb ih

/-- The constraints of a problem that is found to be linear have a block each. -/
theorem Numbered.exists_block_of_checkLinear (hp : p.Numbered)
    (hsides : ∀ c ∈ p.constraints, c.value.HasSides) (h : p.checkLinear = .ok ()) (f : Family) :
  ∀ x ∈ p.family f, ∃ b, p.block? x.1 = .ok (some b)
  := by
  obtain ⟨hcheck, hlinear⟩ := check_of_checkLinear h
  apply (forall_mem_family (Q := fun c => ∃ b, p.block? c = .ok (some b))).mpr
  intro c hc _
  apply hp.exists_block_of_hasSides (hsides c hc) (hlinear c hc)
    (check_constraint_of_check hcheck hc).1
  intro v hv
  apply hp.lt_of_check hcheck hc hv

/-- A problem whose constraints are comparisons is found to be linear exactly if it is well defined
and linear. Otherwise it is refused for the part that makes it not linear. In a problem that is
found to be linear each constraint gives a block of rows, and no note speaks of a constraint that
is skipped. -/
theorem checkLinear_reports_nonlinear_part (hp : p.Reachable)
    (hc : ∀ c ∈ p.constraints, c.value.IsComparison) :
  (p.checkLinear = .ok () ↔ p.check = .ok () ∧ p.isLinear = true)
    ∧ (∀ e, p.checkLinear = .error e ↔
        ∃ part, e = .notLinear p.name part ∧ p.NonlinearAt part)
    ∧ (p.checkLinear = .ok () → ∀ f : Family, ∃ bs A t,
        p.blocks f = .ok bs
        ∧ List.Forall₂ (fun x b => p.block? x.1 = .ok (some b)) (p.family f) bs
        ∧ p.matricesOr f true = .ok (A, t)
        ∧ A.rows = ((p.family f).map fun x => x.1.rowCount).sum
        ∧ p.notes f = (p.family f).map p.rowsNote)
  := by
  have hsides : ∀ c ∈ p.constraints, c.value.HasSides := by
    intro c hmem
    apply (hc c hmem).hasSides
  constructor
  · apply hp.numbered.checkLinear_eq_ok_iff hsides
  · constructor
    · intro e
      apply hp.numbered.checkLinear_eq_error_iff hsides
    · intro h f
      have hblock := hp.numbered.exists_block_of_checkLinear hsides h f
      obtain ⟨hcheck, hlinear⟩ := check_of_checkLinear h
      obtain ⟨bs, hbs, hall⟩ := exists_blocks_of_forall_family hblock
      obtain ⟨A, t, hmatrices⟩ := (hp.numbered.exists_matricesOr_iff hcheck hlinear (f := f)).mpr
        (.inl fun c hmem _ => hsides c hmem)
      have hfamily : ∀ x ∈ p.family f, x.1.isLinear = true :=
        (forall_mem_family (Q := fun c => c.isLinear = true)).mpr fun c hmem _ => hlinear c hmem
      use bs, A, t, hbs, hall, hmatrices
      constructor
      · rw [rows_of_matricesOr hmatrices]
        apply congrArg List.sum
        apply List.map_congr_left
        intro x hx
        rw [if_pos (hfamily x hx)]
      · apply notesOn_eq_map hblock

/-- The square of a variable. -/
def squareOf (v : Variable) : Scalar ℚ :=
  .quadratic ⟨[v], .ofFn 1 1 fun _ _ => 1, [0], 0, rfl, rfl, rfl, rfl⟩

/-- The problem of mixed forms with the square of its variable bounded twice. -/
def boundedSquare : Problem ℚ :=
  (empty (.text "square")).run [
    .addVariable .binary (.text "x") 0,
    .addConstraint (.constraint ⟨1, .ofScalars (.var loneVariable) .greaterEqual (.const 1)⟩),
    .addConstraint (.constraint ⟨2, .ofVectors ⟨.vars [loneVariable, loneVariable], .column⟩
      .equal ⟨.const [1, 1], .column⟩⟩),
    .addConstraint (.constraint ⟨3, .ofScalars (squareOf loneVariable) .lessEqual (.const 2)⟩),
    .addConstraint (.constraint ⟨4, .ofScalars (.const 0) .lessEqual (squareOf loneVariable)⟩),
    .setObjective (.expression (.scalar (.var loneVariable))) .minimize]

/-- The first square is refused. Without the squares the two rows of the vector constraint are
extracted. -/
theorem checkLinear_reports_nonlinear_part_boundedSquare :
  boundedSquare.Reachable ∧ (∀ c ∈ boundedSquare.constraints, c.value.IsComparison)
    ∧ boundedSquare.NonlinearAt (.constraint 2)
    ∧ mixedForms.checkLinear = .ok ()
    ∧ ∃ A t, mixedForms.matricesOr .equalities true = .ok (A, t) ∧ A.rows = 2
      ∧ mixedForms.notes .equalities
        = [⟨.trace, "Constraint #1 of problem 'mixed' gives 2 row(s)"⟩]
  := by
  have hmixed : ∀ c ∈ mixedForms.constraints, c.value.IsComparison := by
    intro c hc
    rcases List.mem_cons.mp hc with rfl | hc
    · apply Constraint.isComparison_ofScalars
    · rw [List.mem_singleton.mp hc]
      apply Constraint.isComparison_ofVectors
      · rfl
      · rfl
  have hsquare : ∀ c ∈ boundedSquare.constraints, c.value.IsComparison := by
    intro c hc
    have hmore : boundedSquare.constraints = mixedForms.constraints
      ++ [⟨3, .ofScalars (squareOf loneVariable) .lessEqual (.const 2)⟩,
        ⟨4, .ofScalars (.const 0) .lessEqual (squareOf loneVariable)⟩] := rfl
    rw [hmore] at hc
    rcases List.mem_append.mp hc with hc | hc
    · apply hmixed c hc
    · rcases List.mem_cons.mp hc with rfl | hc
      · apply Constraint.isComparison_ofScalars
      · rw [List.mem_singleton.mp hc]
        apply Constraint.isComparison_ofScalars
  have hreach : boundedSquare.Reachable := ⟨_, _, rfl⟩
  have hreach' : mixedForms.Reachable := ⟨_, _, rfl⟩
  have hlinear : mixedForms.checkLinear = .ok () := rfl
  obtain ⟨-, herror, -⟩ := checkLinear_reports_nonlinear_part hreach hsquare
  obtain ⟨-, -, hextracted⟩ := checkLinear_reports_nonlinear_part hreach' hmixed
  use hreach, hsquare
  constructor
  · obtain ⟨part, hpart, hnonlinear⟩ :=
      (herror (.notLinear (.text "square") (.constraint 2))).mp rfl
    cases hpart
    apply hnonlinear
  · obtain ⟨bs, A, t, -, -, hmatrices, hrows, hnotes⟩ := hextracted hlinear .equalities
    use hlinear, A, t, hmatrices, hrows
    rw [hnotes]
    decide

end Problem

end QuadraticProgram
