import QuadraticProgram.Proofs.Session.Record
import QuadraticProgram.Proofs.Session.Whole

/-!
# What the methods of a problem add

Each method that adds something to a problem either replaces its record by a grown one or is
refused and leaves the session as it was. Several constraints are added one by one: those before
the first one that is refused remain (`ends_addConstraints`). A grid is made only after its
variables were added, but then it is never refused (`ends_grid`).
-/

namespace QuadraticProgram.Session

open ProblemMethod

variable {s t : State} {tag : ℕ} {r : Record}

/-! ### Variables -/

/-- A variable is added to the record, or its name is refused and nothing is changed. -/
theorem ends_addVariable (h : s.problems.lookup tag = some r) (kind : VariableKind)
    (name : Value) :
  (addVariable tag kind name).Ends s
    (fun _ t => ∃ label own,
      s.Replaces tag { r with problem := r.problem.addVariable kind label own } t)
    fun _ t => s.Agrees t
  := by
  rw [addVariable, Act.ends_bind, Act.ends_record h]
  apply (Act.isQuiet_label name).ends_bind
  intro label t ht
  rw [Act.ends_bind, Act.ends_fresh, Act.ends_bind]
  have hu := ht.trans (t.agrees_nextTag (t.nextTag + 1))
  apply (Act.ends_setAttribute t.nextTag "name" name).of_total
  rintro ⟨⟩ v ⟨hregisters, hproblems, hnotes⟩
  rw [Act.ends_bind]
  apply Act.ends_setRecord.of_total
  rintro ⟨⟩ w ⟨hw, -⟩
  use label, t.nextTag
  apply hu.replaces
  constructor
  · rw [hw.registers_eq, hregisters]
  · rw [← hproblems]
    apply hw.lookup_problems
  · rw [hw.notes_eq, hnotes]

/-- Variables as a column. -/
def ofVariables (vs : List Variable) (own : ℕ) : Value :=
  .expression own (.vector ⟨.vars vs, .column⟩)

/-- A vector as a value needs a tag. -/
theorem expression_vector (u : Vec Float) :
  Act.expression (.vector u) = Act.fresh >>= fun own => pure (.expression own (.vector u))
  := rfl

/-- What several variables share is read only if there are any. -/
theorem ends_ite_kind {c : Prop} [Decidable c] {kind : Act VariableKind} (hkind : kind.IsQuiet)
    {rest : VariableKind → Act Value} {P : Value → State → Prop}
    (hrest : ∀ k t, s.Agrees t → (rest k).Ends t P fun _ u => t.Agrees u) :
  (if c then kind >>= rest else pure .real >>= rest).Ends s P fun _ t => s.Agrees t
  := by
  split
  · apply hkind.ends_bind hrest
  · apply (Act.isQuiet_pure _).ends_bind hrest

/-- A problem that is made anew with fresh tags replaces the one in its record. If it is refused
only the tags are used up. -/
theorem ends_replaceProblem {β : Type} (h : s.problems.lookup tag = some r) (n : ℕ)
    (make : Record → ℕ → Except Error (Problem Float × β)) (rest : β → Act Value)
    {P : Value → State → Prop}
    (hrest : ∀ first q b t, make r first = .ok (q, b) →
      s.Replaces tag { r with problem := q } t → (rest b).Ends t P fun _ _ => False) :
  (do
    let r ← Act.record tag
    let first ← Act.freshMany n
    let (problem, b) ← Act.ofExcept (make r first)
    Act.setRecord tag { r with problem := problem }
    rest b).Ends s P fun _ t => s.Agrees t
  := by
  rw [Act.ends_bind, Act.ends_record h, Act.ends_bind, Act.ends_freshMany, Act.ends_bind,
    Act.ends_ofExcept]
  constructor
  · rintro ⟨q, b⟩ hq
    rw [Act.ends_bind]
    apply Act.ends_setRecord.of_total
    rintro ⟨⟩ t ⟨ht, -⟩
    apply (hrest _ q b t hq ((s.agrees_nextTag _).replaces ht)).of_total
    intro v u hu
    apply hu
  · intro error _
    apply s.agrees_nextTag

/-- Variables are added to the record all at once, and given as a column. -/
theorem ends_addVariables (h : s.problems.lookup tag = some r) (n : ℤ) {kind : Act VariableKind}
    (hkind : kind.IsQuiet) :
  (addVariables tag n kind).Ends s
    (fun v t => ∃ k first own, v = ofVariables (r.problem.addVariables k first n.toNat).2 own ∧
      s.Replaces tag { r with problem := (r.problem.addVariables k first n.toNat).1 } t)
    fun _ t => s.Agrees t
  := by
  unfold addVariables
  apply ends_ite_kind hkind
  intro k t ht
  apply ends_replaceProblem (ht.lookup h) n.toNat
    (fun r first => r.problem.addVector k first n) fun v => Act.expression (.vector v)
  intro first q v u hq hu
  rw [Problem.addVector] at hq
  split at hq
  · contradiction
  · cases hq
    rw [expression_vector, Act.ends_bind, Act.ends_fresh, Act.ends_pure]
    use k, first, u.nextTag
    constructor
    · rfl
    · apply (ht.replaces hu).agrees (u.agrees_nextTag _)

/-- A column of variables is added if their number is an index and not negative. -/
theorem ends_addVector (h : s.problems.lookup tag = some r) (n : Value) {kind : Act VariableKind}
    (hkind : kind.IsQuiet) :
  (addVector tag n kind).Ends s
    (fun v t => ∃ m k first own, n.toIndex = .ok m ∧
      v = ofVariables (r.problem.addVariables k first m.toNat).2 own ∧
      s.Replaces tag { r with problem := (r.problem.addVariables k first m.toNat).1 } t)
    fun _ t => s.Agrees t
  := by
  rw [addVector]
  apply (Act.isQuiet_isOrdered _ _ _).ends_bind
  intro isNegative t ht
  dsimp only
  split
  · apply (Act.isQuiet_printed n).ends_bind
    intro text u hu
    apply State.Agrees.refl
  · rw [Act.ends_bind, Act.ends_ofResult]
    constructor
    · intro m hm
      apply (ends_addVariables (ht.lookup h) m hkind).imp
      rintro v u ⟨k, first, own, hv, hu⟩
      use m, k, first, own, hm, hv
      apply ht.replaces hu
    · intro f _
      rfl

/-! ### Grids -/

/-- The variables of a grid whose sizes are integers are added all at once. -/
theorem ends_addGrid (h : s.problems.lookup tag = some r) (m n : ℤ) {kind : Act VariableKind}
    (hkind : kind.IsQuiet) :
  (addGrid tag m n kind).Ends s
    (fun _ t => ∃ k first size,
      s.Replaces tag { r with problem := (r.problem.addVariables k first size).1 } t)
    fun _ t => s.Agrees t
  := by
  unfold addGrid
  apply ends_ite_kind hkind
  intro k t ht
  apply ends_replaceProblem (ht.lookup h) (m.toNat * n.toNat)
    (fun r first => r.problem.addGrid k first m n) fun g => do
      return .grid (← Act.fresh) (g.elements.map Value.ofVariable) (.ofInt m) (.ofInt n)
  intro first q g u hq hu
  rw [Problem.addGrid] at hq
  split at hq
  · contradiction
  · cases hq
    rw [Act.ends_bind, Act.ends_fresh, Act.ends_pure]
    use k, first, m.toNat * n.toNat
    apply (ht.replaces hu).agrees (u.agrees_nextTag _)

/-- The items of a column of variables are the variables. -/
theorem after_items_ofVariables (vs : List Variable) (own : ℕ) (s : State) :
  (ofVariables vs own).items.after s = (.ok (vs.map Value.ofVariable), s)
  := by
  have hlist : (⟨.vars vs, .column⟩ : Vec Float).toList = vs.map Scalar.var := by
    change (List.finRange vs.length).map (Scalar.var ∘ vs.get) = _
    rw [← List.map_map, List.map_get_finRange]
  change (List.mapM Value.entryValue (⟨.vars vs, .column⟩ : Vec Float).toList).after s = _
  rw [hlist]
  clear hlist
  induction vs with
  | nil => rfl
  | cons v vs ih =>
      have hv : (Value.entryValue (.var v)).after s = (.ok (.ofVariable v), s) := rfl
      rw [List.map_cons, List.mapM_cons, Act.after_bind_of_after hv, Act.after_bind_of_after ih]
      rfl

/-- As many variables as the product of two sizes leave no place empty. -/
theorem after_isUnfilled {rows columns : Value} {m n : ℤ} (hrows : rows.whole? = some m)
    (hcolumns : columns.whole? = some n) (hm : 0 ≤ m) (hn : 0 ≤ n) {vs : List Variable}
    (hvs : (vs.length : ℤ) = m * n) (own : ℕ) (s : State) :
  (Construct.isUnfilled (ofVariables vs own) rows columns).after s = (.ok false, s)
  := by
  have hlength : (ofVariables vs own).length = .ok vs.length := rfl
  have hdiffers : (Construct.countDiffers vs.length (.ofInt (m * n))).after s
      = (.ok false, s) := by
    change (Act.different (.ofInt vs.length) (.ofInt (m * n)) >>= _).after s = _
    rw [Act.after_bind_of_after (after_different vs.length (m * n) s), hvs, bne_self_eq_false]
    rfl
  rw [Construct.isUnfilled, Act.after_bind_of_after (after_isOrdered_zero hrows s),
    decide_eq_false (Int.not_lt.mpr hm), if_neg Bool.false_ne_true,
    Act.after_bind_of_after (after_isOrdered_zero hcolumns s),
    decide_eq_false (Int.not_lt.mpr hn), if_neg Bool.false_ne_true, hlength,
    Act.after_bind_of_after (Act.after_ofResult_ok vs.length s),
    Act.after_bind_of_after (after_product hrows hcolumns s), hdiffers]

/-- As many variables as the product of two sizes fill a grid of these sizes. -/
theorem ends_grid {rows columns : Value} {m n : ℤ} (hrows : rows.whole? = some m)
    (hcolumns : columns.whole? = some n) (hm : 0 ≤ m) (hn : 0 ≤ n) {vs : List Variable}
    (hvs : (vs.length : ℤ) = m * n) (own : ℕ) (s : State) :
  (Construct.grid (ofVariables vs own) (.ofTuple [rows, columns])).Ends s
    (fun _ t => s.Agrees t) fun _ _ => False
  := by
  have hsizes : (Value.ofTuple [rows, columns]).bothItems.after s = (.ok (rows, columns), s) := rfl
  rw [Construct.grid, Act.ends_bind, Act.ends_of_after hsizes, Act.ends_bind,
    Act.ends_of_after (after_isUnfilled hrows hcolumns hm hn hvs own s)]
  dsimp only
  rw [if_neg Bool.false_ne_true, Act.ends_bind, Act.ends_fresh, Act.ends_bind,
    Act.ends_of_after (after_items_ofVariables vs own _)]
  apply s.agrees_nextTag

/-- If neither size is negative, both are at least zero where they are whole numbers. -/
theorem ends_areNegative (rows columns : Value) (s : State) :
  (do
    if ← Act.isOrdered .less rows (.ofInt 0) then return true
    else Act.isOrdered .less columns (.ofInt 0)).Ends s
    (fun b t => s.Agrees t ∧ (b = false →
      (∀ m, rows.whole? = some m → 0 ≤ m) ∧ ∀ n, columns.whole? = some n → 0 ≤ n))
    fun _ t => s.Agrees t
  := by
  rw [Act.ends_bind]
  apply (ends_isOrdered_zero rows s).imp
  rintro isNegative t ⟨ht, hrows⟩
  split
  · use ht
    intro hfalse
    contradiction
  · next hnone =>
      apply ((ends_isOrdered_zero columns t).of_agrees ht).imp
      rintro isNegative u ⟨hu, hcolumns⟩
      use ht.trans hu
      intro hfalse
      exact ⟨hrows (eq_false_of_ne_true hnone), hcolumns hfalse⟩

/-- The variables of a grid are added if its sizes have a product that counts as a length. -/
theorem ends_addSizedGrid (h : s.problems.lookup tag = some r) (rows columns : Value)
    {kind : Act VariableKind} (hkind : kind.IsQuiet) :
  (addSizedGrid tag rows columns kind).Ends s
    (fun _ t => ∃ k first size,
      s.Replaces tag { r with problem := (r.problem.addVariables k first size).1 } t)
    fun _ t => s.Agrees t
  := by
  rw [addSizedGrid.eq_def]
  split
  · apply ends_addGrid h _ _ hkind
  · rw [Act.ends_bind]
    apply (ends_areNegative rows columns s).imp
    rintro areNegative t ⟨ht, hpositive⟩
    apply Act.Ends.of_agrees ht
    dsimp only
    split
    · apply (Act.isQuiet_printed rows).ends_bind
      intro rowsText u hu
      apply (Act.isQuiet_printed columns).ends_bind
      intro columnsText v hv
      apply State.Agrees.refl
    · next hnone =>
        obtain ⟨hm, hn⟩ := hpositive (eq_false_of_ne_true hnone)
        rw [Act.ends_bind]
        apply (ends_product rows columns t).imp
        rintro product u ⟨hu, hproduct⟩
        apply Act.Ends.of_agrees hu
        rw [Act.ends_bind]
        apply (ends_addVector (hu.lookup (ht.lookup h)) product hkind).imp
        rintro elements v ⟨size, k, first, own, hsize, rfl, hv⟩
        -- a product that is an index is one of whole numbers, so that a grid of these sizes
        -- takes just the variables that were added
        obtain ⟨m, n, hrows, hcolumns, rfl⟩ := hproduct size (integer?_of_toIndex hsize)
        cases hsize
        have hlength : ((r.problem.addVariables k first (m * n).toNat).2.length : ℤ)
            = m * n := by
          rw [Problem.length_addVariables]
          apply Int.toNat_of_nonneg (Int.mul_nonneg (hm m hrows) (hn n hcolumns))
        apply (ends_grid hrows hcolumns (hm m hrows) (hn n hcolumns) hlength own v).of_total
        intro grid w hw
        use k, first, (m * n).toNat
        apply ((ht.trans hu).replaces hv).agrees hw

/-! ### Constraints and objective -/

/-- Whether a value can be added as a constraint. -/
def isAddable : Value → Bool
  | .constraint .. | .pair .. => true
  | _ => false

/-- What is kept for a value that was added as a constraint: for a pair the constraint that its
values are equal. -/
inductive KeptAs : Value → Value → Prop where
  | constraint (own : ℕ) (form : ConstraintForm) (lhs rhs : Value) (sense : Sense) :
    KeptAs (.constraint own form lhs rhs sense) (.constraint own form lhs rhs sense)
  | pair (own new : ℕ) (first second : Value) :
    KeptAs (.pair own first second) (.constraint new .scalar first second .equal)

/-- A constraint is added to the values of a record, and to its problem if it can be one. -/
theorem withConstraint_eq (r : Record) (c : Value) :
  { r with
    problem :=
      match c.constraint? with
      | some d => r.problem.addConstraint ⟨c.tag, d⟩
      | none => r.problem
    constraints := r.constraints ++ [c] } = r.withConstraints [c]
  := by
  rcases hc : c.constraint? with - | d
  all_goals simp [Record.withConstraints, taggedConstraint?, hc, Problem.addConstraint]

/-- Several constraints are added one at a time. -/
theorem Record.grows_withConstraints (r : Record) {vs cs : List Value}
    (h : List.Forall₂ KeptAs vs cs) :
  r.Grows (r.withConstraints cs)
  := by
  induction h generalizing r with
  | nil =>
      rw [Record.withConstraints_nil]
      apply Relation.ReflTransGen.refl
  | @cons v c vs cs hc _ ih =>
      have hconstraint : c.isConstraint := by
        cases hc with
        | constraint => rfl
        | pair => rfl
      have hcs : r.withConstraints (c :: cs) = (r.withConstraints [c]).withConstraints cs := by
        rw [Record.withConstraints_append]
        rfl
      rw [hcs]
      apply Relation.ReflTransGen.head (.addConstraint c hconstraint)
      apply ih

/-- A constraint or a pair is added, and anything else is refused. -/
theorem ends_addConstraint (h : s.problems.lookup tag = some r) (v : Value) :
  (addConstraint tag v).Ends s
    (fun _ t => isAddable v ∧ ∃ c, KeptAs v c ∧ s.Replaces tag (r.withConstraints [c]) t ∧
      t.attributes = s.attributes)
    fun _ t => isAddable v = false ∧ s.Agrees t
  := by
  have happend {c : Value} {t : State} (hv : isAddable v) (hc : KeptAs v c) (ht : s.Agrees t) :
      (do
        let r ← Act.record tag
        Act.setRecord tag { r with
          problem :=
            match c.constraint? with
            | some d => r.problem.addConstraint ⟨c.tag, d⟩
            | none => r.problem
          constraints := r.constraints ++ [c] }
        return c).Ends t
        (fun _ t => isAddable v ∧ ∃ c, KeptAs v c ∧ s.Replaces tag (r.withConstraints [c]) t ∧
          t.attributes = s.attributes)
        fun _ t => isAddable v = false ∧ s.Agrees t := by
    rw [Act.ends_bind, Act.ends_record (ht.lookup h), withConstraint_eq, Act.ends_bind]
    apply Act.ends_setRecord.of_total
    rintro ⟨⟩ u ⟨hu, hattributes⟩
    use hv, c, hc, ht.replaces hu
    rw [hattributes, ht.attributes_eq]
  cases v with
  | constraint own form lhs rhs sense =>
      apply happend rfl (.constraint own form lhs rhs sense) (.refl s)
  | pair own first second =>
      apply happend rfl (.pair own _ first second) (s.agrees_nextTag _)
  | _ => exact ⟨rfl, .refl s⟩

/-- Of several constraints those before the first one that is refused remain. -/
theorem ends_addConstraints (h : s.problems.lookup tag = some r) (vs : List Value) :
  (vs.mapM (addConstraint tag)).Ends s
    (fun _ t => ∃ cs, List.Forall₂ KeptAs vs cs ∧ s.Replaces tag (r.withConstraints cs) t ∧
      t.attributes = s.attributes)
    fun _ t => vs.all isAddable = false ∧ ∃ cs, List.Forall₂ KeptAs (vs.takeWhile isAddable) cs ∧
      s.Replaces tag (r.withConstraints cs) t ∧ t.attributes = s.attributes
  := by
  induction vs generalizing s r with
  | nil =>
      rw [List.mapM_nil, Act.ends_pure]
      use [], .nil
      rw [Record.withConstraints_nil]
      exact ⟨State.replaces_refl h, rfl⟩
  | cons v vs ih =>
      rw [List.mapM_cons, Act.ends_bind]
      apply (ends_addConstraint h v).mono
      · rintro _ t ⟨hv, c, hc, ht, hattributes⟩
        rw [Act.ends_bind]
        apply (ih ht.lookup_self).mono
        · rintro _ u ⟨cs, hcs, hu, hattributes'⟩
          use c :: cs, .cons hc hcs
          rw [Record.withConstraints_append] at hu
          exact ⟨ht.trans hu, hattributes'.trans hattributes⟩
        · rintro f u ⟨hrefused, cs, hcs, hu, hattributes'⟩
          constructor
          · rw [List.all_cons, hrefused, Bool.and_false]
          · rw [List.takeWhile_cons_of_pos hv]
            use c :: cs, .cons hc hcs
            rw [Record.withConstraints_append] at hu
            exact ⟨ht.trans hu, hattributes'.trans hattributes⟩
      · rintro f t ⟨hv, ht⟩
        constructor
        · rw [List.all_cons, hv, Bool.false_and]
        · rw [List.takeWhile_cons_of_neg (by simp [hv])]
          use [], .nil
          rw [Record.withConstraints_nil]
          exact ⟨(State.replaces_refl h).agrees ht, ht.attributes_eq⟩

/-- An objective is recognised or refused, and may need a tag. -/
theorem isQuiet_asObjective (v : Value) :
  (asObjective v).IsQuiet
  := by
  rw [asObjective.eq_def]
  split
  · apply Act.isQuiet_pure
  · apply Act.isQuiet_throw
  · apply Act.isQuiet_throw
  · apply Act.isQuiet_expression?

/-- The objective is replaced, or refused and nothing is changed. -/
theorem ends_setObjective (h : s.problems.lookup tag = some r) (e sense : Value) :
  (setObjective tag e sense).Ends s
    (fun _ t => ∃ r', r.Adds r' ∧ s.Replaces tag r' t)
    fun _ t => s.Agrees t
  := by
  rw [setObjective]
  apply (isQuiet_asObjective e).ends_bind
  intro e' t ht
  apply (Act.isQuiet_objectiveSense sense).ends_bind
  intro sense' u hu
  have hagrees := ht.trans hu
  rw [Act.ends_bind, Act.ends_record (hagrees.lookup h), Act.ends_bind, Act.ends_ofExcept]
  constructor
  · intro problem hproblem
    obtain ⟨o, ho, hset⟩ := Outcome.bind_eq_ok_iff.mp hproblem
    cases hset
    rw [Act.ends_bind, Act.ends_fresh, Act.ends_bind]
    apply Act.ends_setRecord.of_total
    rintro ⟨⟩ v ⟨hv, -⟩
    exact ⟨_, .setObjective u.nextTag e' sense' o ho,
      (hagrees.trans (u.agrees_nextTag _)).replaces hv⟩
  · intro error _
    apply State.Agrees.refl

end QuadraticProgram.Session
