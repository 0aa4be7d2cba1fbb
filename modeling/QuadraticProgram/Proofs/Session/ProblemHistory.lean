import QuadraticProgram.Proofs.Session.Growth
import QuadraticProgram.Session.Feature

/-!
# The history of a problem

A session goes from state to state by calls of the methods that add something to a problem,
refused or not, and by whatever leaves the record of that problem as it is (`Leads`). Along any
such history the record only grows (`Leads.hasGrown`), so that in every state the variables are
found by their positions and by nothing else (`Finds`, `MissesOthers`). A call that is refused
leaves the session as it was, unless it adds several constraints, of which the first ones remain
(`problem_consistent_throughout`).
-/

namespace QuadraticProgram.Session

open ProblemMethod

variable {s t : State} {tag : ℕ} {r : Record}

/-! ### Calls -/

/-- A call of a method, with arguments by position and by name. -/
structure MethodCall where
  method : String
  args : List Value
  byName : List (String × Value)

/-- The call of a method of the problem under a tag. -/
def MethodCall.on (c : MethodCall) (tag : ℕ) : Act Value :=
  Feature.call (.problem tag) c.method c.args c.byName

/-- The methods that add variables, one constraint or the objective. -/
def atomicMethods : List String :=
  ["add_variable_classic", "add_real_variable", "add_variable", "add_binary_variable",
    "add_integer_variable", "add_variable_vector_classic", "add_variable_vector",
    "add_binary_variable_vector", "add_variable_matrix", "add_binary_variable_matrix",
    "add_constraint", "set_objective"]

/-- The methods that add something to a problem. -/
def addingMethods : List String := "add_constraints" :: atomicMethods

/-- Arguments that are accepted are as many as the parameters. -/
theorem Signature.length_bind {sig : Signature} {args : List Value}
    {byName : List (String × Value)} {vs : List Value} (h : sig.bind args byName = .ok vs) :
  vs.length = sig.parameters.length + sig.named.length
  := by
  rw [Signature.bind] at h
  split at h
  · cases h
  · dsimp only at h
    split at h
    · cases h
    · split at h
      · cases h
        simp only [List.length_append, List.length_map, List.length_drop]
        omega
      · cases h
      · cases h

/-- Every method that adds something has a signature. -/
theorem signature?_of_mem {m : String} (hm : m ∈ addingMethods) :
  ∃ parameters, parameters? m = some parameters ∧
    signature? m = some (.method ("OptimizationProblem." ++ m) parameters)
  := by
  simp only [addingMethods, atomicMethods, List.mem_cons, List.not_mem_nil, or_false] at hm
  rcases hm with rfl | rfl | rfl | rfl | rfl | rfl | rfl | rfl | rfl | rfl | rfl | rfl | rfl
  all_goals exact ⟨_, rfl, rfl⟩

/-- A call binds its arguments first, and then runs the method. -/
theorem MethodCall.on_eq {c : MethodCall} {sig : Signature}
    (h : signature? c.method = some sig) (tag : ℕ) :
  c.on tag = Act.ofResult (sig.bind c.args c.byName) >>= run (.problem tag) tag c.method
  := by
  have hsignature : Feature.signature? (.problem tag) c.method = some sig := h
  rw [MethodCall.on, Feature.call, hsignature]
  rfl

/-! ### Calls that are carried out or refused -/

/-- An act by which a record grows, unless it is refused and nothing happens. -/
def GrowsOrRefuses (act : Act Value) (s : State) (tag : ℕ) (r : Record) : Prop :=
  act.Ends s (fun _ t => ∃ r', r.Grows r' ∧ s.Replaces tag r' t) fun _ t => s.Agrees t

/-- What kind of variable is asked for is only read. -/
theorem isQuiet_variableKind (lower upper domain : Value) :
  (variableKind lower upper domain).IsQuiet
  := by
  apply (Act.isQuiet_domain domain).bind
  intro d
  apply (Act.isQuiet_ofResult _).bind
  intro l
  apply (Act.isQuiet_ofResult _).bind
  intro u
  apply Act.isQuiet_pure

/-- What is read before may be refused as well. -/
theorem GrowsOrRefuses.bind (h : s.problems.lookup tag = some r) {β : Type} {act : Act β}
    (hact : act.IsQuiet) {next : β → Act Value}
    (hnext : ∀ b t, t.problems.lookup tag = some r → GrowsOrRefuses (next b) t tag r) :
  GrowsOrRefuses (act >>= next) s tag r
  := by
  apply hact.ends_bind
  intro b t ht
  apply (hnext b t (ht.lookup h)).imp
  rintro v u ⟨r', hr', hu⟩
  exact ⟨r', hr', ht.replaces hu⟩

/-- A variable is added, or nothing is changed. -/
theorem growsOrRefuses_variable (h : s.problems.lookup tag = some r) (kind : VariableKind)
    (name : Value) :
  GrowsOrRefuses (addVariable tag kind name) s tag r
  := by
  apply (ends_addVariable h kind name).imp
  rintro v t ⟨label, own, ht⟩
  exact ⟨_, .single (.addVariable kind label own), ht⟩

/-- A column of variables is added, or nothing is changed. -/
theorem growsOrRefuses_vector (h : s.problems.lookup tag = some r) (n : Value)
    {kind : Act VariableKind} (hkind : kind.IsQuiet) :
  GrowsOrRefuses (addVector tag n kind) s tag r
  := by
  apply (ends_addVector h n hkind).imp
  rintro v t ⟨m, k, first, own, -, -, ht⟩
  exact ⟨_, r.grows_addVariables k first m.toNat, ht⟩

/-- The variables of a grid are added, or nothing is changed. -/
theorem growsOrRefuses_grid (h : s.problems.lookup tag = some r) (rows columns : Value)
    {kind : Act VariableKind} (hkind : kind.IsQuiet) :
  GrowsOrRefuses (addSizedGrid tag rows columns kind) s tag r
  := by
  apply (ends_addSizedGrid h rows columns hkind).imp
  rintro v t ⟨k, first, size, ht⟩
  exact ⟨_, r.grows_addVariables k first size, ht⟩

/-- A constraint is added, or nothing is changed. -/
theorem growsOrRefuses_constraint (h : s.problems.lookup tag = some r) (v : Value) :
  GrowsOrRefuses (addConstraint tag v) s tag r
  := by
  apply (ends_addConstraint h v).mono
  · rintro _ t ⟨-, c, hc, ht, -⟩
    exact ⟨_, r.grows_withConstraints (.cons hc .nil), ht⟩
  · rintro f t ⟨-, ht⟩
    apply ht

/-- The objective is set, or nothing is changed. -/
theorem growsOrRefuses_objective (h : s.problems.lookup tag = some r) (e sense : Value) :
  GrowsOrRefuses (setObjective tag e sense) s tag r
  := by
  apply (ends_setObjective h e sense).imp
  rintro _ t ⟨r', hr', ht⟩
  exact ⟨r', .single hr', ht⟩

/-- A method that adds one thing adds it, or changes nothing. -/
theorem growsOrRefuses_run {m : String} (hm : m ∈ atomicMethods)
    (h : s.problems.lookup tag = some r) {parameters : List Parameter}
    (hparameters : parameters? m = some parameters) {vs : List Value}
    (hvs : vs.length = parameters.length) :
  GrowsOrRefuses (run (.problem tag) tag m vs) s tag r
  := by
  have hrecord {act : Act Value} (hact : GrowsOrRefuses act s tag r) :
      GrowsOrRefuses (Act.record tag >>= fun _ => act) s tag r := by
    rw [GrowsOrRefuses, Act.ends_bind, Act.ends_record h]
    apply hact
  simp only [atomicMethods, List.mem_cons, List.not_mem_nil, or_false] at hm
  -- one case for each method, whose arguments are as many as its parameters
  rcases hm with rfl | rfl | rfl | rfl | rfl | rfl | rfl | rfl | rfl | rfl | rfl | rfl
  all_goals cases hparameters
  · match vs, hvs with
    | [lower, upper, domain, name], _ =>
        apply hrecord (.bind h (isQuiet_variableKind lower upper domain) _)
        intro kind t ht
        apply growsOrRefuses_variable ht
  · match vs, hvs with
    | [name], _ => apply hrecord (growsOrRefuses_variable h .real name)
  · match vs, hvs with
    | [name], _ => apply hrecord (growsOrRefuses_variable h .real name)
  · match vs, hvs with
    | [name], _ => apply hrecord (growsOrRefuses_variable h .binary name)
  · match vs, hvs with
    | [lower, upper, name], _ =>
        apply hrecord (.bind h (Act.isQuiet_ofResult lower.toFloat) _)
        intro lowest t ht
        apply GrowsOrRefuses.bind ht (Act.isQuiet_ofResult upper.toFloat)
        intro highest u hu
        apply growsOrRefuses_variable hu
  · match vs, hvs with
    | [n, lower, upper, domain], _ =>
        apply hrecord (growsOrRefuses_vector h n (isQuiet_variableKind lower upper domain))
  · match vs, hvs with
    | [n], _ => apply hrecord (growsOrRefuses_vector h n (Act.isQuiet_pure .real))
  · match vs, hvs with
    | [n], _ => apply hrecord (growsOrRefuses_vector h n (Act.isQuiet_pure .binary))
  · match vs, hvs with
    | [rows, columns, lower, upper, domain], _ =>
        apply hrecord
          (growsOrRefuses_grid h rows columns (isQuiet_variableKind lower upper domain))
  · match vs, hvs with
    | [rows, columns], _ =>
        apply hrecord (growsOrRefuses_grid h rows columns (Act.isQuiet_pure .binary))
  · match vs, hvs with
    | [c], _ => apply hrecord (growsOrRefuses_constraint h c)
  · match vs, hvs with
    | [e, sense], _ => apply hrecord (growsOrRefuses_objective h e sense)

/-- A call of a method that adds one thing adds it, or changes nothing, its arguments included. -/
theorem growsOrRefuses_on {c : MethodCall} (hc : c.method ∈ atomicMethods)
    (h : s.problems.lookup tag = some r) :
  GrowsOrRefuses (c.on tag) s tag r
  := by
  obtain ⟨parameters, hparameters, hsignature⟩ :=
    signature?_of_mem (List.mem_cons_of_mem "add_constraints" hc)
  rw [MethodCall.on_eq hsignature, GrowsOrRefuses, Act.ends_bind, Act.ends_ofResult]
  constructor
  · intro vs hvs
    apply growsOrRefuses_run hc h hparameters
    apply Signature.length_bind hvs
  · intro f _
    apply State.Agrees.refl

/-! ### Several constraints -/

/-- The signature of `add_constraints`. -/
def constraintsSignature : Signature :=
  .method "OptimizationProblem.add_constraints" [required "constraints_to_add"]

/-- The items that a call of `add_constraints` goes through. -/
def MethodCall.items (c : MethodCall) : Act (List Value) := do
  match ← Act.ofResult (constraintsSignature.bind c.args c.byName) with
  | [cs] => cs.items
  | _ => return []

/-- The items that a call of `add_constraints` goes through at a state, none if they cannot be
read. -/
def MethodCall.itemsAt (c : MethodCall) (s : State) : List Value :=
  match (c.items.after s).1 with
  | .ok items => items
  | .error _ => []

/-- Of the items of a call of `add_constraints` those are added that stand before the first one
that is refused. -/
theorem ends_on_constraints {c : MethodCall} (hc : c.method = "add_constraints")
    (h : s.problems.lookup tag = some r) :
  (c.on tag).Ends s
    (fun _ t => ∃ cs, List.Forall₂ KeptAs (c.itemsAt s) cs ∧
      s.Replaces tag (r.withConstraints cs) t)
    fun _ t => ∃ cs, List.Forall₂ KeptAs ((c.itemsAt s).takeWhile isAddable) cs ∧
      s.Replaces tag (r.withConstraints cs) t ∧ t.attributes = s.attributes
  := by
  have hsignature : signature? c.method = some constraintsSignature := by rw [hc]; rfl
  have hnothing {t : State} (ht : s.Agrees t) (hitems : c.itemsAt s = []) :
      ∃ cs, List.Forall₂ KeptAs ((c.itemsAt s).takeWhile isAddable) cs ∧
        s.Replaces tag (r.withConstraints cs) t ∧ t.attributes = s.attributes := by
    use []
    rw [hitems, Record.withConstraints_nil]
    exact ⟨.nil, (State.replaces_refl h).agrees ht, ht.attributes_eq⟩
  rw [MethodCall.on_eq hsignature, hc, Act.ends_bind, Act.ends_ofResult]
  constructor
  · intro vs hvs
    match vs, Signature.length_bind hvs with
    | [cs], _ =>
        have hitems : c.items.after s = cs.items.after s := by
          rw [MethodCall.items, hvs]
          rfl
        have hquiet := Act.isQuiet_items cs s
        change (Act.record tag >>= fun _ => cs.items >>= fun items =>
          items.mapM (addConstraint tag) >>= fun added => pure (Value.ofList added)).Ends s _ _
        rw [Act.ends_bind, Act.ends_record h, Act.ends_bind]
        rcases hread : cs.items.after s with ⟨f | items, t⟩
        · rw [hread] at hquiet
          rw [Act.ends_of_after_error hread]
          apply hnothing hquiet
          rw [MethodCall.itemsAt, hitems, hread]
        · rw [hread] at hquiet
          have hat : c.itemsAt s = items := by rw [MethodCall.itemsAt, hitems, hread]
          rw [Act.ends_of_after hread, hat, Act.ends_bind]
          apply (ends_addConstraints (State.Agrees.lookup hquiet h) items).mono
          · rintro added u ⟨cs, hcs, hu, -⟩
            use cs, hcs
            apply State.Agrees.replaces hquiet hu
          · rintro f u ⟨-, cs, hcs, hu, hattributes⟩
            use cs, hcs, State.Agrees.replaces hquiet hu
            rw [hattributes, hquiet.attributes_eq]
  · intro f hf
    apply hnothing (.refl s)
    rw [MethodCall.itemsAt, MethodCall.items, hf]
    rfl

/-! ### Variables that are found -/

/-- The variables of a problem are found by their positions. -/
structure Finds (tag : ℕ) (r : Record) (s : State) : Prop where
  get_variable : ∀ (own i : ℕ) (h : i < r.problem.vars.length),
    (MethodCall.on ⟨"get_variable", [.integer own i], []⟩ tag).after s
      = (.ok (.ofVariable r.problem.vars[i]), s)
  column_of : ∀ (i : ℕ) (h : i < r.problem.vars.length),
    (MethodCall.on ⟨"column_of", [.ofVariable r.problem.vars[i]], []⟩ tag).after s
      = (.ok (.ofNat i), s)

/-- An act that is refused since a variable was not found. -/
def Misses (act : Act Value) (s : State) : Prop :=
  ∃ f, act.after s = (.error f, s) ∧ f.kind = "VariableNotFoundError"

/-- No other integer than the position of a variable is found in a problem. -/
structure MissesOthers (tag : ℕ) (r : Record) (s : State) : Prop where
  get_variable : ∀ (own : ℕ) (id : ℤ), (id < 0 ∨ r.problem.vars.length ≤ id) →
    Misses (MethodCall.on ⟨"get_variable", [.integer own id], []⟩ tag) s
  column_of : ∀ v : Variable, r.problem.vars.length ≤ v.id →
    Misses (MethodCall.on ⟨"column_of", [.ofVariable v], []⟩ tag) s

/-- In a consistent record every variable is found by its number. -/
theorem Record.Consistent.finds (hr : r.Consistent) (h : s.problems.lookup tag = some r) :
  Finds tag r s
  := by
  have hrecord {next : Record → Act Value} :
      (Act.record tag >>= next).after s = (next r).after s :=
    Act.after_bind_of_after (Act.after_record h)
  constructor
  · intro own i hi
    have hposition : (positionOf r (.integer own i)).after s = (.ok (some (.ofInt i)), s) := by
      rw [positionOf, if_pos ⟨Int.natCast_nonneg i, Int.ofNat_lt.mpr hi⟩]
      rfl
    change (Act.record tag >>= fun r => variableAt r (.integer own i)).after s = _
    rw [hrecord, variableAt, Act.after_bind_of_after hposition]
    change (Act.ofExcept (r.problem.own? i) >>= fun v => pure (Value.ofVariable v)).after s = _
    rw [hr.numbered.own?_eq_ok hi]
    rfl
  · intro i hi
    have hid := hr.numbered.id_getElem hi
    generalize r.problem.vars[i] = v at hid
    change (Act.record tag >>= fun r => columnOf r v).after s = _
    rw [hrecord, columnOf, hr.numbered.columnOf_eq_ok (hid ▸ hi), hid]
    rfl

/-- The message on a variable that is not found shows the name of the problem, which is no
difficulty if that is a text. -/
theorem misses_unknownId (hname : r.name.isText) (own : ℕ) (id : ℤ) (s : State) :
  Misses (unknownId r (.integer own id) >>= fun f => throw f) s
  := by
  obtain ⟨problem, name, constraints, objective⟩ := r
  cases name with
  | text => exact ⟨_, rfl, rfl⟩
  | _ => contradiction

/-- In a consistent record no other number finds anything. -/
theorem Record.Consistent.missesOthers (hr : r.Consistent) (hname : r.name.isText)
    (h : s.problems.lookup tag = some r) :
  MissesOthers tag r s
  := by
  have hrecord {next : Record → Act Value} :
      (Act.record tag >>= next).after s = (next r).after s :=
    Act.after_bind_of_after (Act.after_record h)
  constructor
  · intro own id hid
    have hposition : (positionOf r (.integer own id)).after s = (.ok none, s) := by
      rw [positionOf, if_neg]
      · rfl
      · omega
    obtain ⟨f, hf, hkind⟩ := misses_unknownId hname own id s
    use f
    constructor
    · change (Act.record tag >>= fun r => variableAt r (.integer own id)).after s = _
      rw [hrecord, variableAt, Act.after_bind_of_after hposition]
      apply hf
    · apply hkind
  · intro v hv
    have hcolumn : r.problem.columnOf v = .error (r.problem.lacksVariable v.id) := by
      rw [Problem.columnOf, hr.numbered.own?_eq_error (by omega), Outcome.error_bind]
    obtain ⟨f, hf, hkind⟩ := misses_unknownId hname 0 v.id s
    use f
    constructor
    · change (Act.record tag >>= fun r => columnOf r v).after s = _
      rw [hrecord, columnOf, hcolumn]
      apply hf
    · apply hkind

/-! ### Histories -/

/-- What may happen in a session while a problem is followed: a call of a method that adds
something to it, whether it is refused or not, or anything that leaves its record as it is. -/
inductive Event (tag : ℕ) : State → State → Prop where
  | call (s : State) (c : MethodCall) (hc : c.method ∈ addingMethods) :
    Event tag s ((c.on tag).after s).2
  | elsewhere {s t : State} (h : t.problems.lookup tag = s.problems.lookup tag) : Event tag s t

/-- Whether a session gets from one state to another one. -/
def Leads (tag : ℕ) : State → State → Prop := Relation.ReflTransGen (Event tag)

/-- Whether a state has a record to which another one has grown. -/
def State.HasGrown (t : State) (tag : ℕ) (r : Record) : Prop :=
  ∃ r', t.problems.lookup tag = some r' ∧ r.Grows r'

/-- An event keeps what a problem has. -/
theorem Event.hasGrown (h : Event tag s t) (hs : s.problems.lookup tag = some r) :
  t.HasGrown tag r
  := by
  cases h with
  | elsewhere h =>
      use r
      constructor
      · rw [h, hs]
      · apply Relation.ReflTransGen.refl
  | call c hc =>
      rcases List.mem_cons.mp hc with hc | hc
      · apply (ends_on_constraints hc hs).state (R := fun t => t.HasGrown tag r)
        · rintro _ t ⟨cs, hcs, ht⟩
          exact ⟨_, ht.lookup_self, r.grows_withConstraints hcs⟩
        · rintro _ t ⟨cs, hcs, ht, -⟩
          exact ⟨_, ht.lookup_self, r.grows_withConstraints hcs⟩
      · apply (growsOrRefuses_on hc hs).state (R := fun t => t.HasGrown tag r)
        · rintro _ t ⟨r', hr', ht⟩
          exact ⟨r', ht.lookup_self, hr'⟩
        · intro _ t ht
          use r, ht.lookup hs
          apply Relation.ReflTransGen.refl

/-- No history takes from a problem what it has. -/
theorem Leads.hasGrown (h : Leads tag s t) (hs : s.problems.lookup tag = some r) :
  t.HasGrown tag r
  := by
  induction h with
  | refl =>
      use r, hs
      apply Relation.ReflTransGen.refl
  | tail _ hevent ih =>
      obtain ⟨r', hr', hgrows⟩ := ih
      obtain ⟨r'', hr'', hgrows'⟩ := hevent.hasGrown hr'
      use r'', hr''
      apply hgrows.trans hgrows'

theorem isText_tagged {v : Value} (h : v.isText) (n : ℕ) :
  (v.tagged n).1.isText
  := by
  cases v with
  | text own title =>
      rcases own with - | own
      · rfl
      · rfl
  | _ => contradiction

/-- A problem that was just made has neither variables nor constraints. -/
theorem ends_problem (name : Value) (s : State) :
  (Construct.problem name).Ends s
    (fun v t => ∃ tag r, v = .problem tag ∧ t.problems.lookup tag = some r ∧ r.Consistent ∧
      (name.isText → r.name.isText))
    fun _ _ => True
  := by
  rw [Construct.problem, Act.ends_bind]
  change Act.Ends (Act.fresh >>= _) _ _ _
  rw [Act.ends_bind, Act.ends_fresh, Act.ends_bind]
  apply ((Act.isQuiet_label _).ends _).mono
  · intro label t _
    rw [Act.ends_bind]
    apply Act.ends_setRecord.of_total
    rintro ⟨⟩ u ⟨hu, -⟩
    exact ⟨_, _, rfl, hu.lookup_self, Record.consistent_empty label _,
      fun hname => isText_tagged hname s.nextTag⟩
  · intro f t _
    trivial

/-- In every state that is reached after a problem was made, its variables have their positions
as identifiers and as columns, and are found by these alone; what was added is never changed,
moved or removed later; and a call that is refused adds nothing, or just the constraints before
the one that is refused. -/
theorem problem_consistent_throughout {name : Value} {s₀ s₁ s : State} {tag : ℕ}
    (hstart : (Construct.problem name).after s₀ = (.ok (.problem tag), s₁))
    (hs : Leads tag s₁ s) :
  ∃ r, s.problems.lookup tag = some r ∧
    (∀ (i : ℕ) (h : i < r.problem.vars.length), r.problem.vars[i].id = i) ∧
    r.problem.columns = (List.range r.problem.vars.length).map (fun k => (k, k)) ∧
    r.problem.constraints = r.constraints.filterMap taggedConstraint? ∧
    Finds tag r s ∧ (name.isText → MissesOthers tag r s) ∧
    (∀ t, Leads tag s t → ∃ r', t.problems.lookup tag = some r' ∧ r.Extends r') ∧
    (∀ (c : MethodCall) f t, c.method ∈ atomicMethods → (c.on tag).after s = (.error f, t) →
      s.Agrees t) ∧
    ∀ (c : MethodCall) f t, c.method = "add_constraints" → (c.on tag).after s = (.error f, t) →
      ∃ cs, List.Forall₂ KeptAs ((c.itemsAt s).takeWhile isAddable) cs ∧
        s.Replaces tag (r.withConstraints cs) t ∧ t.attributes = s.attributes
  := by
  have hempty := ends_problem name s₀
  rw [Act.ends_of_after hstart] at hempty
  obtain ⟨k, r₁, hk, hr₁, hconsistent₁, hname₁⟩ := hempty
  cases hk
  obtain ⟨r, hr, hgrows⟩ := hs.hasGrown hr₁
  have hconsistent := hconsistent₁.grows hgrows
  use r, hr, fun _ hi => hconsistent.numbered.id_getElem hi, hconsistent.numbered.columns_eq,
    hconsistent.constraints_eq, hconsistent.finds hr
  constructor
  · intro hname
    apply hconsistent.missesOthers _ hr
    rw [hgrows.extends.name_eq]
    apply hname₁ hname
  · constructor
    · intro t ht
      obtain ⟨r', hr', hgrows'⟩ := ht.hasGrown hr
      use r', hr'
      apply hgrows'.extends
    · constructor
      · intro c f t hc hrefused
        apply (Act.ends_of_after_error hrefused).mp (growsOrRefuses_on hc hr)
      · intro c f t hc hrefused
        apply (Act.ends_of_after_error hrefused).mp (ends_on_constraints hc hr)

/-- Two variables are added, and then a pair of them together with a text, which is refused: the
constraint that the pair stands for remains. -/
theorem problem_consistent_throughout_afterRefusal :
  let x (i : ℕ) : Value := .ofVariable ⟨i, 0.0, 1.0, .binary, .text "", 66 + i⟩
  let s₁ := ((Construct.problem (.ofText "")).after .initial).2
  let s₂ := ((MethodCall.on ⟨"add_binary_variable_vector", [.ofNat 2], []⟩ 65).after s₁).2
  let s₃ := ((MethodCall.on ⟨"add_constraints", [.ofList [.pair 0 (x 0) (x 1), .ofText "x"]], []⟩
    65).after s₂).2
  (Construct.problem (.ofText "")).after .initial = (.ok (.problem 65), s₁) ∧ Leads 65 s₁ s₃ ∧
    ∃ r, s₃.problems.lookup 65 = some r ∧ r.problem.vars.length = 2 ∧ r.constraints.length = 1 ∧
      Finds 65 r s₃ ∧ MissesOthers 65 r s₃
  := by
  intro x s₁ s₂ s₃
  have hstart : (Construct.problem (.ofText "")).after .initial = (.ok (.problem 65), s₁) := rfl
  have h₁ : Event 65 s₁ s₂ := by
    apply Event.call
    decide
  have h₂ : Event 65 s₂ s₃ := by
    apply Event.call
    decide
  have hs : Leads 65 s₁ s₃ := Relation.ReflTransGen.head h₁ (.single h₂)
  have hcounts : (s₃.problems.lookup 65).map
      (fun r => (r.problem.vars.length, r.constraints.length)) = some (2, 1) := rfl
  obtain ⟨r, hr, -, -, -, hfinds, hmisses, -⟩ := problem_consistent_throughout hstart hs
  rw [hr] at hcounts
  obtain ⟨hvars, hconstraints⟩ := Prod.mk.inj (Option.some.inj hcounts)
  exact ⟨hstart, hs, r, hr, hvars, hconstraints, hfinds, hmisses rfl⟩

end QuadraticProgram.Session
