import Mathlib.Data.Int.Notation
import Mathlib.Data.List.Basic
import QuadraticProgram.Problem.Check
import QuadraticProgram.Proofs.Outcome

/-!
# Reachable problems

A problem is reached from an empty one by requests, some of which may be refused
(`Problem.Reachable`). Every request keeps the variables numbered: the identifier of a variable
is its position, and that is also its column (`Problem.Numbered`). A variable that a check finds
to be the problem's own has therefore an identifier below the number of variables.
-/

namespace QuadraticProgram

variable {α : Type} [Coefficient α]

/-- What may be asked of a problem that changes it. -/
inductive Request (α : Type) [Coefficient α] where
  | addVariable (kind : VariableKind) (name : Label) (tag : ℕ)
  | addVector (kind : VariableKind) (tag : ℕ) (n : ℤ)
  | addGrid (kind : VariableKind) (tag : ℕ) (rows columns : ℤ)
  | addConstraint (c : ConstraintCandidate α)
  | addConstraints (cs : List (ConstraintCandidate α))
  | setObjective (e : Operand α) (sense : ObjectiveSense)

namespace Problem

/-- The outcome of an operation that gives a problem, beside the problem that is left. -/
def settle (p : Problem α) : Except Error (Problem α) → Problem α × Except Error Unit
  | .ok q => (q, .ok ())
  | .error e => (p, .error e)

/-- The problem after a request, and whether the request was refused. -/
def perform (p : Problem α) : Request α → Problem α × Except Error Unit
  | .addVariable kind name tag => (p.addVariable kind name tag, .ok ())
  | .addVector kind tag n => p.settle ((p.addVector kind tag n).map Prod.fst)
  | .addGrid kind tag rows columns => p.settle ((p.addGrid kind tag rows columns).map Prod.fst)
  | .addConstraint c => p.addConstraints [c]
  | .addConstraints cs => p.addConstraints cs
  | .setObjective e sense => p.settle (p.setObjective? e sense)

/-- The problem after several requests, refused or not. -/
def run (p : Problem α) (rs : List (Request α)) : Problem α :=
  rs.foldl (fun p r => (p.perform r).1) p

/-- Whether a problem is what some requests make of an empty one. -/
def Reachable (p : Problem α) : Prop := ∃ name rs, p = (empty name).run rs

/-! ### Numbered variables -/

/-- A problem whose variables have their positions as identifiers and as columns. -/
structure Numbered (p : Problem α) : Prop where
  ids_eq : p.vars.map Variable.id = List.range p.vars.length
  columns_eq : p.columns = (List.range p.vars.length).map fun k => (k, k)

/-- A new problem has no variables to number. -/
theorem numbered_empty (name : Label) :
  (empty name : Problem α).Numbered
  := by
  constructor
  · rfl
  · rfl

/-- Only the variables and the columns count. -/
theorem Numbered.congr {p q : Problem α} (hp : p.Numbered) (hvars : q.vars = p.vars)
    (hcolumns : q.columns = p.columns) :
  q.Numbered
  := by
  constructor
  · rw [hvars, hp.ids_eq]
  · rw [hvars, hcolumns, hp.columns_eq]

/-- A new variable gets the next number. -/
theorem Numbered.addVariable {p : Problem α} (hp : p.Numbered) (kind : VariableKind)
    (name : Label) (tag : ℕ) :
  (p.addVariable kind name tag).Numbered
  := by
  constructor
  · simp [Problem.addVariable, nextVariable, hp.ids_eq, List.range_succ]
  · simp [Problem.addVariable, hp.columns_eq, List.range_succ]

/-- Several new variables get the next numbers. -/
theorem Numbered.addVariables {p : Problem α} (hp : p.Numbered) (kind : VariableKind)
    (tag n : ℕ) :
  (p.addVariables kind tag n).1.Numbered
  := by
  induction n generalizing p tag with
  | zero => apply hp
  | succ n ih =>
      rw [Problem.addVariables]
      apply ih (hp.addVariable kind _ tag)

/-- A constraint leaves the variables alone. -/
theorem Numbered.addConstraint {p : Problem α} (hp : p.Numbered) (c : Tagged (Constraint α)) :
  (p.addConstraint c).Numbered
  := hp.congr rfl rfl

theorem Numbered.addConstraints {p : Problem α} (hp : p.Numbered)
    (cs : List (ConstraintCandidate α)) :
  (p.addConstraints cs).1.Numbered
  := by
  induction cs generalizing p with
  | nil => apply hp
  | cons c cs ih =>
      cases c with
      | constraint c =>
          rw [Problem.addConstraints]
          apply ih (hp.addConstraint c)
      | other kind => apply hp

/-- An objective leaves the variables alone. -/
theorem Numbered.setObjective {p : Problem α} (hp : p.Numbered) (o : Objective α) :
  (p.setObjective o).Numbered
  := hp.congr rfl rfl

/-- An operation that is refused leaves the problem as it was. -/
theorem Numbered.settle {p : Problem α} (hp : p.Numbered) {outcome : Except Error (Problem α)}
    (h : ∀ q, outcome = .ok q → q.Numbered) :
  (p.settle outcome).1.Numbered
  := by
  cases outcome with
  | ok q => apply h q rfl
  | error e => apply hp

/-- No request breaks the numbering. -/
theorem Numbered.perform {p : Problem α} (hp : p.Numbered) (r : Request α) :
  (p.perform r).1.Numbered
  := by
  cases r with
  | addVariable kind name tag => apply hp.addVariable
  | addVector kind tag n =>
      apply hp.settle
      intro q hq
      rw [addVector] at hq
      split at hq
      · cases hq
      · cases hq
        apply hp.addVariables
  | addGrid kind tag rows columns =>
      apply hp.settle
      intro q hq
      rw [addGrid] at hq
      split at hq
      · cases hq
      · cases hq
        apply hp.addVariables
  | addConstraint c => apply hp.addConstraints
  | addConstraints cs => apply hp.addConstraints
  | setObjective e sense =>
      apply hp.settle
      intro q hq
      obtain ⟨a, -, ha⟩ := Outcome.bind_eq_ok_iff.mp hq
      cases ha
      apply hp.setObjective

/-- No requests after one another break the numbering. -/
theorem Numbered.run {p : Problem α} (hp : p.Numbered) (rs : List (Request α)) :
  (p.run rs).Numbered
  := by
  induction rs generalizing p with
  | nil => apply hp
  | cons r rs ih => apply ih (hp.perform r)

/-- Every problem that is built up by requests is numbered. -/
theorem Reachable.numbered {p : Problem α} (hp : p.Reachable) :
  p.Numbered
  := by
  obtain ⟨name, rs, rfl⟩ := hp
  apply (numbered_empty name).run

/-! ### The problem's own variables -/

/-- Only numbers below the number of variables are found. -/
theorem Numbered.lt_of_own?_eq_ok {p : Problem α} (hp : p.Numbered) {id : ℕ} {v : Variable}
    (h : p.own? id = .ok v) :
  id < p.vars.length
  := by
  rw [own?] at h
  rcases hentry : p.columns.find? fun entry => (entry.1 : ℤ) = (id : ℤ) with - | ⟨k, l⟩
  · rw [hentry] at h
    cases h
  · have hmem := List.mem_of_find?_eq_some hentry
    have hid := List.find?_some hentry
    rw [hp.columns_eq] at hmem
    obtain ⟨j, hj, hkl⟩ := List.mem_map.mp hmem
    have hjk : j = k := congrArg Prod.fst hkl
    have hkid : k = id := Int.ofNat_inj.mp (by simpa using hid)
    rw [← hkid, ← hjk]
    apply List.mem_range.mp hj

/-- A variable is at the position of its number. -/
theorem Numbered.id_getElem {p : Problem α} (hp : p.Numbered) {i : ℕ} (h : i < p.vars.length) :
  p.vars[i].id = i
  := by
  have hids : (p.vars.map Variable.id)[i]? = (List.range p.vars.length)[i]? := by rw [hp.ids_eq]
  simpa [h] using hids

/-- A number below the number of variables finds the variable at its position. -/
theorem Numbered.own?_eq_ok {p : Problem α} (hp : p.Numbered) {i : ℕ} (h : i < p.vars.length) :
  p.own? i = .ok p.vars[i]
  := by
  have hcolumn : p.columns.find? (fun entry => (entry.1 : ℤ) = (i : ℤ)) = some (i, i) := by
    have hfirst : ∀ j < i, ¬ j = i := fun j hj => Nat.ne_of_lt hj
    rw [hp.columns_eq, List.find?_map]
    simpa [Function.comp_def, Int.ofNat_inj, h] using hfirst
  rw [own?, hcolumn]
  simp [h]

/-- Every other number is refused with the name of the problem. -/
theorem Numbered.own?_eq_error {p : Problem α} (hp : p.Numbered) {id : ℤ}
    (h : ∀ i < p.vars.length, (i : ℤ) ≠ id) :
  p.own? id = .error (p.lacksVariable id)
  := by
  have hcolumn : p.columns.find? (fun entry => (entry.1 : ℤ) = id) = none := by
    rw [hp.columns_eq, List.find?_eq_none]
    intro entry hentry
    obtain ⟨i, hi, rfl⟩ := List.mem_map.mp hentry
    simpa using h i (List.mem_range.mp hi)
  rw [own?, hcolumn]

/-- The column of a variable is its identifier. -/
theorem Numbered.columnOf_eq_ok {p : Problem α} (hp : p.Numbered) {v : Variable}
    (h : v.id < p.vars.length) :
  p.columnOf v = .ok v.id
  := by
  rw [columnOf, hp.own?_eq_ok h, Outcome.ok_bind, hp.id_getElem h, hp.columns_eq,
    List.lookup_graph (fun k => k) (List.mem_range.mpr h)]
  rfl

/-- The variables of a problem that are required to be its own. -/
theorem Numbered.lt_of_requireOwnAll {p : Problem α} (hp : p.Numbered) {vs : List Variable}
    (h : p.requireOwnAll vs = .ok ()) {v : Variable} (hv : v ∈ vs) :
  v.id < p.vars.length
  := by
  have hown := Outcome.forM_eq_ok_iff.mp h v hv
  obtain ⟨w, hw, -⟩ := Outcome.bind_eq_ok_iff.mp hown
  apply hp.lt_of_own?_eq_ok hw

/-! ### Problems that pass their check -/

/-- A problem that passes its check has an objective. -/
theorem isSome_objective?_of_check {p : Problem α} (h : p.check = .ok ()) :
  p.objective?.isSome
  := by
  obtain ⟨o, ho, -⟩ := Outcome.bind_eq_ok_iff.mp h
  rw [objective] at ho
  split at ho
  case h_1 o hsome => simp [hsome]
  case h_2 => cases ho

/-- A problem that passes its check has an objective with which all parts pass. -/
theorem exists_checkParts_of_check {p : Problem α} (h : p.check = .ok ()) :
  ∃ o, p.checkParts o = .ok ()
  := by
  obtain ⟨o, -, hparts⟩ := Outcome.bind_eq_ok_iff.mp h
  use o
  rcases hchecked : p.checkParts o with e | ⟨⟩
  · rw [hchecked] at hparts
    cases hparts
  · rfl

/-- In a problem that passes its check each constraint passes its own, and the variables of its
sides are required to be the problem's. -/
theorem check_constraint_of_check {p : Problem α} (h : p.check = .ok ())
    {c : Tagged (Constraint α)} (hc : c ∈ p.constraints) :
  c.value.check = .ok () ∧ p.requireOwnSides c.value = .ok ()
  := by
  obtain ⟨o, hparts⟩ := exists_checkParts_of_check h
  obtain ⟨-, -, h₁⟩ := Outcome.bind_eq_ok_iff.mp hparts
  obtain ⟨-, -, h₂⟩ := Outcome.bind_eq_ok_iff.mp h₁
  obtain ⟨⟨⟩, hchecks, h₃⟩ := Outcome.bind_eq_ok_iff.mp h₂
  obtain ⟨-, -, h₄⟩ := Outcome.bind_eq_ok_iff.mp h₃
  use Outcome.forM_eq_ok_iff.mp hchecks c hc, Outcome.forM_eq_ok_iff.mp h₄ c hc

/-- In a problem that passes its check the variables of the constraints are its own. -/
theorem Numbered.lt_of_check {p : Problem α} (hp : p.Numbered) (h : p.check = .ok ())
    {c : Tagged (Constraint α)} (hc : c ∈ p.constraints) {v : Variable}
    (hv : v ∈ c.value.lhs.vars ++ c.value.rhs.vars) :
  v.id < p.vars.length
  := by
  obtain ⟨⟨⟩, hl, hr⟩ := Outcome.bind_eq_ok_iff.mp (check_constraint_of_check h hc).2
  rcases List.mem_append.mp hv with hv | hv
  · apply hp.lt_of_requireOwnAll hl hv
  · apply hp.lt_of_requireOwnAll hr hv

end Problem

end QuadraticProgram
