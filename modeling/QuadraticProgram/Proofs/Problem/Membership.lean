import QuadraticProgram.Proofs.Problem.Ownership

/-!
# Columns of variables

A variable belongs to a problem if it is one of its variables or a copy of one. Asking for its
column looks for the identifier alone (`Problem.columnOf_decided_by_id`): a variable that
belongs to the problem always has a column, but so has a foreign variable with the identifier
of one of the problem's variables, although the check of the problem, which compares the bounds
and the domain too, would refuse it.
-/

namespace QuadraticProgram

/-- A variable whose bounds are numbers is a copy of itself. -/
theorem Variable.WellBounded.sameAs_self {v : Variable} (h : v.WellBounded) :
  v.sameAs v = true
  := by
  have hlower : (v.lower == v.lower) = true := by
    rw [← Bool.not_eq_false, Double.beq_self_eq_false_iff, h.lower_isNumber]
    decide
  have hupper : (v.upper == v.upper) = true := by
    rw [← Bool.not_eq_false, Double.beq_self_eq_false_iff, h.upper_isNumber]
    decide
  rw [sameAs, hlower, hupper, (Domain.beq_eq_true_iff _ _).mpr rfl, beq_self_eq_true]
  rfl

namespace Problem

variable {α : Type} [Coefficient α]

/-- Whether a variable is one of a problem's variables, or has the identifier, the bounds and
the domain of one. -/
def Belongs (p : Problem α) (v : Variable) : Prop := v ∈ p.vars ∨ p.Owns v

/-- A variable belongs to a problem that has it, or one that is the same. -/
theorem belongs_iff (p : Problem α) (v : Variable) :
  p.Belongs v ↔ ∃ w ∈ p.vars, w.id = v.id ∧ (w = v ∨ w.sameAs v = true)
  := by
  rw [Belongs, owns_iff]
  constructor
  · rintro (hv | ⟨w, hw, hsame⟩)
    · exact ⟨v, hv, rfl, .inl rfl⟩
    · have hid : w.id = v.id := by
        simp only [Variable.sameAs, Bool.and_eq_true, beq_iff_eq] at hsame
        exact hsame.1.1.1
      exact ⟨w, hw, hid, .inr hsame⟩
  · rintro ⟨w, hw, -, rfl | hsame⟩
    · exact .inl hw
    · exact .inr ⟨w, hw, hsame⟩

/-- Among well-bounded variables the check for ownership finds those that belong to a problem. -/
theorem Numbered.requireOwn_eq_ok_iff {p : Problem α} (hp : p.Numbered)
    (hbounds : ∀ w ∈ p.vars, w.WellBounded) (v : Variable) :
  p.requireOwn v = .ok () ↔ p.Belongs v
  := by
  rw [hp.requireOwn_eq, ownership_eq_ok_iff]
  constructor
  · exact .inr
  · rintro (hv | hv)
    · rw [owns_iff]
      exact ⟨v, hv, (hbounds v hv).sameAs_self⟩
    · exact hv

/-- A problem has one variable with each identifier below their number. -/
theorem Numbered.exists_id_iff {p : Problem α} (hp : p.Numbered) {id : ℕ} :
  (∃ w ∈ p.vars, w.id = id) ↔ id < p.vars.length
  := by
  constructor
  · rintro ⟨w, hw, rfl⟩
    obtain ⟨i, hi, rfl⟩ := List.getElem_of_mem hw
    rwa [hp.id_getElem hi]
  · intro h
    exact ⟨p.vars[id], List.getElem_mem h, hp.id_getElem h⟩

/-- The variables of a problem are told apart by their numbers. -/
theorem Numbered.eq_of_id_eq {p : Problem α} (hp : p.Numbered) {v w : Variable}
    (hv : v ∈ p.vars) (hw : w ∈ p.vars) (h : v.id = w.id) :
  v = w
  := by
  obtain ⟨i, hi, rfl⟩ := List.getElem_of_mem hv
  obtain ⟨j, hj, rfl⟩ := List.getElem_of_mem hw
  rw [hp.id_getElem hi, hp.id_getElem hj] at h
  cases h
  rfl

/-- The column of a variable is where the problem has its number. -/
theorem Numbered.columnOf_eq_ok_iff {p : Problem α} (hp : p.Numbered) {v : Variable} {k : ℕ} :
  p.columnOf v = .ok k ↔ ∃ h : k < p.vars.length, p.vars[k].id = v.id
  := by
  constructor
  · intro h
    obtain ⟨own, hown, -⟩ := Outcome.bind_eq_ok_iff.mp h
    have hid := hp.lt_of_own?_eq_ok hown
    rw [hp.columnOf_eq_ok hid] at h
    cases h
    exact ⟨hid, hp.id_getElem hid⟩
  · rintro ⟨hk, hid⟩
    rw [hp.id_getElem hk] at hid
    rw [hp.columnOf_eq_ok (hid ▸ hk), hid]

/-- Exactly the variables whose numbers the problem has have columns. -/
theorem Numbered.exists_columnOf_iff {p : Problem α} (hp : p.Numbered) (v : Variable) :
  (∃ k, p.columnOf v = .ok k) ↔ ∃ w ∈ p.vars, w.id = v.id
  := by
  rw [hp.exists_id_iff]
  constructor
  · rintro ⟨k, hk⟩
    obtain ⟨hk, hid⟩ := hp.columnOf_eq_ok_iff.mp hk
    rwa [← hid, hp.id_getElem hk]
  · intro h
    exact ⟨v.id, hp.columnOf_eq_ok h⟩

theorem Numbered.own?_eq_error_of_id {p : Problem α} (hp : p.Numbered) {v : Variable}
    (h : ∀ w ∈ p.vars, w.id ≠ v.id) :
  p.own? v.id = .error (p.lacksVariable v.id)
  := by
  apply hp.own?_eq_error
  intro i hi hid
  apply h p.vars[i] (List.getElem_mem hi)
  rw [hp.id_getElem hi]
  exact Int.ofNat_inj.mp hid

/-- The only error is for a number that the problem lacks. -/
theorem Numbered.columnOf_eq_error_iff {p : Problem α} (hp : p.Numbered) {v : Variable}
    {e : Error} :
  p.columnOf v = .error e ↔ e = p.lacksVariable v.id ∧ ∀ w ∈ p.vars, w.id ≠ v.id
  := by
  by_cases h : ∃ w ∈ p.vars, w.id = v.id
  · obtain ⟨k, hk⟩ := (hp.exists_columnOf_iff v).mpr h
    rw [hk]
    constructor
    · nofun
    · rintro ⟨-, hnone⟩
      obtain ⟨w, hw, hid⟩ := h
      exact absurd hid (hnone w hw)
  · have hnone : ∀ w ∈ p.vars, w.id ≠ v.id := fun w hw hid => h ⟨w, hw, hid⟩
    rw [columnOf, hp.own?_eq_error_of_id hnone, Outcome.error_bind, Except.error.injEq, eq_comm]
    exact ⟨fun he => ⟨he, hnone⟩, And.left⟩

/-- The column of a variable is that of the problem's variable with its identifier, and the
variable is refused if there is none, as it is by the check for ownership. Having a column is
the same as belonging to the problem unless the problem's variable with the identifier differs
from the given one. -/
theorem columnOf_decided_by_id {p : Problem α} (hp : p.Reachable) (v : Variable) :
  (∀ k, p.columnOf v = .ok k ↔ ∃ h : k < p.vars.length, p.vars[k].id = v.id)
  ∧ (∀ e, p.columnOf v = .error e ↔
      e = .variableNotFound v.id (.problem p.name) ∧ ∀ w ∈ p.vars, w.id ≠ v.id)
  ∧ (p.Belongs v → ∃ k, p.columnOf v = .ok k)
  ∧ (((∃ k, p.columnOf v = .ok k) ↔ p.Belongs v)
      ↔ ∀ w ∈ p.vars, w.id = v.id → w = v ∨ w.sameAs v = true)
  ∧ ((∀ w ∈ p.vars, w.WellBounded) → (p.requireOwn v = .ok () ↔ p.Belongs v))
  ∧ ∀ e, p.columnOf v = .error e → p.requireOwn v = .error e
  := by
  have hn := hp.numbered
  refine ⟨fun k => hn.columnOf_eq_ok_iff, fun e => hn.columnOf_eq_error_iff, ?member, ?agree,
    fun hbounds => hn.requireOwn_eq_ok_iff hbounds v, ?refused⟩
  case member =>
    rw [belongs_iff, hn.exists_columnOf_iff]
    rintro ⟨w, hw, hid, -⟩
    exact ⟨w, hw, hid⟩
  case agree =>
    rw [belongs_iff, hn.exists_columnOf_iff]
    constructor
    · intro hiff w hw hid
      obtain ⟨u, hu, huid, hsame⟩ := hiff.mp ⟨w, hw, hid⟩
      obtain rfl : u = w := hn.eq_of_id_eq hu hw (huid.trans hid.symm)
      exact hsame
    · intro hsame
      constructor
      · rintro ⟨w, hw, hid⟩
        exact ⟨w, hw, hid, hsame w hw hid⟩
      · rintro ⟨w, hw, hid, -⟩
        exact ⟨w, hw, hid⟩
  case refused =>
    intro e he
    obtain ⟨rfl, hnone⟩ := hn.columnOf_eq_error_iff.mp he
    rw [requireOwn, hn.own?_eq_error_of_id hnone, Outcome.error_bind]

/-- The problem with one free variable. -/
def withOneVariable : Problem ℚ :=
  (empty (.text "p")).run [.addVariable .real (.text "x") 0]

/-- The variable of a problem has a column. -/
theorem columnOf_decided_by_id_own :
  withOneVariable.Reachable ∧ withOneVariable.Belongs ownVariable
    ∧ withOneVariable.columnOf ownVariable = .ok 0
  := by
  have hreach : withOneVariable.Reachable := ⟨_, _, rfl⟩
  use hreach, .inl (List.mem_singleton.mpr rfl)
  exact ((columnOf_decided_by_id hreach ownVariable).1 0).mpr ⟨Nat.zero_lt_one, rfl⟩

/-- A foreign variable has the column of the problem's variable with its identifier, and is
refused by the check for ownership. -/
theorem columnOf_finds_foreign :
  withOneVariable.Reachable ∧ ¬ withOneVariable.Belongs foreignVariable
    ∧ withOneVariable.requireOwn foreignVariable
      = .error (.variableNotFound 0 (.problem (.text "p")))
    ∧ withOneVariable.columnOf foreignVariable = .ok 0
  := by
  have howns : ¬ withOneVariable.Owns foreignVariable := by decide +kernel
  refine ⟨⟨_, _, rfl⟩, ?_, ?_, rfl⟩
  · rintro (hmem | hown)
    · have htag := congrArg Variable.tag (List.mem_singleton.mp hmem)
      cases htag
    · exact howns hown
  · rfl

end Problem

end QuadraticProgram
