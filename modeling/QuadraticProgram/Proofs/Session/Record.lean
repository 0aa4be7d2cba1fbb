import Mathlib.Logic.Relation
import QuadraticProgram.Proofs.Alignment
import QuadraticProgram.Proofs.Problem.Reachable
import QuadraticProgram.Proofs.Session.Acts
import QuadraticProgram.Session.ProblemMethod

/-!
# Records of problems

A record grows by single additions (`Record.Adds`, `Record.Grows`). Each of them keeps the problem
of the library numbered and in step with the values that were put in (`Record.Consistent`), and
leaves what was there before where it was (`Record.Extends`). The record under one tag is replaced
without a change to the other ones (`State.Replaces`).
-/

namespace QuadraticProgram.Session

open ProblemMethod

/-! ### Records -/

namespace Record

/-- A record with some more constraints. -/
def withConstraints (r : Record) (cs : List Value) : Record :=
  { r with
    problem := { r.problem with
      constraints := r.problem.constraints ++ cs.filterMap taggedConstraint? }
    constraints := r.constraints ++ cs }

/-- A record with one more variable, one more constraint or another objective. -/
inductive Adds (r : Record) : Record → Prop where
  | addVariable (kind : VariableKind) (label : Label) (own : ℕ) :
    r.Adds { r with problem := r.problem.addVariable kind label own }
  | addConstraint (c : Value) (hc : c.isConstraint) : r.Adds (r.withConstraints [c])
  | setObjective (own : ℕ) (e : Value) (sense : ObjectiveSense) (o : Scalar Float)
      (ho : e.operand.asObjective = .ok o) :
    r.Adds { r with
      problem := r.problem.setObjective ⟨o, sense⟩
      objective := .objective own e sense }

/-- A record after any number of additions. -/
def Grows : Record → Record → Prop := Relation.ReflTransGen Adds

/-- Several variables are added one at a time. -/
theorem grows_addVariables (r : Record) (kind : VariableKind) (first n : ℕ) :
  r.Grows { r with problem := (r.problem.addVariables kind first n).1 }
  := by
  induction n generalizing r first with
  | zero => apply Relation.ReflTransGen.refl
  | succ n ih =>
      apply Relation.ReflTransGen.head (.addVariable kind (.text "") first)
      apply ih

@[simp]
theorem withConstraints_nil (r : Record) :
  r.withConstraints [] = r
  := by
  simp [withConstraints]

/-- Constraints that are added after others are added behind them. -/
@[simp]
theorem withConstraints_append (r : Record) (cs ds : List Value) :
  (r.withConstraints cs).withConstraints ds = r.withConstraints (cs ++ ds)
  := by
  simp [withConstraints]

/-- A record that agrees with the problem of the library in it. -/
structure Consistent (r : Record) : Prop where
  numbered : r.problem.Numbered
  constraints_eq : r.problem.constraints = r.constraints.filterMap taggedConstraint?

/-- A new record is consistent. -/
theorem consistent_empty (label : Label) (name : Value) :
  Consistent ⟨.empty label, name, [], .nothing⟩
  := by
  constructor
  · apply Problem.numbered_empty
  · rfl

/-- A single addition keeps a record consistent. -/
theorem Consistent.adds {r r' : Record} (h : r.Consistent) (hr' : r.Adds r') :
  r'.Consistent
  := by
  cases hr' with
  | addVariable kind label own =>
      constructor
      · apply h.numbered.addVariable
      · apply h.constraints_eq
  | addConstraint c _ =>
      constructor
      · exact h.numbered.congr rfl rfl
      · simp [withConstraints, h.constraints_eq]
  | setObjective own e sense o _ =>
      constructor
      · exact h.numbered.congr rfl rfl
      · apply h.constraints_eq

/-- A record that has grown from a consistent one is consistent. -/
theorem Consistent.grows {r r' : Record} (h : r.Consistent) (hr' : r.Grows r') :
  r'.Consistent
  := by
  induction hr' with
  | refl => apply h
  | tail _ hadds ih => apply ih.adds hadds

/-- A record in which nothing that another one has is changed, moved or removed. -/
structure Extends (r r' : Record) : Prop where
  name_eq : r'.name = r.name
  vars_prefix : r.problem.vars <+: r'.problem.vars
  constraints_prefix : r.constraints <+: r'.constraints

theorem Extends.refl (r : Record) :
  r.Extends r
  := ⟨rfl, List.prefix_refl _, List.prefix_refl _⟩

theorem Extends.trans {r r' r'' : Record} (h : r.Extends r') (h' : r'.Extends r'') :
  r.Extends r''
  := by
  constructor
  · rw [h'.name_eq, h.name_eq]
  · apply h.vars_prefix.trans h'.vars_prefix
  · apply h.constraints_prefix.trans h'.constraints_prefix

/-- A single addition keeps all that was there. -/
theorem Adds.extends {r r' : Record} (h : r.Adds r') :
  r.Extends r'
  := by
  cases h with
  | addVariable kind label own => exact ⟨rfl, List.prefix_append _ _, List.prefix_refl _⟩
  | addConstraint c _ => exact ⟨rfl, List.prefix_refl _, List.prefix_append _ _⟩
  | setObjective own e sense o _ => exact ⟨rfl, List.prefix_refl _, List.prefix_refl _⟩

/-- However a record grows, it keeps all that was there. -/
theorem Grows.extends {r r' : Record} (h : r.Grows r') :
  r.Extends r'
  := by
  induction h with
  | refl => apply Extends.refl
  | tail _ hadds ih => apply ih.trans hadds.extends

end Record

namespace State

/-- A state in which one record is another one. -/
structure Replaces (s : State) (tag : ℕ) (r : Record) (t : State) : Prop where
  registers_eq : t.registers = s.registers
  lookup_problems : ∀ k, t.problems.lookup k = if k = tag then some r else s.problems.lookup k
  notes_eq : t.notes = s.notes

/-- A record may be replaced after the next free tag has changed. -/
theorem Agrees.replaces {s t u : State} {tag : ℕ} {r : Record} (h : s.Agrees t)
    (h' : t.Replaces tag r u) :
  s.Replaces tag r u
  := by
  constructor
  · rw [h'.registers_eq, h.registers_eq]
  · rw [← h.problems_eq]
    apply h'.lookup_problems
  · rw [h'.notes_eq, h.notes_eq]

/-- The next free tag may change after a record was replaced. -/
theorem Replaces.agrees {s t u : State} {tag : ℕ} {r : Record} (h : s.Replaces tag r t)
    (h' : t.Agrees u) :
  s.Replaces tag r u
  := by
  constructor
  · rw [h'.registers_eq, h.registers_eq]
  · rw [h'.problems_eq]
    apply h.lookup_problems
  · rw [h'.notes_eq, h.notes_eq]

/-- A record is replaced by itself where nothing happens. -/
theorem replaces_refl {s : State} {tag : ℕ} {r : Record} (h : s.problems.lookup tag = some r) :
  s.Replaces tag r s
  := by
  constructor
  · rfl
  · intro k
    split
    · next hk => rw [hk, h]
    · rfl
  · rfl

/-- The record that was put in is found under its tag. -/
theorem Replaces.lookup_self {s t : State} {tag : ℕ} {r : Record} (h : s.Replaces tag r t) :
  t.problems.lookup tag = some r
  := by
  rw [h.lookup_problems, if_pos rfl]

/-- Of two records that replace each other under one tag the second one stays. -/
theorem Replaces.trans {s t u : State} {tag : ℕ} {r r' : Record} (h : s.Replaces tag r t)
    (h' : t.Replaces tag r' u) :
  s.Replaces tag r' u
  := by
  constructor
  · rw [h'.registers_eq, h.registers_eq]
  · intro k
    rw [h'.lookup_problems, h.lookup_problems]
    split
    · rfl
    · rfl
  · rw [h'.notes_eq, h.notes_eq]

end State

namespace Act

variable {Q : Fault → State → Prop} {s : State} {tag : ℕ} {r : Record}

theorem after_record (h : s.problems.lookup tag = some r) :
  (record tag).after s = (.ok r, s)
  := by
  rw [record, after_bind_of_after (after_get s), h]
  rfl

/-- To look a record up gives it and changes nothing. -/
theorem ends_record (h : s.problems.lookup tag = some r) {P : Record → State → Prop} :
  (record tag).Ends s P Q ↔ P r s
  := ends_of_after (after_record h)

/-- To put a record in is never refused, and keeps the attributes. -/
theorem ends_setRecord :
  (setRecord tag r).Ends s (fun _ t => s.Replaces tag r t ∧ t.attributes = s.attributes)
    fun _ _ => False
  := by
  have hlookup (k : ℕ) :
      ((tag, r) :: s.problems.filter fun entry => entry.1 != tag).lookup k
        = if k = tag then some r else s.problems.lookup k := by
    by_cases hk : k = tag
    · rw [hk, List.lookup_cons_self, if_pos rfl]
    · have hne : (k == tag) = false := by simpa using hk
      rw [List.lookup_cons, hne, if_neg hk]
      apply Alignment.lookup_filter_ne _ hk
  exact ⟨⟨rfl, hlookup, rfl⟩, rfl⟩

/-- To set an attribute is never refused, and keeps registers, records and notes. -/
theorem ends_setAttribute (own : ℕ) (name : String) (v : Value) :
  (setAttribute own name v).Ends s
    (fun _ t => t.registers = s.registers ∧ t.problems = s.problems ∧ t.notes = s.notes)
    fun _ _ => False
  := ⟨rfl, rfl, rfl⟩

end Act

end QuadraticProgram.Session
