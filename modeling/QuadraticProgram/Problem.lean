import QuadraticProgram.Constraint
import QuadraticProgram.Grid
import QuadraticProgram.Objective

/-!
# Problems

A problem holds variables, constraints in the order in which they were added, and perhaps an
objective. The identifiers of its variables count up from zero, and an identifier is also
the column of its variable. Nothing is taken out of a problem.

The operations here take well-formed arguments and give the new problem; an operation that
is refused gives none. A constraint carries a tag that tells it from an equal one.
-/

namespace QuadraticProgram

/-- A value with a tag that tells it from equal ones. -/
structure Tagged (β : Type) where
  tag : Nat
  value : β

variable {α : Type} [Coefficient α]

/-- What a caller adds where a constraint is expected. -/
inductive ConstraintCandidate (α : Type) [Coefficient α] where
  | constraint (c : Tagged (Constraint α))
  | other (kind : String)

/-- An optimization problem. -/
structure Problem (α : Type) [Coefficient α] where
  name : Label
  vars : List Variable
  constraints : List (Tagged (Constraint α))
  objective? : Option (Objective α)
  columns : List (Nat × Nat)

/-- Bounds and a domain that new variables share. -/
structure VariableKind where
  lower : Float
  upper : Float
  domain : Domain

namespace VariableKind

/-- Any number. -/
def real : VariableKind := ⟨Variable.unbounded.1, Variable.unbounded.2, .continuous⟩

/-- Zero or one. -/
def binary : VariableKind := ⟨0.0, 1.0, .binary⟩

/-- An integer between two bounds. -/
def integer (lower upper : Float) : VariableKind := ⟨lower, upper, .integer⟩

end VariableKind

namespace Problem

/-- The problem without variables and constraints. -/
def empty (name : Label) : Problem α := ⟨name, [], [], none, []⟩

/-! ### Variables -/

/-- The next variable of a problem. -/
def nextVariable (p : Problem α) (kind : VariableKind) (name : Label) (tag : Nat) : Variable :=
  ⟨p.vars.length, kind.lower, kind.upper, kind.domain, name, tag⟩

/-- A problem with one more variable. -/
def addVariable (p : Problem α) (kind : VariableKind) (name : Label) (tag : Nat) : Problem α :=
  { p with
    vars := p.vars ++ [p.nextVariable kind name tag]
    columns := p.columns ++ [(p.vars.length, p.vars.length)] }

/-- A problem with several more variables without names, and those variables. Their tags
count up from a first one. -/
def addVariables (p : Problem α) (kind : VariableKind) (tag : Nat) :
    Nat → Problem α × List Variable
  | 0 => (p, [])
  | n + 1 =>
    let (q, vs) := (p.addVariable kind (.text "") tag).addVariables kind (tag + 1) n
    (q, p.nextVariable kind (.text "") tag :: vs)

/-- As many variables are given as were asked for. -/
@[simp]
theorem length_addVariables (p : Problem α) (kind : VariableKind) (tag n : Nat) :
  (p.addVariables kind tag n).2.length = n
  := by
  induction n generalizing p tag with
  | zero => rfl
  | succ n ih => simp [addVariables, ih]

/-- A problem with several more variables, and the column of them. -/
def addVector (p : Problem α) (kind : VariableKind) (tag : Nat) (n : Int) :
    Except Error (Problem α × Vec α) :=
  if n < 0 then .error (.negativeCount n)
  else
    let (q, vs) := p.addVariables kind tag n.toNat
    .ok (q, ⟨.vars vs, .column⟩)

/-- A problem with the variables of a grid more, and the grid. -/
def addGrid (p : Problem α) (kind : VariableKind) (tag : Nat) (rows columns : Int) :
    Except Error (Problem α × Grid) :=
  if rows < 0 ∨ columns < 0 then .error (.negativeSizes rows columns)
  else
    .ok ((p.addVariables kind tag (rows.toNat * columns.toNat)).1,
      ⟨(p.addVariables kind tag (rows.toNat * columns.toNat)).2, rows.toNat, columns.toNat,
        by simp⟩)

/-- The error for a variable that a problem lacks. -/
def lacksVariable (p : Problem α) (id : Int) : Error := .variableNotFound id (.problem p.name)

/-- The variable with an identifier. -/
def own? (p : Problem α) (id : Int) : Except Error Variable :=
  match p.columns.find? fun entry => entry.1 = id with
  | none => .error (p.lacksVariable id)
  | some (_, k) =>
    match p.vars[k]? with
    | some v => .ok v
    | none => .error .positionOutOfRange

/-- The column of a variable. -/
def columnOf (p : Problem α) (v : Variable) : Except Error Nat := do
  let own ← p.own? v.id
  match p.columns.lookup own.id with
  | some k => return k
  | none => throw (p.lacksVariable v.id)

/-! ### Constraints and objective -/

/-- A problem with one more constraint. -/
def addConstraint (p : Problem α) (c : Tagged (Constraint α)) : Problem α :=
  { p with constraints := p.constraints ++ [c] }

/-- The constraints at the beginning of a list are added, up to the first item that is none
and that is refused. -/
def addConstraints (p : Problem α) :
    List (ConstraintCandidate α) → Problem α × Except Error Unit
  | [] => (p, .ok ())
  | .constraint c :: rest => (p.addConstraint c).addConstraints rest
  | .other kind :: _ => (p, .error (.unexpectedInput .constraint kind))

/-- A problem with another objective. -/
def setObjective (p : Problem α) (o : Objective α) : Problem α :=
  { p with objective? := some o }

/-- A problem whose objective is the expression that an operand stands for. -/
def setObjective? (p : Problem α) (e : Operand α) (sense : ObjectiveSense) :
    Except Error (Problem α) := do
  return p.setObjective ⟨← e.asObjective, sense⟩

/-- The objective, where one is needed. -/
def objective (p : Problem α) : Except Error (Objective α) :=
  match p.objective? with
  | some o => .ok o
  | none => .error (.noObjective p.name)

end Problem

end QuadraticProgram
