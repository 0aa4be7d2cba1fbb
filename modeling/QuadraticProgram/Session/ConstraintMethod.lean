import QuadraticProgram.Session.ColumnUpdate
import QuadraticProgram.Session.Delegation

/-!
# Methods of constraints

What can be asked of a constraint in a session. Where both sides of a constraint are
expressions it is one of the library. Other sides can be kept and asked whether they are
linear, but they have no variables, and what needs these says so.
-/

namespace QuadraticProgram.Session.ConstraintMethod

/-- The signature of a method of a constraint. -/
def signature? (form : ConstraintForm) (m : String) : Option Signature :=
  let named (owner : String) (ps : List Parameter) : Option Signature :=
    some (.method (owner ++ "." ++ m) ps)
  match form, m with
  | _, "is_linear" | _, "simplify" => named "_Constraint" []
  | _, "implies_this_is_also_satisfied" => named "_Constraint" [required "other"]
  | form, "check" => named form.kind []
  | .scalar, "linear_row" => named "ScalarConstraint" [required "column_index"]
  | .vector, "linear_rows" => named "VectorConstraint" [required "column_index"]
  | .vector, "at" => named "VectorConstraint" [required "i"]
  | _, _ => none

/-! ### Simplified constraints -/

/-- The constraint with all variables on the left side. A left side that stays as it is
remains the same object. -/
def simplifyPlain (lhs : Value) (c : Constraint Float) : Act Value := do
  let simplified ← Act.ofExcept c.simplify
  let l ← if c.rhs.vars.isEmpty then pure lhs else Act.expression simplified.lhs
  let r ← Act.expression simplified.rhs
  return .constraint (← Act.fresh) c.form l r c.sense

/-- A constraint one side of which is no expression, with all variables on the left side. This
is possible only if the right side is an expression without variables. -/
def simplifyOdd (form : ConstraintForm) (lhs rhs : Value) (sense : Sense) : Act Value := do
  match rhs.expression? with
  | none => throw (.lacks rhs "variable_vector")
  | some e =>
    if e.vars.isEmpty then
      let r ← Act.expression? e.constantPart
      return .constraint (← Act.fresh) form lhs r sense
    else throw (.lacks lhs "plus")

/-! ### Rows -/

/-- A constraint one side of which is no expression has no rows. -/
def oddRows (form : ConstraintForm) (lhs rhs : Value) (sense : Sense) (width : Act Unit) :
    Act Value := do
  discard (simplifyOdd form lhs rhs sense)
  match form with
  | .scalar =>
    width
    throw (.lacks lhs "variable_vector")
  | .vector => throw (.lacks lhs "linear_coeff")

/-- The column of each identifier, if a value is a dictionary from identifiers to columns. -/
def columns? (mapping : Value) : Option Columns := do
  let (keys, values) ← mapping.entries?
  let positions ← (keys.zip values).mapM fun (k, v) =>
    match k, v with
    | .integer _ id, .integer _ i =>
      if 0 ≤ id ∧ i.natAbs < Nat.pow 2 62 then some (id.toNat, i) else none
    | _, _ => none
  return ⟨keys.length, positions⟩

/-- The rows of a constraint between expressions. -/
def rowsOf (c : Constraint Float) (mapping : Value) : Act Value := do
  match c.form, columns? mapping with
  | .scalar, some columns =>
    let r ← Act.ofExcept (c.linearRow columns)
    return .ofTuple [.ofEntries r.coefficients, ColumnUpdate.boundValue r.bound]
  | .vector, some columns =>
    let r ← Act.ofExcept (c.linearRows columns)
    return .ofTuple [.ofMatrix r.coefficients, ColumnUpdate.boundValue r.bound]
  | .scalar, none => ColumnUpdate.row (← Act.ofExcept c.simplify) mapping
  | .vector, none => ColumnUpdate.rows (← Act.ofExcept c.simplify) mapping

/-- The rows of a constraint, which has to be linear. -/
def rows (self : Value) (form : ConstraintForm) (lhs rhs : Value) (sense : Sense)
    (mapping : Value) : Act Value := do
  if !(← Act.isLinear self) then
    throw (.ofError (.constraintNotLinear (← Act.printed self)))
  match self.constraint? with
  | some c => rowsOf c mapping
  | none => oddRows form lhs rhs sense (discard (Act.ofResult mapping.length))

/-! ### Implication -/

/-- Refuses a constraint that gives no rows to compare. -/
def requireRows (v : Value) : Act Unit := do
  match v, v.constraint? with
  | _, some c => discard (Act.ofExcept c.normalRows)
  | .constraint _ form lhs rhs sense, none =>
    discard (oddRows form lhs rhs sense (pure ()))
  | _, none => pure ()

/-- Whether a constraint is known to imply another value, which has to be a constraint. -/
def implies (self other : Value) : Act Value := do
  if !other.isConstraint then throw (.ofError (.unexpectedInput .implication other.kind))
  match self.constraint?, other.constraint? with
  | some c, some d => return .bool (← Act.ofExcept (c.implies d))
  | _, _ =>
    if !(← Act.isLinear self) then return .bool false
    if !(← Act.isLinear other) then return .bool false
    requireRows self
    requireRows other
    return .bool false

/-! ### Entries -/

/-- What the side of a constraint has under an index. -/
def sideAt (index : Value) : Value → Act Value
  | .expression _ (.vector v) => Indexing.vectorAt v index
  | .expression _ (.matrix _) =>
    throw (.type "KMatrix.at() missing 1 required positional argument: 'j'")
  | .grid .. => throw (.type "VarMatrix.at() missing 1 required positional argument: 'j'")
  | .constraint _ .vector lhs rhs sense => do
    let l ← sideAt index lhs
    let r ← sideAt index rhs
    return .constraint (← Act.fresh) .scalar l r sense
  | side => throw (.lacks side "at")

/-! ### Results -/

/-- The result of a method of a constraint. -/
def run (self : Value) (form : ConstraintForm) (lhs rhs : Value) (sense : Sense) (m : String)
    (args : List Value) : Act Value :=
  match m, args with
  | "check", _ => do
    match plainConstraint? self with
    | some c => Act.ofExcept c.check
    | none => Act.check self
    return .nothing
  | "is_linear", _ => do
    match self.constraint? with
    | some c => return .bool c.isLinear
    | none => return .bool (← Act.isLinear self)
  | "simplify", _ =>
    match self.constraint? with
    | some c => simplifyPlain lhs c
    | none => simplifyOdd form lhs rhs sense
  | "implies_this_is_also_satisfied", [other] => implies self other
  | "linear_row", [mapping] | "linear_rows", [mapping] => rows self form lhs rhs sense mapping
  | "at", [i] => sideAt i self
  | m, _ => throw (.lacks self m)

end QuadraticProgram.Session.ConstraintMethod
