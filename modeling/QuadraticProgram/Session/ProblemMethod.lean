import QuadraticProgram.Problem.Matrices
import QuadraticProgram.Problem.Redundancy
import QuadraticProgram.Session.ConstraintMethod

/-!
# Methods of problems

What can be asked of a problem in a session, and what can be added to it. A problem is
changed in place: the record of its tag is replaced. What is well formed is left to the
library; constraints with other sides are kept beside it.
-/

namespace QuadraticProgram.Session.ProblemMethod

/-! ### Signatures -/

/-- A parameter for a lower bound. -/
def lowerBound : Parameter := optional "lower" (.ofFloat Variable.unbounded.1)

/-- A parameter for an upper bound. -/
def upperBound : Parameter := optional "upper" (.ofFloat Variable.unbounded.2)

/-- A parameter for a domain. -/
def domain : Parameter := optional "var_type" (.member (.domain .continuous))

/-- A parameter for a name. -/
def name : Parameter := optional "name" (.ofText "")

/-- The parameters of the methods of a problem. -/
def parameters? : String → Option (List Parameter)
  | "num_variables" | "num_constraints" | "check" | "is_linear" | "check_linear" | "copy" =>
    some []
  | "add_variable_classic" => some [lowerBound, upperBound, domain, name]
  | "add_real_variable" | "add_variable" | "add_binary_variable" => some [name]
  | "add_integer_variable" => some [lowerBound, upperBound, name]
  | "add_variable_vector_classic" => some [required "n", lowerBound, upperBound, domain]
  | "add_variable_vector" | "add_binary_variable_vector" => some [required "n"]
  | "add_variable_matrix" =>
    some [required "rows", required "columns", lowerBound, upperBound, domain]
  | "add_binary_variable_matrix" => some [required "rows", required "columns"]
  | "get_variable" => some [required "vid"]
  | "column_of" => some [required "variable"]
  | "add_constraint" => some [required "constraint"]
  | "add_constraints" => some [required "constraints_to_add"]
  | "set_objective" =>
    some [required "expression",
      optional "sense" (.member (.objectiveSense .minimize))]
  | "constraint_is_redundant_given_others" =>
    some [required "constraint", optional "others" .nothing]
  | _ => none

/-- The signature of a method of a problem. -/
def signature? (m : String) : Option Signature :=
  let called := "OptimizationProblem." ++ m
  match m with
  | "linear_inequality_matrices" | "linear_equality_matrices" =>
    some ⟨called, [], [optional "allow_empty" (.bool true)], true⟩
  | m => (parameters? m).map fun ps => .method called ps

/-! ### Variables -/

/-- Bounds and a domain that are read from values, the domain first. -/
def variableKind (lower upper domain : Value) : Act VariableKind := do
  let d ← Construct.domain domain
  return ⟨← Act.ofResult lower.toFloat, ← Act.ofResult upper.toFloat, d⟩

/-- Adds a variable. -/
def addVariable (tag : Nat) (kind : VariableKind) (name : Value) : Act Value := do
  let r ← Act.record tag
  let label ← Construct.label name
  let own ← Act.fresh
  Act.setAttribute own "name" name
  Act.setRecord tag { r with problem := r.problem.addVariable kind label own }
  return .ofVariable (r.problem.nextVariable kind label own)

/-- Adds several variables. What they share is read only if there are any. -/
def addVariables (tag : Nat) (n : Int) (kind : Act VariableKind) : Act Value := do
  let kind ← if 0 < n then kind else pure .real
  let r ← Act.record tag
  let first ← Act.freshMany n.toNat
  let (problem, v) ← Act.ofExcept (r.problem.addVector kind first n)
  Act.setRecord tag { r with problem := problem }
  Act.expression (.vector v)

/-- Adds a column of variables. -/
def addVector (tag : Nat) (n : Value) (kind : Act VariableKind) : Act Value := do
  if ← Act.isOrdered .less n (.ofInt 0) then
    throw (.value ("the number of variables must be non negative, got " ++ (← Act.printed n)))
  addVariables tag (← Act.ofResult n.toIndex) kind

/-- Adds the variables of a grid of the library. -/
def addGrid (tag : Nat) (rows columns : Int) (kind : Act VariableKind) : Act Value := do
  let kind ← if 0 < rows ∧ 0 < columns then kind else pure .real
  let r ← Act.record tag
  let first ← Act.freshMany (rows.toNat * columns.toNat)
  let (problem, g) ← Act.ofExcept (r.problem.addGrid kind first rows columns)
  Act.setRecord tag { r with problem := problem }
  return .grid (← Act.fresh) (g.elements.map Value.ofVariable) (.ofInt rows) (.ofInt columns)

/-- Adds the variables of a grid, whose sizes only have to have a product that is an
integer. -/
def addSizedGrid (tag : Nat) (rows columns : Value) (kind : Act VariableKind) : Act Value := do
  match rows, columns with
  | .integer _ m, .integer _ n => addGrid tag m n kind
  | rows, columns =>
    let negative ← (do
      if ← Act.isOrdered .less rows (.ofInt 0) then return true
      else Act.isOrdered .less columns (.ofInt 0))
    if negative then
      throw (.value ("the matrix dimensions must be non negative, got " ++
        (← Act.printed rows) ++ " x " ++ (← Act.printed columns)))
    let elements ← addVector tag (← GridLine.product rows columns) kind
    Construct.grid elements (.ofTuple [rows, columns])

/-- The fault of an identifier that a problem does not have. -/
def unknownId (r : Record) (id : Value) : Act Fault := do
  let place := Place.problem (.other (← Act.shown r.name))
  return ⟨"VariableNotFoundError", Wording.variableNotFound (← Act.printed id) place.text,
    some [("variable_id", id)]⟩

/-- The position of the variable that is found under a value. -/
def positionOf (r : Record) (id : Value) : Act (Option Value) := do
  match id with
  | .integer _ n =>
    return if 0 ≤ n ∧ n < r.problem.vars.length then some (.ofInt n) else none
  | id =>
    let positions := (List.range r.problem.vars.length).map Value.ofNat
    Act.lookup? id positions positions

/-- The variable that is found under a value. -/
def variableAt (r : Record) (id : Value) : Act Value := do
  match ← positionOf r id with
  | some (.integer _ n) =>
    return .ofVariable (← Act.ofExcept (r.problem.own? n))
  | _ => throw (← unknownId r id)

/-- The column of a variable. -/
def columnOf (r : Record) (v : Variable) : Act Value := do
  match r.problem.columnOf v with
  | .ok k => return .ofNat k
  | .error _ => throw (← unknownId r (.ofNat v.id))

/-! ### Constraints and objective -/

/-- The constraint that a value stands for: that of a pair is that its values are equal. -/
def asConstraint : Value → Act Value
  | .pair _ first second => Construct.ofPair first second
  | v => pure v

/-- Adds a constraint. -/
def addConstraint (tag : Nat) (v : Value) : Act Value := do
  let v ← asConstraint v
  if !v.isConstraint then throw (.ofError (.unexpectedInput .constraint v.kind))
  let r ← Act.record tag
  let problem :=
    match v.constraint? with
    | some c => r.problem.addConstraint ⟨v.tag, c⟩
    | none => r.problem
  Act.setRecord tag { r with problem := problem, constraints := r.constraints ++ [v] }
  return v

/-- The scalar expression that a value stands for as an objective. -/
def asObjective (v : Value) : Act Value := do
  match v with
  | .expression _ (.scalar _) => return v
  | .grid .. | .flag _ => throw (.ofError (.objectiveNotScalar v.kind))
  | v => Act.expression? (v.operand.asObjective.map .scalar)

/-- Sets the objective. -/
def setObjective (tag : Nat) (e s : Value) : Act Value := do
  let e ← asObjective e
  let s ← Construct.objectiveSense s
  let r ← Act.record tag
  let problem ← Act.ofExcept (r.problem.setObjective? e.operand s)
  let o := Value.objective (← Act.fresh) e s
  Act.setRecord tag { r with problem := problem, objective := o }
  return o

/-! ### Analyses -/

/-- Whether all constraints of a problem are those of the library. -/
def isTyped (r : Record) : Bool := r.constraints.length == r.problem.constraints.length

/-- Refuses the first constraint that is not linear; the constraints are counted from `k`. -/
def requireLinear (r : Record) (p : Problem Float) (k : Nat) : List Value → Act Unit
  | [] => return ()
  | c :: cs => do
    if ← Act.isLinear c then requireLinear r p (k + 1) cs
    else Act.ofExceptNamed r.name (.error (.notLinear p.name (.constraint k)))

/-- Refuses a problem that is not well defined or not linear. -/
def checkLinear (self : Value) (r : Record) : Act Unit := do
  let p ← Act.problemOf r
  if r.isPlain then Act.ofExceptNamed r.name p.checkLinear
  else
    match ← Act.attempt (Act.check self) with
    | .ok () => pure ()
    | .error f =>
      if f.particulars?.isSome then
        Act.ofExceptNamed r.name (.error (.notLinear p.name .notWellDefined))
      else throw f
    if ← Act.isLinear r.objective then requireLinear r p 0 r.constraints
    else Act.ofExceptNamed r.name (.error (.notLinear p.name .objective))

/-- Whether one of some values is known to imply a constraint, which is not compared with
itself. -/
def isImplied (c : Value) : List Value → Act Bool
  | [] => return false
  | d :: ds => do
    if d.same c then isImplied c ds
    else if !d.isConstraint then throw (.lacks d "implies_this_is_also_satisfied")
    else
      match ← ConstraintMethod.implies d c with
      | .bool true => return true
      | _ => isImplied c ds

/-- A value as a constraint with its tag. -/
def taggedConstraint? (v : Value) : Option (Tagged (Constraint Float)) :=
  v.constraint?.map fun c => ⟨v.tag, c⟩

/-- Whether a constraint is known to be implied by others. -/
def isRedundant (r : Record) (c others : Value) : Act Value := do
  let candidates ←
    match others with
    | .nothing => pure r.constraints
    | others => others.items
  match taggedConstraint? c, candidates.mapM taggedConstraint? with
  | some d, some ds => return .bool (← Act.ofExcept (Constraint.isImpliedByAny d ds))
  | _, _ => return .bool (← isImplied c candidates)

/-! ### Matrices -/

/-- The note on a constraint that is skipped. -/
def skipped (p : Problem Float) (k : Nat) (c : Value) : Act Unit := do
  Act.note [⟨.detail, "Skipping constraint #" ++ toString k ++ " of problem " ++ p.name.shown ++
    ", it is not linear: " ++ (← Act.printed c)⟩]

/-- Extracts the rows of a constraint and leaves the note on it. -/
def extract (p : Problem Float) (k : Nat) (v : Value) : Act Unit := do
  match v, v.constraint? with
  | _, some c =>
    match ← Act.ofExcept (p.block? c) with
    | none => skipped p k v
    | some block =>
      Act.note [⟨.trace, "Constraint #" ++ toString k ++ " of problem " ++ p.name.shown ++
        " gives " ++ toString block.rows.val.rows ++ " row(s)"⟩]
  | .constraint _ form lhs rhs sense, none =>
    if ← Act.isLinear v then
      discard (ConstraintMethod.oddRows form lhs rhs sense (pure ()))
    else skipped p k v
  | _, none => pure ()

/-- Whether a constraint belongs to a family. -/
def belongs (family : Family) : Value → Bool
  | .constraint _ _ _ _ sense => family.contains sense
  | _ => false

/-- The matrix and the bounds of a family of constraints. -/
def matrices (r : Record) (family : Family) (allowEmpty : Value) : Act Value := do
  let p ← Act.problemOf r
  if r.isPlain then Act.note (p.notes family)
  else
    (r.constraints.zipIdx.filter fun (c, _) => belongs family c).forM fun (c, k) =>
      extract p k c
  discard (Act.ofExcept (p.matrices family))
  let allowEmpty ← Act.ofResult allowEmpty.truth
  let (rows, bounds) ← Act.ofExceptNamed r.name (p.matricesOr family allowEmpty)
  return .ofTuple [.ofMatrix rows, .ofTensor bounds]

/-! ### Results -/

/-- The result of a method of a problem. -/
def run (self : Value) (tag : Nat) (m : String) (args : List Value) : Act Value := do
  let r ← Act.record tag
  match m, args with
  | "num_variables", _ => return .ofNat r.problem.vars.length
  | "num_constraints", _ => return .ofNat r.constraints.length
  | "add_variable_classic", [lower, upper, domain, name] =>
    addVariable tag (← variableKind lower upper domain) name
  | "add_real_variable", [name] => addVariable tag .real name
  | "add_variable", [name] => addVariable tag .real name
  | "add_binary_variable", [name] => addVariable tag .binary name
  | "add_integer_variable", [lower, upper, name] =>
    let lowest ← Act.ofResult lower.toFloat
    addVariable tag (.integer lowest (← Act.ofResult upper.toFloat)) name
  | "add_variable_vector_classic", [n, lower, upper, domain] =>
    addVector tag n (variableKind lower upper domain)
  | "add_variable_vector", [n] => addVector tag n (pure .real)
  | "add_binary_variable_vector", [n] => addVector tag n (pure .binary)
  | "add_variable_matrix", [rows, columns, lower, upper, domain] =>
    addSizedGrid tag rows columns (variableKind lower upper domain)
  | "add_binary_variable_matrix", [rows, columns] =>
    addSizedGrid tag rows columns (pure .binary)
  | "get_variable", [id] => variableAt r id
  | "column_of", [v] => columnOf r (← Act.ofResult v.requireVariable)
  | "add_constraint", [c] => addConstraint tag c
  | "add_constraints", [cs] => return .ofList (← (← cs.items).mapM (addConstraint tag))
  | "set_objective", [e, s] => setObjective tag e s
  | "check", _ =>
    Act.check self
    return .nothing
  | "is_linear", _ =>
    if isTyped r then return .bool r.problem.isLinear else return .bool (← Act.isLinear self)
  | "check_linear", _ =>
    checkLinear self r
    return .nothing
  | "constraint_is_redundant_given_others", [c, others] => isRedundant r c others
  | "linear_inequality_matrices", [allowEmpty] => matrices r .inequalities allowEmpty
  | "linear_equality_matrices", [allowEmpty] => matrices r .equalities allowEmpty
  | "copy", _ =>
    let copied ← Act.fresh
    Act.setRecord copied r
    return .problem copied
  | m, _ => throw (.lacks self m)

end QuadraticProgram.Session.ProblemMethod
