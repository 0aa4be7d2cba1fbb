import QuadraticProgram.Expression.Sum
import QuadraticProgram.Session.ErrorObject
import QuadraticProgram.Session.ExpressionMethod
import QuadraticProgram.Session.ProblemMethod

/-!
# Functions of a session

The functions that a session can call by name: their signatures (`Function.signature?`) and
their results (`Function.run`).
-/

namespace QuadraticProgram.Session.Function

/-! ### Signatures -/

/-- A parameter for the orientation of a vector. -/
def orientation : Parameter := optional "orientation" (.member (.orientation .column))

/-- A parameter for a constant term. -/
def constantTerm : Parameter := optional "c" (.ofFloat 0.0)

/-- The parameters of a function that makes an object, and the kind whose definition it
is. -/
def constructor? : String → Option (String × List Parameter)
  | "Variable" =>
    some ("Variable", [required "vid",
      optional "lower_bound" (.ofFloat Variable.unbounded.1),
      optional "upper_bound" (.ofFloat Variable.unbounded.2),
      optional "var_type" (.member (.domain .continuous)), optional "name" (.ofText "")])
  | "K" => some ("K", [required "value"])
  | "ScalarLinearExpression" =>
    some ("ScalarLinearExpression", [required "x", required "l", constantTerm])
  | "ScalarQuadraticExpression" =>
    some ("ScalarQuadraticExpression",
      [required "x", required "q", optional "l" .nothing, constantTerm])
  | "VarEqVar" => some ("VarEqVar", [required "first_variable", required "second_variable"])
  | "KVector" => some ("KVector", [required "values", orientation])
  | "VarVector" => some ("VarVector", [required "elements", orientation])
  | "VectorLinearExpression" =>
    some ("VectorLinearExpression",
      [required "x", required "l", optional "c" .nothing, orientation])
  | "KMatrix" => some ("KMatrix", [required "values"])
  | "VarMatrix" => some ("VarMatrix", [required "elements", required "shape"])
  | "ScalarConstraint" | "VectorConstraint" =>
    some ("_Constraint", [required "lhs", required "rhs", required "sense"])
  | "Objective" => some ("Objective", [required "expression", required "sense"])
  | "OptimizationProblem" => some ("OptimizationProblem", [optional "name" (.ofText "")])
  | "SolveParameters" =>
    some ("SolveParameters",
      [optional "enable_output" (.bool false), optional "time_limit" .nothing])
  | "Solution" =>
    some ("Solution", [optional "variable_values" (.frozen 0 [] []),
      optional "objective_value" (.ofFloat 0.0),
      optional "status" (.member (.status .loaded))])
  | kind => (ErrorObject.parameters? kind).map fun ps => (kind, ps)

/-- The parameters of a function that makes no object. -/
def parameters? : String → Option (List Parameter)
  | "as_expression" | "transpose" | "as_objective_expression" => some [required "value"]
  | "fast_sum" => some [required "summands"]
  | "plus" | "multiply" | "less_eq" | "greater_eq" | "eq" =>
    some [required "lhs", required "rhs"]
  | "comparison" => some [required "lhs", required "rhs", required "sense"]
  | "evaluate_expression" => some [required "expression", required "variable_values"]
  | "is_a_number" => some [required "x"]
  | "unique_variables" | "index_map" => some [required "variables"]
  | "index_of" => some [required "variable", required "variables"]
  | "values_of" => some [required "x", required "variable_values"]
  | "rewrite_columns" => some [required "l", required "source", required "target"]
  | "value_of" => some [required "solution", required "variable"]
  | "evaluate" => some [required "solution", required "expression"]
  | "objective_value_of" => some [required "solution", required "problem"]
  | _ => none

/-- The signature of a function. -/
def signature? (name : String) : Option Signature :=
  match constructor? name with
  | some (kind, ps) => some (.method (kind ++ ".__init__") ps)
  | none =>
    if name == "SolutionStatus" then
      some (.method "EnumType.__call__" [required "value", optional "names" .nothing])
    else (parameters? name).map (.function name)

/-! ### Variables -/

/-- The variables that the items of a value have to be. -/
def variablesOf (v : Value) : Act (List Variable) := do
  ExpressionMethod.variablesOf (← v.items)

/-- The variables without repetitions. -/
def uniqueVariables (v : Value) : Act Value := do
  return .ofList ((Alignment.distinct (← variablesOf v)).map Value.ofVariable)

/-- The first positions of identifiers. -/
def indexMap (v : Value) : Act Value := do
  let entries := Alignment.indexMap (← variablesOf v)
  return .dict 0 (entries.map fun (id, _) => .ofNat id) (entries.map fun (_, k) => .ofNat k)

/-- The variables at the beginning of a list, and what comes after them if it is none. -/
def leadingVariables (xs : List Value) : List Variable × Option Value :=
  let leading := xs.takeWhile fun v => v.decision?.isSome
  (leading.filterMap Value.decision?, xs[leading.length]?)

/-- The first position of a variable. The list is read up to that position only. -/
def indexOf (v vars : Value) : Act Value := do
  let (leading, bad) := leadingVariables (← vars.items)
  match leading, bad with
  | [], some w => discard (Act.ofResult w.requireVariable)
  | _, _ => pure ()
  let v ← Act.ofResult v.requireVariable
  match Alignment.indexOf v leading, bad with
  | .ok k, _ => return .ofNat k
  | .error _, some w => throw (.lacks w "id")
  | .error e, none => throw (.ofError e)

/-! ### Columns -/

/-- The number of rows that a value has. -/
def rowCount (l : Value) : Act Nat := do
  match l, l.tensor? with
  | _, some t =>
    if t.axes = 0 then throw (.index "tuple index out of range") else return t.length
  | .grid _ _ rows _, none => return (← Act.ofResult rows.toIndex).toNat
  | .entry .., none | .flag _, none => throw (.index "tuple index out of range")
  | l, none => throw (.lacks l "shape")

/-- A column of a value. -/
def columnOf (l : Value) (k : Nat) : Act (Tensor Float) := do
  let index := Value.ofTuple [.slice 0 .nothing .nothing .nothing, .ofNat k]
  Act.ofResult (← Indexing.item l index).toArray

/-- An array with the columns of a value added, one for each variable of a list. -/
def addColumns (l : Value) (target : List Variable) (t : Tensor Float) (k : Nat) :
    List Value → Act (Tensor Float)
  | [] => return t
  | v :: vs => do
    let v ← Act.ofResult v.requireVariable
    match (Alignment.indexMap target).lookup v.id with
    | none => throw (.ofError (.variableNotFound v.id .targetVector))
    | some j =>
      let index := Value.ofTuple [.slice 0 .nothing .nothing .nothing, .ofNat j]
      let t ← Act.ofResult (ColumnUpdate.update t index (← columnOf l k))
      addColumns l target t (k + 1) vs

/-- The matrix that a value is, if it has a column for each of some variables. -/
def matrix? (l : Value) (count : Nat) : Option (Matrix Float) :=
  match l with
  | .array _ t =>
    match t.shape with
    | [n, m] => if count ≤ m then some (.ofTensor n m t.entries) else none
    | _ => none
  | _ => none

/-- The columns of a value, one for each variable of a list, moved to another list. -/
def rewriteColumns (l source target : Value) : Act Value := do
  let targets ← variablesOf target
  let n ← rowCount l
  let xs ← source.items
  match xs.mapM Value.decision?, matrix? l xs.length with
  | some sources, some m =>
    Act.ofExcept (Alignment.requireAll sources targets)
    return .ofMatrix (Alignment.spreadColumns sources m targets)
  | _, _ =>
    let zeros := List.replicate (n * targets.length) 0.0
    return .ofTensor (← addColumns l targets ⟨[n, targets.length], zeros⟩ 0 xs)

/-! ### Expressions -/

/-- A value as an expression. An expression remains the same object. -/
def asExpression (v : Value) : Act Value :=
  if v.isExpression then pure v else Act.expression? v.operand.toExpression

/-- The sum of the items of a value. A single one that is no linear scalar is its own sum. -/
def total (v : Value) : Act Value := do
  let xs ← v.items
  match xs with
  | [.expression t (.scalar e)] =>
    if e.isLinear then Act.expression? (Expression.sum [.expression (.scalar e)])
    else return .expression t (.scalar e)
  | [.expression t e] => return .expression t e
  | xs => Act.expression? (Expression.sum (xs.map Value.operand))

/-- A value as an expression with rows and columns exchanged. -/
def transposed (v : Value) : Act Value := do
  match ← asExpression v with
  | .expression t (.scalar e) => return .expression t (.scalar e)
  | .expression _ e => Act.expression e.transpose
  | v => return v

/-- The comparison of two values, the left one promoted. -/
def compare (lhs rhs s : Value) : Act Value := do
  let e ← Act.ofExcept lhs.operand.toExpression
  ExpressionMethod.compare (← asExpression lhs) e rhs s

/-! ### Solutions -/

/-- The keys and the values of a solution. -/
def solutionValues (v : Value) : Act Value := do
  match v with
  | .solution t keys values _ _ => Act.stored t "variable_values" (.frozen 0 keys values)
  | v => throw (.lacks v "variable_values")

/-- The value of a variable in a solution. -/
def valueOf (s v : Value) : Act Value := do
  let x ← Act.ofResult v.requireVariable
  Valuation.given .solution (← solutionValues s) x.id

/-- The value of an expression in a solution. -/
def evaluate (s e : Value) : Act Value := do
  let values ← solutionValues s
  Valuation.evaluate (← Act.ofExcept e.operand.toExpression) values

/-- The value of the objective of a problem in a solution. -/
def objectiveValueOf (s p : Value) : Act Value := do
  match p with
  | .problem tag =>
    let r ← Act.record tag
    let o ← Act.ofExceptNamed r.name (← Act.problemOf r).objective
    Valuation.evaluate (.scalar o.expression) (← solutionValues s)
  | p => throw (.lacks p "objective")

/-! ### Results -/

/-- The object that a function makes. -/
def construct (name : String) (args : List Value) : Act Value :=
  match name, args with
  | "Variable", [id, lower, upper, domain, name] =>
    Construct.decision id lower upper domain name
  | "K", [value] => Construct.constant value
  | "ScalarLinearExpression", [x, l, c] => Construct.linear x l c
  | "ScalarQuadraticExpression", [x, q, l, c] => Construct.quadratic x q l c
  | "VarEqVar", [v, w] => Construct.pair v w
  | "KVector", [values, o] => Construct.constantVector values o
  | "VarVector", [elements, o] => Construct.variableVector elements o
  | "VectorLinearExpression", [x, l, c, o] => Construct.affine x l c o
  | "KMatrix", [values] => Construct.matrix values
  | "VarMatrix", [elements, shape] => Construct.grid elements shape
  | "ScalarConstraint", [l, r, s] => Construct.constraint .scalar l r s
  | "VectorConstraint", [l, r, s] => Construct.constraint .vector l r s
  | "Objective", [e, s] => Construct.objective e s
  | "OptimizationProblem", [name] => Construct.problem name
  | "SolveParameters", [flag, limit] => Construct.parameters flag limit
  | "Solution", [values, best, status] => Construct.solution values best status
  | "SolutionStatus", [code, names] => Construct.statusCall code names
  | kind, args => ErrorObject.make kind args

/-- The result of a function. -/
def run (name : String) (args : List Value) : Act Value :=
  match name, args with
  | "as_expression", [v] => asExpression v
  | "fast_sum", [v] => total v
  | "plus", [a, b] => Act.expression? (a.operand.plus b.operand)
  | "multiply", [a, b] => Act.expression? (a.operand.multiply b.operand)
  | "comparison", [a, b, s] => compare a b s
  | "less_eq", [a, b] => compare a b (.member (.constraintSense .lessEqual))
  | "greater_eq", [a, b] => compare a b (.member (.constraintSense .greaterEqual))
  | "eq", [a, b] => compare a b (.member (.constraintSense .equal))
  | "transpose", [v] => transposed v
  | "evaluate_expression", [e, values] => do
    Valuation.evaluate (← Act.ofExcept e.operand.toExpression) values
  | "is_a_number", [v] => pure (.bool v.number?.isSome)
  | "unique_variables", [vs] => uniqueVariables vs
  | "index_map", [vs] => indexMap vs
  | "index_of", [v, vs] => indexOf v vs
  | "values_of", [x, values] => Valuation.valuesOf x values
  | "rewrite_columns", [l, source, target] => rewriteColumns l source target
  | "as_objective_expression", [v] => ProblemMethod.asObjective v
  | "value_of", [s, v] => valueOf s v
  | "evaluate", [s, e] => evaluate s e
  | "objective_value_of", [s, p] => objectiveValueOf s p
  | name, args => construct name args

/-- Calls a function by name. -/
def call (name : String) (args : List Value) (byName : List (String × Value)) : Act Value := do
  if name == "Solver" then
    throw (if args.isEmpty && byName.isEmpty then Construct.bareSolver
      else .type "Solver() takes no arguments")
  if ErrorObject.isPlain name then
    if byName.isEmpty then return ← ErrorObject.plain name args
    else throw (.type (name ++ "() takes no keyword arguments"))
  match signature? name with
  | some s => run name (← Act.ofResult (s.bind args byName))
  | none => throw (.plain "AttributeError" ("no function " ++ Text.quoted name))

end QuadraticProgram.Session.Function
