import QuadraticProgram.Session.Delegation
import QuadraticProgram.Session.Valuation

/-!
# Methods of expressions

What can be asked of an expression in a session: the parameters of each method
(`ExpressionMethod.signature?`) and its result (`ExpressionMethod.run`). What an expression
keeps is the same value each time, and what it computes is a new one.
-/

namespace QuadraticProgram.Session.ExpressionMethod

/-! ### Signatures -/

/-- The kind that defines a method of all expressions of one form. -/
def commonOwner (form m : String) : Option String :=
  if ["variables", "variable_ids", "num_vars", "less_eq", "greater_eq", "eq"].contains m then
    some "Expression"
  else if m == "dimensions" then some form
  else none

/-- The kind that defines a method of a scalar expression. -/
def scalarOwner (e : Scalar Float) (m : String) : Option String :=
  let own :=
    ["variable_vector", "coefficients", "constant", "variable_part", "check", "is_linear",
     "evaluate", "plus", "multiply"]
  if own.contains m then some e.kind
  else if ["transpose", "constant_part", "comparison"].contains m then
    some "ScalarExpression"
  else if m == "rewrite_in_terms_of" then
    match e with
    | .linear _ | .quadratic _ => some e.kind
    | _ => none
  else commonOwner "ScalarExpression" m

/-- The kind that defines a method of a vector. -/
def vectorOwner (v : Vec Float) (m : String) : Option String :=
  let own := ["at", "variable_vector", "linear_coeff", "constant", "check", "transpose"]
  let shared := ["is_linear", "constant_part", "plus", "comparison", "multiply"]
  if own.contains m then some v.kind
  else if shared.contains m then some "VectorExpression"
  else
    match v.entries, m with
    | .const _, "is_constant" => some "KVector"
    | _, "is_constant" => some "VectorExpression"
    | .affine _, "evaluate" => some "VectorExpression"
    | _, "evaluate" => some v.kind
    | .affine _, "variable_part" => some "VectorExpression"
    | _, "variable_part" => some v.kind
    | .affine _, "rewrite_in_terms_of" => some v.kind
    | _, m => commonOwner "VectorExpression" m

/-- The kind that defines a method of a matrix. -/
def matrixOwner (m : String) : Option String :=
  let own :=
    ["at", "dimensions", "variable_vector", "check", "transpose", "is_linear", "evaluate",
     "plus", "multiply", "comparison"]
  if own.contains m then some "KMatrix" else commonOwner "KMatrix" m

/-- The kind that defines a method of an expression. -/
def owner? (e : Expression Float) (m : String) : Option String :=
  match e with
  | .scalar e => scalarOwner e m
  | .vector v => vectorOwner v m
  | .matrix _ => matrixOwner m

/-- The parameters of a method of an expression. -/
def parameters (e : Expression Float) (m : String) : List Parameter :=
  match e, m with
  | .matrix _, "at" => [required "i", required "j"]
  | _, "at" => [required "i"]
  | _, "evaluate" => [required "variable_values"]
  | _, "rewrite_in_terms_of" => [required "x"]
  | _, "comparison" => [required "rhs", required "sense"]
  | _, "plus" | _, "multiply" | _, "less_eq" | _, "greater_eq" | _, "eq" => [required "rhs"]
  | _, _ => []

/-- The signature of a method of an expression. -/
def signature? (e : Expression Float) (m : String) : Option Signature :=
  (owner? e m).map fun kind => .method (kind ++ "." ++ m) (parameters e m)

/-! ### Kept parts -/

/-- The tuple of some variables. -/
def variableTuple (vs : List Variable) : Value := .ofTuple (vs.map Value.ofVariable)

/-- The constant of a variable, which is the same for all. -/
def noConstant : Value := .float 1 0.0

/-- The dimensions of scalar expressions, which are the same for all. -/
def scalarDimensions : Value := .tuple 2 [.ofNat 1, .ofNat 1]

/-- What a scalar expression keeps under a name. -/
def keptOfScalar? (e : Scalar Float) (name : String) : Option Value :=
  match e, name with
  | .const a, "value" => some (.ofFloat a)
  | .var v, "id" => some (.ofNat v.id)
  | .var v, "lower_bound" => some (.ofFloat v.lower)
  | .var v, "upper_bound" => some (.ofFloat v.upper)
  | .linear f, "x" => some (variableTuple f.vars)
  | .linear f, "l" => some (.ofEntries f.coeffs)
  | .linear f, "c" => some (.ofFloat f.const)
  | .quadratic f, "x" => some (variableTuple f.vars)
  | .quadratic f, "q" => some (.ofMatrix f.quad)
  | .quadratic f, "l" => some (.ofEntries f.coeffs)
  | .quadratic f, "c" => some (.ofFloat f.const)
  | _, _ => none

/-- What a vector keeps under a name. -/
def keptOfVector? (u : Vec Float) (name : String) : Option Value :=
  match u.entries, name with
  | .const values, "values" => some (.ofEntries values)
  | .vars elements, "elements" => some (variableTuple elements)
  | .affine f, "x" => some (variableTuple f.vars)
  | .affine f, "l" => some (.ofMatrix f.coeffs)
  | .affine f, "c" => some (.ofEntries f.consts)
  | _, _ => none

/-- What an expression keeps under a name. -/
def kept? (e : Expression Float) (name : String) : Option Value :=
  match e, name with
  | .scalar e, name => keptOfScalar? e name
  | .vector u, name => keptOfVector? u name
  | .matrix m, "values" => some (.ofMatrix m)
  | .matrix _, _ => none

/-- The name under which an expression keeps what a method gives. -/
def keptName? (e : Expression Float) (m : String) : Option String :=
  match e, m with
  | .scalar (.const _), "constant" | .scalar (.const _), "evaluate" => some "value"
  | .scalar (.linear _), "variable_vector" | .scalar (.quadratic _), "variable_vector" => some "x"
  | .scalar (.linear _), "coefficients" | .scalar (.quadratic _), "coefficients" => some "l"
  | .scalar (.linear _), "constant" | .scalar (.quadratic _), "constant" => some "c"
  | .vector ⟨.const _, _⟩, "constant" => some "values"
  | .vector ⟨.vars _, _⟩, "variable_vector" => some "elements"
  | .vector ⟨.affine _, _⟩, "variable_vector" => some "x"
  | .vector ⟨.affine _, _⟩, "linear_coeff" => some "l"
  | .vector ⟨.affine _, _⟩, "constant" => some "c"
  | _, _ => none

/-! ### Results -/

/-- The comparison that a method makes. -/
def compare (self : Value) (e : Expression Float) (rhs s : Value) : Act Value := do
  let c ← Act.ofExcept (e.compare .equal rhs.operand)
  let s ← Construct.sense s
  Act.ofConstraint self rhs { c with sense := s }

/-- The variables that some values are. -/
def variablesOf (xs : List Value) : Act (List Variable) :=
  xs.mapM fun v => Act.ofResult v.requireVariable

/-- The expression over other variables. -/
def rewrite (self : Value) (e : Expression Float) (x : Value) : Act Value := do
  let target ← variablesOf (← x.items)
  match e with
  | .scalar f => Act.expression? ((f.rewrite target).map .scalar)
  | .vector v => Act.expression? ((v.rewrite target).map .vector)
  | .matrix _ => throw (.lacks self "rewrite_in_terms_of")

/-- A part of an expression. A variable and a vector of variables are their own variable
parts. -/
def variablePart (self : Value) (e : Expression Float) : Act Value :=
  match e with
  | .scalar (.var _) => pure self
  | .vector ⟨.vars _, _⟩ => pure self
  | e => Act.expression? e.variablePart

/-- The result of a method that computes it anew. -/
def compute (self : Value) (e : Expression Float) (m : String) (args : List Value) :
    Act Value :=
  match e, m, args with
  | .scalar _, "dimensions", _ => pure scalarDimensions
  | e, "dimensions", _ => pure (.ofSizes e.dimensions)
  | e, "variable_vector", _ => pure (variableTuple e.vars)
  | e, "variables", _ => pure (.ofList (e.distinctVars.map Value.ofVariable))
  | e, "variable_ids", _ => pure (.ofList (e.distinctVars.map fun v => .ofNat v.id))
  | e, "num_vars", _ => pure (.ofNat e.distinctVars.length)
  | e, "is_linear", _ => pure (.bool e.isLinear)
  | e, "check", _ => do
    Act.checkExpression e
    return .nothing
  | .scalar _, "transpose", _ => pure self
  | e, "transpose", _ => Act.expression e.transpose
  | e, "evaluate", [mapping] => Valuation.evaluate e mapping
  | e, "plus", [rhs] => Act.expression? (e.plus rhs.operand)
  | e, "multiply", [rhs] => Act.expression? (e.multiply rhs.operand)
  | e, "comparison", [rhs, s] => compare self e rhs s
  | e, "less_eq", [rhs] => compare self e rhs (.member (.constraintSense .lessEqual))
  | e, "greater_eq", [rhs] => compare self e rhs (.member (.constraintSense .greaterEqual))
  | e, "eq", [rhs] => compare self e rhs (.member (.constraintSense .equal))
  | e, "variable_part", _ => variablePart self e
  | e, "constant_part", _ => Act.expression? e.constantPart
  | e, "rewrite_in_terms_of", [x] => rewrite self e x
  | .scalar f, "coefficients", _ => pure (.ofEntries f.coefficients)
  | .scalar (.var _), "constant", _ => pure noConstant
  | .scalar f, "constant", _ => pure (.ofFloat f.constant)
  | .vector v, "constant", _ => pure (.ofEntries v.constant)
  | .vector v, "linear_coeff", _ => pure (.ofMatrix v.linearCoeff)
  | .vector v, "is_constant", _ => pure (.bool v.isConstant)
  | .vector v, "at", [i] => Indexing.vectorAt v i
  | .matrix a, "at", [i, j] => Indexing.matrixAt a i j
  | _, m, _ => throw (.lacks self m)

/-- The result of a method of an expression. -/
def run (self : Value) (e : Expression Float) (m : String) (args : List Value) : Act Value :=
  match keptName? e m with
  | none => compute self e m args
  | some name =>
    match kept? e name with
    | some v => Act.stored self.tag name v
    | none => compute self e m args

end QuadraticProgram.Session.ExpressionMethod
