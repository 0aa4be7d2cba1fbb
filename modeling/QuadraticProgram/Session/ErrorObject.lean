import QuadraticProgram.Session.Construct

/-!
# Errors as objects

A session can make an error although no operation was refused. Such an error takes any values
where an error of the library has its causes, and words them in the same sentences. Its
particulars are the values that it was made with.
-/

namespace QuadraticProgram.Session.ErrorObject

/-! ### Signatures -/

/-- A parameter for the name of a problem. -/
def problemName : Parameter := optional "problem_name" (.ofText "")

/-- The parameters of the errors that have some of their own. -/
def parameters? : String → Option (List Parameter)
  | "DimensionMismatchError" =>
    some [required "operation", required "lhs_dims", required "rhs_dims",
      optional "extra_message" .nothing]
  | "OrientationMismatchError" =>
    some [required "operation", required "lhs", required "rhs"]
  | "DegreeExceededError" => some [required "lhs", required "rhs"]
  | "UnexpectedInputError" => some [required "operation", required "value"]
  | "VariableNotFoundError" => some [required "variable_id", required "where"]
  | "NoObjectiveDefinedError" | "NoEqualityConstraintsFoundError"
  | "NoInequalityConstraintsFoundError" => some [problemName]
  | "ProblemNotLinearError" =>
    some [required "problem_name", required "cause", optional "constraint_index" .nothing]
  | "NotWellDefinedError" => some [required "problem_name", required "source"]
  | "ObjectiveNotScalarError" => some [required "value"]
  | _ => none

/-- The errors that take any number of values. -/
def isPlain (kind : String) : Bool :=
  kind == "MathProgError" || kind == "MalformedExpressionError"

/-! ### Errors -/

/-- An error with its message and its particulars. -/
def withMessage (kind message : String) (particulars : List (String × Value)) : Act Value := do
  return .exception (← Act.fresh) kind [← Act.keep (.ofText message)]
    (particulars.map Prod.fst) (particulars.map Prod.snd)

/-- An error of a kind that takes any number of values. -/
def plain (kind : String) (args : List Value) : Act Value := do
  return .exception (← Act.fresh) kind args [] []

/-- What is added to the message about sizes that do not fit. -/
def extraText (extra : Value) : Act String := do
  match extra with
  | .nothing => return ""
  | extra =>
    match ← Act.arithmetic .add (.ofText "; ") extra with
    | .text _ s => return s
    | v => throw (.type ("can only concatenate str (not \"" ++ v.typeName ++ "\") to str"))

/-- The name of the orientation that a value has. -/
def orientationName (v : Value) : Act String :=
  match v with
  | .expression _ (.vector u) => pure u.orientation.name
  | v => throw (.lacks v "orientation")

/-- Whether a value compares as equal to a cause. -/
def isCause (v : Value) (c : Cause) : Act Bool := Act.comparesEqual v (.member (.cause c))

/-- The reason that a problem is not linear. -/
def nonlinearReason (cause index : Value) : Act String := do
  if ← isCause cause .objective then return Wording.objectiveNotLinear
  else if ← isCause cause .constraint then
    return Wording.constraintNotLinear (← Act.printed index)
  else return Wording.problemNotWellDefined

/-- The error of a kind with the values of its parameters. -/
def make (kind : String) (args : List Value) : Act Value := do
  match kind, args with
  | "DimensionMismatchError", [operation, lhs, rhs, extra] =>
    let ls ← lhs.items
    let rs ← rhs.items
    let sentence := Wording.dimensionMismatch (← Act.printed operation)
      (← ls.mapM Act.printed) (← rs.mapM Act.printed)
    withMessage kind (sentence ++ (← extraText extra))
      [("operation", operation), ("lhs_dims", ← Act.keep (.ofTuple ls)),
        ("rhs_dims", ← Act.keep (.ofTuple rs))]
  | "OrientationMismatchError", [operation, lhs, rhs] =>
    let name ← Act.printed operation
    let l ← orientationName lhs
    let r ← orientationName rhs
    withMessage kind (Wording.orientationMismatch name lhs.kind l rhs.kind r)
      [("operation", operation)]
  | "DegreeExceededError", [lhs, rhs] =>
    withMessage kind (Wording.degreeExceeded lhs.kind rhs.kind) []
  | "UnexpectedInputError", [operation, value] =>
    withMessage kind (Wording.unexpectedInput (← Act.shown operation) value.kind)
      [("operation", operation), ("value", value)]
  | "VariableNotFoundError", [id, place] =>
    withMessage kind (Wording.variableNotFound (← Act.printed id) (← Act.printed place))
      [("variable_id", id)]
  | "NoObjectiveDefinedError", [name] =>
    withMessage kind (Wording.noObjective (← Act.shown name)) [("problem_name", name)]
  | "NoEqualityConstraintsFoundError", [name] =>
    withMessage kind (Wording.noEqualities (← Act.shown name)) []
  | "NoInequalityConstraintsFoundError", [name] =>
    withMessage kind (Wording.noInequalities (← Act.shown name)) []
  | "ProblemNotLinearError", [name, cause, index] =>
    let shown ← Act.shown name
    withMessage kind (Wording.notLinear shown (← nonlinearReason cause index))
      [("problem_name", name), ("cause", cause), ("constraint_index", index)]
  | "NotWellDefinedError", [name, source] =>
    withMessage kind (Wording.notWellDefined (← Act.shown name) (← Act.printed source))
      [("problem_name", name), ("source", source)]
  | "ObjectiveNotScalarError", [value] =>
    withMessage kind (Wording.objectiveNotScalar value.kind) []
  | kind, args => plain kind args

/-- The particulars of an error as they are reported: of another error only its kind is, and
of an unexpected value nothing. -/
def reported (names : List String) (values : List Value) : List (String × Value) :=
  (names.zip values).filterMap fun (n, v) =>
    if n == "value" then none else some (n, if n == "source" then .ofText v.kind else v)

end QuadraticProgram.Session.ErrorObject
