import QuadraticProgram.Session.Value

/-!
# Faults

Why a step of a session gives no result: the kind of the fault, a message and, if the library
refused an operation, the particulars of its error. `Fault.ofError` reports an error of the
library; the other faults are those of steps that make no sense to begin with.
-/

namespace QuadraticProgram.Session

/-- Why a step fails. -/
structure Fault where
  kind : String
  message : String
  particulars? : Option (List (String × Value))
deriving Inhabited

namespace Fault

/-- A fault without particulars. -/
def plain (kind message : String) : Fault := ⟨kind, message, none⟩

/-- A value of a wrong type. -/
def type (message : String) : Fault := plain "TypeError" message

/-- A wrong value. -/
def value (message : String) : Fault := plain "ValueError" message

/-- A wrong index. -/
def index (message : String) : Fault := plain "IndexError" message

/-- The kind of the fault that an error is reported as. -/
def kindOf : Error → String
  | .dimensionMismatch .. => "DimensionMismatchError"
  | .orientationMismatch .. => "OrientationMismatchError"
  | .degreeExceeded .. => "DegreeExceededError"
  | .unexpectedInput .. => "UnexpectedInputError"
  | .variableNotFound .. => "VariableNotFoundError"
  | .malformed _ => "MalformedExpressionError"
  | .noObjective _ => "NoObjectiveDefinedError"
  | .noEqualities _ => "NoEqualityConstraintsFoundError"
  | .noInequalities _ => "NoInequalityConstraintsFoundError"
  | .notLinear .. => "ProblemNotLinearError"
  | .notWellDefined .. => "NotWellDefinedError"
  | .objectiveNotScalar _ => "ObjectiveNotScalarError"
  | .unsupportedProduct _ | .matrixComparison => "NotImplementedError"
  | .notAChoice .. | .invalidId _ | .withoutLength _ | .unsized | .notANumber _
  | .singleEntryExpected | .sliceBoundExpected | .indexExpected => "TypeError"
  | .numberTooLarge _ => "OverflowError"
  | .divisionByZero => "ZeroDivisionError"
  | .lacks .. => "AttributeError"
  | .constraintNotLinear _ | .shapesDiffer _ | .outputShapeDiffers .. | .axesDiffer ..
  | .sizesDiffer .. | .ambiguousTruth _ | .zeroStep | .gridSize .. | .negativeCount _
  | .negativeSizes .. | .negativeTimeLimit _ => "ValueError"
  | .indexOutOfBounds .. | .tooManyIndices .. | .maskDiffers .. | .indexShapesDiffer _
  | .positionOutOfRange | .beyondPositions | .gridPosition .. => "IndexError"
  | .solverFailed _ => "RuntimeError"

/-- A name as a value. What is no text is left to the caller that knows it. -/
def ofLabel : Label → Value
  | .text s => .ofText s
  | .other shown => .ofText shown

/-- The cause and the index that an error about a problem that is not linear names. -/
def nonlinearPart : NonlinearPart → Cause × Value
  | .objective => (.objective, .nothing)
  | .constraint k => (.constraint, .ofNat k)
  | .notWellDefined => (.notWellDefined, .nothing)

/-- The particulars of an error of the algebra. -/
def particularsOf : Error → List (String × Value)
  | .dimensionMismatch operation lhs rhs =>
    [("operation", .ofText operation.name), ("lhs_dims", .ofSizes lhs),
      ("rhs_dims", .ofSizes rhs)]
  | .orientationMismatch operation .. => [("operation", .ofText operation.name)]
  | .unexpectedInput operation _ => [("operation", .ofText operation.name)]
  | .variableNotFound id _ => [("variable_id", .ofInt id)]
  | .noObjective problem => [("problem_name", ofLabel problem)]
  | .notLinear problem part =>
    let (cause, index) := nonlinearPart part
    [("problem_name", ofLabel problem), ("cause", .member (.cause cause)),
      ("constraint_index", index)]
  | .notWellDefined problem source =>
    [("problem_name", ofLabel problem), ("source", .ofText (kindOf source))]
  | _ => []

/-- The report of an error of the library. -/
def ofError (e : Error) : Fault :=
  ⟨kindOf e, e.message, if e.isStructural then some (particularsOf e) else none⟩

/-- The report of an error about a problem with some name. -/
def named (name : Value) (f : Fault) : Fault :=
  { f with
    particulars? := f.particulars?.map fun ps =>
      ps.map fun (key, v) => if key == "problem_name" then (key, name) else (key, v) }

/-- A value lacks a feature that a step asks for. -/
def lacks (v : Value) (feature : String) : Fault := ofError (.lacks v.typeName feature)

/-- A value is iterated that has no items. -/
def notIterable (v : Value) : Fault :=
  type (Text.quoted v.typeName ++ " object is not iterable")

/-- A value is taken apart that has no items. -/
def notUnpackable (v : Value) : Fault :=
  type ("cannot unpack non-iterable " ++ v.typeName ++ " object")

/-- A value has no number of items. -/
def withoutLength (v : Value) : Fault := ofError (.withoutLength v.typeName)

/-- Something is looked for in a value that contains nothing. -/
def notContainer (v : Value) : Fault :=
  type ("argument of type " ++ Text.quoted v.typeName ++ " is not iterable")

/-- A value is indexed that has no items. -/
def notSubscriptable (v : Value) : Fault :=
  type (Text.quoted v.typeName ++ " object is not subscriptable")

/-- An array is stored where a single number is meant. -/
def storedSequence : Fault := value "setting an array element with a sequence."

/-- Values inside each other go too deep. -/
def tooDeep : Fault := plain "RecursionError" "maximum recursion depth exceeded"

/-- A value is called that is no function. -/
def notCallable (v : Value) : Fault :=
  type (Text.quoted v.typeName ++ " object is not callable")

/-- A value is looked up that can be changed. -/
def unhashable (v : Value) : Fault :=
  type ("unhashable type: " ++ Text.quoted v.typeName)

/-- A value is used where only an integer will do. -/
def notAnInteger (v : Value) : Fault :=
  type (Text.quoted v.typeName ++ " object cannot be interpreted as an integer")

/-- An operator is not defined on two values. -/
def unsupported (operator : String) (a b : Value) : Fault :=
  type ("unsupported operand type(s) for " ++ operator ++ ": " ++ Text.quoted a.typeName ++
    " and " ++ Text.quoted b.typeName)

/-- An order is not defined on two values. -/
def unordered (operator : String) (a b : Value) : Fault :=
  type (Text.quoted operator ++ " not supported between instances of " ++
    Text.quoted a.typeName ++ " and " ++ Text.quoted b.typeName)

/-- A constraint is asked whether it is true. -/
def constraintTruth (form : ConstraintForm) : Fault :=
  type ("__bool__ is unsupported for " ++ form.kind ++
    "\nIf you were trying to create a ranged constraint of the form `lb <= expr <= ub`, " ++
    "add `lb <= expr` and `expr <= ub` as two constraints instead")

/-- The index of an array is of a wrong kind. -/
def wrongArrayIndex : Fault :=
  index ("only integers, slices (`:`), ellipsis (`...`), numpy.newaxis (`None`) and " ++
    "integer or boolean arrays are valid indices")

end Fault

end QuadraticProgram.Session
