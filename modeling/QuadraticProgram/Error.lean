import QuadraticProgram.Duration
import QuadraticProgram.Error.Wording
import QuadraticProgram.Label
import QuadraticProgram.Orientation

/-!
# Errors

The causes for which an operation is refused, and the one function `Error.message` that puts
them into words. The errors of the algebra itself (`Error.isStructural`) are those that the
check of a problem collects; the others come from values that are no expressions, from
indices and from sizes.
-/

namespace QuadraticProgram

/-- The operations that errors name. -/
inductive Operation where
  | plus
  | subtract
  | multiply
  | divide
  | comparison
  | constant
  | promotion
  | objective
  | constraint
  | implication
deriving DecidableEq, BEq

/-- The name of an operation. -/
def Operation.name : Operation → String
  | plus => "plus"
  | subtract => "subtract"
  | multiply => "multiply"
  | divide => "divide"
  | comparison => "comparison"
  | constant => "K"
  | promotion => "as_expression"
  | objective => "set_objective"
  | constraint => "add_constraint"
  | implication => "implies_this_is_also_satisfied"

/-- Where a variable was looked for. -/
inductive Place where
  | values
  | targetVector
  | variableVector
  | solution
  | columns
  | problem (name : Label)
deriving DecidableEq, BEq

/-- A place in a message. -/
def Place.text : Place → String
  | values => "the variable values"
  | targetVector => "the target variable vector"
  | variableVector => "the variable vector"
  | solution => "the solution"
  | columns => "the problem"
  | problem name => "the problem " ++ name.shown

/-- What is wrong with the data of an expression or the bounds of a variable. Variables and
bounds are given as text. -/
inductive Defect where
  | axes (part : String) (expected : Nat) (shape : List Nat)
  | matrixAxes (shape : List Nat)
  | notVariable (kind : String)
  | vectorNotVariable (kind : String)
  | coefficientCount (found expected : Nat)
  | quadraticShape (shape : List Nat) (size : Nat)
  | notSymmetric
  | affineShape (shape : List Nat) (entries size : Nat)
  | boundNotNumber (name : String)
  | boundsCrossed (name lower upper : String)
  | binaryBounds (name lower upper : String)
deriving DecidableEq, BEq

/-- A defect in words. -/
def Defect.message : Defect → String
  | axes part expected shape =>
    part ++ " should have " ++ toString expected ++ " dimension(s), got shape " ++
      Text.shape shape
  | matrixAxes shape =>
    "KMatrix values should be two dimensional, got shape " ++ Text.shape shape
  | notVariable kind => "X should only contain Variables, found " ++ Text.quoted kind
  | vectorNotVariable kind =>
    "VarVector should only contain Variables, found " ++ Text.quoted kind
  | coefficientCount found expected =>
    "the length of L (" ++ toString found ++ ") does not match that of X (" ++
      toString expected ++ ")"
  | quadraticShape shape size =>
    "Q has shape " ++ Text.shape shape ++ " but X has length " ++ toString size ++
      "; Q must be square with the length of X"
  | notSymmetric => "Q is not symmetric"
  | affineShape shape entries size =>
    "L has shape " ++ Text.shape shape ++ " but the expression has " ++ toString entries ++
      " entries over " ++ toString size ++ " variables"
  | boundNotNumber v => v ++ " has a NaN bound"
  | boundsCrossed v lower upper =>
    v ++ " has lower bound " ++ lower ++ " greater than its upper bound " ++ upper
  | binaryBounds v lower upper =>
    "binary " ++ v ++ " must have bounds [0, 1], got [" ++ lower ++ ", " ++ upper ++ "]"

/-- The part of a problem that keeps it from being linear. -/
inductive NonlinearPart where
  | objective
  | constraint (index : Nat)
  | notWellDefined
deriving DecidableEq, BEq

/-- The named values that an argument is chosen from. -/
inductive Choice where
  | orientation
  | constraintSense
  | objectiveSense
  | domain
deriving DecidableEq, BEq

/-- Products whose result is no expression, although the sizes agree. -/
inductive UnsupportedProduct where
  | quadraticEntries (vectorKind scalarKind : String)
  | constantByQuadratic
  | columnByRow
  | matrixByScalar (scalarKind : String)
deriving DecidableEq, BEq

/-- Why an operation is refused. -/
inductive Error where
  | dimensionMismatch (operation : Operation) (lhs rhs : List Nat)
  | orientationMismatch (operation : Operation) (lhsKind : String) (lhs : Orientation)
      (rhsKind : String) (rhs : Orientation)
  | degreeExceeded (lhsKind rhsKind : String)
  | unexpectedInput (operation : Operation) (kind : String)
  | variableNotFound (id : Int) (place : Place)
  | malformed (defect : Defect)
  | noObjective (problem : Label)
  | noEqualities (problem : Label)
  | noInequalities (problem : Label)
  | notLinear (problem : Label) (part : NonlinearPart)
  | notWellDefined (problem : Label) (source : Error)
  | objectiveNotScalar (kind : String)
  | unsupportedProduct (product : UnsupportedProduct)
  | matrixComparison
  | notAChoice (choice : Choice) (shown : String)
  | invalidId (shown : String)
  | numberTooLarge (isRatio : Bool)
  | divisionByZero
  | lacks (kind feature : String)
  | withoutLength (kind : String)
  | unsized
  | notANumber (kind : String)
  | constraintNotLinear (constraint : String)
  | shapesDiffer (shapes : List (List Nat))
  | indexShapesDiffer (shapes : List (List Nat))
  | outputShapeDiffers (own common : List Nat)
  | axesDiffer (first : Nat) (index : Nat) (other : Nat)
  | sizesDiffer (axis first index other : Nat)
  | singleEntryExpected
  | ambiguousTruth (isEmpty : Bool)
  | indexOutOfBounds (index : Int) (axis size : Nat)
  | tooManyIndices (axes given : Nat)
  | maskDiffers (axis size found : Nat)
  | zeroStep
  | sliceBoundExpected
  | indexExpected
  | positionOutOfRange
  | beyondPositions
  | gridPosition (i j : Int) (rows columns : Nat)
  | gridSize (rows columns : Int) (found : Nat)
  | negativeCount (n : Int)
  | negativeSizes (rows columns : Int)
  | negativeTimeLimit (limit : Duration)
  | solverFailed (method : String)
deriving DecidableEq, BEq

namespace Error

/-- An error in words. -/
def message : Error → String
  | dimensionMismatch operation lhs rhs =>
    Wording.dimensionMismatch operation.name (lhs.map toString) (rhs.map toString)
  | orientationMismatch operation lhsKind lhs rhsKind rhs =>
    Wording.orientationMismatch operation.name lhsKind lhs.name rhsKind rhs.name
  | degreeExceeded lhsKind rhsKind => Wording.degreeExceeded lhsKind rhsKind
  | unexpectedInput operation kind =>
    Wording.unexpectedInput (Text.quoted operation.name) kind
  | variableNotFound id place => Wording.variableNotFound (toString id) place.text
  | malformed defect => defect.message
  | noObjective problem => Wording.noObjective problem.shown
  | noEqualities problem => Wording.noEqualities problem.shown
  | noInequalities problem => Wording.noInequalities problem.shown
  | notLinear problem part =>
    Wording.notLinear problem.shown
      (match part with
      | .objective => Wording.objectiveNotLinear
      | .constraint index => Wording.constraintNotLinear (toString index)
      | .notWellDefined => Wording.problemNotWellDefined)
  | notWellDefined problem source => Wording.notWellDefined problem.shown source.message
  | objectiveNotScalar kind => Wording.objectiveNotScalar kind
  | unsupportedProduct (.quadraticEntries vectorKind scalarKind) =>
    "multiplying " ++ Text.quoted vectorKind ++ " by " ++ Text.quoted scalarKind ++
      " would create a vector of quadratic expressions, which is not supported"
  | unsupportedProduct .constantByQuadratic =>
    "multiplying a constant vector by a quadratic expression would create a vector of " ++
      "quadratic expressions, which is not supported"
  | unsupportedProduct .columnByRow =>
    "the product of a column vector by a row vector is a matrix of expressions, which is " ++
      "not supported"
  | unsupportedProduct (.matrixByScalar scalarKind) =>
    "multiplying a KMatrix by " ++ Text.quoted scalarKind ++
      " would create a matrix of expressions, which is not supported"
  | matrixComparison => "comparisons of matrices are not supported"
  | notAChoice .orientation shown => "orientation should be an Orientation, got: " ++ shown
  | notAChoice .constraintSense shown => "sense should be a ConstraintSense, got: " ++ shown
  | notAChoice .objectiveSense shown => "sense should be an ObjectiveSense, got: " ++ shown
  | notAChoice .domain shown => "var_type should be a VarType, got: " ++ shown
  | invalidId shown => "vid should be a non negative int, was: " ++ shown
  | numberTooLarge isRatio =>
    if isRatio then "integer division result too large for a float"
    else "int too large to convert to float"
  | divisionByZero => "float division by zero"
  | lacks kind feature =>
    Text.quoted kind ++ " object has no attribute " ++ Text.quoted feature
  | withoutLength kind => "object of type " ++ Text.quoted kind ++ " has no len()"
  | unsized => "len() of unsized object"
  | notANumber kind =>
    "float() argument must be a string or a real number, not " ++ Text.quoted kind
  | constraintNotLinear constraint => "the constraint " ++ constraint ++ " is not linear"
  | shapesDiffer shapes =>
    "operands could not be broadcast together with shapes " ++ Text.shapes shapes
  | indexShapesDiffer shapes =>
    "shape mismatch: indexing arrays could not be broadcast together with shapes " ++
      Text.shapes shapes
  | outputShapeDiffers own common =>
    "non-broadcastable output operand with shape " ++ Text.bareShape own ++
      " doesn't match the broadcast shape " ++ Text.bareShape common
  | axesDiffer first index other =>
    "all the input arrays must have same number of dimensions, but the array at index 0 has " ++
      toString first ++ " dimension(s) and the array at index " ++ toString index ++ " has " ++
      toString other ++ " dimension(s)"
  | sizesDiffer axis first index other =>
    "all the input array dimensions except for the concatenation axis must match exactly, " ++
      "but along dimension " ++ toString axis ++ ", the array at index 0 has size " ++
      toString first ++ " and the array at index " ++ toString index ++ " has size " ++
      toString other
  | singleEntryExpected => "only length-1 arrays can be converted to Python scalars"
  | ambiguousTruth isEmpty =>
    if isEmpty then
      "The truth value of an empty array is ambiguous. Use `array.size > 0` to check that an " ++
        "array is not empty."
    else
      "The truth value of an array with more than one element is ambiguous. Use a.any() or " ++
        "a.all()"
  | indexOutOfBounds index axis size =>
    "index " ++ toString index ++ " is out of bounds for axis " ++ toString axis ++
      " with size " ++ toString size
  | tooManyIndices axes given =>
    "too many indices for array: array is " ++ toString axes ++ "-dimensional, but " ++
      toString given ++ " were indexed"
  | maskDiffers axis size found =>
    "boolean index did not match indexed array along axis " ++ toString axis ++
      "; size of axis is " ++ toString size ++
      " but size of corresponding boolean axis is " ++ toString found
  | zeroStep => "slice step cannot be zero"
  | sliceBoundExpected => "slice indices must be integers or None or have an __index__ method"
  | indexExpected => "only integer scalar arrays can be converted to a scalar index"
  | positionOutOfRange => "tuple index out of range"
  | beyondPositions => "cannot fit 'int' into an index-sized integer"
  | gridPosition i j rows columns =>
    "index (" ++ toString i ++ ", " ++ toString j ++ ") is out of a " ++ toString rows ++
      " x " ++ toString columns ++ " matrix"
  | gridSize rows columns found =>
    "a " ++ toString rows ++ " x " ++ toString columns ++ " VarMatrix needs " ++
      toString (rows * columns) ++ " variables, got " ++ toString found
  | negativeCount n => "the number of variables must be non negative, got " ++ toString n
  | negativeSizes rows columns =>
    "the matrix dimensions must be non negative, got " ++ toString rows ++ " x " ++
      toString columns
  | negativeTimeLimit limit => "time_limit must be non negative, got " ++ limit.text
  | solverFailed method => "solver failed in " ++ method

/-- Whether an error is one of the algebra itself. -/
def isStructural : Error → Bool
  | dimensionMismatch .. | orientationMismatch .. | degreeExceeded .. | unexpectedInput ..
  | variableNotFound .. | malformed .. | noObjective .. | noEqualities .. | noInequalities ..
  | notLinear .. | notWellDefined .. | objectiveNotScalar .. => true
  | _ => false

end Error

end QuadraticProgram
