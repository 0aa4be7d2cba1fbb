import QuadraticProgram.Text.Quoted

/-!
# Wording of errors

The sentences in which the errors of the algebra are reported, with gaps for what they are
about. A name in a gap is quoted here where it is the name of a kind, and is expected as it is
to be shown everywhere else.
-/

namespace QuadraticProgram.Wording

/-- Sizes in a sentence. -/
def sizes (dims : List String) : String := "(" ++ ",".intercalate dims ++ ")"

/-- Two operands whose sizes do not fit. -/
def dimensionMismatch (operation : String) (lhs rhs : List String) : String :=
  "cannot perform " ++ operation ++ " between expression of dimension " ++ sizes lhs ++
    " and expression of dimension " ++ sizes rhs

/-- Two vectors one of which is a row and the other a column. -/
def orientationMismatch (operation lhsKind lhs rhsKind rhs : String) : String :=
  "cannot perform " ++ operation ++ " between " ++ Text.quoted lhsKind ++
    " with orientation " ++ lhs ++ " and " ++ Text.quoted rhsKind ++ " with orientation " ++
    rhs ++ "; try transposing one or the other"

/-- A product of more than two variables. -/
def degreeExceeded (lhsKind rhsKind : String) : String :=
  "cannot multiply " ++ Text.quoted lhsKind ++ " with " ++ Text.quoted rhsKind ++
    ": expressions of degree higher than 2 can not be represented"

/-- An operand of a wrong kind. -/
def unexpectedInput (operation kind : String) : String :=
  "unexpected input to " ++ operation ++ " operation: " ++ Text.quoted kind

/-- A variable that is missing somewhere. -/
def variableNotFound (id place : String) : String :=
  "variable with id " ++ id ++ " was not found in " ++ place

/-- A problem without an objective. -/
def noObjective (problem : String) : String :=
  "no objective defined for the optimization problem " ++ problem ++
    "; please define one with set_objective()"

/-- A problem without linear equalities. -/
def noEqualities (problem : String) : String :=
  "no linear equality constraints found in the problem " ++ problem ++
    "; add some with add_constraint()"

/-- A problem without linear inequalities. -/
def noInequalities (problem : String) : String :=
  "no linear inequality constraints found in the problem " ++ problem ++
    "; add some with add_constraint()"

/-- A problem that is not linear, for some reason. -/
def notLinear (problem reason : String) : String :=
  "the problem " ++ problem ++ " is not linear; " ++ reason

/-- The reason that the objective is not linear. -/
def objectiveNotLinear : String := "the objective is not linear"

/-- The reason that a constraint is not linear. -/
def constraintNotLinear (index : String) : String := "constraint #" ++ index ++ " is not linear"

/-- The reason that a problem is not well defined. -/
def problemNotWellDefined : String := "the problem is not well defined"

/-- A problem that is not well defined, because of another error. -/
def notWellDefined (problem source : String) : String :=
  "the problem " ++ problem ++ " is not well defined: " ++ source

/-- An objective that is no scalar expression. -/
def objectiveNotScalar (kind : String) : String :=
  "the objective must be a scalar expression, got " ++ Text.quoted kind

end QuadraticProgram.Wording
