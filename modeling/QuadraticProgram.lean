import QuadraticProgram.Number.Exact
import QuadraticProgram.Number.Reading
import QuadraticProgram.Label
import QuadraticProgram.Note
import QuadraticProgram.Scalar.Algebra
import QuadraticProgram.Scalar.Text
import QuadraticProgram.Vec
import QuadraticProgram.Vec.Algebra
import QuadraticProgram.Vec.Text
import QuadraticProgram.Expression
import QuadraticProgram.Expression.Algebra
import QuadraticProgram.Expression.Operator
import QuadraticProgram.Expression.Sum
import QuadraticProgram.Grid
import QuadraticProgram.Constraint.Implication
import QuadraticProgram.Constraint.Satisfaction
import QuadraticProgram.Problem.Check
import QuadraticProgram.Problem.Redundancy
import QuadraticProgram.Problem.Matrices
import QuadraticProgram.Problem.Text
import QuadraticProgram.Solution
import QuadraticProgram.Solving
import QuadraticProgram.Tensor.Selection
import QuadraticProgram.Expression.Rename
import QuadraticProgram.Session.Step
import QuadraticProgram.Proofs.Expression.VectorOperator
import QuadraticProgram.Proofs.Problem.Feasibility
import QuadraticProgram.Proofs.Solving
import QuadraticProgram.Proofs.Double
import QuadraticProgram.Proofs.Problem.WellDefined
import QuadraticProgram.Proofs.Constraint.NormalRow
import QuadraticProgram.Proofs.Constraint.Implication
import QuadraticProgram.Proofs.Session.Growth
import QuadraticProgram.Proofs.Session.ProblemHistory
import QuadraticProgram.Proofs.Scalar.Canonical
import QuadraticProgram.Proofs.Scalar.Text
import QuadraticProgram.Proofs.Expression.ProductDomain
import QuadraticProgram.Proofs.Problem.Extraction
import QuadraticProgram.Proofs.Problem.Ownership
import QuadraticProgram.Proofs.Constraint.Equivalence
import QuadraticProgram.Proofs.Expression.Rewriting
import QuadraticProgram.Proofs.Constraint.Exactness
import QuadraticProgram.Proofs.Constraint.Mirroring
import QuadraticProgram.Proofs.Constraint.ColumnRows
import QuadraticProgram.Proofs.Problem.Increments
import QuadraticProgram.Proofs.Expression.MixedProduct
import QuadraticProgram.Proofs.Expression.Evaluation
import QuadraticProgram.Proofs.Expression.LinearSum
import QuadraticProgram.Proofs.Expression.Promotion
import QuadraticProgram.Proofs.Expression.MatrixProduct
import QuadraticProgram.Proofs.Expression.ArrayOperand
import QuadraticProgram.Proofs.Expression.WellFormed
import QuadraticProgram.Proofs.Problem.Linearity
import QuadraticProgram.Proofs.Grid
import QuadraticProgram.Proofs.FirstOccurrence
import QuadraticProgram.Proofs.Problem.Membership
import QuadraticProgram.Proofs.Expression.Construction
