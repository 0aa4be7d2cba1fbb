import QuadraticProgram.Constraint.Simplify

/-!
# Rows of linear constraints

A linear constraint reads `a · x` in its sense to a bound, with a row `a` of coefficients for
the columns of the variables (`Constraint.linearRow`), a vector constraint a row for each
entry (`Constraint.linearRows`). The bound is the constant of the right side less the one of
the left side. A column may count from the end.
-/

namespace QuadraticProgram

variable {α : Type} [Coefficient α]

/-- The bound of a constraint: a single coefficient, or one for each entry. -/
inductive Bound (α : Type) where
  | single (a : α)
  | list (l : List α)
deriving Inhabited

namespace Bound

/-- The difference of two bounds; a single entry stands for all. -/
def minus : Bound α → Bound α → Except Error (Bound α)
  | single a, single b => .ok (single (a - b))
  | single a, list ys => .ok (list (ys.map (a - ·)))
  | list xs, single b => .ok (list (xs.map (· - b)))
  | list xs, list ys =>
    if xs.length = ys.length then .ok (list (List.zipWith (· - ·) xs ys))
    else
      match xs, ys with
      | [a], ys => .ok (list (ys.map (a - ·)))
      | xs, [b] => .ok (list (xs.map (· - b)))
      | xs, ys => .error (.shapesDiffer [[xs.length], [ys.length]])

/-- A bound with its sign changed. -/
def negated : Bound α → Bound α
  | single a => single (-a)
  | list xs => list (xs.map (- ·))

end Bound

/-- The constant term of an expression. -/
def Expression.bound : Expression α → Except Error (Bound α)
  | .scalar e => .ok (.single e.constant)
  | .vector v => .ok (.list v.constant)
  | .matrix _ => .error (.lacks "KMatrix" "constant")

/-- A number of columns, and the column of each variable by its identifier. -/
structure Columns where
  width : Nat
  positions : List (Nat × Int)

namespace Columns

/-- The index of the column of a variable, in an array whose columns are along the given
axis. -/
def index (columns : Columns) (axis : Nat) (v : Variable) : Except Error Nat :=
  match columns.positions.lookup v.id with
  | none => .error (.variableNotFound v.id .columns)
  | some i =>
    match position? i columns.width with
    | some k => .ok k
    | none => .error (.indexOutOfBounds i axis columns.width)

/-- The indices of the columns of some variables. -/
def indices (columns : Columns) (axis : Nat) (vars : List Variable) :
    Except Error (List Nat) :=
  vars.mapM (columns.index axis)

/-- Coefficients moved to their columns, those of one column added up. -/
def row (columns : Columns) (indices : List Nat) (coeffs : List α) : List α :=
  (List.range columns.width).map fun j =>
    Coefficient.total (Alignment.gather (indices.map some) coeffs j)

@[simp]
theorem length_row (columns : Columns) (indices : List Nat) (coeffs : List α) :
  (columns.row indices coeffs).length = columns.width
  := by
  simp [row]

/-- Each row of a matrix moved to the columns. -/
def matrix (columns : Columns) (indices : List Nat) (m : Matrix α) : Matrix α where
  cols := columns.width
  rowList := m.rowList.map (columns.row indices)
  length_row := by
    intro r hr
    obtain ⟨row, -, rfl⟩ := List.mem_map.1 hr
    simp

end Columns

/-- A row over the columns of a given number of variables, and its bound. -/
structure LinearRow (α : Type) (width : Nat) where
  coefficients : List α
  bound : Bound α
  length_coefficients : coefficients.length = width

/-- Rows over the columns of a given number of variables, and their bounds. -/
structure LinearRows (α : Type) (width : Nat) where
  coefficients : Matrix α
  bound : Bound α
  cols_coefficients : coefficients.cols = width

namespace Constraint

/-- The constraint with all variables on the left side, if it is linear. -/
def simplifiedLinear (c : Constraint α) : Except Error (Constraint α) :=
  if c.isLinear then c.simplify else .error (.constraintNotLinear c.text)

/-- The constant of the right side less the one of the left side. -/
def bound (c : Constraint α) : Except Error (Bound α) := do
  let b ← c.rhs.bound
  b.minus (← c.lhs.bound)

/-- The scalar expression that the left side is. -/
def scalarLeft (c : Constraint α) : Except Error (Scalar α) :=
  match c.lhs with
  | .scalar e => .ok e
  | e => .error (.lacks e.kind "coefficients")

/-- The vector that the left side is. -/
def vectorLeft (c : Constraint α) : Except Error (Vec α) :=
  c.lhs.vectorAsking "linear_coeff"

/-- The row of a linear scalar constraint. -/
def linearRow (c : Constraint α) (columns : Columns) :
    Except Error (LinearRow α columns.width) := do
  let simplified ← c.simplifiedLinear
  let e ← simplified.scalarLeft
  let indices ← columns.indices 0 e.vars
  return ⟨columns.row indices e.coefficients, ← simplified.bound, by simp⟩

/-- The rows of a linear vector constraint. -/
def linearRows (c : Constraint α) (columns : Columns) :
    Except Error (LinearRows α columns.width) := do
  let simplified ← c.simplifiedLinear
  let v ← simplified.vectorLeft
  let indices ← columns.indices 1 v.vars
  return ⟨columns.matrix indices v.linearCoeff, ← simplified.bound, rfl⟩

end Constraint

end QuadraticProgram
