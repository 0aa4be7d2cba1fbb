import QuadraticProgram.Operand

/-!
# Sums and products of expressions

The algebra of all expressions with all operands. `Expression.plus`, `Expression.multiply`
and the operations derived from them are tables over the forms of both sides: the sizes
decide which pairs are combined, and a pair whose product would be no expression is refused.
-/

namespace QuadraticProgram

variable {α : Type} [Coefficient α]

/-- The product of a matrix and a scalar expression, which has to be constant. -/
def Matrix.timesScalar (m : Matrix α) : Scalar α → Except Error (Matrix α)
  | .const a => .ok (m.scale a)
  | e => .error (.unsupportedProduct (.matrixByScalar e.kind))

/-- The product of two matrices whose inner sizes agree. -/
def Matrix.times (m n : Matrix α) : Except Error (Matrix α) :=
  if m.cols = n.rows then .ok (m.mul n)
  else .error (.dimensionMismatch .multiply m.dimensions n.dimensions)

namespace Expression

/-- The product of two vectors: of a row and a column, or of two vectors one of which has a
single entry beside the other. -/
def vectorProduct (u v : Vec α) : Except Error (Expression α) :=
  match u.orientation, v.orientation with
  | .row, .column =>
    if u.length = v.length then (u.dot v).map .scalar
    else .error (.dimensionMismatch .multiply u.dimensions v.dimensions)
  | .column, .row =>
    if u.length = 1 ∧ v.length = 1 then (u.dot v).map .scalar
    else .error (.unsupportedProduct .columnByRow)
  | .column, .column =>
    if h : v.length = 1 then (u.timesScalar (v.entry 0 (by omega))).map .vector
    else .error (.dimensionMismatch .multiply u.dimensions v.dimensions)
  | .row, .row =>
    if h : u.length = 1 then (v.timesScalar (u.entry 0 (by omega))).map .vector
    else .error (.dimensionMismatch .multiply u.dimensions v.dimensions)

/-- The sum of an expression and an operand. -/
def plus (e : Expression α) (rhs : Operand α) : Except Error (Expression α) :=
  match e with
  | scalar a => do return scalar (← a.add (← rhs.asScalar .plus))
  | vector u => do return vector (← u.add (← rhs.asVector .plus false u))
  | matrix m =>
    let add (n : Matrix α) : Except Error (Expression α) :=
      if m.dimensions = n.dimensions then .ok (matrix (m.add n))
      else .error (.dimensionMismatch .plus m.dimensions n.dimensions)
    match rhs with
    | .expression (.matrix n) => add n
    | .array t =>
      if t.axes = 2 then add (.ofArray t) else .error (.unexpectedInput .plus "ndarray")
    | .number _ => .error (.dimensionMismatch .plus m.dimensions [1, 1])
    | .expression f => .error (.dimensionMismatch .plus m.dimensions f.dimensions)
    | .other k => .error (.unexpectedInput .plus k)

/-- An expression with all its coefficients multiplied by a coefficient. -/
def scale (a : α) : Expression α → Except Error (Expression α)
  | scalar e => (e.scale a).map scalar
  | vector v => .ok (vector (v.scale a))
  | matrix m => .ok (matrix (m.scale a))

/-- The product of two expressions. -/
def times (e f : Expression α) : Except Error (Expression α) :=
  match e, f with
  | scalar a, scalar b => (a.mul b).map scalar
  | scalar a, vector v => (v.timesScalar a).map vector
  | scalar a, matrix m => (m.timesScalar a).map matrix
  | vector v, scalar a => (v.timesScalar a).map vector
  | vector u, vector v => vectorProduct u v
  | vector v, matrix m => (v.mulMatrixRight m).map vector
  | matrix m, scalar a => (m.timesScalar a).map matrix
  | matrix m, vector v => (Vec.mulMatrixLeft m v).map vector
  | matrix m, matrix n => (m.times n).map matrix

/-- The product of an expression and an operand. An array without axes multiplies a scalar
expression only. -/
def multiply (e : Expression α) (rhs : Operand α) : Except Error (Expression α) :=
  match rhs with
  | .number n => do e.scale (← n.value)
  | .expression f => e.times f
  | .array t =>
    match t.axes, e with
    | 0, scalar a => (a.mul (.const (t.entries.headD 0))).map scalar
    | 1, e => e.times (vector (Operand.column t))
    | 2, e => e.times (matrix (.ofArray t))
    | _, e => .error (.dimensionMismatch .multiply e.dimensions t.shape)
  | .other k => .error (.unexpectedInput .multiply k)

/-- An expression with its sign changed. -/
def negated (e : Expression α) : Except Error (Expression α) :=
  e.multiply (.number (.coefficient (-1)))

/-- The difference of an expression and an operand. An array without axes counts as the
number in it. -/
def minus (e : Expression α) (rhs : Operand α) : Except Error (Expression α) :=
  match rhs with
  | .number n => e.plus (.number n.negated)
  | .expression f => do e.plus (.expression (← f.negated))
  | .array t =>
    if t.axes = 0 then e.plus (.number (.coefficient (-(t.entries.headD 0))))
    else e.plus (.array (t.map (- ·)))
  | .other k => .error (.unexpectedInput .subtract k)

/-- The difference of an operand and an expression. -/
def subtractedFrom (e : Expression α) (lhs : Operand α) : Except Error (Expression α) := do
  (← e.negated).plus lhs

/-- An expression divided by a number. -/
def divide (e : Expression α) (rhs : Operand α) : Except Error (Expression α) :=
  match rhs with
  | .number n => do
    let a ← n.value
    if n.refusesDivision then throw .divisionByZero
    else e.multiply (.number (.coefficient (Coefficient.reciprocal a)))
  | rhs => .error (.unexpectedInput .divide rhs.kind)

/-- The product of an operand and an expression. An array stands for a row, or for a matrix;
a scalar expression commutes with it. -/
def multipliedBy (e : Expression α) (lhs : Operand α) : Except Error (Expression α) :=
  match e, lhs with
  | scalar a, lhs => (scalar a).multiply lhs
  | e, .array t =>
    match t.axes, e with
    | 1, e => (vector ⟨.const t.entries, .row⟩).times e
    | 2, e => (matrix (.ofArray t)).times e
    | _, vector v => .error (.dimensionMismatch .multiply t.shape v.dimensions)
    | _, e => .error (.dimensionMismatch .multiply e.dimensions t.shape)
  | e, lhs => e.multiply lhs

/-- The expression without its constant term. A matrix is not taken apart. -/
def variablePart : Expression α → Except Error (Expression α)
  | scalar e => e.variablePart.map scalar
  | vector v => .ok (vector v.variablePart)
  | matrix _ => .error (.lacks "KMatrix" "variable_part")

/-- The constant term as an expression. A matrix is not taken apart. -/
def constantPart : Expression α → Except Error (Expression α)
  | scalar e => .ok (scalar e.constantPart)
  | vector v => .ok (vector v.constantPart)
  | matrix _ => .error (.lacks "KMatrix" "constant_part")

end Expression

end QuadraticProgram
