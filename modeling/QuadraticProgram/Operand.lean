import QuadraticProgram.Expression

/-!
# Operands

What stands beside an expression in a sum, a product or a comparison: a number, an array,
another expression, or something that is refused. `Operand.toExpression` promotes an operand
to the expression that it stands for by itself; `asScalar` and `asVector` promote the right
operand of an operation to the form of the left one.
-/

namespace QuadraticProgram

variable {α : Type} [Coefficient α]

/-- One side of an operation. -/
inductive Operand (α : Type) [Coefficient α] where
  | number (n : Number α)
  | array (t : Tensor α)
  | expression (e : Expression α)
  | other (kind : String)

/-- The coefficient a number stands for. -/
def Number.value (n : Number α) : Except Error α :=
  match n.value? with
  | some a => .ok a
  | none => .error (.numberTooLarge (n.kind == "Fraction"))

/-- The matrix with the entries of an array of two axes. -/
def Matrix.ofArray (t : Tensor α) : Matrix α :=
  Matrix.ofTensor (t.shape.getD 0 0) (t.shape.getD 1 0) t.entries

namespace Operand

/-- What an operand is, as errors call it. -/
def kind : Operand α → String
  | number n => n.kind
  | array _ => "ndarray"
  | expression e => e.kind
  | other k => k

/-- The column with the entries of an array of one axis. -/
def column (t : Tensor α) : Vec α := ⟨.const t.entries, .column⟩

/-- The expression that an operand stands for by itself. -/
def toExpression : Operand α → Except Error (Expression α)
  | expression e => .ok e
  | number n => n.value.map fun a => .scalar (.const a)
  | array t =>
    match t.axes with
    | 1 => .ok (.vector (column t))
    | 2 => .ok (.matrix (.ofArray t))
    | _ => .error (.unexpectedInput .promotion "ndarray")
  | other k => .error (.unexpectedInput .promotion k)

/-- The scalar expression that the right operand of a scalar expression stands for. -/
def asScalar (operation : Operation) : Operand α → Except Error (Scalar α)
  | number n => n.value.map .const
  | array t =>
    if t.axes = 0 then .ok (.const (t.entries.headD 0))
    else .error (.dimensionMismatch operation [1, 1] t.reportedDimensions)
  | expression (.scalar e) => .ok e
  | expression e => .error (.dimensionMismatch operation [1, 1] e.dimensions)
  | other k => .error (.unexpectedInput operation k)

/-- The vector that the right operand of a vector stands for. A number is repeated for each
entry where an operation allows it. -/
def asVector (operation : Operation) (broadcast : Bool) (u : Vec α) :
    Operand α → Except Error (Vec α)
  | expression (.vector v) => .ok v
  | array t =>
    if t.axes = 1 then .ok ⟨.const t.entries, u.orientation⟩
    else .error (.dimensionMismatch operation u.dimensions t.shape)
  | number n =>
    if broadcast then
      n.value.map fun a => ⟨.const (List.replicate u.length a), u.orientation⟩
    else .error (.dimensionMismatch operation u.dimensions [1, 1])
  | expression e => .error (.dimensionMismatch operation u.dimensions e.dimensions)
  | other k => .error (.unexpectedInput operation k)

end Operand

end QuadraticProgram
