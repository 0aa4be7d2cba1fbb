import QuadraticProgram.Coefficient

/-!
# Tensors

Dense arrays with any number of axes, their entries in row-major order. They are what
callers hand over and get back; the algebra itself works on lists and matrices.
-/

namespace QuadraticProgram

/-- An array with any number of axes. -/
structure Tensor (α : Type) where
  shape : List Nat
  entries : List α
deriving Inhabited

namespace Tensor

variable {α : Type}

/-- The number of axes. -/
def axes (t : Tensor α) : Nat := t.shape.length

/-- The number of entries a shape asks for. -/
def count (t : Tensor α) : Nat := t.shape.foldl (· * ·) 1

/-- The number of items along the first axis, zero without axes. -/
def length (t : Tensor α) : Nat := t.shape.headD 0

/-- A single entry without axes. -/
def single (a : α) : Tensor α := ⟨[], [a]⟩

/-- A list as an array of one axis. -/
def ofList (xs : List α) : Tensor α := ⟨[xs.length], xs⟩

/-- The entry-wise image. -/
def map (f : α → α) (t : Tensor α) : Tensor α := ⟨t.shape, t.entries.map f⟩

/-- The sizes an operand without, with one or with two axes is reported with. -/
def reportedDimensions (t : Tensor α) : List Nat :=
  if t.axes = 2 then t.shape else [t.length, 1]

end Tensor

end QuadraticProgram
