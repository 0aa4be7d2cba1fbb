import QuadraticProgram.Constraint.Implication
import QuadraticProgram.Constraint.Rows
import QuadraticProgram.Session.Valuation

/-!
# Rows over columns that values name

The rows of a linear constraint are gathered in an array of zeros. A value says under which
index the coefficients of each variable are added: mostly an integer, but whatever is an index
of the array will do, and what it selects is added to at once.
-/

namespace QuadraticProgram.Session.ColumnUpdate

/-- The index under which a variable is added. -/
def indexOf (mapping : Value) (v : Variable) : Act Value :=
  Valuation.given .columns mapping v.id

/-- A part of an array with another array added to it, which has to fit into it. -/
def addInto (found added : Tensor Float) : Except Fault (List Float) :=
  match Tensor.commonShape? found.shape added.shape with
  | none => .error (.ofError (.shapesDiffer [found.shape, added.shape, found.shape]))
  | some common =>
    if common = found.shape then
      .ok (List.zipWith (· + ·) found.entries
        (Tensor.spreadTo added.shape found.shape added.entries))
    else .error (.ofError (.outputShapeDiffers found.shape common))

/-- An array with another one added to what an index selects. -/
def update (t : Tensor Float) (index : Value) (added : Tensor Float) :
    Except Fault (Tensor Float) := do
  let s ← Indexing.selection t.shape index
  return t.put s (← addInto (t.take s) added)

/-- An array with a coefficient of each variable added. -/
def addTerms (mapping : Value) (t : Tensor Float) :
    List (Variable × Float) → Act (Tensor Float)
  | [] => return t
  | (v, a) :: rest => do
    let index ← indexOf mapping v
    addTerms mapping (← Act.ofResult (update t index (.single a))) rest

/-- An array with a column of each variable added. -/
def addColumns (mapping : Value) (t : Tensor Float) :
    List (Variable × List Float) → Act (Tensor Float)
  | [] => return t
  | (v, column) :: rest => do
    let index := Value.ofTuple [.slice 0 .nothing .nothing .nothing, ← indexOf mapping v]
    addColumns mapping (← Act.ofResult (update t index (.ofList column))) rest

/-- A bound as a value. -/
def boundValue : Bound Float → Value
  | .single a => .ofFloat a
  | .list xs => .ofEntries xs

/-- The row of a simplified scalar constraint and its bound. -/
def row (c : Constraint Float) (mapping : Value) : Act Value := do
  let width ← Act.ofResult mapping.length
  let e ← Act.ofExcept c.scalarLeft
  let a ← addTerms mapping (.ofList (List.replicate width 0.0)) (e.vars.zip e.coefficients)
  return .ofTuple [.ofTensor a, boundValue (← Act.ofExcept c.bound)]

/-- The rows of a simplified vector constraint and their bounds. -/
def rows (c : Constraint Float) (mapping : Value) : Act Value := do
  let v ← Act.ofExcept c.vectorLeft
  let width ← Act.ofResult mapping.length
  let zeros : Tensor Float := ⟨[v.length, width], List.replicate (v.length * width) 0.0⟩
  let a ← addColumns mapping zeros (v.vars.zip v.linearCoeff.transpose.rowList)
  return .ofTuple [.ofTensor a, boundValue (← Act.ofExcept c.bound)]

end QuadraticProgram.Session.ColumnUpdate
