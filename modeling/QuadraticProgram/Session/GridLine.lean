import QuadraticProgram.Session.Arithmetic

/-!
# Rows and columns of grids

A grid keeps its variables row by row beside any two values for its numbers of rows and of
columns. The positions of a row and of a column are computed from these by the operators of the
session, so that they need not be integers.
-/

namespace QuadraticProgram.Session.GridLine

/-- A vector with some items, all of which have to be variables. -/
def vector (xs : List Value) (o : Orientation) : Act Value :=
  Act.expression? ((Vec.ofVariables (xs.map Value.candidate) o).map .vector)

/-- The integers from zero up to a value. -/
def indicesBelow (n : Value) : Act (List Value) := do
  let k ← Act.ofResult n.toIndex
  return (List.range k.toNat).map Value.ofNat

/-- The sum of two values. -/
def sum (a b : Value) : Act Value := Act.arithmetic .add a b

/-- The product of two values. -/
def product (a b : Value) : Act Value := Act.arithmetic .multiply a b

/-- A row: the elements from its first position up to that of the next row. -/
def row (elements : List Value) (columns i : Value) : Act Value := do
  let start ← product i columns
  let stop ← product (← sum i (.ofInt 1)) columns
  let s ← Act.ofExcept (Value.toSlice start stop .nothing)
  vector ((s.of? elements).getD []) .row

/-- The element at a position of a column. -/
def element (elements : List Value) (columns i j : Value) : Act Value := do
  let position ← sum (← product i columns) j
  Act.ofResult (Value.itemOf "tuple" .ofTuple elements position)

/-- A column: the elements at its position in each row. -/
def column (elements : List Value) (rows columns j : Value) : Act Value := do
  let xs ← (← indicesBelow rows).mapM fun i => element elements columns i j
  vector xs .column

/-- All rows. -/
def rows (elements : List Value) (rows columns : Value) : Act (List Value) := do
  (← indicesBelow rows).mapM (row elements columns)

/-- All columns. -/
def columns (elements : List Value) (rows columns : Value) : Act (List Value) := do
  (← indicesBelow columns).mapM (column elements rows columns)

/-- All elements as a column. -/
def flatten (elements : List Value) : Act Value := vector elements .column

end QuadraticProgram.Session.GridLine
