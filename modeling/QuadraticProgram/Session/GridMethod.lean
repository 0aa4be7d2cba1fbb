import QuadraticProgram.Session.Construct
import QuadraticProgram.Session.Indexing

/-!
# Methods of grids

What can be asked of a grid in a session. Where a grid consists of variables in integral
numbers of rows and columns it is one of the library; otherwise its positions are computed from
whatever its sizes are.
-/

namespace QuadraticProgram.Session.GridMethod

/-- The signature of a method of a grid. -/
def signature? (m : String) : Option Signature :=
  let named (ps : List Parameter) : Option Signature := some (.method ("VarMatrix." ++ m) ps)
  match m with
  | "at" => named [required "i", required "j"]
  | "row" => named [required "i"]
  | "column" => named [required "j"]
  | "rows" | "columns" | "flatten" | "transpose" => named []
  | _ => none

/-- The integer that a value is and not only counts as. -/
def wholeNumber? : Value → Option Int
  | .integer _ n => some n
  | _ => none

/-- The grid with rows and columns exchanged. -/
def transpose (elements : List Value) (rows columns : Value) : Act Value := do
  let js ← GridLine.indicesBelow columns
  let lines ← js.mapM fun j => do
    (← GridLine.indicesBelow rows).mapM fun i => Indexing.gridAt elements rows columns i j
  Construct.grid (.ofList lines.flatten) (.ofTuple [columns, rows])

/-- The result of a method of a grid of the library, if it is one for the arguments. -/
def ofGrid? (g : Grid) (m : String) (args : List (Option Int)) : Option (Act Value) :=
  let vector (v : Vec Float) : Act Value := Act.expression (.vector v)
  match m, args with
  | "at", [some i, some j] => some do return .ofVariable (← Act.ofExcept (g.at? i j))
  | "row", [some i] => some (vector (g.row i))
  | "column", [some j] => some do vector (← Act.ofExcept (g.column j))
  | "rows", [] => some do return .ofList (← g.rowVectors.mapM vector)
  | "columns", [] => some do
    return .ofList (← (← Act.ofExcept g.columnVectors).mapM vector)
  | "flatten", [] => some (vector g.flatten)
  | "transpose", [] => some do
    let t := g.transpose
    return .grid (← Act.fresh) (t.elements.map Value.ofVariable) (.ofNat t.rows)
      (.ofNat t.columns)
  | _, _ => none

/-- The result of a method of a grid. -/
def compute (self : Value) (elements : List Value) (rows columns : Value) (m : String)
    (args : List Value) : Act Value := do
  match m, args with
  | "at", [i, j] => Indexing.gridAt elements rows columns i j
  | "row", [i] => GridLine.row elements columns i
  | "column", [j] => GridLine.column elements rows columns j
  | "rows", _ => return .ofList (← GridLine.rows elements rows columns)
  | "columns", _ => return .ofList (← GridLine.columns elements rows columns)
  | "flatten", _ => GridLine.flatten elements
  | "transpose", _ => transpose elements rows columns
  | m, _ => throw (.lacks self m)

/-- The result of a method of a grid. -/
def run (self : Value) (elements : List Value) (rows columns : Value) (m : String)
    (args : List Value) : Act Value :=
  match self.grid?.bind fun g => ofGrid? g m (args.map wholeNumber?) with
  | some act => act
  | none => compute self elements rows columns m args

end QuadraticProgram.Session.GridMethod
