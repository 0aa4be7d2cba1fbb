import QuadraticProgram.Number.Exact
import QuadraticProgram.Number.Reading
import QuadraticProgram.Session.State
import QuadraticProgram.Tensor.Selection
import QuadraticProgram.Tensor.Text

/-!
# Coercions

How values are read as numbers, as truth values, as the items of a sequence and as indices. A
double can be written as text. A vector is the sequence of its entries.
-/

namespace QuadraticProgram.Session.Value

/-! ### Numbers -/

/-- The double that a value is read as. -/
def toFloat (v : Value) : Except Fault Float :=
  match v with
  | bool b | flag b => .ok (if b then 1.0 else 0.0)
  | text _ s =>
    match Reading.double? s with
    | some x => .ok x
    | none => .error (.value ("could not convert string to float: " ++ Text.quoted s))
  | v =>
    match v.number?, v.tensor? with
    | some n, _ => n.value.mapError Fault.ofError
    | none, some t =>
      match t.entries with
      | [x] => .ok x
      | _ => .error (.ofError .singleEntryExpected)
    | none, none => .error (.ofError (.notANumber v.typeName))

/-- The number of digits up to which text is read as an integer. -/
def digitLimit : Nat := 4300

/-- The fault of text that is no integer. Of a long text only the beginning is shown. -/
def notIntegerText (s : String) : Fault :=
  .value ("invalid literal for int() with base 10: " ++
    String.ofList ((Text.quoted s).toList.take 200))

/-- The integer that a double is read as. -/
def integerOfDouble (x : Float) : Except Fault Int :=
  match rationalOf? x with
  | some q => .ok (truncated q)
  | none =>
    if x.isNaN then .error (.value "cannot convert float NaN to integer")
    else .error (.plain "OverflowError" "cannot convert float infinity to integer")

/-- The integer that a value is read as. -/
def toInteger (v : Value) : Except Fault Int :=
  match v with
  | bool b | flag b => .ok (if b then 1 else 0)
  | integer _ n => .ok n
  | ratio _ q => .ok (truncated q)
  | float _ x | entry _ x => integerOfDouble x
  | text _ s =>
    match Reading.integer? s with
    | some n =>
      let count := (s.toList.filter fun c => (Text.plainCharacter c).isDigit).length
      if digitLimit < count then
        .error (.value ("Exceeds the limit (4300 digits) for integer string conversion: " ++
          "value has " ++ toString count ++
          " digits; use sys.set_int_max_str_digits() to increase the limit"))
      else .ok n
    | none => .error (notIntegerText s)
  | v =>
    match v.tensor? with
    | some t =>
      match t.entries with
      | [x] => integerOfDouble x
      | _ => .error (.ofError .singleEntryExpected)
    | none =>
      .error (.type ("int() argument must be a string, a bytes-like object or a real " ++
        "number, not " ++ Text.quoted v.typeName))

/-! ### Truth -/

/-- Whether a number is zero. -/
def isZero : Number Float → Bool
  | .integer n => n == 0
  | .ratio q => q == 0
  | .coefficient x | .entry x => x == 0.0

/-- The truth of an array, which has to have a single entry. -/
def tensorTruth (t : Tensor Float) : Except Fault Bool :=
  match t.entries with
  | [x] => .ok (x != 0.0)
  | xs => .error (.ofError (.ambiguousTruth xs.isEmpty))

/-- The variable that a value is, where a variable is asked for. -/
def requireVariable (v : Value) : Except Fault Variable :=
  match v.decision? with
  | some x => .ok x
  | none => .error (.lacks v "id")

/-- The integer that a value has to be, rather than be read as. -/
def toIndex (v : Value) : Except Fault Int :=
  match v.integer?, v.tensor? with
  | some n, _ => .ok n
  | none, some _ => .error (.ofError .indexExpected)
  | none, none => .error (.notAnInteger v)

/-- The number of rows of a grid, which has to be the length of a sequence. -/
def rowCount (rows : Value) : Except Fault Nat := do
  let n ← rows.toIndex
  if n < 0 then throw (.value "__len__() should return >= 0")
  if isBeyondPositions n then
    throw (.plain "OverflowError" "cannot fit 'int' into an index-sized integer")
  return n.toNat

/-- Whether a value counts as true. -/
def truth (v : Value) : Except Fault Bool :=
  match v with
  | nothing => .ok false
  | bool b | flag b => .ok b
  | complex _ re im => .ok (!(re == 0.0 && im == 0.0))
  | text _ s => .ok (!s.isEmpty)
  | list _ items | tuple _ items => .ok (!items.isEmpty)
  | dict _ keys _ | frozen _ keys _ => .ok (!keys.isEmpty)
  | duration _ d => .ok (d.microseconds != 0)
  | expression _ (.vector u) => .ok (u.length != 0)
  | grid _ _ rows _ => (rowCount rows).map (· != 0)
  | pair _ a b => do return (← a.requireVariable).id == (← b.requireVariable).id
  | constraint _ form .. => .error (.constraintTruth form)
  | v =>
    match v.number?, v.tensor? with
    | some n, _ => .ok (!isZero n)
    | none, some t => tensorTruth t
    | none, none => .ok true

/-! ### Sequences -/

/-- The parts of an array along its first axis. -/
def slabs (t : Tensor Float) : List Value :=
  match t.shape with
  | [] => []
  | [_] => t.entries.map (entry 0)
  | n :: shape =>
    (List.range n).map fun i => .ofTensor ⟨shape, Tensor.part (Tensor.size shape) i t.entries⟩

/-- The parts of an array of truth values along its first axis. -/
def flagSlabs (shape : List Nat) (entries : List Bool) : List Value :=
  match shape with
  | [] => []
  | [_] => entries.map flag
  | n :: shape =>
    (List.range n).map fun i => .flags 0 shape (Tensor.part (Tensor.size shape) i entries)

/-- An entry of a vector, which is a variable or an expression of its own. -/
def entryValue (e : Scalar Float) : Act Value := Act.expression (.scalar e)

/-- The fault of iterating over an array without axes. -/
def withoutAxes : Fault := .type "iteration over a 0-d array"

/-- The fault of a grid that is indexed by a single integer, as its iteration does. -/
def gridIteration : Fault := .notUnpackable (.ofInt 0)

/-- The items of a value, where there are any. -/
def items? (v : Value) : Option (Act (List Value)) :=
  match v with
  | list _ xs | tuple _ xs => some (pure xs)
  | dict _ keys _ | frozen _ keys _ => some (pure keys)
  | text _ s => some (pure (s.toList.map fun c => .ofText (String.singleton c)))
  | array _ t => some (if t.axes = 0 then throw withoutAxes else pure (slabs t))
  | flags _ shape entries =>
    some (if shape.isEmpty then throw withoutAxes else pure (flagSlabs shape entries))
  | expression _ (.vector u) => some (u.toList.mapM entryValue)
  | grid .. => some (throw gridIteration)
  | _ => none

/-- The items of a value. -/
def items (v : Value) : Act (List Value) :=
  match v.items? with
  | some act => act
  | none => throw (.notIterable v)

/-- The two items of a value that has to have just two. -/
def bothItems (v : Value) : Act (Value × Value) := do
  match v.items? with
  | none => throw (.notUnpackable v)
  | some act =>
    match ← act with
    | [a, b] => return (a, b)
    | _ :: _ :: _ :: _ => throw (.value "too many values to unpack (expected 2)")
    | xs =>
      throw (.value ("not enough values to unpack (expected 2, got " ++ toString xs.length ++
        ")"))

/-- The number of items of a value. -/
def length (v : Value) : Except Fault Nat :=
  match v with
  | list _ xs | tuple _ xs => .ok xs.length
  | dict _ keys _ | frozen _ keys _ => .ok keys.length
  | text _ s => .ok s.length
  | expression _ (.vector u) => .ok u.length
  | constraint _ .vector lhs _ _ => length lhs
  | grid _ _ rows _ => rowCount rows
  | v =>
    match v.tensor? with
    | some t => if t.axes = 0 then .error (.ofError .unsized) else .ok t.length
    | none => .error (.withoutLength v)

/-! ### Indices -/

/-- A bound of a slice. -/
def sliceBound (v : Value) : Except Error (Option Int) :=
  match v with
  | nothing => .ok none
  | v =>
    match v.integer?, v.tensor? with
    | some n, _ => .ok (some n)
    | none, some _ => .error .indexExpected
    | none, none => .error .sliceBoundExpected

/-- A slice between two bounds. The step is read first. -/
def toSlice (start stop step : Value) : Except Error Slice := do
  let step? ← sliceBound step
  if step? == some 0 then throw .zeroStep
  return ⟨← sliceBound start, ← sliceBound stop, step?⟩

/-- An item of a sequence of some kind, or the part of it that a slice takes. -/
def itemOf (name : String) (make : List Value → Value) (xs : List Value) (index : Value) :
    Except Fault Value :=
  match index with
  | slice _ start stop step => do
    let s ← (toSlice start stop step).mapError Fault.ofError
    return make ((s.of? xs).getD [])
  | index =>
    match index.integer?, index.tensor? with
    | some i, _ =>
      if isBeyondPositions i then .error (.ofError .beyondPositions)
      else
        match (position? i xs.length).bind (xs[·]?) with
        | some v => .ok v
        | none => .error (.index (name ++ " index out of range"))
    | none, some _ => .error (.ofError .indexExpected)
    | none, none =>
      .error (.type (
        if name == "string" then
          "string indices must be integers, not " ++ Text.quoted index.typeName
        else name ++ " indices must be integers or slices, not " ++ index.typeName))

end QuadraticProgram.Session.Value
