import QuadraticProgram.Session.Comparison
import QuadraticProgram.Session.Text

/-!
# Items of values

What a value has under an index. A sequence has an item at an integer and a part for a slice, a
dictionary a value under each key, and an array whatever its index selects
(`Indexing.axisIndices`). The entries of vectors and matrices are those of the arrays or the
variables that they consist of.
-/

namespace QuadraticProgram.Session.Indexing

/-! ### Arrays -/

/-- An integer as an index of an array. -/
def positionIndex (n : Int) : Except Fault AxisIndex :=
  let wide : Int := (Nat.pow 2 63 : Nat)
  if -wide ≤ n ∧ n < wide then .ok (.position n)
  else if 0 ≤ n ∧ n < 2 * wide then
    .error (.plain "OverflowError" "Python int too large to convert to C long")
  else .error .wrongArrayIndex

/-- The truth values among some values, if all of them are. -/
def truthValues? (vs : List Value) : Option (List Bool) :=
  vs.mapM fun v =>
    match v with
    | .bool b | .flag b => some b
    | _ => none

/-- The positions that some integers stand for beside each other. All have to be in the signed
range of a position, or all in the unsigned one, of which the upper half counts from the end. -/
def positions? (ns : List Int) : Option (List Int) :=
  let all : Int := (Nat.pow 2 64 : Nat)
  if ns.all fun n => !isBeyondPositions n then some ns
  else if ns.all fun n => n == 0 || n == 1 || isBeyondPositions n && 0 ≤ n && n < all then
    some (ns.map fun n => if isBeyondPositions n then n - all else n)
  else none

/-- The integers that some values are, if all of them are. Beside integers beyond the signed
range only truth values may stand for zero and one. -/
def integers? (vs : List Value) : Option (List Int) := do
  let ns ← vs.mapM Value.integer?
  let hasSmall := vs.any fun v =>
    match v with
    | .integer _ n => !isBeyondPositions n
    | _ => false
  if hasSmall && ns.any isBeyondPositions then none else positions? ns

/-- The positions that a sequence of values stands for, or the mask. -/
def sequenceIndex (v : Value) : Except Fault AxisIndex := do
  let (shape, leaves) ← v.leaves
  if leaves.isEmpty then return .positions shape []
  else
    match truthValues? leaves, integers? leaves with
    | some flags, _ => return .mask shape flags
    | none, some positions => return .positions shape positions
    | none, none => throw .wrongArrayIndex

/-- A value as an index along an axis. -/
def axisIndex (v : Value) : Except Fault AxisIndex :=
  match v with
  | .nothing => .ok .newAxis
  | .slice _ start stop step => .ok (.slice (Value.toSlice start stop step))
  | .bool b | .flag b => .ok (.mask [] [b])
  | .integer _ n => positionIndex n
  | .flags _ shape entries => .ok (.mask shape entries)
  | .array .. => .error (.index "arrays used as indices must be of integer (or boolean) type")
  | .list .. | .tuple .. | .frozen .. | .grid .. | .expression _ (.vector _) => sequenceIndex v
  | _ => .error .wrongArrayIndex

/-- A value as an index of an array: the items of a tuple are along its axes. -/
def axisIndices (v : Value) : Except Fault (List AxisIndex) :=
  match v with
  | .tuple _ items => items.mapM axisIndex
  | v => do return [← axisIndex v]

/-- What an index selects from an array of some shape. -/
def selection (shape : List Nat) (index : Value) : Except Fault Selection := do
  (Tensor.select shape (← axisIndices index)).mapError Fault.ofError

/-- What an array has under an index. -/
def arrayItem (t : Tensor Float) (index : Value) : Except Fault Value := do
  let s ← selection t.shape index
  let found := t.take s
  match s.isEntry, found.entries with
  | true, [x] => return .entry 0 x
  | _, _ => return .ofTensor found

/-- What an array of truth values has under an index. -/
def flagsItem (shape : List Nat) (entries : List Bool) (index : Value) : Except Fault Value := do
  let s ← selection shape index
  let found := (⟨shape, entries⟩ : Tensor Bool).take s
  match s.isEntry, found.entries with
  | true, [b] => return .flag b
  | _, _ => return .flags 0 found.shape found.entries

/-! ### Vectors, matrices and grids -/

/-- The constant that a part of an array is, which has to be a single entry. -/
def constantOf (v : Value) : Act Value := do
  match v with
  | .entry _ x => Act.expression (.scalar (.const x))
  | v => throw (.ofError (.unexpectedInput .constant v.kind))

/-- The entry of an affine form under an index: a part of its coefficients, which has to be a
row, and one of its constants. -/
def affineAt (f : AffineForm Float) (index : Value) : Act Value := do
  let l ← Act.ofResult (arrayItem f.coeffs.toTensor index)
  let c ← Act.ofResult (arrayItem (.ofList f.consts) index)
  let l ← Act.ofResult l.toArray
  Act.ofExcept (l.requireAxes "L" 1)
  let c ← Act.ofResult c.toFloat
  Act.expression? ((LinearForm.make? (f.vars.map Candidate.variable) l c).map fun e =>
    .scalar (.linear e))

/-- An entry of a vector, as a call asks for it. -/
def vectorAt (u : Vec Float) (index : Value) : Act Value := do
  match u.entries with
  | .const values =>
    constantOf (← Act.ofResult (arrayItem (.ofList values) index))
  | .vars elements =>
    Act.ofResult (Value.itemOf "tuple" .ofTuple (elements.map Value.ofVariable) index)
  | .affine f => affineAt f index

/-- An item of a vector: a slice of variables is a vector again. -/
def vectorItem (u : Vec Float) (index : Value) : Act Value := do
  match u.entries, index with
  | .vars elements, .slice _ start stop step =>
    let s ← Act.ofExcept (Value.toSlice start stop step)
    Act.expression (.vector ⟨.vars ((s.of? elements).getD []), u.orientation⟩)
  | _, _ => vectorAt u index

/-- An entry of a constant matrix. -/
def matrixAt (m : Matrix Float) (i j : Value) : Act Value := do
  constantOf (← Act.ofResult (arrayItem m.toTensor (.ofTuple [i, j])))

/-- Whether a value is at least zero and less than a number of rows or columns. -/
def isWithin (i count : Value) : Act Bool := do
  if ← Act.isOrdered .atMost (.ofInt 0) i then Act.isOrdered .less i count else return false

/-- A variable of a grid. -/
def gridAt (elements : List Value) (rows columns i j : Value) : Act Value := do
  let inside ← (do if ← isWithin i rows then isWithin j columns else return false)
  if inside then GridLine.element elements columns i j
  else
    throw (.index ("index (" ++ (← Act.printed i) ++ ", " ++ (← Act.printed j) ++
      ") is out of a " ++ (← Act.printed rows) ++ " x " ++ (← Act.printed columns) ++
      " matrix"))

/-! ### Items of values -/

/-- Whether a value is a slice that takes all of a sequence in its order. -/
def takesAll (index : Value) (length : Nat) : Bool :=
  match index with
  | .slice _ start stop step =>
    match Value.toSlice start stop step with
    | .ok s => s.step?.getD 1 == 1 && s.indices? length == some (List.range length)
    | .error _ => false
  | _ => false

/-- A text made of texts. -/
def joined (vs : List Value) : Value :=
  .ofText (String.join (vs.map fun v =>
    match v with
    | .text _ s => s
    | _ => ""))

/-- What a dictionary has under a key. -/
def entryOf (keys values : List Value) (key : Value) : Act Value := do
  match ← Act.lookup? key keys values with
  | some v => return v
  | none => throw (.plain "KeyError" (← Act.shown key))

/-- What a value has under an index. -/
def item (v index : Value) : Act Value := do
  match v with
  | .list _ xs => Act.ofResult (Value.itemOf "list" .ofList xs index)
  | .tuple _ xs =>
    if takesAll index xs.length then return v
    else Act.ofResult (Value.itemOf "tuple" .ofTuple xs index)
  | .text _ s =>
    if takesAll index s.length then return v
    else
      let letters := s.toList.map fun c => Value.ofText (String.singleton c)
      Act.ofResult (Value.itemOf "string" joined letters index)
  | .dict _ keys values | .frozen _ keys values => entryOf keys values index
  | .array _ t => Act.ofResult (arrayItem t index)
  | .flags _ shape entries => Act.ofResult (flagsItem shape entries index)
  | .entry .. | .flag _ =>
    match index with
    | .tuple _ [] => return v
    | _ => throw (.index "invalid index to scalar variable.")
  | .expression _ (.vector u) => vectorItem u index
  | .grid _ elements rows columns =>
    let (i, j) ← index.bothItems
    gridAt elements rows columns i j
  | v => throw (.notSubscriptable v)

end QuadraticProgram.Session.Indexing
