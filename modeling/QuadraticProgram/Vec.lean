import QuadraticProgram.Position
import QuadraticProgram.Scalar

/-!
# Vector expressions

A vector is constant, a list of variables or an affine form `L x + c`, and it stands as a
column or lies as a row. Every vector can be read as an affine form (`Vec.toAffine`);
`Vec.at?` is an entry as a scalar expression and `Vec.evaluate` the list of its values.
-/

namespace QuadraticProgram

variable {α : Type}

/-- An affine form: a row of coefficients and a constant for each entry. -/
@[ext]
structure AffineForm (α : Type) where
  vars : List Variable
  coeffs : Matrix α
  consts : List α
  rows_coeffs : coeffs.rows = consts.length
  cols_coeffs : coeffs.cols = vars.length

/-- The entries of a vector. -/
inductive Entries (α : Type) where
  | const (values : List α)
  | vars (elements : List Variable)
  | affine (f : AffineForm α)

/-- A vector expression. -/
@[ext]
structure Vec (α : Type) where
  entries : Entries α
  orientation : Orientation

variable [Coefficient α]

/-! ### Construction -/

namespace AffineForm

/-- The coefficients and the constants of an affine form as arrays of two axes and of one.
Without variables empty coefficients stand for a row of none for each constant; without
constants they are zero. -/
def arrays? (noVars : Bool) (l : Tensor α) (c? : Option (Tensor α)) :
    Except Error (Tensor α × Tensor α) := do
  let l ←
    if l.entries.isEmpty && noVars then
      match c? with
      | none => pure ⟨[0, 0], []⟩
      | some c => if c.axes = 0 then throw .unsized else pure ⟨[c.length, 0], []⟩
    else pure l
  l.requireAxes "L" 2
  let c := c?.getD (.ofList (List.replicate l.length 0))
  c.requireAxes "C" 1
  return (l, c)

/-- The affine form with the given variables, coefficients and constants. -/
def make? (xs : List Candidate) (l : Tensor α) (c? : Option (Tensor α)) :
    Except Error (AffineForm α) := do
  let (l, c) ← arrays? xs.isEmpty l c?
  let vars ← Candidate.vars .notVariable xs
  let n := c.entries.length
  if l.shape = [n, vars.length] then
    return ⟨vars, Matrix.ofTensor n vars.length l.entries, c.entries, Matrix.rows_ofFn .., rfl⟩
  else
    throw (.malformed (.affineShape l.shape n vars.length))

/-- The coefficients of one entry. -/
def row (f : AffineForm α) (i : Nat) : List α := f.coeffs.rowList.getD i []

omit [Coefficient α] in
theorem length_row (f : AffineForm α) {i : Nat} (h : i < f.consts.length) :
  (f.row i).length = f.vars.length
  := by
  have hi : i < f.coeffs.rowList.length := by
    rw [← f.rows_coeffs] at h
    exact h
  rw [row, List.getD_eq_getElem?_getD, List.getElem?_eq_getElem hi, Option.getD_some,
    f.coeffs.length_row _ (List.getElem_mem hi), f.cols_coeffs]

/-- One entry as a linear form. -/
def entry (f : AffineForm α) (i : Nat) (h : i < f.consts.length) : LinearForm α :=
  ⟨f.vars, f.row i, f.consts[i], f.length_row h⟩

end AffineForm

namespace Vec

/-- The column or row of some variables. -/
def ofVariables (xs : List Candidate) (o : Orientation) : Except Error (Vec α) := do
  let vars ← Candidate.vars .vectorNotVariable xs
  return ⟨.vars vars, o⟩

/-- The constant column or row with the entries of an array. -/
def ofTensor (t : Tensor α) (o : Orientation) : Except Error (Vec α) := do
  t.requireAxes "KVector values" 1
  return ⟨.const t.entries, o⟩

/-! ### Parts -/

/-- What a vector expression is, as errors call it. -/
def kind (v : Vec α) : String :=
  match v.entries with
  | .const _ => "KVector"
  | .vars _ => "VarVector"
  | .affine _ => "VectorLinearExpression"

/-- The number of entries. -/
def length (v : Vec α) : Nat :=
  match v.entries with
  | .const values => values.length
  | .vars elements => elements.length
  | .affine f => f.consts.length

/-- The number of rows and of columns. -/
def dimensions (v : Vec α) : List Nat :=
  match v.orientation with
  | .column => [v.length, 1]
  | .row => [1, v.length]

/-- The variables that the coefficients refer to, with repetitions. -/
def vars (v : Vec α) : List Variable :=
  match v.entries with
  | .const _ => []
  | .vars elements => elements
  | .affine f => f.vars

/-- The vector as an affine form. -/
def toAffine (v : Vec α) : AffineForm α :=
  match v.entries with
  | .const values =>
    ⟨[], Matrix.zeros values.length 0, values, Matrix.rows_zeros .., Matrix.cols_zeros ..⟩
  | .vars elements =>
    ⟨elements, Matrix.identity elements.length, List.replicate elements.length 0, by simp,
      Matrix.cols_identity ..⟩
  | .affine f => f

/-- The coefficients of the variables, a row for each entry. -/
def linearCoeff (v : Vec α) : Matrix α := v.toAffine.coeffs

/-- The constant terms of the entries. -/
def constant (v : Vec α) : List α := v.toAffine.consts

/-- Whether a vector was built without variables. -/
def isConstant (v : Vec α) : Bool :=
  match v.entries with
  | .const _ => true
  | _ => false

@[simp]
theorem rows_linearCoeff (v : Vec α) :
  v.linearCoeff.rows = v.constant.length
  := v.toAffine.rows_coeffs

@[simp]
theorem cols_linearCoeff (v : Vec α) :
  v.linearCoeff.cols = v.vars.length
  := by
  rcases v with ⟨entries, o⟩
  cases entries with
  | const values => simp [linearCoeff, toAffine, vars]
  | vars elements => simp [linearCoeff, toAffine, vars]
  | affine f => exact f.cols_coeffs

@[simp]
theorem length_constant (v : Vec α) :
  v.constant.length = v.length
  := by
  rcases v with ⟨entries, o⟩
  cases entries <;> simp [constant, toAffine, length]

/-- The vector without its constant terms. -/
def variablePart (v : Vec α) : Vec α :=
  match v.entries with
  | .const values => ⟨.const (List.replicate values.length 0), v.orientation⟩
  | .vars _ => v
  | .affine f =>
    ⟨.affine ⟨f.vars, f.coeffs, List.replicate f.consts.length 0, by simp [f.rows_coeffs],
      f.cols_coeffs⟩, v.orientation⟩

/-- The constant terms as a vector. -/
def constantPart (v : Vec α) : Vec α := ⟨.const v.constant, v.orientation⟩

/-- The vector placed the other way. -/
def transpose (v : Vec α) : Vec α := { v with orientation := v.orientation.flipped }

/-- The same expression over other variables, which have to contain its own. -/
def rewrite (v : Vec α) (target : List Variable) : Except Error (Vec α) := do
  Alignment.requireAll v.vars target
  return ⟨.affine ⟨target, Alignment.spreadColumns v.vars v.linearCoeff target, v.constant,
    by simp, Alignment.cols_spreadColumns ..⟩, v.orientation⟩

/-- The entry at an index below the length. -/
def entry (v : Vec α) (i : Nat) (h : i < v.length) : Scalar α :=
  match v, h with
  | ⟨.const values, _⟩, h => .const (values.get ⟨i, h⟩)
  | ⟨.vars elements, _⟩, h => .var (elements.get ⟨i, h⟩)
  | ⟨.affine f, _⟩, h => .linear (f.entry i h)

/-- The entry at a position, which may count from the end. -/
def at? (v : Vec α) (i : Int) : Except Error (Scalar α) :=
  match h : position? i v.length with
  | some k => .ok (v.entry k (position?_lt h))
  | none =>
    match v.entries with
    | .vars _ => .error .positionOutOfRange
    | _ => .error (.indexOutOfBounds i 0 v.length)

/-- An index with a position has the entry there. -/
theorem at?_eq_ok {v : Vec α} {i : Int} {k : Nat} (h : position? i v.length = some k) :
  v.at? i = .ok (v.entry k (position?_lt h))
  := by
  unfold at?
  split
  · rename_i j hj
    cases hj.symm.trans h
    rfl
  · rename_i hnone
    cases hnone.symm.trans h

/-- All the entries. -/
def toList (v : Vec α) : List (Scalar α) :=
  (List.finRange v.length).map fun (i : Fin v.length) => v.entry i i.isLt

/-! ### Meaning -/

/-- The values of the entries under an assignment to the identifiers of variables. -/
def evaluate (s : Nat → Option α) (v : Vec α) : Except Error (List α) :=
  match v.entries with
  | .const values => .ok values
  | .vars elements => Alignment.valuesOf s elements
  | .affine f => do
    let values ← Alignment.valuesOf s f.vars
    return List.zipWith (· + ·) (f.coeffs.mulVec values) f.consts

end Vec

end QuadraticProgram
