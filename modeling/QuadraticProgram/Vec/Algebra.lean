import QuadraticProgram.Scalar.Algebra
import QuadraticProgram.Vec

/-!
# Sums and products of vector expressions

Vectors of one length and orientation are added entry by entry (`Vec.add`). A vector is
multiplied by a scalar expression (`Vec.timesScalar`), as long as its entries stay linear, by
a constant matrix on either side (`Vec.mulMatrixLeft`, `Vec.mulMatrixRight`), and a row by a
column of the same length (`Vec.dot`).
-/

namespace QuadraticProgram.Vec

variable {α : Type} [Coefficient α]

/-- Refuses two vectors of different lengths, then of different orientations. -/
def requireSameShape (operation : Operation) (u v : Vec α) : Except Error Unit :=
  if u.length ≠ v.length then
    .error (.dimensionMismatch operation u.dimensions v.dimensions)
  else if u.orientation ≠ v.orientation then
    .error (.orientationMismatch operation u.kind u.orientation v.kind v.orientation)
  else .ok ()

/-- The sum of two affine forms with the same number of entries. -/
def affineSum (f g : AffineForm α) (h : f.consts.length = g.consts.length) : AffineForm α :=
  let xs := Alignment.distinct (f.vars ++ g.vars)
  ⟨xs,
    (Alignment.spreadColumns f.vars f.coeffs xs).add
      (Alignment.spreadColumns g.vars g.coeffs xs),
    List.zipWith (· + ·) f.consts g.consts,
    by simp [f.rows_coeffs, h],
    by simp [xs]⟩

/-- The sum of two vectors. -/
def add (u v : Vec α) : Except Error (Vec α) := do
  u.requireSameShape .plus v
  match u.entries, v.entries with
  | .const xs, .const ys => return ⟨.const (List.zipWith (· + ·) xs ys), u.orientation⟩
  | _, _ =>
    if h : u.constant.length = v.constant.length then
      return ⟨.affine (affineSum u.toAffine v.toAffine h), u.orientation⟩
    else
      throw (.dimensionMismatch .plus u.dimensions v.dimensions)

/-- A vector with all entries multiplied by a coefficient on the left. -/
def scale (a : α) (v : Vec α) : Vec α :=
  match v.entries with
  | .const values => ⟨.const (values.map (a * ·)), v.orientation⟩
  | .vars elements =>
    ⟨.affine ⟨elements, (Matrix.identity elements.length).scale a,
      List.replicate elements.length 0, by simp, Matrix.cols_scale ..⟩, v.orientation⟩
  | .affine f =>
    ⟨.affine ⟨f.vars, f.coeffs.scale a, f.consts.map (a * ·), by simp [f.rows_coeffs],
      by simp [f.cols_coeffs]⟩, v.orientation⟩

/-- The product of a constant vector and a linear form. -/
def timesLinear (values : List α) (f : LinearForm α) : AffineForm α :=
  ⟨f.vars, Matrix.outer values f.coeffs, values.map (· * f.const), by simp,
    by simp [f.length_coeffs]⟩

/-- The product of a vector and a scalar expression, as long as its entries are linear. -/
def timesScalar (v : Vec α) (e : Scalar α) : Except Error (Vec α) :=
  match e with
  | .const a => .ok (v.scale a)
  | .quadratic _ =>
    if v.isConstant then .error (.unsupportedProduct .constantByQuadratic)
    else .error (.degreeExceeded v.kind e.kind)
  | e =>
    if v.isConstant then
      .ok ⟨.affine (timesLinear v.constant e.toLinear), v.orientation⟩
    else .error (.unsupportedProduct (.quadraticEntries v.kind e.kind))

/-- The product of a constant matrix and a column. -/
def mulMatrixLeft (m : Matrix α) (v : Vec α) : Except Error (Vec α) :=
  if v.orientation = .column ∧ m.cols = v.length then
    if v.isConstant then .ok ⟨.const (m.mulVec v.constant), .column⟩
    else
      .ok ⟨.affine ⟨v.vars, m.mul v.linearCoeff, m.mulVec v.constant, by simp, by simp⟩,
        .column⟩
  else .error (.dimensionMismatch .multiply m.dimensions v.dimensions)

/-- The product of a row and a constant matrix. -/
def mulMatrixRight (v : Vec α) (m : Matrix α) : Except Error (Vec α) :=
  if v.orientation = .row ∧ m.rows = v.length then
    if v.isConstant then .ok ⟨.const (Matrix.vecMul v.constant m), .row⟩
    else
      .ok ⟨.affine ⟨v.vars, m.transpose.mul v.linearCoeff, Matrix.vecMul v.constant m,
        by simp, by simp⟩, .row⟩
  else .error (.dimensionMismatch .multiply v.dimensions m.dimensions)

/-- The sum of the products of constants and the entries of a vector. -/
def weightedSum (weights : List α) (v : Vec α) : LinearForm α :=
  ⟨v.vars, Matrix.vecMul weights v.linearCoeff, Coefficient.dot weights v.constant, by simp⟩

/-- The sum of the products of the entries of two vectors, as a quadratic form. -/
def quadraticDot (u v : Vec α) : Except Error (QuadraticForm α) :=
  let xs := Alignment.distinct (u.vars ++ v.vars)
  let l := Alignment.spreadColumns u.vars u.linearCoeff xs
  let m := Alignment.spreadColumns v.vars v.linearCoeff xs
  QuadraticForm.symmetrise? xs (l.transpose.mul m)
    (List.zipWith (· + ·) (l.transpose.mulVec v.constant) (m.transpose.mulVec u.constant))
    (Coefficient.dot u.constant v.constant) (by simp [l]) (by simp [m]) (by simp [l, m])

/-- The sum of the products of the entries of two vectors of one length. -/
def dot (u v : Vec α) : Except Error (Scalar α) :=
  match u.isConstant, v.isConstant with
  | true, true => .ok (.const (Coefficient.dot u.constant v.constant))
  | true, false => .ok (.linear (weightedSum u.constant v))
  | false, true => .ok (.linear (weightedSum v.constant u))
  | false, false => (quadraticDot u v).map .quadratic

end QuadraticProgram.Vec
