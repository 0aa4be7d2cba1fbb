import QuadraticProgram.Scalar.Text
import QuadraticProgram.Vec

/-!
# Text of vector expressions

A vector is printed as its entries in brackets, a row with a mark behind them.
-/

namespace QuadraticProgram

/-- The orientation as a member of its choice. -/
def Orientation.shown (o : Orientation) : String := "Orientation." ++ o.name

namespace Vec

variable {α : Type} [Coefficient α]

/-- A vector as it is printed. -/
def text (v : Vec α) : String :=
  Text.bracketed (v.toList.map Scalar.text) ++
    match v.orientation with
    | .column => ""
    | .row => "'"

/-- The data of a vector inside a message. -/
def dataShown (v : Vec α) : String :=
  match v.entries with
  | .const values => Scalar.coefficientsText values
  | .vars elements => Scalar.varsShown elements
  | .affine f =>
    Scalar.varsShown f.vars ++ ", " ++ Scalar.matrixText f.coeffs ++ ", " ++
      Scalar.coefficientsText f.consts

/-- A vector inside a message: its kind, its data and its orientation. -/
def shown (v : Vec α) : String :=
  v.kind ++ "(" ++ v.dataShown ++ ", " ++ v.orientation.shown ++ ")"

end Vec

end QuadraticProgram
