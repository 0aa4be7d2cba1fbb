import QuadraticProgram.Error
import QuadraticProgram.Number.Text

/-!
# Variables

A decision variable has an identifier, an interval of doubles and a domain. Its identifier
alone says which variable it is; its bounds and its domain are compared only to tell whether
a variable belongs to a problem (`Variable.sameAs`). A tag tells a variable from a copy of
it, and nothing is computed from it.
-/

namespace QuadraticProgram

/-- The values a variable ranges over. The last domain stands for all that a caller makes
up. -/
inductive Domain where
  | continuous
  | binary
  | integer
  | other
deriving DecidableEq, BEq, Inhabited

/-- A decision variable. -/
structure Variable where
  id : Nat
  lower : Float
  upper : Float
  domain : Domain
  name : Label
  tag : Nat
deriving Inhabited

namespace Variable

/-- Bounds that leave a variable free. -/
def unbounded : Float × Float := (-(1.0 / 0.0), 1.0 / 0.0)

/-- The name, or the identifier if there is none. -/
def text (v : Variable) : String :=
  v.name.printed?.getD ("x_" ++ toString v.id)

/-- The variable inside a message. -/
def shown (v : Variable) : String :=
  "<Variable id: " ++ toString v.id ++ ", name: " ++ v.name.shown ++ ">"

/-- Whether a variable ranges over integers only. -/
def isInteger (v : Variable) : Bool := v.domain != .continuous

/-- Whether two variables have the same identifier, bounds and domain. -/
def sameAs (v w : Variable) : Bool :=
  v.id == w.id && v.lower == w.lower && v.upper == w.upper && v.domain == w.domain

/-- What is wrong with the bounds of a variable: they are no numbers, they cross, or they
are not zero and one although it is binary. -/
def defect? (v : Variable) : Option Defect :=
  if v.lower.isNaN || v.upper.isNaN then
    some (.boundNotNumber v.text)
  else if v.upper < v.lower then
    some (.boundsCrossed v.text (doubleText v.lower) (doubleText v.upper))
  else if v.domain == .binary && (v.lower != 0.0 || v.upper != 1.0) then
    some (.binaryBounds v.text (doubleText v.lower) (doubleText v.upper))
  else none

/-- Refuses bounds that are no numbers, that cross, or that are not zero and one for a
binary variable. -/
def check (v : Variable) : Except Error Unit :=
  match v.defect? with
  | some defect => .error (.malformed defect)
  | none => .ok ()

end Variable

end QuadraticProgram
