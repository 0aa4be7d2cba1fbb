import QuadraticProgram.Number.Rounding
import QuadraticProgram.Number.Text

/-!
# Coefficients

The numbers that stand in front of variables and in constant terms. All of the algebra is
over a type of coefficients: doubles, with which programs are run, or rationals, over which
the operations are exact. `Number` is what a caller may write where a coefficient is meant.
-/

namespace QuadraticProgram

/-- The operations on coefficients. -/
class Coefficient (α : Type) extends Zero α, One α, Add α, Sub α, Mul α, Neg α, BEq α where
  /-- One half. -/
  half : α
  /-- One divided by a coefficient. -/
  reciprocal : α → α
  /-- Whether a coefficient is less than another. -/
  less : α → α → Bool
  /-- Whether a coefficient is at most another. -/
  atMost : α → α → Bool
  /-- The absolute value. -/
  magnitude : α → α
  /-- Whether a coefficient is beyond all finite ones. -/
  isInfinite : α → Bool
  /-- The relative difference up to which two coefficients count as close. -/
  tolerance : α
  /-- The coefficient nearest to a rational, if there is a finite one. -/
  ofRational? : Rat → Option α
  /-- The coefficient as text. -/
  text : α → String

instance : Coefficient Float where
  zero := 0.0
  one := 1.0
  half := 0.5
  reciprocal x := 1.0 / x
  less x y := x < y
  atMost x y := x ≤ y
  magnitude := Float.abs
  isInfinite := Float.isInf
  tolerance := 1e-9
  ofRational? := Rounding.nearest?
  text := doubleText

/-- A rational as a fraction, or as an integer if it is one. -/
def rationalText (q : Rat) : String :=
  if q.den = 1 then toString q.num else toString q.num ++ "/" ++ toString q.den

instance : Coefficient Rat where
  zero := 0
  one := 1
  half := mkRat 1 2
  reciprocal q := q⁻¹
  less p q := decide (p < q)
  atMost p q := decide (p ≤ q)
  magnitude q := if q < 0 then -q else q
  isInfinite _ := false
  tolerance := mkRat 1 1000000000
  ofRational? := some
  text := rationalText

namespace Coefficient

variable {α : Type} [Coefficient α]

/-- Whether two coefficients are equal up to the relative tolerance. -/
def close (a b : α) : Bool :=
  a == b ||
    !isInfinite a && !isInfinite b &&
      (atMost (magnitude (b - a)) (magnitude (tolerance * b)) ||
        atMost (magnitude (b - a)) (magnitude (tolerance * a)))

/-- The sum of a list, from zero and from left to right. Between doubles this order is a choice.
The sums and products of arrays promise none, and in another one the last digits may differ. -/
def total (xs : List α) : α := xs.foldl (· + ·) 0

/-- The sum of the products of two lists, entry by entry, in the order in which `total` adds
them up. -/
def dot (xs ys : List α) : α := total (List.zipWith (· * ·) xs ys)

end Coefficient

/-- A number as a caller gives it: an integer of any size, a ratio of integers, a
coefficient, or an entry of an array. The integers of fixed width that arrays may hold are
left out. The sign of such an integer is changed in its own type, where an unsigned one wraps
around, so that to subtract it would not be to add its opposite. -/
inductive Number (α : Type) where
  | integer (n : Int)
  | ratio (q : Rat)
  | coefficient (a : α)
  | entry (a : α)

namespace Number

variable {α : Type} [Coefficient α]

/-- The coefficient a number stands for, if it is not too large to be one. -/
def value? : Number α → Option α
  | .integer n => Coefficient.ofRational? n
  | .ratio q => Coefficient.ofRational? q
  | .coefficient a => some a
  | .entry a => some a

/-- The number with its sign changed. An integer or a ratio has no negative zero. -/
def negated : Number α → Number α
  | .integer n => .integer (-n)
  | .ratio q => .ratio (-q)
  | .coefficient a => .coefficient (-a)
  | .entry a => .entry (-a)

/-- Whether one cannot be divided by a number, which is so if the coefficient that it stands
for is zero. An entry of an array divides even then. -/
def refusesDivision (n : Number α) : Bool :=
  match n with
  | .entry _ => false
  | n => n.value?.any (· == 0)

/-- What a number is, as errors call it. -/
def kind : Number α → String
  | .integer _ => "int"
  | .ratio _ => "Fraction"
  | .coefficient _ => "float"
  | .entry _ => "float64"

end Number

end QuadraticProgram
