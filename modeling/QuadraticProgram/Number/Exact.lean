import QuadraticProgram.Number.Shortest

/-!
# Exact values of doubles

The rational that a finite double is.
-/

namespace QuadraticProgram

/-- The rational that a magnitude is. -/
def Shortest.Magnitude.toRat (x : Shortest.Magnitude) : Rat :=
  if 0 ≤ x.exponent then (x.significand * Nat.pow 2 x.exponent.toNat : Nat)
  else mkRat x.significand (Nat.pow 2 (-x.exponent).toNat)

/-- The rational that a double is, if it is finite. -/
def rationalOf? (x : Float) : Option Rat :=
  if x.isNaN || x.isInf then none
  else
    let bits := x.toBits.toNat
    let q := (Shortest.Magnitude.ofBits bits).toRat
    some (if bits < Nat.pow 2 63 then q else -q)

/-- A rational without its fraction. -/
def truncated (q : Rat) : Int := q.num.tdiv q.den

end QuadraticProgram
