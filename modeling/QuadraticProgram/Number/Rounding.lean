/-!
# Rounding to doubles

The double nearest to a ratio, found in natural number arithmetic. A finite double is
`m * 2 ^ e` with `m < 2 ^ 53` and `-1074 ≤ e`, and its 64 bits spell the sign, the
exponent and the significand in this order, so that the magnitudes of doubles are
ordered as their bits are.
-/

namespace QuadraticProgram.Rounding

/-- The quotient of two naturals rounded to the nearest natural, a tie to the even one. -/
def divNearest (num den : Nat) : Nat :=
  let q := num / den
  let r := num % den
  if 2 * r < den then q
  else if den < 2 * r then q + 1
  else if q % 2 = 0 then q
  else q + 1

/-- `num / den * 2 ^ (-e)`, rounded to a natural. -/
def scaledQuotient (num den : Nat) (e : Int) : Nat :=
  if 0 ≤ e then divNearest num (den * Nat.pow 2 e.toNat)
  else divNearest (num * Nat.pow 2 (-e).toNat) den

/-- The exponent `e` for which `num / den * 2 ^ (-e)` lies between `2 ^ 52` and
`2 ^ 53`, raised to the least exponent of a double. -/
def exponentOf (num den : Nat) : Int :=
  let k : Int := Int.ofNat num.log2 - Int.ofNat den.log2
  let reaches :=
    if 0 ≤ k then den * Nat.pow 2 k.toNat ≤ num else den ≤ num * Nat.pow 2 (-k).toNat
  max (if reaches then k - 52 else k - 53) (-1074)

/-- The bits of the double nearest to `num / den`, if it is finite. -/
def bits? (num den : Nat) : Option Nat :=
  if num = 0 then some 0
  else
    let e := exponentOf num den
    let m := scaledQuotient num den e
    let bits := if m < Nat.pow 2 52 then m else (e + 1074).toNat * Nat.pow 2 52 + m
    if bits < 2047 * Nat.pow 2 52 then some bits else none

/-- The double nearest to a rational, a tie to the even significand, if it is finite. -/
def nearest? (q : Rat) : Option Float :=
  (bits? q.num.natAbs q.den).map fun bits =>
    let magnitude := Float.ofBits (UInt64.ofNat bits)
    if q.num < 0 then -magnitude else magnitude

/-- The double nearest to a rational, infinite beyond the finite doubles. -/
def nearest (q : Rat) : Float :=
  match nearest? q with
  | some x => x
  | none => if q.num < 0 then -(1.0 / 0.0) else 1.0 / 0.0

end QuadraticProgram.Rounding
