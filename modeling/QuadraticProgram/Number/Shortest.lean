/-!
# Shortest digits of a double

A finite positive double stands for the interval of reals that round to it. Of the decimals
in this interval those with the fewest digits are the shortest, and the one nearest to the
double is its text. A decimal `c * 10 ^ t` and the ends of the interval are compared in
natural number arithmetic, after both are multiplied by the same powers of two and ten.
-/

namespace QuadraticProgram.Shortest

/-- A positive decimal `coefficient * 10 ^ exponent`. -/
structure Decimal where
  coefficient : Nat
  exponent : Int

/-- The magnitude `significand * 2 ^ exponent` of a finite double. -/
structure Magnitude where
  significand : Nat
  exponent : Int

/-- The magnitude in the bits of a finite double, the sign left out. -/
def Magnitude.ofBits (bits : Nat) : Magnitude :=
  let field := bits / Nat.pow 2 52 % Nat.pow 2 11
  let fraction := bits % Nat.pow 2 52
  if field = 0 then ⟨fraction, -1074⟩
  else ⟨Nat.pow 2 52 + fraction, Int.ofNat field - 1075⟩

/-- Whether the gap below the magnitude is half the gap above it. -/
def Magnitude.atPowerOfTwo (x : Magnitude) : Bool :=
  x.significand == Nat.pow 2 52 && -1074 < x.exponent

/-- The magnitude and the ends of its interval, in units of `2 ^ (exponent - 2)`. -/
def Magnitude.centre (x : Magnitude) : Nat := 4 * x.significand

@[inherit_doc Magnitude.centre]
def Magnitude.lower (x : Magnitude) : Nat :=
  4 * x.significand - (if x.atPowerOfTwo then 1 else 2)

@[inherit_doc Magnitude.centre]
def Magnitude.upper (x : Magnitude) : Nat := 4 * x.significand + 2

/-- A count of units of `2 ^ (exponent - 2)` on the scale shared with `onScale`. -/
def Magnitude.scaled (x : Magnitude) (units : Nat) (t : Int) : Nat :=
  units * Nat.pow 2 (x.exponent - 2).toNat * Nat.pow 10 (-t).toNat

/-- The decimal `c * 10 ^ t` on the scale shared with `scaled`. -/
def Magnitude.onScale (x : Magnitude) (c : Nat) (t : Int) : Nat :=
  c * Nat.pow 2 (2 - x.exponent).toNat * Nat.pow 10 t.toNat

/-- Whether `c * 10 ^ t` rounds to the magnitude: the ends of the interval do so exactly
when the significand is even. -/
def Magnitude.covers (x : Magnitude) (c : Nat) (t : Int) : Bool :=
  let d := x.onScale c t
  let lo := x.scaled x.lower t
  let hi := x.scaled x.upper t
  if x.significand % 2 = 0 then decide (lo ≤ d) && decide (d ≤ hi)
  else decide (lo < d) && decide (d < hi)

/-- The number of decimal digits of a natural number. -/
def digitCount (n : Nat) : Nat := (Nat.toDigits 10 n).length

/-- The number of digits before the decimal point of a positive magnitude, counted
negative for the zeros that follow the point. -/
def Magnitude.pointPosition (x : Magnitude) : Int :=
  let shift := (-x.exponent).toNat
  let whole := x.significand * Nat.pow 2 x.exponent.toNat * Nat.pow 10 shift / Nat.pow 2 shift
  Int.ofNat (digitCount whole) - Int.ofNat shift

/-- The nearest of the two multiples of `10 ^ t` around the magnitude that round to it,
if one does; a tie goes to the even multiple. -/
def Magnitude.onGrid? (x : Magnitude) (t : Int) : Option Nat :=
  let below := x.scaled x.centre t / x.onScale 1 t
  let above := below + 1
  match x.covers below t, x.covers above t with
  | true, true =>
    let centre := x.scaled x.centre t
    let toBelow := centre - x.onScale below t
    let toAbove := x.onScale above t - centre
    if toBelow < toAbove then some below
    else if toAbove < toBelow then some above
    else if below % 2 = 0 then some below
    else some above
  | true, false => some below
  | false, true => some above
  | false, false => none

/-- The decimal with its trailing zeros moved into the exponent, at most `fuel` of them. -/
def Decimal.trimmed (fuel : Nat) (d : Decimal) : Decimal :=
  match fuel with
  | 0 => d
  | fuel + 1 =>
    if d.coefficient % 10 = 0 ∧ d.coefficient ≠ 0 then
      Decimal.trimmed fuel ⟨d.coefficient / 10, d.exponent + 1⟩
    else d

/-- The first grid of at least `digits` digits that has a decimal for the magnitude. Any
double has one of seventeen digits, so a fuel of seventeen is never used up. -/
def Magnitude.search (x : Magnitude) (point : Int) (digits fuel : Nat) : Decimal :=
  match fuel with
  | 0 => ⟨x.onScale 1 0, 0⟩
  | fuel + 1 =>
    let t := point - Int.ofNat digits
    match x.onGrid? t with
    | some c => Decimal.trimmed 20 ⟨c, t⟩
    | none => x.search point (digits + 1) fuel

/-- The shortest decimal that rounds to a positive magnitude. -/
def Magnitude.shortest (x : Magnitude) : Decimal :=
  x.search x.pointPosition 1 17

/-- The multiple of `10 ^ t` nearest to the magnitude, of two the even one. -/
def Magnitude.nearest (x : Magnitude) (t : Int) : Decimal :=
  let num := x.scaled x.centre t
  let den := x.onScale 1 t
  let q := num / den
  let r := num % den
  let up := decide (den < 2 * r) || (decide (2 * r = den) && decide (q % 2 = 1))
  Decimal.trimmed 20 ⟨if up then q + 1 else q, t⟩

/-- The magnitude rounded to a number of significant digits, a tie to the even digit. -/
def Magnitude.rounded (x : Magnitude) (digits : Nat) : Decimal :=
  x.nearest (x.pointPosition - Int.ofNat digits)

/-- The shortest decimal of the magnitude if it is a multiple of `10 ^ t`, otherwise the
nearest multiple. -/
def Magnitude.shortestTo (x : Magnitude) (t : Int) : Decimal :=
  let d := x.shortest
  if t ≤ d.exponent then d else x.nearest t

end QuadraticProgram.Shortest
