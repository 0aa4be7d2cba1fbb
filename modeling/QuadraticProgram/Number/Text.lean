import QuadraticProgram.Number.Shortest

/-!
# Numbers as text

A double is written with its shortest digits. Where the first digit stands between the
bounds of a layout the text is positional, otherwise it has an exponent. The layouts in use
are `Layout.plain`, in which a coefficient is written wherever it appears, `Layout.brief`,
the six digit form of a count of seconds, and two for the columns of an array:
`Layout.pointed` never has an exponent and `Layout.powered` always.
-/

namespace QuadraticProgram

/-- How a decimal is laid out. -/
structure Layout where
  /-- The place of the first digit from which on the text is positional. -/
  positionalFrom : Int
  /-- The place of the first digit from which on an exponent is written again. -/
  positionalBelow : Int
  /-- Whether a whole number ends in a point and a zero. -/
  marksWhole : Bool

/-- A first digit from the fourth place after the point up to the sixteenth before it is
written positionally, and a whole number ends in `.0`. -/
def Layout.plain : Layout := ⟨-4, 16, true⟩

/-- A first digit from the fourth place after the point up to the sixth before it is written
positionally, and a whole number has no point. -/
def Layout.brief : Layout := ⟨-4, 6, false⟩

/-- Any place of the first digit is written positionally, and a whole number has no point. -/
def Layout.pointed : Layout := ⟨-400, 400, false⟩

/-- No place of the first digit is written positionally. -/
def Layout.powered : Layout := ⟨0, 0, false⟩

namespace Layout

/-- Digits with a point after the first `point` of them, zeros filled in on either side. -/
def positional (layout : Layout) (digits : List Char) (point : Int) : String :=
  if point ≤ 0 then
    "0." ++ String.ofList (List.replicate (-point).toNat '0' ++ digits)
  else
    let whole := digits.take point.toNat
    let fraction := digits.drop point.toNat
    let zeros := List.replicate (point.toNat - whole.length) '0'
    let start := String.ofList (whole ++ zeros)
    match fraction with
    | [] => if layout.marksWhole then start ++ ".0" else start
    | _ => start ++ "." ++ String.ofList fraction

/-- An exponent with its sign and at least two digits. -/
def exponentText (e : Int) : String :=
  let digits := toString e.natAbs
  (if e < 0 then "e-" else "e+") ++ (if digits.length < 2 then "0" ++ digits else digits)

/-- The first digit, a point before the others if there are any, and the exponent. -/
def scientific (digits : List Char) (e : Int) : String :=
  match digits with
  | [] => exponentText e
  | [d] => String.ofList [d] ++ exponentText e
  | d :: rest => String.ofList (d :: '.' :: rest) ++ exponentText e

/-- The text of a positive decimal. -/
def decimal (layout : Layout) (d : Shortest.Decimal) : String :=
  let digits := Nat.toDigits 10 d.coefficient
  let point := Int.ofNat digits.length + d.exponent
  let place := point - 1
  if layout.positionalFrom ≤ place ∧ place < layout.positionalBelow then
    layout.positional digits point
  else scientific digits place

/-- The text of a double, given how the digits of a positive one are chosen. -/
def double (layout : Layout) (digits : Shortest.Magnitude → Shortest.Decimal) (x : Float) :
    String :=
  let bits := x.toBits.toNat
  let magnitude := bits % Nat.pow 2 63
  let sign := if Nat.pow 2 63 ≤ bits then "-" else ""
  if 2047 * Nat.pow 2 52 < magnitude then "nan"
  else if magnitude = 2047 * Nat.pow 2 52 then sign ++ "inf"
  else if magnitude = 0 then
    sign ++ (if layout.marksWhole then "0.0" else "0")
  else sign ++ layout.decimal (digits (.ofBits magnitude))

end Layout

/-- The text of a double that reads back as the same double. -/
def doubleText (x : Float) : String :=
  Layout.plain.double Shortest.Magnitude.shortest x

/-- The text of a double rounded to six significant digits. -/
def briefText (x : Float) : String :=
  Layout.brief.double (Shortest.Magnitude.rounded · 6) x

end QuadraticProgram
