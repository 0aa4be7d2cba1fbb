import QuadraticProgram.Number.Rounding
import QuadraticProgram.Text.Decimal

/-!
# Reading numbers

Decimal text read as a double, and as an integer. Blanks around the text are left out, a sign
may stand in front, and single underscores may stand between digits. The digits of all scripts
are known, and the blanks of ASCII and beyond.
-/

namespace QuadraticProgram.Reading

/-- The blanks that may surround a number. -/
def isBlank (c : Char) : Bool :=
  c == ' ' || c == '\t' || c == '\n' || c == '\r' || c == '\x0b' || c == '\x0c'

/-- The text without the blanks around it, all digits as those of ASCII. -/
def stripped (s : List Char) : List Char :=
  (((s.map Text.plainCharacter).dropWhile isBlank).reverse.dropWhile isBlank).reverse

/-- A sign in front of the text, negative or not, and the rest. -/
def signed : List Char → Bool × List Char
  | '-' :: rest => (true, rest)
  | '+' :: rest => (false, rest)
  | rest => (false, rest)

/-- The longest run of digits in front of the text, underscores between them left out, and
the rest. -/
def digits : List Char → List Char × List Char
  | c :: '_' :: d :: rest =>
    if c.isDigit && d.isDigit then
      let (ds, rest') := digits (d :: rest)
      (c :: ds, rest')
    else if c.isDigit then ([c], '_' :: d :: rest)
    else ([], c :: '_' :: d :: rest)
  | c :: rest =>
    if c.isDigit then
      let (ds, rest') := digits rest
      (c :: ds, rest')
    else ([], c :: rest)
  | [] => ([], [])

/-- The value of a run of digits. -/
def natOf (ds : List Char) : Nat :=
  ds.foldl (fun n d => 10 * n + (d.toNat - '0'.toNat)) 0

/-- Text that is one integer. -/
def integer? (s : String) : Option Int :=
  let (negative, rest) := signed (stripped s.toList)
  match digits rest with
  | ([], _) => none
  | (ds, []) => some (if negative then -Int.ofNat (natOf ds) else Int.ofNat (natOf ds))
  | (_, _) => none

/-- The exponent at the end of a decimal, zero if there is none. -/
def exponent? : List Char → Option Int
  | [] => some 0
  | c :: rest =>
    if c == 'e' || c == 'E' then
      let (negative, rest) := signed rest
      match digits rest with
      | ([], _) => none
      | (ds, []) => some (if negative then -Int.ofNat (natOf ds) else Int.ofNat (natOf ds))
      | (_, _) => none
    else none

/-- The double nearest to `mantissa * 10 ^ e`. An exponent far beyond the range of doubles
is cut to one that is still beyond it. -/
def scaledTen (mantissa : Nat) (e : Int) : Float :=
  if mantissa = 0 then 0.0
  else
    let digits := Int.ofNat (Nat.toDigits 10 mantissa).length
    if 400 < e + digits then 1.0 / 0.0
    else if e + digits < -400 then 0.0
    else if 0 ≤ e then Rounding.nearest (mantissa * Nat.pow 10 e.toNat : Nat)
    else Rounding.nearest (mkRat mantissa (Nat.pow 10 (-e).toNat))

/-- Text without a sign that is one number. -/
def magnitude? (s : List Char) : Option Float :=
  let lower := String.ofList (s.map Char.toLower)
  if lower == "inf" || lower == "infinity" then some (1.0 / 0.0)
  else if lower == "nan" then some (Float.ofBits 0x7ff8000000000000)
  else
    let (whole, rest) := digits s
    let (fraction, rest) :=
      match rest with
      | '.' :: rest => digits rest
      | _ => ([], rest)
    if whole.isEmpty && fraction.isEmpty then none
    else
      (exponent? rest).map fun e =>
        scaledTen (natOf (whole ++ fraction)) (e - Int.ofNat fraction.length)

/-- Text that is one number, rounded to the nearest double. -/
def double? (s : String) : Option Float :=
  let (negative, rest) := signed (stripped s.toList)
  (magnitude? rest).map fun x => if negative then -x else x

end QuadraticProgram.Reading
