import QuadraticProgram.Number.Text
import QuadraticProgram.Tensor
import QuadraticProgram.Text.Quoted

/-!
# Texts of arrays

The entries of an array are written in columns, their points below each other, with as many
digits as they need and at most eight after the point. Brackets enclose the items of each
axis; the entries of the last axis are filled into lines, and the items of another axis
start lines of their own. An array is printed for its reader (`Tensor.text`, entries
separated by blanks) or shown inside a message (`Tensor.shown`, separated by commas).
-/

namespace QuadraticProgram.Tensor

/-- A text with blanks before it, up to a width. -/
def rightAligned (width : Nat) (s : String) : String :=
  String.ofList (List.replicate (width - s.length) ' ') ++ s

/-- A text with a filling after it, up to a width. -/
def leftAligned (filling : Char) (width : Nat) (s : String) : String :=
  s ++ String.ofList (List.replicate (width - s.length) filling)

/-- Whether the entries are written with exponents: one of them has nine digits before its
point, one is below a ten thousandth, or the largest is more than a thousand times the
smallest. Only finite entries other than zero count. -/
def needsExponents (xs : List Float) : Bool :=
  match (xs.filter fun x => x.isFinite && x != 0.0).map Float.abs with
  | [] => false
  | x :: rest =>
    let largest := rest.foldl (fun a b => if a < b then b else a) x
    let smallest := rest.foldl (fun a b => if b < a then b else a) x
    1e8 ≤ largest || smallest < 0.0001 || 1000.0 < largest / smallest

/-- The text of a finite entry in parts: the digits before its point with the sign, those
after it, and the exponent with its sign. -/
structure Parts where
  whole : String
  fraction : String
  exponent : String

/-- A number at its point. -/
def Parts.split (number exponent : String) : Parts :=
  match number.splitOn "." with
  | [whole, fraction] => ⟨whole, fraction, exponent⟩
  | _ => ⟨number, "", exponent⟩

/-- An entry with at most eight digits after its point. -/
def Parts.ofEntry (exponents : Bool) (x : Float) : Parts :=
  if exponents then
    let digits := fun m : Shortest.Magnitude => m.shortestTo (m.pointPosition - 9)
    match (Layout.powered.double digits x).splitOn "e" with
    | [number, exponent] => .split number exponent
    | texts => .split (texts.headD "") "+00"
  else .split (Layout.pointed.double (Shortest.Magnitude.shortestTo · (-8)) x) ""

/-- The widths that the entries of an array share. -/
structure Columns where
  /-- Whether entries have exponents. -/
  exponents : Bool
  /-- The characters before the point. -/
  before : Nat
  /-- The digits after the point. -/
  places : Nat
  /-- The characters of an exponent with its sign. -/
  power : Nat

namespace Columns

/-- The characters after the point. -/
def after (c : Columns) : Nat := c.places + (if c.exponents then c.power + 1 else 0)

/-- The columns wide enough for all entries. -/
def ofEntries (xs : List Float) : Columns :=
  let exponents := needsExponents xs
  let finite := (xs.filter Float.isFinite).map (Parts.ofEntry exponents)
  let special := (xs.filter fun x => !x.isFinite).map doubleText
  let widest := fun texts : List String => (texts.map String.length).foldl max 0
  let columns : Columns :=
    ⟨exponents, widest (finite.map Parts.whole), widest (finite.map Parts.fraction),
      widest (finite.map Parts.exponent)⟩
  { columns with before := max columns.before (widest special - (columns.after + 1)) }

/-- The exponent of an entry, zeros after its sign up to the shared width. -/
def exponentText (c : Columns) (exponent : String) : String :=
  match exponent.toList with
  | [] => ""
  | sign :: digits =>
    String.ofList (sign :: List.replicate (c.power - 1 - digits.length) '0' ++ digits)

/-- An entry in its columns. -/
def entry (c : Columns) (x : Float) : String :=
  if x.isFinite then
    let p := Parts.ofEntry c.exponents x
    rightAligned c.before p.whole ++ "." ++
      (if c.exponents then leftAligned '0' c.places p.fraction ++ "e" ++ c.exponentText p.exponent
      else leftAligned ' ' c.places p.fraction)
  else rightAligned (c.before + 1 + c.after) (doubleText x)

end Columns

/-- Words filled into lines: a word that would pass the width starts a new line. A line
begins after an indent, and `gap` characters follow each word. -/
def fill (indent gap width : Nat) : List String → Nat → List String → List (List String)
  | line, _, [] => [line.reverse]
  | line, used, word :: words =>
    if !line.isEmpty && width < used + word.length then
      line.reverse :: fill indent gap width [word] (indent + word.length + gap) words
    else fill indent gap width (word :: line) (used + word.length + gap) words

/-- How arrays are written: what separates two entries, and what separates them where a
line ends. -/
structure Style where
  separator : String
  lineEnd : String

/-- A text without the blanks at its end. -/
def withoutFinalBlanks (s : String) : String :=
  String.ofList (s.toList.reverse.dropWhile (· == ' ')).reverse

/-- Lines of words below each other. -/
def Style.lines (style : Style) (indent : Nat) : List (List String) → String
  | [] => ""
  | [line] => style.separator.intercalate line
  | line :: rest =>
    withoutFinalBlanks (style.separator.intercalate line ++ style.separator) ++ "\n" ++
      rightAligned indent "" ++ style.lines indent rest

/-- The number of items at either end of an axis that are written if the array is too large
to be written in full. -/
def edge : Nat := 3

/-- The positions along an axis that are written, and a gap where others are left out. -/
def places (isLarge : Bool) (n : Nat) : List (Option Nat) :=
  if isLarge && 2 * edge < n then
    (List.range edge).map some ++ none :: (List.range edge).map fun i => some (n - edge + i)
  else (List.range n).map some

/-- What stands in a gap. -/
def gapMark : String := "..."

/-- The items of a list with a number of entries each, at a position. -/
def part {β : Type} (size i : Nat) (xs : List β) : List β := (xs.drop (i * size)).take size

/-- The entries of an array of the given shape that are written. -/
def writtenEntries (isLarge : Bool) : List Nat → List Float → List Float
  | [], xs => xs
  | n :: shape, xs =>
    (places isLarge n).flatMap fun place? =>
      match place? with
      | some i =>
        writtenEntries isLarge shape (part (shape.foldl (· * ·) 1) i xs)
      | none => []

/-- An array of the given shape: `indent` characters stand before its items on a new line,
and a line of entries has less than `width` characters. -/
def Style.block (style : Style) (isLarge : Bool) (entry : Float → String) :
    List Nat → List Float → (indent width : Nat) → String
  | [], xs, _, _ => entry (xs.headD 0.0)
  | [n], xs, indent, width =>
    let words := (places isLarge n).map fun place? =>
      match place? with
      | some i => entry (xs.getD i 0.0)
      | none => gapMark
    "[" ++ style.lines indent
      (fill indent style.separator.length (width - 1) [] indent words) ++ "]"
  | n :: m :: shape, xs, indent, width =>
    let size := (m :: shape).foldl (· * ·) 1
    let items := (places isLarge n).map fun place? =>
      match place? with
      | some i =>
        style.block isLarge entry (m :: shape) (part size i xs) (indent + 1) (width - 1)
      | none => gapMark
    let gap := style.lineEnd ++ String.ofList (List.replicate (shape.length + 1) '\n') ++
      rightAligned indent ""
    "[" ++ gap.intercalate items ++ "]"

/-- Whether an array has more entries than are written in full. -/
def isLarge (t : Tensor Float) : Bool := 1000 < t.count

/-- An array in some style. -/
def written (t : Tensor Float) (style : Style) (indent width : Nat) : String :=
  let columns := Columns.ofEntries (writtenEntries t.isLarge t.shape t.entries)
  style.block t.isLarge columns.entry t.shape t.entries indent width

/-- A truth value in its column. -/
def flagEntry (hasAxes : Bool) (x : Float) : String :=
  if x == 0.0 then "False" else if hasAxes then " True" else "True"

/-- An array of truth values as it is printed. Zero stands for false. -/
def flagsText (t : Tensor Float) : String :=
  if t.count = 0 then "[]"
  else (⟨" ", ""⟩ : Style).block t.isLarge (flagEntry (t.axes != 0)) t.shape t.entries 1 75

/-- An array of truth values inside a message. -/
def flagsShown (t : Tensor Float) : String :=
  if t.count = 0 then "array([], " ++
    (if t.shape = [0] then "" else "shape=" ++ Text.shape t.shape ++ ", ") ++ "dtype=bool)"
  else
    let style : Style := ⟨", ", ","⟩
    "array(" ++ style.block t.isLarge (flagEntry (t.axes != 0)) t.shape t.entries 7 74 ++ ")"

/-- An array as it is printed: a single entry without axes is a number. -/
def text (t : Tensor Float) : String :=
  if t.axes = 0 then doubleText (t.entries.headD 0.0)
  else if t.count = 0 then "[]"
  else t.written ⟨" ", ""⟩ 1 75

/-- The number of characters of the last line of a text. -/
def lastLineLength (s : String) : Nat := (s.toList.reverse.takeWhile (· != '\n')).length

/-- An array inside a message. An array without entries and one that is not written in full
tell what the brackets do not. -/
def shown (t : Tensor Float) : String :=
  if t.count = 0 then
    if t.shape = [0] then "array([], dtype=float64)"
    else "array([], shape=" ++ Text.shape t.shape ++ ", dtype=float64)"
  else
    let block := "array(" ++ t.written ⟨", ", ","⟩ 7 74
    if t.isLarge then
      let extra := "shape=" ++ Text.shape t.shape ++ ")"
      let start := block ++ ","
      let isLong := 75 < lastLineLength start + extra.length + 1
      start ++ (if isLong then "\n      " else " ") ++ extra
    else block ++ ")"

end QuadraticProgram.Tensor
