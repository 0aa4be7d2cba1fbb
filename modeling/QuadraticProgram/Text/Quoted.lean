import QuadraticProgram.Text.Visible

/-!
# Quoted text

Text shown between quotes, on one line: the quote, the backslash, line breaks, tabs and
characters without a visible form are written as escapes. The quotes are single ones, unless
the text holds a single quote and no double one.
-/

namespace QuadraticProgram.Text

/-- A code in hexadecimal, filled up with zeros to a width. -/
def hexadecimal (width code : Nat) : List Char :=
  let digits := Nat.toDigits 16 code
  List.replicate (width - digits.length) '0' ++ digits

/-- A character inside a quotation. -/
def escaped (quote c : Char) : List Char :=
  if c == quote || c == '\\' then ['\\', c]
  else if c == '\n' then ['\\', 'n']
  else if c == '\r' then ['\\', 'r']
  else if c == '\t' then ['\\', 't']
  else if isVisible c then [c]
  else if c.toNat < 0x100 then '\\' :: 'x' :: hexadecimal 2 c.toNat
  else if c.toNat < 0x10000 then '\\' :: 'u' :: hexadecimal 4 c.toNat
  else '\\' :: 'U' :: hexadecimal 8 c.toNat

/-- The quote around a text. -/
def quoteFor (cs : List Char) : Char :=
  if cs.contains '\'' && !cs.contains '"' then '"' else '\''

/-- A text in quotes. -/
def quoted (s : String) : String :=
  let cs := s.toList
  let quote := quoteFor cs
  String.ofList (quote :: cs.flatMap (escaped quote) ++ [quote])

/-- Items between brackets, a comma and a space between two of them. -/
def bracketed (items : List String) : String :=
  "[" ++ ", ".intercalate items ++ "]"

/-- Items between parentheses; a single one is followed by a comma. -/
def parenthesised (items : List String) : String :=
  match items with
  | [item] => "(" ++ item ++ ",)"
  | _ => "(" ++ ", ".intercalate items ++ ")"

/-- The sizes of the axes of an array. -/
def shape (sizes : List Nat) : String :=
  parenthesised (sizes.map toString)

/-- The sizes of the axes of an array without blanks between them. -/
def bareShape (sizes : List Nat) : String :=
  match sizes with
  | [n] => "(" ++ toString n ++ ",)"
  | _ => "(" ++ ",".intercalate (sizes.map toString) ++ ")"

/-- Shapes beside each other, each followed by a blank. -/
def shapes (ss : List (List Nat)) : String :=
  String.join (ss.map fun s => bareShape s ++ " ")

end QuadraticProgram.Text
