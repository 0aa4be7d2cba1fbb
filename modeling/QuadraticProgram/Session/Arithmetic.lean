import QuadraticProgram.Session.Nesting

/-!
# Arithmetic between values

Beside an expression any value is an operand of the library (`Act.arithmetic`). Between plain
values the operators are those of numbers, which stay exact until a double takes part, those of
spans of time, those of sequences, which are joined and repeated, and those of arrays, which
are combined entry by entry.
-/

namespace QuadraticProgram.Session

/-- The operator as it is written. -/
def operatorSymbol : Arithmetic → String
  | .add => "+"
  | .subtract => "-"
  | .multiply => "*"
  | .matrixMultiply => "@"
  | .divide => "/"

/-- The arithmetic operator that is written in some way. -/
def arithmetic? (symbol : String) : Option Arithmetic :=
  [Arithmetic.add, .subtract, .multiply, .matrixMultiply, .divide].find? fun op =>
    operatorSymbol op == symbol

/-! ### Numbers -/

/-- A number of any kind. -/
inductive Quantity where
  | exact (q : Rat) (isInteger : Bool)
  | double (x : Float) (isEntry : Bool)
  | complex (re im : Float)

namespace Quantity

/-- The number that a value counts as in arithmetic. -/
def of? : Value → Option Quantity
  | .bool b | .flag b => some (exact (if b then 1 else 0) true)
  | .integer _ n => some (exact n true)
  | .ratio _ q => some (exact q false)
  | .float _ x => some (double x false)
  | .entry _ x => some (double x true)
  | .complex _ re im => some (complex re im)
  | _ => none

/-- The double nearest to an exact number. -/
def nearest (q : Rat) (isInteger : Bool) : Except Fault Float :=
  (Number.value (if isInteger then .integer q.num else .ratio q)).mapError Fault.ofError

/-- The real and the imaginary part of a number. -/
def parts : Quantity → Except Fault (Float × Float)
  | exact q isInteger => do return (← nearest q isInteger, 0.0)
  | double x _ => .ok (x, 0.0)
  | complex re im => .ok (re, im)

/-- A value for an exact number. -/
def ofExact (q : Rat) (isInteger : Bool) : Value :=
  if isInteger then .ofInt q.num else .ratio 0 q

/-- The fault of a division by zero. -/
def zeroDivision (message : String) : Fault := .plain "ZeroDivisionError" message

/-- The quotient of two exact numbers. -/
def exactQuotient (p q : Rat) (areIntegers : Bool) : Except Fault Value :=
  match areIntegers, q == 0 with
  | true, true => .error (zeroDivision "division by zero")
  | false, true =>
    let sign : Int := if p.num < 0 then -1 else if p.num = 0 then 0 else 1
    .error (zeroDivision ("Fraction(" ++ toString sign ++ ", 0)"))
  | true, false => do return .ofFloat (← nearest (p / q) false)
  | false, false => .ok (.ratio 0 (p / q))

/-- An operator between exact numbers. -/
def onExact (op : Arithmetic) (p q : Rat) (areIntegers : Bool) : Except Fault Value :=
  match op with
  | .add => .ok (ofExact (p + q) areIntegers)
  | .subtract => .ok (ofExact (p - q) areIntegers)
  | .divide => exactQuotient p q areIntegers
  | _ => .ok (ofExact (p * q) areIntegers)

/-- An operator between doubles. Entries of arrays are divided by zero, too. -/
def onDoubles (op : Arithmetic) (x y : Float) (isEntry : Bool) : Except Fault Value :=
  let give (z : Float) : Value := if isEntry then .entry 0 z else .ofFloat z
  match op with
  | .add => .ok (give (x + y))
  | .subtract => .ok (give (x - y))
  | .divide =>
    if y == 0.0 && !isEntry then .error (zeroDivision "float division by zero")
    else .ok (give (x / y))
  | _ => .ok (give (x * y))

/-- The quotient of two complex numbers, by the larger part of the divisor. -/
def complexQuotient (a b : Float × Float) : Except Fault Value :=
  if b.2.abs ≤ b.1.abs then
    if b.1 == 0.0 then .error (zeroDivision "complex division by zero")
    else
      let ratio := b.2 / b.1
      let divisor := b.1 + b.2 * ratio
      .ok (.complex 0 ((a.1 + a.2 * ratio) / divisor) ((a.2 - a.1 * ratio) / divisor))
  else
    let ratio := b.1 / b.2
    let divisor := b.1 * ratio + b.2
    .ok (.complex 0 ((a.1 * ratio + a.2) / divisor) ((a.2 * ratio - a.1) / divisor))

/-- An operator between complex numbers. -/
def onComplex (op : Arithmetic) (a b : Float × Float) : Except Fault Value :=
  match op with
  | .add => .ok (.complex 0 (a.1 + b.1) (a.2 + b.2))
  | .subtract => .ok (.complex 0 (a.1 - b.1) (a.2 - b.2))
  | .divide => complexQuotient a b
  | _ => .ok (.complex 0 (a.1 * b.1 - a.2 * b.2) (a.1 * b.2 + a.2 * b.1))

/-- Whether two numbers are combined as entries of arrays. -/
def asEntries : Quantity → Quantity → Bool
  | double _ true, exact _ false => false
  | double _ true, _ => true
  | _, double _ isEntry => isEntry
  | _, _ => false

/-- An operator between numbers. -/
def combine (op : Arithmetic) (a b : Quantity) : Except Fault Value :=
  match a, b with
  | exact p i, exact q j => onExact op p q (i && j)
  | complex .., _ | _, complex .. => do onComplex op (← a.parts) (← b.parts)
  | _, _ => do onDoubles op (← a.parts).1 (← b.parts).1 (asEntries a b)

end Quantity

/-! ### Spans of time -/

namespace Span

/-- The most days that a span may have. -/
def mostDays : Int := 999999999

/-- A span with a number of microseconds. -/
def ofMicroseconds (n : Int) : Except Fault Value :=
  let d : Duration := ⟨n⟩
  if d.days < -mostDays ∨ mostDays < d.days then
    .error (.plain "OverflowError"
      (if d.days.natAbs < Nat.pow 2 31 then
        "days=" ++ toString d.days ++ "; must have magnitude <= 999999999"
      else "Python int too large to convert to C int"))
  else .ok (.duration 0 d)

/-- The integer nearest to a number, a half going to the even one. -/
def nearestInteger (q : Rat) : Int :=
  let n := Rounding.divNearest q.num.natAbs q.den
  if q.num < 0 then -(n : Int) else n

/-- A span times a number. -/
def scaled (d : Duration) (q : Rat) : Except Fault Value :=
  ofMicroseconds (nearestInteger (d.microseconds * q))

/-- A span divided by a number. -/
def divided (d : Duration) (q : Rat) : Except Fault Value :=
  if q == 0 then .error (Quantity.zeroDivision "integer division or modulo by zero")
  else scaled d q⁻¹

/-- The exact factor that a value is for a span, if it is one. -/
def factor? (v : Value) : Option (Except Fault Rat) :=
  match v with
  | .float _ x | .entry _ x =>
    match rationalOf? x with
    | some q => some (.ok q)
    | none =>
      if x.isNaN then some (.error (.value "cannot convert NaN to integer ratio"))
      else some (.error (.plain "OverflowError" "cannot convert Infinity to integer ratio"))
  | v => v.integer?.map fun n => .ok (n : Rat)

/-- An operator between values one of which is a span, if it is defined. -/
def combine? (op : Arithmetic) (a b : Value) : Option (Except Fault Value) :=
  match op, a, b with
  | .add, .duration _ d, .duration _ e => some (ofMicroseconds (d.microseconds + e.microseconds))
  | .subtract, .duration _ d, .duration _ e =>
    some (ofMicroseconds (d.microseconds - e.microseconds))
  | .divide, .duration _ d, .duration _ e =>
    some (Quantity.exactQuotient d.microseconds e.microseconds true)
  | .multiply, .duration _ d, v | .multiply, v, .duration _ d =>
    (factor? v).map fun q => do scaled d (← q)
  | .divide, .duration _ d, v => (factor? v).map fun q => do divided d (← q)
  | _, _, _ => none

end Span

/-! ### Sequences -/

namespace Joined

/-- The number of items up to which a sequence is repeated. -/
def mostItems : Nat := 1000000

/-- A sequence repeated. -/
def repeated (v : Value) (n : Int) : Except Fault Value :=
  let wide := Nat.pow 2 63
  let size := (v.length.toOption.getD 0) * n.toNat
  if n < -(wide : Int) ∨ (wide : Int) ≤ n then
    .error (.plain "OverflowError" "cannot fit 'int' into an index-sized integer")
  else if mostItems < size then .error (.plain "MemoryError" "")
  else
    match v with
    | .text _ s => .ok (.ofText (String.join (List.replicate n.toNat s)))
    | .list _ xs => .ok (.ofList (List.replicate n.toNat xs).flatten)
    | .tuple t xs =>
      .ok (if n = 1 then .tuple t xs else .ofTuple (List.replicate n.toNat xs).flatten)
    | v => .ok v

/-- Whether a value is a sequence that can be joined to another. -/
def isSequence : Value → Bool
  | .text .. | .list .. | .tuple .. => true
  | _ => false

/-- A sequence times a value. -/
def times (v n : Value) : Except Fault Value :=
  match n.integer? with
  | some k => repeated v k
  | none =>
    .error (.type ("can't multiply sequence by non-int of type " ++ Text.quoted n.typeName))

/-- An operator between values one of which is a sequence, if it is defined. -/
def combine? (op : Arithmetic) (a b : Value) : Option (Except Fault Value) :=
  match op, a, b with
  | .add, .text _ s, .text _ t => some (.ok (.ofText (s ++ t)))
  | .add, .list _ xs, .list _ ys => some (.ok (.ofList (xs ++ ys)))
  | .add, .tuple _ xs, .tuple _ ys => some (.ok (.ofTuple (xs ++ ys)))
  | .add, a, b =>
    if isSequence a then
      some (.error (.type ("can only concatenate " ++ a.kind ++ " (not \"" ++ b.typeName ++
        "\") to " ++ a.kind)))
    else none
  | .multiply, a, b =>
    if isSequence a then some (times a b)
    else if isSequence b then some (times b a)
    else none
  | _, _, _ => none

end Joined

/-! ### Arrays -/

namespace Value

/-- The number of characters that a value takes in an array of text, if it can be in one. -/
def shownWidth? : Value → Option Nat
  | text _ s => some s.length
  | bool _ | flag _ => some 5
  | integer .. => some 21
  | float .. | entry .. => some 32
  | complex .. => some 64
  | _ => none

/-- Whether a value is a text. -/
def isText : Value → Bool
  | text .. => true
  | _ => false

/-- The width of the array of text that some values are read as, if they are read as one. -/
def textWidth? (leaves : List Value) : Option Nat :=
  if leaves.any isText then (leaves.mapM shownWidth?).map fun widths => widths.foldl max 1
  else none

/-- An entry of an array as a value of its own. -/
def withoutArray (v : Value) : Value :=
  match v with
  | entry _ x => ofFloat x
  | flag b => bool b
  | v => v

end Value

namespace Fault

/-- There is no operation between arrays of two types. -/
def withoutLoop (operation left right : String) : Fault :=
  plain "_UFuncNoLoopError" ("ufunc " ++ Text.quoted operation ++
    " did not contain a loop with signature matching types (" ++ left ++ ", " ++ right ++
    ") -> None")

end Fault

namespace Entrywise

/-- The type of an array of numbers. -/
def numberType : String := "dtype('float64')"

/-- The type of an array of text. -/
def textType (width : Nat) : String := "dtype('<U" ++ toString (max 1 width) ++ "')"

/-- The name of an operator between arrays. -/
def operationName : Arithmetic → String
  | .add => "add"
  | .subtract => "subtract"
  | .multiply => "multiply"
  | .matrixMultiply => "matmul"
  | .divide => "divide"

/-- A result, which is a single entry if it has no axes. -/
def ofTensor (t : Tensor Float) : Value :=
  match t.shape, t.entries with
  | [], [x] => .entry 0 x
  | _, _ => .ofTensor t

/-- The function of an operator. -/
def function : Arithmetic → Float → Float → Float
  | .add => (· + ·)
  | .subtract => (· - ·)
  | .divide => (· / ·)
  | _ => (· * ·)

/-- Whether an operator is one between arrays. A single entry is one beside a list, unless the
list is to be repeated. -/
def applies (op : Arithmetic) (a b : Value) : Bool :=
  let isEntry : Value → Bool
    | .entry .. => true
    | _ => false
  let isList : Value → Bool
    | .list .. | .tuple .. => true
    | _ => false
  let takesLists : Bool :=
    match op with
    | .multiply | .matrixMultiply => false
    | _ => true
  a.tensor?.isSome || b.tensor?.isSome ||
    (takesLists && ((isEntry a && isList b) || (isList a && isEntry b)))

/-- The fault of an array whose operand has too few axes for a product. -/
def tooFewAxes (operand : Nat) : Fault :=
  .value ("matmul: Input operand " ++ toString operand ++ " does not have enough dimensions " ++
    "(has 0, gufunc core with signature (n?,k),(k,m?)->(n?,m?) requires 1)")

/-- The product of two arrays with one or two axes. -/
def product (t u : Tensor Float) : Except Fault Value :=
  let rows := if t.axes < 2 then 1 else t.length
  let columns := if u.axes < 2 then 1 else u.shape.getD 1 0
  let inner := t.shape.getLast?.getD 0
  if t.axes = 0 then .error (tooFewAxes 0)
  else if u.axes = 0 then .error (tooFewAxes 1)
  else if inner ≠ u.length then
    .error (.value ("matmul: Input operand 1 has a mismatch in its core dimension 0, with " ++
      "gufunc signature (n?,k),(k,m?)->(n?,m?) (size " ++ toString u.length ++
      " is different from " ++ toString inner ++ ")"))
  else
    let m := (Matrix.ofTensor rows inner t.entries).mul (Matrix.ofTensor inner columns u.entries)
    let shape := (if t.axes < 2 then [] else [rows]) ++ (if u.axes < 2 then [] else [columns])
    .ok (ofTensor ⟨shape, m.rowList.flatten⟩)

/-- The fault of an operator between numbers and an array of text. -/
def onText (op : Arithmetic) (width : Nat) (isLeft : Bool) : Fault :=
  .withoutLoop (operationName op) (if isLeft then textType width else numberType)
    (if isLeft then numberType else textType width)

/-- The entry that a value is beside the entries of another array. What is no number has no
operator with them. -/
def entryBeside (op : Arithmetic) (isLeft : Bool) (v : Value) : Except Fault Float :=
  match v with
  | .bool _ | .flag _ | .integer .. | .ratio .. | .float .. | .entry .. | .expression .. =>
    v.toEntry
  | v =>
    if isLeft then .error (.unsupported (operatorSymbol op) v (.ofFloat 0.0))
    else .error (.unsupported (operatorSymbol op) (.ofFloat 0.0) v)

/-- A value as an array beside another one. -/
def operand (op : Arithmetic) (v : Value) (isLeft : Bool) : Except Fault (Tensor Float) := do
  let n ← v.arrayNesting
  match Value.textWidth? n.leaves, op, n.shape with
  | some width, _, _ => throw (onText op width isLeft)
  | none, .matrixMultiply, [] => throw (tooFewAxes (if isLeft then 0 else 1))
  | none, op, shape => return ⟨shape, ← n.leaves.mapM (entryBeside op isLeft)⟩

/-- The fault of an operator that two values do not have. A single entry counts as a double
beside an object, and as an array beside text. -/
def notDefined (op : Arithmetic) (a b : Value) : Fault :=
  match op, a, b with
  | .matrixMultiply, a, b => .unsupported "@" a b
  | op, .entry .., .text _ s => onText op s.length false
  | op, .text _ s, .entry .. => onText op s.length true
  | op, a, b => .unsupported (operatorSymbol op) a.withoutArray b.withoutArray

/-- An operator between values one of which is an array. -/
def combine (op : Arithmetic) (a b : Value) : Except Fault Value := do
  let t ← operand op a true
  let u ← operand op b false
  match op with
  | .matrixMultiply => product t u
  | op => do
    let result ← (Tensor.combine (function op) t u).mapError Fault.ofError
    return ofTensor result

end Entrywise

/-! ### Values -/

/-- An operator between values to which no operator of the library applies. Expressions do not
take part in any other one. -/
def plainArithmetic (op : Arithmetic) (a b : Value) : Except Fault Value :=
  if a.isExpression || b.isExpression then .error (.unsupported (operatorSymbol op) a b)
  else if Entrywise.applies op a b then Entrywise.combine op a b
  else
    match op, Quantity.of? a, Quantity.of? b, Span.combine? op a b, Joined.combine? op a b with
    | .matrixMultiply, _, _, _, _ => .error (Entrywise.notDefined op a b)
    | op, some x, some y, _, _ => Quantity.combine op x y
    | _, _, _, some result, _ => result
    | _, _, _, none, some result => result
    | op, _, _, none, none => .error (Entrywise.notDefined op a b)

/-- The value of an arithmetic operator. -/
def Act.arithmetic (op : Arithmetic) (a b : Value) : Act Value :=
  match op.result? a.operand b.operand with
  | some result => Act.expression? result
  | none => Act.ofResult (plainArithmetic op a b)

/-- A value with its sign changed. -/
def Act.negated (v : Value) : Act Value := do
  match v with
  | .expression _ e => Act.expression? e.negated
  | .duration _ d => Act.ofResult (Span.ofMicroseconds (-d.microseconds))
  | .complex _ re im => return .complex 0 (-re) (-im)
  | .float _ x => return .ofFloat (-x)
  | .entry _ x => return .entry 0 (-x)
  | .flag _ | .flags .. =>
    throw (.type ("The numpy boolean negative, the `-` operator, is not supported, use the " ++
      "`~` operator or the logical_not function instead."))
  | .array _ t => return Entrywise.ofTensor (t.map (- ·))
  | v =>
    match Quantity.of? v with
    | some (.exact q isInteger) => return Quantity.ofExact (-q) isInteger
    | _ => throw (.type ("bad operand type for unary -: " ++ Text.quoted v.typeName))

end QuadraticProgram.Session
