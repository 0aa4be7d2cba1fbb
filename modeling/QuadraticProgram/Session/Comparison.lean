import QuadraticProgram.Session.Arithmetic

/-!
# Comparison of values

An expression compared with any value gives a constraint, and two variables give a pair
(`Act.compare?`). Other values are compared by what they are: numbers of all kinds exactly,
sequences item by item, arrays entry by entry, and most objects only with themselves. Items
that are the same count as equal without being compared; where they are compared, the result
has to be true or false, which a constraint is not.
-/

namespace QuadraticProgram.Session

/-- A number on the extended line, or none at all. -/
inductive Extended where
  | finite (q : Rat)
  | infinite (isNegative : Bool)
  | notANumber

namespace Extended

/-- The number that a double is. -/
def ofFloat (x : Float) : Extended :=
  match rationalOf? x with
  | some q => finite q
  | none => if x.isNaN then notANumber else infinite (x < 0.0)

/-- Whether two numbers are equal. -/
def equal : Extended → Extended → Bool
  | finite p, finite q => p == q
  | infinite a, infinite b => a == b
  | _, _ => false

/-- Whether a number is less than another. -/
def less : Extended → Extended → Bool
  | finite p, finite q => p < q
  | finite _, infinite b => !b
  | infinite a, finite _ => a
  | infinite a, infinite b => a && !b
  | _, _ => false

end Extended

/-- The ways in which values are ordered. -/
inductive Order where
  | less
  | atMost
  | greater
  | atLeast
deriving DecidableEq, BEq

namespace Order

/-- The order as it is written. -/
def symbol : Order → String
  | less => "<"
  | atMost => "<="
  | greater => ">"
  | atLeast => ">="

/-- The order that is written in some way. -/
def of? (s : String) : Option Order := [less, atMost, greater, atLeast].find? (·.symbol == s)

/-- The sense of the constraints that an order makes of expressions. -/
def sense? : Order → Option Sense
  | atMost => some .lessEqual
  | atLeast => some .greaterEqual
  | _ => none

/-- Whether an order holds, from whether one value is less than or equal to the other. -/
def holds (o : Order) (isLess isEqual isGreater : Bool) : Bool :=
  match o with
  | less => isLess
  | atMost => isLess || isEqual
  | greater => isGreater
  | atLeast => isGreater || isEqual

/-- Whether an order holds between numbers. -/
def holdsBetween (o : Order) (a b : Extended) : Bool :=
  o.holds (a.less b) (a.equal b) (b.less a)

/-- Whether an order holds between integers. -/
def holdsOfIntegers (o : Order) (a b : Int) : Bool := o.holds (a < b) (a == b) (b < a)

/-- The order of two values taken the other way round. -/
def mirrored : Order → Order
  | less => greater
  | atMost => atLeast
  | greater => less
  | atLeast => atMost

/-- The name of an order between arrays. -/
def operationName : Order → String
  | less => "less"
  | atMost => "less_equal"
  | greater => "greater"
  | atLeast => "greater_equal"

end Order

namespace Value

/-- The number that a value counts as in an order. -/
def extended? (v : Value) : Option Extended :=
  match v with
  | bool b | flag b => some (.finite (if b then 1 else 0))
  | integer _ n => some (.finite n)
  | float _ x | entry _ x => some (.ofFloat x)
  | ratio _ q => some (.finite q)
  | _ => none

/-- The parts of the number that a value equals. -/
def complexParts? (v : Value) : Option (Extended × Extended) :=
  match v with
  | complex _ re im => some (.ofFloat re, .ofFloat im)
  | v => v.extended?.map fun x => (x, .finite 0)

/-- Whether a value is an entry of an array. -/
def isArrayEntry : Value → Bool
  | entry .. | flag _ => true
  | _ => false

/-- A truth value, which is one of arrays if one of two values is. -/
def truthLike (v w : Value) (b : Bool) : Value :=
  if v.isArrayEntry || w.isArrayEntry then flag b else bool b

/-- Truth values in a shape. -/
def ofFlags (shape : List Nat) (entries : List Bool) : Value :=
  match shape, entries with
  | [], [b] => flag b
  | shape, entries => flags 0 shape entries

/-- The shape and the leaves of a value beside an array. -/
def leaves (v : Value) : Except Fault (List Nat × List Value) := do
  let n ← v.arrayNesting
  return (n.shape, n.leaves)

/-- Whether a value is an array or an entry of one. -/
def isOfArray (v : Value) : Bool := v.tensor?.isSome || v.isArrayEntry

/-- Whether two values are compared entry by entry. -/
def areEntrywise (v w : Value) : Bool :=
  let isList : Value → Bool
    | list .. | tuple .. => true
    | _ => false
  v.tensor?.isSome || w.tensor?.isSome || (v.isArrayEntry && isList w) ||
    (isList v && w.isArrayEntry)

/-- The common shape and the pairs of entries of two arrays. -/
def pairs (s : List Nat) (xs : List Value) (t : List Nat) (ys : List Value) :
    Except Fault (List Nat × List (Value × Value)) :=
  match Tensor.combined? Prod.mk s xs t ys with
  | some result => .ok result
  | none => .error (.ofError (.shapesDiffer [s, t]))

/-- The fault of an order between numbers and an array of text. -/
def orderOnText (o : Order) (width : Nat) : Fault :=
  .withoutLoop o.operationName Entrywise.numberType (Entrywise.textType width)

/-- The items of a list, a tuple or a slice. -/
def comparedItems? (v : Value) : Option (List Value) :=
  match v with
  | slice _ a b c => some [a, b, c]
  | v => v.sequence?

/-- The fields by which solutions and parameters are compared. -/
def fields? (v : Value) : Option (List Value) :=
  match v with
  | solution _ keys values best status => some [frozen 0 keys values, best, status]
  | parameters _ enableOutput timeLimit => some [enableOutput, timeLimit]
  | _ => none

/-- The keys and the values of a dictionary. -/
def entries? (v : Value) : Option (List Value × List Value) :=
  match v with
  | dict _ keys values | frozen _ keys values => some (keys, values)
  | _ => none

end Value

/-! ### Lookup -/

/-- What tells keys from each other before they are compared. -/
inductive KeyCode where
  | number (q : Rat)
  | infinite (isNegative : Bool)
  | text (s : String)
  | member (m : Member)
  | nothing
  | object (tag : Nat)
  | tuple (parts : List KeyCode)
deriving BEq

namespace Value

/-- The modulus of the numbers that stand for integers among keys. -/
def keyModulus : Nat := Nat.pow 2 61 - 1

/-- An integer reduced to the numbers that stand for keys. -/
def keyNumber (n : Int) : Int :=
  let h := n.tmod keyModulus
  if h = -1 then -2 else h

/-- What stands for a number among keys. That of no number is its own. -/
def extendedCode (tag : Nat) : Extended → KeyCode
  | .finite q => .number (if q.den = 1 then (keyNumber q.num : Rat) else q)
  | .infinite isNegative => .infinite isNegative
  | .notANumber => .object tag

mutual

/-- What stands for a value among keys, unless the value can be changed. -/
def keyCode (v : Value) : Except Fault KeyCode :=
  match v with
  | nothing => .ok .nothing
  | text _ s => .ok (.text s)
  | member m => .ok (.member m)
  | tuple _ items => (keyCodes items).map .tuple
  | frozen _ keys values => do
    return .tuple [.tuple (← keyCodes keys), .tuple (← keyCodes values)]
  | duration _ d => .ok (.tuple [.number d.microseconds])
  | expression _ (.scalar (.var x)) => .ok (.number (keyNumber x.id : Rat))
  | solution _ keys values best status => do
    return .tuple [.tuple (← keyCodes keys), .tuple (← keyCodes values), ← keyCode best,
      ← keyCode status]
  | pair t .. | grid t .. | constraint t .. | objective t .. | problem t | exception t ..
  | method t => .ok (.object t)
  | complex t re im =>
    if im == 0.0 then .ok (extendedCode t (.ofFloat re))
    else .ok (.tuple [extendedCode t (.ofFloat re), extendedCode t (.ofFloat im)])
  | v =>
    match v.extended? with
    | some x => .ok (extendedCode v.tag x)
    | none => .error (.unhashable v)

/-- What stands for values among keys. -/
def keyCodes : List Value → Except Fault (List KeyCode)
  | [] => .ok []
  | v :: vs => do
    let c ← keyCode v
    return c :: (← keyCodes vs)

end

end Value

namespace Act

/-! ### Constraints -/

/-- A constraint of the library between two values. A side that is an expression is kept as
it is. -/
def ofConstraint (lhs rhs : Value) (c : Constraint Float) : Act Value := do
  let side (v : Value) (e : Expression Float) : Act Value :=
    if v.isExpression then pure v else expression e
  let l ← side lhs c.lhs
  let r ← side rhs c.rhs
  return .constraint (← fresh) c.form l r c.sense

/-- The comparison of two values one of which is an expression. -/
def compare? (s : Sense) (a b : Value) : Act (Option Value) := do
  match s.compare? a.operand b.operand with
  | none => return none
  | some result =>
    match ← ofExcept result with
    | .pair _ => return some (.pair (← fresh) a b)
    | .constraint c =>
      return some (← if a.isExpression then ofConstraint a b c else ofConstraint b a c)

/-! ### Equality -/

mutual

/-- What the comparison of two values for equality gives, parts inside each other up to a
depth. -/
def equalTo : Nat → Value → Value → Act Value
  | 0, _, _ => throw .tooDeep
  | depth + 1, v, w => do
    match ← compare? .equal v w with
    | some result => return result
    | none =>
      if Value.areEntrywise v w then
        let (s, xs) ← ofResult v.leaves
        let (t, ys) ← ofResult w.leaves
        let (shape, entries) ← ofResult (Value.pairs s xs t ys)
        return Value.ofFlags shape (← entries.mapM fun (x, y) => do
          ofResult (← equalTo depth x.withoutArray y.withoutArray).truth)
      else
        match v, w with
        | .text _ s, .text _ t => return .bool (s == t)
        | .member m, .member n => return .bool (m == n)
        | .duration _ d, .duration _ e => return .bool (d == e)
        | .nothing, .nothing => return .bool true
        | .list _ xs, .list _ ys =>
          if xs.length = ys.length then return .bool (← itemsEqual depth xs ys)
          else return .bool false
        | .tuple _ xs, .tuple _ ys => return .bool (← itemsEqual depth xs ys)
        | .slice _ a b c, .slice _ d e f =>
          return .bool (← itemsEqual depth [a, b, c] [d, e, f])
        | .solution .., .solution .. | .parameters .., .parameters .. =>
          return .bool (← itemsEqual depth (v.fields?.getD []) (w.fields?.getD []))
        | v, w =>
          match v.entries?, w.entries? with
          | some (ks, vs), some (ls, ws) =>
            if ks.length = ls.length then
              return .bool (← entriesEqual depth (ks.zip vs) ls ws)
            else return .bool false
          | _, _ =>
            match v.complexParts?, w.complexParts? with
            | some (a, b), some (c, d) => return v.truthLike w (a.equal c && b.equal d)
            | _, _ => return .bool (v.same w)

/-- Whether two items are the same or equal. -/
def itemEqual : Nat → Value → Value → Act Bool
  | 0, _, _ => throw .tooDeep
  | depth + 1, v, w => do
    if v.same w then return true
    else ofResult (← equalTo depth v w).truth

/-- Whether two sequences have equal items and one length. -/
def itemsEqual : Nat → List Value → List Value → Act Bool
  | 0, _, _ => throw .tooDeep
  | _, [], [] => return true
  | depth + 1, v :: vs, w :: ws => do
    if ← itemEqual depth v w then itemsEqual depth vs ws else return false
  | _, _, _ => return false

/-- The value of a key. -/
def lookupTo : Nat → KeyCode → Value → List Value → List Value → Act (Option Value)
  | 0, _, _, _, _ => throw .tooDeep
  | depth + 1, code, key, k :: ks, v :: vs => do
    if (← ofResult k.keyCode) == code then
      if ← itemEqual depth k key then return some v
    lookupTo depth code key ks vs
  | _, _, _, _, _ => return none

/-- Whether some entries are among the keys and values of another dictionary. -/
def entriesEqual : Nat → List (Value × Value) → List Value → List Value → Act Bool
  | 0, _, _, _ => throw .tooDeep
  | _, [], _, _ => return true
  | depth + 1, (k, v) :: rest, keys, values => do
    match ← lookupTo depth (← ofResult k.keyCode) k keys values with
    | none => return false
    | some w =>
      if ← itemEqual depth v w then entriesEqual depth rest keys values else return false

end

/-- The depth down to which values and their items are compared. -/
def comparedDepth : Nat := 100000

/-- What the comparison of two values for equality gives. -/
def equal (v w : Value) : Act Value := equalTo comparedDepth v w

/-- Whether two values are the same or equal. -/
def isEqual (v w : Value) : Act Bool := itemEqual comparedDepth v w

/-- Whether two values compare as equal, the same or not. -/
def comparesEqual (v w : Value) : Act Bool := do ofResult (← equal v w).truth

/-- What the comparison of two values for being different gives. -/
def different (v w : Value) : Act Value := do
  match v.decision?, w.decision? with
  | some x, some y => return .bool (!(VariablePair.mk x y).isSame)
  | _, _ =>
    if v.isExpression || w.isExpression then
      throw (.type "!= constraints are not supported")
    else
      match ← equal v w with
      | .flags _ shape entries => return .flags 0 shape (entries.map (!·))
      | .flag b => return .flag (!b)
      | result => return .bool (!(← ofResult result.truth))

/-! ### Order -/

/-- The first items that differ, or the rest of both lists. -/
def firstDifference : List Value → List Value → Act (List Value × List Value)
  | v :: vs, w :: ws => do
    if ← isEqual v w then firstDifference vs ws else return (v :: vs, w :: ws)
  | vs, ws => return (vs, ws)

/-- Whether both values are lists, both tuples or both slices. -/
def areAlike : Value → Value → Bool
  | .list .., .list .. | .tuple .., .tuple .. | .slice .., .slice .. => true
  | _, _ => false

/-- What the comparison of two values in an order gives, parts inside each other up to a
depth. An array has its say first, wherever it stands. -/
def orderedTo : Nat → Order → Value → Value → Act Value
  | 0, _, _, _ => throw .tooDeep
  | depth + 1, o, v, w => do
    if v.isExpression || w.isExpression then
      match o.sense? with
      | some s => return (← compare? s v w).getD .nothing
      | none => throw (.unordered o.symbol v w)
    else if w.isOfArray && !v.isOfArray then orderedTo depth o.mirrored w v
    else if Value.areEntrywise v w then
      let (s, xs) ← ofResult v.leaves
      let (t, ys) ← ofResult w.leaves
      match Value.textWidth? ys with
      | some width => throw (Value.orderOnText o width)
      | none =>
        let (shape, entries) ← ofResult (Value.pairs s xs t ys)
        return Value.ofFlags shape (← entries.mapM fun (x, y) => do
          ofResult (← orderedTo depth o x.withoutArray y.withoutArray).truth)
    else
      match v.extended?, w.extended? with
      | some x, some y => return v.truthLike w (o.holdsBetween x y)
      | _, _ =>
        match v, w with
        | .text _ s, .text _ t => return .bool (o.holds (s < t) (s == t) (t < s))
        | .entry .., .text _ s => throw (Value.orderOnText o s.length)
        | .duration _ d, .duration _ e =>
          return .bool (o.holdsOfIntegers d.microseconds e.microseconds)
        | v, w =>
          match areAlike v w, v.comparedItems?, w.comparedItems? with
          | true, some xs, some ys =>
            match ← firstDifference xs ys with
            | (x :: _, y :: _) => orderedTo depth o x y
            | (xs, ys) => return .bool (o.holdsOfIntegers xs.length ys.length)
          | _, _, _ => throw (.unordered o.symbol v.withoutArray w.withoutArray)

/-- What the comparison of two values in an order gives. -/
def ordered (o : Order) (v w : Value) : Act Value := orderedTo depth o v w

/-- Whether an order holds between two values. -/
def isOrdered (o : Order) (v w : Value) : Act Bool := do ofResult (← ordered o v w).truth

/-! ### Containers -/

/-- The value of a key in a dictionary. -/
def lookup? (key : Value) (keys values : List Value) : Act (Option Value) := do
  lookupTo comparedDepth (← ofResult key.keyCode) key keys values

/-- A dictionary with one more entry; the value of an equal key is replaced. -/
def insert (keys values : List Value) (key value : Value) : Act (List Value × List Value) := do
  let positions := (List.range keys.length).map Value.ofNat
  match ← lookup? key keys positions with
  | some (.integer _ k) => return (keys, values.set k.toNat value)
  | _ => return (keys ++ [key], values ++ [value])

/-- Whether one of some items equals a value. -/
def isAmong (v : Value) : List Value → Act Bool
  | [] => return false
  | w :: ws => do if ← isEqual w v then return true else isAmong v ws

/-- Whether one of the entries of a vector equals a value. The entries are made one by one. -/
def isAmongEntries (v : Value) : List (Scalar Float) → Act Bool
  | [] => return false
  | e :: es => do
    if ← isEqual (← Value.entryValue e) v then return true else isAmongEntries v es

/-- Whether a value contains another one. -/
def contains (container v : Value) : Act Bool := do
  match container with
  | .dict _ keys values | .frozen _ keys values => return (← lookup? v keys values).isSome
  | .list _ items | .tuple _ items => isAmong v items
  | .text _ s =>
    match v with
    | .text _ t => return (s.splitOn t).length != 1 || t.isEmpty
    | v =>
      throw (.type ("'in <string>' requires string as left operand, not " ++ v.typeName))
  | .array .. | .flags .. =>
    match ← equal container v with
    | .flags _ _ entries => return entries.any id
    | .flag b => return b
    | _ => return false
  | .expression _ (.vector u) => isAmongEntries v u.toList
  | .grid .. => throw Value.gridIteration
  | container => throw (.notContainer container)

end Act

end QuadraticProgram.Session
