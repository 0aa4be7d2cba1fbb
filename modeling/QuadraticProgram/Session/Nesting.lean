import QuadraticProgram.Session.Coercion

/-!
# Values as arrays

Sequences inside each other are read as an array: their numbers of items, as far as these agree
on each level, are its sizes, and what lies deeper are its entries (`Value.toArray`). A single
entry of an array is read in the same way wherever one is stored (`Value.toEntry`).
-/

namespace QuadraticProgram.Session

/-- What is known of the sizes below some level. -/
inductive Room where
  /-- The number of levels that may still come. -/
  | free (levels : Nat)
  /-- The sizes that the values before have. -/
  | fixed (shape : List Nat)

namespace Room

/-- The common beginning of two lists. -/
def commonBeginning : List Nat → List Nat → List Nat
  | a :: as, b :: bs => if a = b then a :: commonBeginning as bs else []
  | _, _ => []

/-- Whether a sequence may stand here, of whatever size. -/
def isOpen : Room → Bool
  | free levels => levels != 0
  | fixed shape => !shape.isEmpty

/-- The room for the items of a sequence of some size, if the sequence fits. -/
def inside? : Room → Nat → Option Room
  | free (levels + 1), _ => some (free levels)
  | fixed (m :: shape), n => if m = n then some (fixed shape) else none
  | _, _ => none

/-- As many sizes as fit. -/
def fitting : Room → List Nat → List Nat
  | free levels, shape => shape.take levels
  | fixed s, shape => commonBeginning shape s

/-- Whether sizes fit as they are. -/
def fits : Room → List Nat → Bool
  | free levels, shape => shape.length ≤ levels
  | fixed s, shape => shape == s

end Room

/-- Sequences inside each other: the sizes on which those of one level agree, whether some
disagree, and the values that are no sequences. -/
structure Nesting where
  shape : List Nat
  isRagged : Bool
  leaves : List Value

namespace Nesting

/-- The number of axes that an array may have. -/
def mostAxes : Nat := 64

/-- Values in a shape. -/
def ofShape (room : Room) (shape : List Nat) (leaves : List Value) : Nesting :=
  ⟨room.fitting shape, !room.fits shape, leaves⟩

/-- A value that is no sequence. -/
def leaf (room : Room) (v : Value) : Nesting := ofShape room [] [v]

/-- A sequence that does not fit. -/
def unfit (v : Value) : Nesting := ⟨[], true, [v]⟩

/-- The items of a sequence, and those after the first of them. -/
def beside (n rest : Nesting) : Nesting :=
  ⟨rest.shape, n.isRagged || rest.isRagged, n.leaves ++ rest.leaves⟩

/-- A sequence of some size, from its items. -/
def sequence (size : Nat) (items : Nesting) : Nesting := { items with shape := size :: items.shape }

end Nesting

namespace Value

/-- Whether a value is a sequence where a number is meant. -/
def isNested (v : Value) : Bool :=
  match v with
  | list .. | tuple .. | frozen .. | array .. | flags .. | grid .. => true
  | expression _ (.vector _) => true
  | _ => false

/-- The entries of a vector as values. -/
def entries (u : Vec Float) : List Value :=
  u.toList.map fun e =>
    match e with
    | .var v => .ofVariable v
    | e => .expression 0 (.scalar e)

mutual

/-- The nesting of a value where there is some room. A sequence that does not fit is not
looked into. -/
def nesting (room : Room) : Value → Except Fault Nesting
  | list t items => itemsNesting room (list t items) items
  | tuple t items => itemsNesting room (tuple t items) items
  | frozen t keys values => itemsNesting room (frozen t keys values) keys
  | grid t elements rows columns =>
    match (grid t elements rows columns).length with
    | .ok _ =>
      if room.isOpen then .error gridIteration
      else .ok (.unfit (grid t elements rows columns))
    | .error _ => .ok (.leaf room (grid t elements rows columns))
  | expression _ (.vector u) => .ok (.ofShape room [u.length] (entries u))
  | v =>
    match v.tensor? with
    | some t => .ok (.ofShape room t.shape (t.entries.map (entry 0)))
    | none => .ok (.leaf room v)

/-- The nesting of a sequence with some items. -/
def itemsNesting (room : Room) (v : Value) : List Value → Except Fault Nesting
  | [] => .ok (if (room.inside? 0).isSome then .sequence 0 ⟨[], false, []⟩ else .unfit v)
  | item :: items =>
    match room.inside? (items.length + 1) with
    | none => .ok (.unfit v)
    | some inner => do
      let n ← nesting inner item
      return .sequence (items.length + 1) (n.beside (← laterNesting n.shape items))

/-- The nesting of items after others, on whose sizes they have to agree. -/
def laterNesting (shape : List Nat) : List Value → Except Fault Nesting
  | [] => .ok ⟨shape, false, []⟩
  | item :: items => do
    let n ← nesting (.fixed shape) item
    return n.beside (← laterNesting n.shape items)

end

/-- The fault of sequences that cannot be read as an array. -/
def notAnArray (reason : String) : Fault :=
  .value ("setting an array element with a sequence. The requested array " ++ reason)

/-- The shape and the leaves of the array that a value is read as. -/
def arrayNesting (v : Value) : Except Fault Nesting := do
  let n ← nesting (.free Nesting.mostAxes) v
  if !n.isRagged then return n
  else if n.shape.length = Nesting.mostAxes then
    throw (notAnArray ("would exceed the maximum number of dimension of " ++
      toString Nesting.mostAxes ++ "."))
  else
    throw (notAnArray ("has an inhomogeneous shape after " ++ toString n.shape.length ++
      " dimensions. The detected shape was " ++ Text.shape n.shape ++ " + inhomogeneous part."))

/-- The entry of an array that a value is read as. -/
def toEntry (v : Value) : Except Fault Float :=
  match v with
  | nothing => .ok (0.0 / 0.0)
  | v =>
    match v.toFloat with
    | .ok x => .ok x
    | .error f => .error (if v.isNested then .storedSequence else f)

/-- The array that a value is read as. -/
def toArray (v : Value) : Except Fault (Tensor Float) := do
  let n ← v.arrayNesting
  return ⟨n.shape, ← n.leaves.mapM toEntry⟩

end Value

end QuadraticProgram.Session
