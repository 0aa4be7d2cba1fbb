import QuadraticProgram.Note
import QuadraticProgram.Problem
import QuadraticProgram.Session.Fault

/-!
# The state of a session

A session keeps named results, the problems that were made with what was put into them, the
notes that were left, and the stored attributes of objects, so that an attribute is the same
value each time. A step that fails keeps the changes that it made before (`Act`).
-/

namespace QuadraticProgram.Session

/-- A problem. Its name, constraints and objective are kept as the values that were put in; the
problem of the library holds what of them is well formed. -/
structure Record where
  problem : Problem Float
  name : Value
  constraints : List Value
  objective : Value

/-- What a session keeps. -/
structure State where
  registers : List (String × Value)
  problems : List (Nat × Record)
  attributes : List ((Nat × String) × Value)
  nextTag : Nat
  notes : List Note

/-- The first tag that is free for new values; those below belong to shared constants. -/
def firstTag : Nat := 64

/-- The state at the beginning of a session. -/
def State.initial : State := ⟨[], [], [], firstTag, []⟩

/-- What happens in a session: a result or a fault, and changes that remain in either
case. -/
abbrev Act := ExceptT Fault (StateM State)

namespace Value

/-- A tag that was not used before. -/
def nextTag : StateM Nat Nat := modifyGet fun n => (n, n + 1)

mutual

/-- A value with tags for itself and its parts, as far as they have none. -/
def tagged : Value → StateM Nat Value
  | list 0 items => do return .list (← nextTag) (← taggedAll items)
  | tuple 0 items => do return .tuple (← nextTag) (← taggedAll items)
  | dict 0 ks vs => do return .dict (← nextTag) (← taggedAll ks) (← taggedAll vs)
  | frozen 0 ks vs => do return .frozen (← nextTag) (← taggedAll ks) (← taggedAll vs)
  | slice 0 a b c => do
    return .slice (← nextTag) (← tagged a) (← tagged b) (← tagged c)
  | v => do
    if v.tag == 0 then return v.retagged (← nextTag) else return v

/-- Values with tags for themselves and their parts. -/
def taggedAll : List Value → StateM Nat (List Value)
  | [] => return []
  | v :: vs => do return (← tagged v) :: (← taggedAll vs)

end

end Value

namespace Act

/-- A result that the library may refuse. -/
def ofExcept {β : Type} : Except Error β → Act β
  | .ok b => pure b
  | .error e => throw (.ofError e)

/-- A result that may be a fault. -/
def ofResult {β : Type} : Except Fault β → Act β
  | .ok b => pure b
  | .error e => throw e

/-- The first of some tags that were not used before. -/
def freshMany (n : Nat) : Act Nat := do
  let s ← get
  set { s with nextTag := s.nextTag + n }
  return s.nextTag

/-- A tag that was not used before. -/
def fresh : Act Nat := freshMany 1

/-- A value that is told from equal ones from now on. -/
def keep (v : Value) : Act Value := do
  let s ← get
  let (w, next) := (v.tagged).run s.nextTag
  set { s with nextTag := next }
  return w

/-- An expression of its own. A variable is the one that it was. -/
def expression (e : Expression Float) : Act Value := do
  match e with
  | .scalar (.var v) => return .ofVariable v
  | e => return .expression (← fresh) e

/-- An expression of its own, unless the library refuses it. -/
def expression? (e : Except Error (Expression Float)) : Act Value := do
  expression (← ofExcept e)

/-! ### Attributes -/

/-- The stored attribute of an object. -/
def attribute? (tag : Nat) (name : String) : Act (Option Value) := do
  return (← get).attributes.lookup (tag, name)

/-- Stores an attribute of an object. -/
def setAttribute (tag : Nat) (name : String) (v : Value) : Act Unit := do
  let v ← keep v
  modify fun s => { s with attributes := ((tag, name), v) :: s.attributes }

/-- The attribute of an object, which is stored when it is first asked for. -/
def stored (tag : Nat) (name : String) (otherwise : Value) : Act Value := do
  match ← attribute? tag name with
  | some v => return v
  | none =>
    let v ← keep otherwise
    if tag != 0 then modify fun s => { s with attributes := ((tag, name), v) :: s.attributes }
    return v

/-! ### Problems -/

/-- The record of a problem. -/
def record (tag : Nat) : Act Record := do
  match (← get).problems.lookup tag with
  | some r => return r
  | none => throw (.plain "LookupError" "no such problem")

/-- Replaces the record of a problem, or adds it. -/
def setRecord (tag : Nat) (r : Record) : Act Unit :=
  modify fun s =>
    { s with problems := (tag, r) :: s.problems.filter fun entry => entry.1 != tag }

/-- Leaves notes. -/
def note (notes : List Note) : Act Unit :=
  modify fun s => { s with notes := s.notes ++ notes }

/-- Gives a result, and a fault as a result too. -/
def attempt {β : Type} (act : Act β) : Act (Except Fault β) :=
  tryCatch (act.map .ok) fun f => pure (.error f)

end Act

/-- The depth down to which values inside each other are followed. -/
def depth : Nat := 900

end QuadraticProgram.Session
