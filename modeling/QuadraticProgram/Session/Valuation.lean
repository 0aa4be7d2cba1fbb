import QuadraticProgram.Session.Indexing

/-!
# Valuations

Values of variables as a session gives them: anything that contains identifiers and has
something under each, such as a dictionary. Only the values of the variables of an expression
are read, in their order, up to the first variable without one.
-/

namespace QuadraticProgram.Session.Valuation

/-- What a value has under an identifier that it contains. -/
def given? (mapping : Value) (id : Nat) : Act (Option Value) := do
  if ← Act.contains mapping (.ofNat id) then return some (← Indexing.item mapping (.ofNat id))
  else return none

/-- What a value has under an identifier, which is missing in some place otherwise. -/
def given (place : Place) (mapping : Value) (id : Nat) : Act Value := do
  match ← given? mapping id with
  | some v => return v
  | none => throw (.ofError (.variableNotFound id place))

/-- The value of a variable, read in some way. -/
def valueOf (read : Value → Except Fault Float) (mapping : Value) (v : Variable) :
    Act (Nat × Float) := do
  return (v.id, ← Act.ofResult (read (← given .values mapping v.id)))

/-- How the values of the variables of an expression are read. -/
def reader : Expression Float → Value → Except Fault Float
  | .scalar (.var _) => Value.toFloat
  | _ => Value.toEntry

/-- The value of an expression as a value of the session. -/
def ofEvaluated : Evaluated Float → Value
  | .scalar a => .ofFloat a
  | .vector xs => .ofEntries xs
  | .matrix m => .ofMatrix m

/-- The value of an expression. -/
def evaluate (e : Expression Float) (mapping : Value) : Act Value := do
  let known ← e.vars.mapM (valueOf (reader e) mapping)
  return ofEvaluated (← Act.ofExcept (e.evaluate (List.lookup · known)))

/-- The values of some items, all of which have to be variables. They are counted first. -/
def valuesOf (x mapping : Value) : Act Value := do
  discard (Act.ofResult x.length)
  let values ← (← x.items).mapM fun v => do
    let v ← Act.ofResult v.requireVariable
    valueOf Value.toEntry mapping v
  return .ofEntries (values.map Prod.snd)

end QuadraticProgram.Session.Valuation
