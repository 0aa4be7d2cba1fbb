import QuadraticProgram.Session.ErrorObject
import QuadraticProgram.Session.ExpressionMethod

/-!
# Copies of values

A copy is equal to a value and shares no object with it that could be changed. Every tag of the
value is moved beyond those in use, so that what is one object inside the value is one object
inside its copy. Plain data that cannot be changed is not copied, and neither is a tuple of
such data. An error is made again from what it says, which not every kind of error admits.
-/

namespace QuadraticProgram.Session.Copy

/-- Whether a value is its own copy. -/
def isAtomic : Value → Bool
  | .nothing | .bool _ | .flag _ | .member _ | .integer .. | .float .. | .ratio ..
  | .complex .. | .text .. => true
  | .tuple _ items => areAtomic items
  | _ => false
where
  /-- Whether values are their own copies. -/
  areAtomic : List Value → Bool
  | [] => true
  | v :: vs => isAtomic v && areAtomic vs

/-- A variable with its tag moved up. -/
def movedVariable (n : Nat) (v : Variable) : Variable := { v with tag := v.tag + n }

/-- A constraint of the library with all tags moved up. -/
def taggedConstraint (n : Nat) (c : Tagged (Constraint Float)) : Tagged (Constraint Float) :=
  let side (e : Expression Float) : Expression Float := e.rename (movedVariable n)
  ⟨c.tag + n, { c.value with lhs := side c.value.lhs, rhs := side c.value.rhs }⟩

/-- A problem of the library with all tags moved up. -/
def problem (n : Nat) (p : Problem Float) : Problem Float :=
  { p with
    vars := p.vars.map (movedVariable n)
    constraints := p.constraints.map (taggedConstraint n)
    objective? := p.objective?.map fun o =>
      { o with expression := o.expression.rename (movedVariable n) } }

/-- The numbers that an expression keeps, which are not copied. -/
def keptNumbers : List String := ["value", "lower_bound", "upper_bound", "c"]

/-- Makes an expression keep its numbers. -/
def keepNumbers (tag : Nat) (e : Expression Float) : Act Unit :=
  keptNumbers.forM fun name =>
    match ExpressionMethod.kept? e name with
    | some (.float t x) => discard (Act.stored tag name (.float t x))
    | _ => pure ()

/-- An error made again from the copies of its arguments. -/
def remade (kind : String) (args : List Value) : Act (List Value) := do
  match ErrorObject.parameters? kind with
  | none => return args
  | some ps =>
    let bound ← Act.ofResult ((Signature.method (kind ++ ".__init__") ps).bind args [])
    match ← ErrorObject.make kind bound with
    | .exception _ _ args _ _ => return args
    | _ => return args

mutual

/-- A copy with all tags moved up by `n`, parts inside each other up to a depth. -/
def copyTo (n : Nat) : Nat → Value → Act Value
  | 0, _ => throw .tooDeep
  | depth + 1, v =>
    if isAtomic v then pure v
    else
      match v with
      | .list t items => do return .list (t + n) (← items.mapM (copyTo n depth))
      | .tuple t items => do return .tuple (t + n) (← items.mapM (copyTo n depth))
      | .dict t keys values => do
        return .dict (t + n) (← keys.mapM (copyTo n depth)) (← values.mapM (copyTo n depth))
      | .frozen t keys values => do
        return .frozen (t + n) (← keys.mapM (copyTo n depth)) (← values.mapM (copyTo n depth))
      | .slice t a b c => do
        return .slice (t + n) (← copyTo n depth a) (← copyTo n depth b) (← copyTo n depth c)
      | .expression t e => do
        keepNumbers t e
        copyAttributes n depth t
        e.vars.forM fun v => copyAttributes n depth v.tag
        return .expression (t + n) (e.rename (movedVariable n))
      | .grid t elements rows columns => do
        copyAttributes n depth t
        return .grid (t + n) (← elements.mapM (copyTo n depth)) (← copyTo n depth rows)
          (← copyTo n depth columns)
      | .pair t first second => do
        return .pair (t + n) (← copyTo n depth first) (← copyTo n depth second)
      | .constraint t form lhs rhs sense => do
        return .constraint (t + n) form (← copyTo n depth lhs) (← copyTo n depth rhs) sense
      | .objective t e sense => do return .objective (t + n) (← copyTo n depth e) sense
      | .problem t => do
        copyRecord n depth t
        return .problem (t + n)
      | .solution t keys values best status => do
        copyAttributes n depth t
        return .solution (t + n) keys values (← copyTo n depth best) (← copyTo n depth status)
      | .parameters t flag limit => do
        return .parameters (t + n) (← copyTo n depth flag) (← copyTo n depth limit)
      | .exception t kind args names values => do
        let args ← remade kind (← args.mapM (copyTo n depth))
        return .exception (t + n) kind args names (← values.mapM (copyTo n depth))
      | v => return v.retagged (v.tag + n)

/-- Copies the attributes of an object, unless they are copied already. -/
def copyAttributes (n : Nat) : Nat → Nat → Act Unit
  | 0, _ => throw .tooDeep
  | depth + 1, tag => do
    let own := (← get).attributes.filter fun (key, _) => key.1 == tag
    own.reverse.forM fun ((_, name), v) => do
      if (← Act.attribute? (tag + n) name).isNone then
        let copied ← copyTo n depth v
        modify fun s => { s with attributes := ((tag + n, name), copied) :: s.attributes }

/-- Copies the record of a problem, unless it is copied already. -/
def copyRecord (n : Nat) : Nat → Nat → Act Unit
  | 0, _ => throw .tooDeep
  | depth + 1, tag => do
    let r ← Act.record tag
    if ((← get).problems.lookup (tag + n)).isNone then
      Act.setRecord (tag + n) { r with problem := problem n r.problem }
      r.problem.vars.forM fun v => copyAttributes n depth v.tag
      let name ← copyTo n depth r.name
      let constraints ← r.constraints.mapM (copyTo n depth)
      let objective ← copyTo n depth r.objective
      Act.setRecord (tag + n) ⟨problem n r.problem, name, constraints, objective⟩

end

end Copy

/-- An equal value that shares no object with a value which could be changed. -/
def Act.copied (v : Value) : Act Value := do
  let s ← get
  let n := s.nextTag
  set { s with nextTag := n + n }
  Copy.copyTo n depth v

end QuadraticProgram.Session
