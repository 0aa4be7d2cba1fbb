import QuadraticProgram.Problem.Check
import QuadraticProgram.Session.Construct

/-!
# Checks of values

Whether a value is linear (`Act.isLinear`) and whether it is well formed (`Act.check`), for any
value: a constraint asks its sides, whatever they are, an objective its expression, and a
problem its objective and its constraints. What is well formed throughout is left to the
library.
-/

namespace QuadraticProgram.Session

/-! ### Well-formed values -/

/-- Whether a variable has a text as its name and a known domain. -/
def isPlainVariable (v : Variable) : Bool := !hasOddName v && v.domain != .other

/-- Whether all variables of an expression have texts as names and known domains. -/
def isPlainExpression (e : Expression Float) : Bool := e.vars.all isPlainVariable

/-- The constraint that a value is, if its sides are expressions over plain variables. -/
def plainConstraint? (v : Value) : Option (Constraint Float) :=
  match v.constraint? with
  | some c => if isPlainExpression c.lhs && isPlainExpression c.rhs then some c else none
  | none => none

/-- Whether everything in a problem is plain. -/
def Record.isPlain (r : Record) : Bool :=
  r.constraints.all (fun c => (plainConstraint? c).isSome) && r.problem.vars.all isPlainVariable &&
    r.problem.objective?.all fun o => isPlainExpression (.scalar o.expression)

namespace Act

/-- The domain of a variable as a value. -/
def domainOf (v : Variable) : Act Value := do
  match v.domain, ← attribute? v.tag "var_type" with
  | .other, some domain => return domain
  | d, _ => return .member (.domain d)

/-! ### Variables -/

/-- Refuses a variable with a defect. A domain that is none is compared, too. -/
def checkVariable (v : Variable) : Act Unit := do
  match v.defect? with
  | some defect =>
    requirePrintable v
    throw (.ofError (.malformed defect))
  | none =>
    if v.domain == .other then
      discard (comparesEqual (← domainOf v) (.member (.domain .binary)))

/-- Refuses an expression that is malformed. -/
def checkExpression (e : Expression Float) : Act Unit := do
  match e with
  | .scalar (.var v) => checkVariable v
  | e => ofExcept e.check

/-- The variables of a value that is an expression. -/
def variablesOf (v : Value) : Act (List Variable) := do
  match v.expression? with
  | some e => return e.vars
  | none => throw (.lacks v "variable_vector")

/-- Refuses a variable that a problem lacks or that differs from its own. -/
def requireOwn (p : Problem Float) (v : Variable) : Act Unit := do
  let own ← ofExcept (p.own? v.id)
  if own.tag == v.tag then return ()
  let same ←
    if own.sameAs { v with domain := own.domain } then
      comparesEqual (.member (.domain own.domain)) (← domainOf v)
    else pure false
  if !same then throw (.ofError (p.lacksVariable v.id))

/-- Refuses a value over variables that are not those of a problem. -/
def requireOwnAll (p : Problem Float) (v : Value) : Act Unit := do
  (← variablesOf v).forM (requireOwn p)

/-! ### Shapes -/

/-- The numbers of rows and of columns of a value that is an expression. -/
def dimensionsOf (v : Value) : Act (List Nat) := do
  match v.expression? with
  | some e => return e.dimensions
  | none => throw (.lacks v "dimensions")

/-- The vector that a value is, where its orientation is asked for. -/
def orientedVector (v : Value) : Act (Vec Float) := do
  match v with
  | .expression _ (.vector u) => return u
  | v => throw (.lacks v "orientation")

/-- Refuses sides of different lengths or orientations. -/
def checkShapes (lhs rhs : Value) : Act Unit := do
  let n ← ofResult lhs.length
  let m ← ofResult rhs.length
  if n ≠ m then
    let ls ← dimensionsOf lhs
    throw (.ofError (.dimensionMismatch .comparison ls (← dimensionsOf rhs)))
  let u ← orientedVector lhs
  let v ← orientedVector rhs
  if u.orientation ≠ v.orientation then
    throw (.ofError (.orientationMismatch .comparison u.kind u.orientation v.kind v.orientation))

/-! ### Linearity -/

mutual

/-- Whether a value is linear, parts inside each other up to a depth. -/
def isLinearTo : Nat → Value → Act Bool
  | 0, _ => throw .tooDeep
  | depth + 1, v =>
    match v with
    | .expression _ e => pure e.isLinear
    | .constraint _ _ lhs rhs _ => do
      if ← isLinearTo depth lhs then isLinearTo depth rhs else return false
    | .objective _ e _ => isLinearTo depth e
    | .problem tag => do
      let r ← record tag
      match r.objective with
      | .nothing => areLinearTo depth r.constraints
      | o => if ← isLinearTo depth o then areLinearTo depth r.constraints else return false
    | v => throw (.lacks v "is_linear")

/-- Whether all of some values are linear; those after the first that is not are not asked. -/
def areLinearTo : Nat → List Value → Act Bool
  | 0, _ => throw .tooDeep
  | _, [] => return true
  | depth + 1, v :: vs => do
    if ← isLinearTo depth v then areLinearTo depth vs else return false

end

/-- Whether a value is linear. -/
def isLinear (v : Value) : Act Bool := isLinearTo comparedDepth v

/-! ### Checks -/

/-- The fault of a problem in which another fault was found, if that is one that checks
collect. -/
def notWellDefined (name : Value) (f : Fault) : Act Fault := do
  if f.particulars?.isNone then return f
  else
    return ⟨"NotWellDefinedError", Wording.notWellDefined (← shown name) f.message,
      some [("problem_name", name), ("source", .ofText f.kind)]⟩

/-- A result of the library about a problem with some name. -/
def ofExceptNamed {β : Type} (name : Value) (e : Except Error β) : Act β :=
  tryCatch (ofExcept e) fun f => throw (f.named name)

mutual

/-- Refuses a value that is malformed, parts inside each other up to a depth. -/
def checkTo : Nat → Value → Act Unit
  | 0, _ => throw .tooDeep
  | depth + 1, v =>
    match v with
    | .expression _ e => checkExpression e
    | .constraint _ .scalar lhs rhs _ => do
      checkTo depth lhs
      checkTo depth rhs
    | .constraint _ .vector lhs rhs _ => do
      checkShapes lhs rhs
      checkTo depth lhs
      checkTo depth rhs
    | .objective _ e _ => checkTo depth e
    | .problem tag => do
      let r ← record tag
      let p ← problemOf r
      if r.isPlain then ofExceptNamed r.name p.check
      else
        discard (ofExceptNamed r.name p.objective)
        match ← attempt (checkPartsTo depth r p) with
        | .ok () => return ()
        | .error f => throw (← notWellDefined r.name f)
    | v => throw (.lacks v "check")

/-- The checks of a problem with an objective, in their order. -/
def checkPartsTo : Nat → Record → Problem Float → Act Unit
  | 0, _, _ => throw .tooDeep
  | depth + 1, r, p => do
    checkTo depth r.objective
    p.vars.forM checkVariable
    checkAllTo depth r.constraints
    match r.objective with
    | .objective _ e _ => requireOwnAll p e
    | _ => pure ()
    r.constraints.forM fun c => do
      match c with
      | .constraint _ _ lhs rhs _ => do
        requireOwnAll p lhs
        requireOwnAll p rhs
      | _ => pure ()

/-- Refuses the first of some values that is malformed. -/
def checkAllTo : Nat → List Value → Act Unit
  | 0, _ => throw .tooDeep
  | _, [] => return ()
  | depth + 1, v :: vs => do
    checkTo depth v
    checkAllTo depth vs

end

/-- Refuses a value that is malformed. -/
def check (v : Value) : Act Unit := checkTo comparedDepth v

end Act

end QuadraticProgram.Session
