import QuadraticProgram.Session.Arguments
import QuadraticProgram.Session.Comparison
import QuadraticProgram.Session.Text

/-!
# Making objects

The functions that make the objects of the library from values. The arguments of each are read
in a fixed order, so that of several faults the first is reported. What an object keeps without
reading it (a name, the sides of a constraint, the sizes of a grid) may be any value.
-/

namespace QuadraticProgram.Session.Construct

/-! ### Choices and numbers -/

/-- The orientation that a value is. -/
def orientation (v : Value) : Act Orientation := do
  match v with
  | .member (.orientation o) => return o
  | v => throw (.ofError (.notAChoice .orientation (← Act.shown v)))

/-- The sense of a constraint that a value is. -/
def sense (v : Value) : Act Sense := do
  match v with
  | .member (.constraintSense s) => return s
  | v => throw (.ofError (.notAChoice .constraintSense (← Act.shown v)))

/-- The sense of an objective that a value is. -/
def objectiveSense (v : Value) : Act ObjectiveSense := do
  match v with
  | .member (.objectiveSense s) => return s
  | v => throw (.ofError (.notAChoice .objectiveSense (← Act.shown v)))

/-- The domain that a value is. -/
def domain (v : Value) : Act Domain := do
  match v with
  | .member (.domain d) => return d
  | v => throw (.ofError (.notAChoice .domain (← Act.shown v)))

/-- A number that is no truth value. -/
def number (operation : Operation) (v : Value) : Act Float := do
  match v.number? with
  | some n => Act.ofExcept n.value
  | none => throw (.ofError (.unexpectedInput operation v.kind))

/-! ### Variables -/

/-- A value as a name. -/
def label (name : Value) : Act Label := do
  match name with
  | .text _ s => return .text s
  | name => return .other (← Act.shown name)

/-- The identifier that a value is. -/
def identifier (id : Value) : Act Nat := do
  match id.integer? with
  | some n => if n < 0 then throw (.ofError (.invalidId (← Act.shown id))) else return n.toNat
  | none => throw (.ofError (.invalidId (← Act.shown id)))

/-- A decision variable. Its domain and its name may be any values. -/
def decision (id lower upper domain name : Value) : Act Value := do
  let n ← identifier id
  let lower ← Act.ofResult lower.toFloat
  let upper ← Act.ofResult upper.toFloat
  let label ← label name
  let tag ← Act.fresh
  let known : Domain :=
    match domain with
    | .member (.domain d) => d
    | _ => .other
  Act.setAttribute tag "var_type" domain
  Act.setAttribute tag "name" name
  return .ofVariable ⟨n, lower, upper, known, label, tag⟩

/-- A pair of any two values. -/
def pair (first second : Value) : Act Value := do return .pair (← Act.fresh) first second

/-! ### Expressions -/

/-- A constant. -/
def constant (value : Value) : Act Value := do
  Act.expression (.scalar (.const (← number .constant value)))

/-- The array that a value is read as, with a number of axes. -/
def part (name : String) (axes : Nat) (v : Value) : Act (Tensor Float) := do
  let t ← Act.ofResult v.toArray
  Act.ofExcept (t.requireAxes name axes)
  return t

/-- The array that a value is read as, unless it is nothing. -/
def part? (name : String) (axes : Nat) (v : Value) : Act (Option (Tensor Float)) := do
  match v with
  | .nothing => return none
  | v => return some (← part name axes v)

/-- A linear form. -/
def linear (x l c : Value) : Act Value := do
  let xs ← x.items
  let l ← part "L" 1 l
  let c ← Act.ofResult c.toFloat
  Act.expression? ((LinearForm.make? (xs.map Value.candidate) l c).map fun f =>
    .scalar (.linear f))

/-- A quadratic form. -/
def quadratic (x q l c : Value) : Act Value := do
  let xs ← x.items
  let q ← part "Q" 2 q
  let l? ← part? "L" 1 l
  let c ← Act.ofResult c.toFloat
  Act.expression? ((QuadraticForm.make? (xs.map Value.candidate) q l? c).map fun f =>
    .scalar (.quadratic f))

/-- A constant vector. -/
def constantVector (values o : Value) : Act Value := do
  let t ← Act.ofResult values.toArray
  let v ← Act.ofExcept (Vec.ofTensor t .column)
  Act.expression (.vector { v with orientation := ← orientation o })

/-- A vector of variables. -/
def variableVector (elements o : Value) : Act Value := do
  let xs ← elements.items
  GridLine.vector xs (← orientation o)

/-- Refuses constants that cannot be counted. -/
def requireCount (c : Value) : Act Unit := do
  match c with
  | .nothing => return ()
  | c =>
    let (shape, _) ← Act.ofResult c.leaves
    if shape.isEmpty then throw (.ofError .unsized)

/-- An affine form. Without variables and coefficients the constants are counted first. -/
def affine (x l c o : Value) : Act Value := do
  let xs ← x.items
  let l ← Act.ofResult l.toArray
  if l.entries.isEmpty && xs.isEmpty then requireCount c
  else Act.ofExcept (l.requireAxes "L" 2)
  let c? ← part? "C" 1 c
  let o ← orientation o
  Act.expression? ((AffineForm.make? (xs.map Value.candidate) l c?).map fun f =>
    .vector ⟨.affine f, o⟩)

/-- A constant matrix. -/
def matrix (values : Value) : Act Value := do
  let t ← Act.ofResult values.toArray
  if t.axes = 2 then Act.expression (.matrix (.ofArray t))
  else throw (.ofError (.malformed (.matrixAxes t.shape)))

/-! ### Grids -/

/-- Whether a number of elements differs from a value. -/
def countDiffers (n : Nat) (product : Value) : Act Bool := do
  Act.ofResult (← Act.different (.ofNat n) product).truth

/-- Whether some elements do not fill a grid. Negative sizes are found first. -/
def isUnfilled (elements rows columns : Value) : Act Bool := do
  if ← Act.isOrdered .less rows (.ofInt 0) then return true
  else if ← Act.isOrdered .less columns (.ofInt 0) then return true
  else
    let n ← Act.ofResult elements.length
    countDiffers n (← GridLine.product rows columns)

/-- A grid of elements. -/
def grid (elements shape : Value) : Act Value := do
  let (rows, columns) ← shape.bothItems
  if ← isUnfilled elements rows columns then
    let rowsText ← Act.printed rows
    let columnsText ← Act.printed columns
    let needed ← Act.printed (← GridLine.product rows columns)
    let n ← Act.ofResult elements.length
    throw (.value ("a " ++ rowsText ++ " x " ++ columnsText ++ " VarMatrix needs " ++ needed ++
      " variables, got " ++ toString n))
  return .grid (← Act.fresh) (← elements.items) rows columns

/-! ### Constraints, objectives and problems -/

/-- A constraint between any two values. -/
def constraint (form : ConstraintForm) (lhs rhs s : Value) : Act Value := do
  let s ← sense s
  return .constraint (← Act.fresh) form lhs rhs s

/-- The constraint that the values of a pair are equal. -/
def ofPair (first second : Value) : Act Value := do
  return .constraint (← Act.fresh) .scalar first second .equal

/-- An objective. -/
def objective (e s : Value) : Act Value := do
  match e with
  | .expression _ (.scalar _) => return .objective (← Act.fresh) e (← objectiveSense s)
  | e => throw (.ofError (.objectiveNotScalar e.kind))

/-- A problem without variables and constraints. -/
def problem (name : Value) : Act Value := do
  let name ← Act.keep name
  let tag ← Act.fresh
  Act.setRecord tag ⟨.empty (← label name), name, [], .nothing⟩
  return .problem tag

/-! ### Solutions -/

/-- The parameters of a run. -/
def parameters (enableOutput timeLimit : Value) : Act Value := do
  return .parameters (← Act.fresh) enableOutput timeLimit

/-- A value read as a double, which a double is already. -/
def asDouble (v : Value) : Except Fault Value :=
  match v with
  | .float t x => .ok (.float t x)
  | v => v.toFloat.map Value.ofFloat

/-- Keys read as integers and values read as doubles; of equal keys the last value counts. -/
def readEntries (keys values : List Value) : Act (List Value × List Value) := do
  let pairs ← (keys.zip values).mapM fun (k, v) => do
    return (Value.ofInt (← Act.ofResult k.toInteger), ← Act.ofResult (asDouble v))
  pairs.foldlM (fun (ks, vs) (k, v) => Act.insert ks vs k v) ([], [])

/-- A solution. Its values are kept by the integers that their keys are read as. -/
def solution (values best status : Value) : Act Value := do
  match values.entries? with
  | some (keys, entries) =>
    let (ks, vs) ← readEntries keys entries
    let ks ← ks.mapM Act.keep
    let vs ← vs.mapM Act.keep
    return .solution (← Act.fresh) ks vs best status
  | none => throw (.lacks values "items")

/-- The statuses by their codes. -/
def statusCodes : List (Value × Status) := Status.all.map fun s => (.ofNat s.code, s)

/-- The status under a code that can be a key. -/
def statusUnder (code : Value) : Act (Option Status) := do
  let names := Status.all.map fun s => Value.member (.status s)
  match ← Act.lookup? code (statusCodes.map Prod.fst) names with
  | some (.member (.status s)) => return some s
  | _ => return none

/-- The first status whose code compares as equal to a value. -/
def statusComparing (code : Value) : List (Value × Status) → Act (Option Status)
  | [] => return none
  | (k, s) :: rest => do
    if ← Act.comparesEqual k code then return some s else statusComparing code rest

/-- The status with a code. A code that cannot be looked up is compared with each. -/
def status (code : Value) : Act Value := do
  match code with
  | .member (.status s) => return .member (.status s)
  | code =>
    let found ←
      match ← Act.attempt (statusUnder code) with
      | .ok found => pure found
      | .error f => if f.kind == "TypeError" then statusComparing code statusCodes else throw f
    match found with
    | some s => return .member (.status s)
    | none => throw (.value ((← Act.shown code) ++ " is not a valid SolutionStatus"))

/-- The status with a code. A choice with members has no further names. -/
def statusCall (code names : Value) : Act Value := do
  match names with
  | .nothing => status code
  | _ =>
    throw (.type ("<enum " ++ (← Act.shown code) ++ "> cannot extend <enum 'SolutionStatus'>"))

/-- The fault of a solver without any operations. -/
def bareSolver : Fault :=
  .type ("Can't instantiate abstract class Solver with abstract methods add_constraint, " ++
    "add_variable, delete, optimize, set_objective, set_time_limit, show_log")

end QuadraticProgram.Session.Construct
