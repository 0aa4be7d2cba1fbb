import QuadraticProgram.Expression.Operator
import QuadraticProgram.Expression.Rename
import QuadraticProgram.Grid
import QuadraticProgram.Objective
import QuadraticProgram.Solution

/-!
# Values of a session

What the steps of a session take and give: plain data, arrays, members of choices, and the
objects of the library. A value carries a tag, which tells it from an equal one; zero is the
tag of a value that nothing refers to yet. A problem is known by its tag alone, since its
contents change. The parts of an object are values, which need not fit together: what does is
read as a value of the library (`Value.operand`, `Value.constraint?`).
-/

namespace QuadraticProgram.Session

/-- Why a problem is not linear. -/
inductive Cause where
  | objective
  | constraint
  | notWellDefined
deriving DecidableEq, BEq

/-- A member of one of the choices. -/
inductive Member where
  | domain (d : Domain)
  | constraintSense (s : Sense)
  | objectiveSense (s : ObjectiveSense)
  | orientation (o : Orientation)
  | status (s : Status)
  | cause (c : Cause)
deriving DecidableEq, BEq

/-- What a member stands for. -/
inductive MemberCode where
  | text (s : String)
  | number (n : Int)
deriving DecidableEq, BEq

namespace Member

/-- The choice that a member belongs to. -/
def choice : Member → String
  | domain _ => "VarType"
  | constraintSense _ => "ConstraintSense"
  | objectiveSense _ => "ObjectiveSense"
  | orientation _ => "Orientation"
  | status _ => "SolutionStatus"
  | cause _ => "NonlinearityCause"

/-- The name of a member within its choice. -/
def name : Member → String
  | domain .continuous => "CONTINUOUS"
  | domain .binary => "BINARY"
  | domain .integer => "INTEGER"
  | domain .other => "OTHER"
  | constraintSense s => s.name
  | objectiveSense s => s.name
  | orientation o => o.name
  | status s => s.name
  | cause .objective => "OBJECTIVE"
  | cause .constraint => "CONSTRAINT"
  | cause .notWellDefined => "NOT_WELL_DEFINED"

/-- What a member stands for. -/
def code : Member → MemberCode
  | domain .continuous => .text "C"
  | domain .binary => .text "B"
  | domain .integer => .text "I"
  | domain .other => .text "O"
  | constraintSense s => .text s.text
  | objectiveSense .minimize => .number 1
  | objectiveSense .maximize => .number (-1)
  | objectiveSense .find => .number 0
  | orientation .column => .text "column"
  | orientation .row => .text "row"
  | status s => .number s.code
  | cause .objective => .text "Objective"
  | cause .constraint => .text "Constraint"
  | cause .notWellDefined => .text "NotWellDefined"

/-- A member as it is printed. -/
def text (m : Member) : String := m.choice ++ "." ++ m.name

/-- A member inside a message. -/
def shown (m : Member) : String :=
  let code :=
    match m.code with
    | .text s => Text.quoted s
    | .number n => toString n
  "<" ++ m.text ++ ": " ++ code ++ ">"

/-- All members that can be named. -/
def all : List Member :=
  [Domain.continuous, .binary, .integer].map domain ++
    [Sense.lessEqual, .greaterEqual, .equal].map constraintSense ++
    [ObjectiveSense.minimize, .maximize, .find].map objectiveSense ++
    [Orientation.column, .row].map orientation ++
    Status.all.map status ++
    [Cause.objective, .constraint, .notWellDefined].map cause

/-- The member that is printed as a text. -/
def ofText? (s : String) : Option Member := all.find? fun m => m.text == s

end Member

/-- A value of a session. -/
inductive Value where
  | nothing
  | bool (b : Bool)
  /-- A truth value that was taken out of an array. -/
  | flag (b : Bool)
  | integer (tag : Nat) (n : Int)
  | float (tag : Nat) (x : Float)
  /-- A number that was taken out of an array. -/
  | entry (tag : Nat) (x : Float)
  | ratio (tag : Nat) (q : Rat)
  | complex (tag : Nat) (re im : Float)
  | text (tag : Nat) (s : String)
  | list (tag : Nat) (items : List Value)
  | tuple (tag : Nat) (items : List Value)
  /-- Keys that differ from each other, and the value of each. -/
  | dict (tag : Nat) (keys values : List Value)
  /-- A dictionary that cannot be changed. -/
  | frozen (tag : Nat) (keys values : List Value)
  | array (tag : Nat) (t : Tensor Float)
  /-- An array of truth values. -/
  | flags (tag : Nat) (shape : List Nat) (entries : List Bool)
  | member (m : Member)
  | duration (tag : Nat) (d : Duration)
  | slice (tag : Nat) (start stop step : Value)
  /-- An expression. The tag of a variable is the one that it carries. -/
  | expression (tag : Nat) (e : Expression Float)
  | grid (tag : Nat) (elements : List Value) (rows columns : Value)
  | pair (tag : Nat) (first second : Value)
  | constraint (tag : Nat) (form : ConstraintForm) (lhs rhs : Value) (sense : Sense)
  | objective (tag : Nat) (expression : Value) (sense : ObjectiveSense)
  | problem (tag : Nat)
  /-- A solution, whose values are a dictionary that cannot be changed. -/
  | solution (tag : Nat) (keys values : List Value) (objective status : Value)
  | parameters (tag : Nat) (enableOutput timeLimit : Value)
  /-- An error that nothing was refused with: what it says, and its particulars by name. -/
  | exception (tag : Nat) (kind : String) (args : List Value) (names : List String)
      (values : List Value)
  /-- A method that was not called. -/
  | method (tag : Nat)
deriving Inhabited

namespace Value

/-- What a value is, as the errors of the library call it. -/
def kind : Value → String
  | nothing => "NoneType"
  | bool _ => "bool"
  | flag _ => "bool"
  | integer .. => "int"
  | float .. => "float"
  | entry .. => "float64"
  | ratio .. => "Fraction"
  | complex .. => "complex"
  | text .. => "str"
  | list .. => "list"
  | tuple .. => "tuple"
  | dict .. => "dict"
  | frozen .. => "immutabledict"
  | array .. => "ndarray"
  | flags .. => "ndarray"
  | member m => m.choice
  | duration .. => "timedelta"
  | slice .. => "slice"
  | expression _ e => e.kind
  | grid .. => "VarMatrix"
  | pair .. => "VarEqVar"
  | constraint _ form .. => form.kind
  | objective .. => "Objective"
  | problem _ => "OptimizationProblem"
  | solution .. => "Solution"
  | parameters .. => "SolveParameters"
  | exception _ kind .. => kind
  | method _ => "method"

/-- What a value is, as an operation that is not defined on it says. -/
def typeName : Value → String
  | flag _ => "numpy.bool"
  | entry .. => "numpy.float64"
  | array .. => "numpy.ndarray"
  | flags .. => "numpy.ndarray"
  | duration .. => "datetime.timedelta"
  | v => v.kind

/-- The tag of a value, zero if nothing can tell it from an equal one. -/
def tag : Value → Nat
  | nothing | bool _ | flag _ | member _ => 0
  | integer t _ | float t _ | entry t _ | ratio t _ | complex t _ _ | text t _ | list t _
  | tuple t _ | dict t _ _ | frozen t _ _ | array t _ | flags t _ _ | duration t _
  | slice t _ _ _ | expression t _ | grid t _ _ _ | pair t _ _ | constraint t _ _ _ _
  | objective t _ _ | problem t | solution t _ _ _ _ | parameters t _ _
  | exception t _ _ _ _ | method t => t

/-- A value with another tag. -/
def retagged (t : Nat) : Value → Value
  | integer _ n => integer t n
  | float _ x => float t x
  | entry _ x => entry t x
  | ratio _ q => ratio t q
  | complex _ re im => complex t re im
  | text _ s => text t s
  | list _ items => list t items
  | tuple _ items => tuple t items
  | dict _ ks vs => dict t ks vs
  | frozen _ ks vs => frozen t ks vs
  | array _ a => array t a
  | flags _ shape entries => flags t shape entries
  | duration _ d => duration t d
  | slice _ a b c => slice t a b c
  | method _ => method t
  | v => v

/-- Whether two values are the same. Some plain values are the same whenever they are
equal. -/
def same (v w : Value) : Bool :=
  match v, w with
  | nothing, nothing => true
  | bool a, bool b => a == b
  | flag a, flag b => a == b
  | member m, member n => m == n
  | tuple _ [], tuple _ [] => true
  | integer t m, integer u n => (t != 0 && t == u) || (m == n && -5 ≤ m && m ≤ 256)
  | text t a, text u b =>
    (t != 0 && t == u) || (a == b && a.length ≤ 1 && a.toList.all (·.toNat < 256))
  | bool _, _ | _, bool _ => false
  | v, w => v.tag != 0 && v.tag == w.tag

/-! ### Plain values that nothing refers to yet -/

/-- An integer. -/
def ofInt (n : Int) : Value := .integer 0 n

/-- A natural number. -/
def ofNat (n : Nat) : Value := .integer 0 n

/-- A double. -/
def ofFloat (x : Float) : Value := .float 0 x

/-- A text. -/
def ofText (s : String) : Value := .text 0 s

/-- A list of values. -/
def ofList (items : List Value) : Value := .list 0 items

/-- A tuple of values. -/
def ofTuple (items : List Value) : Value := .tuple 0 items

/-- An array. -/
def ofTensor (t : Tensor Float) : Value := .array 0 t

/-- A matrix as an array. -/
def ofMatrix (m : Matrix Float) : Value := .array 0 m.toTensor

/-- A list of numbers as an array. -/
def ofEntries (xs : List Float) : Value := .array 0 (.ofList xs)

/-- Shapes and sizes as a value. -/
def ofSizes (sizes : List Nat) : Value := ofTuple (sizes.map ofNat)

/-- A variable as a value. -/
def ofVariable (v : Variable) : Value := .expression v.tag (.scalar (.var v))

/-! ### Values of the library -/

/-- The number that a value is. A truth value is none. -/
def number? : Value → Option (Number Float)
  | integer _ n => some (.integer n)
  | ratio _ q => some (.ratio q)
  | float _ x => some (.coefficient x)
  | entry _ x => some (.entry x)
  | _ => none

/-- The array that a value is. -/
def tensor? : Value → Option (Tensor Float)
  | array _ t => some t
  | flags _ shape entries => some ⟨shape, entries.map fun b => if b then 1.0 else 0.0⟩
  | _ => none

/-- A value as one side of an operation. -/
def operand : Value → Operand Float
  | expression _ e => .expression e
  | v =>
    match v.number?, v.tensor? with
    | some n, _ => .number n
    | none, some t => .array t
    | none, none => .other v.kind

/-- The integer that a value is or counts as. -/
def integer? : Value → Option Int
  | integer _ n => some n
  | bool b => some (if b then 1 else 0)
  | _ => none

/-- The expression that a value is. -/
def expression? : Value → Option (Expression Float)
  | expression _ e => some e
  | _ => none

/-- The variable that a value is. -/
def decision? : Value → Option Variable
  | expression _ (.scalar (.var v)) => some v
  | _ => none

/-- A value as an item among the variables of an expression. -/
def candidate (v : Value) : Candidate :=
  match v.decision? with
  | some x => .variable x
  | none => .other v.kind

/-- The constraint that a value is, if both of its sides are expressions. -/
def constraint? : Value → Option (Constraint Float)
  | constraint _ form (.expression _ l) (.expression _ r) sense => some ⟨form, l, r, sense⟩
  | _ => none

/-- Whether a value is a constraint, whatever its sides are. -/
def isConstraint : Value → Bool
  | constraint .. => true
  | _ => false

/-- Whether a value is an expression. -/
def isExpression (v : Value) : Bool := v.expression?.isSome

/-- The pair of variables that a value is. -/
def pair? : Value → Option VariablePair
  | pair _ a b => do return ⟨← a.decision?, ← b.decision?⟩
  | _ => none

/-- The grid of variables that a value is. -/
def grid? : Value → Option Grid
  | grid _ elements (.integer _ rows) (.integer _ columns) => do
    (Grid.make? (← elements.mapM decision?) rows columns).toOption
  | _ => none

/-- The items of a tuple or a list. -/
def sequence? : Value → Option (List Value)
  | list _ items => some items
  | tuple _ items => some items
  | _ => none

end Value

end QuadraticProgram.Session
