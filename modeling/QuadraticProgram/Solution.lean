import QuadraticProgram.Variable.Alignment

/-!
# Solutions

What a solver reports: values for the identifiers of variables, the value of the objective
and a status.
-/

namespace QuadraticProgram

/-- The outcome of a run of a solver. -/
inductive Status where
  | loaded
  | optimal
  | infeasible
  | infeasibleOrUnbounded
  | unbounded
  | cutoff
  | iterationLimit
  | nodeLimit
  | timeLimit
  | solutionLimit
  | interrupted
  | numeric
  | suboptimal
  | inProgress
  | objectiveLimit
  | workLimit
deriving DecidableEq, BEq, Inhabited

namespace Status

/-- All outcomes, in the order of their codes, which count up from one. -/
def all : List Status :=
  [loaded, optimal, infeasible, infeasibleOrUnbounded, unbounded, cutoff, iterationLimit,
   nodeLimit, timeLimit, solutionLimit, interrupted, numeric, suboptimal, inProgress,
   objectiveLimit, workLimit]

/-- The code of an outcome. -/
def code (s : Status) : Nat := all.idxOf s + 1

/-- The outcome with a code. -/
def ofCode? (n : Int) : Option Status :=
  if 1 ≤ n then all[(n - 1).toNat]? else none

/-- The name of an outcome. -/
def name : Status → String
  | loaded => "LOADED"
  | optimal => "OPTIMAL"
  | infeasible => "INFEASIBLE"
  | infeasibleOrUnbounded => "INF_OR_UNBD"
  | unbounded => "UNBOUNDED"
  | cutoff => "CUTOFF"
  | iterationLimit => "ITERATION_LIMIT"
  | nodeLimit => "NODE_LIMIT"
  | timeLimit => "TIME_LIMIT"
  | solutionLimit => "SOLUTION_LIMIT"
  | interrupted => "INTERRUPTED"
  | numeric => "NUMERIC"
  | suboptimal => "SUBOPTIMAL"
  | inProgress => "INPROGRESS"
  | objectiveLimit => "USER_OBJ_LIMIT"
  | workLimit => "WORK_LIMIT"

end Status

/-- Values by identifier, each identifier once. -/
abbrev Assignment (α : Type) := List (Int × α)

namespace Assignment

variable {α : Type}

/-- An assignment with the value of one identifier replaced or added at its end. -/
def insert (id : Int) (a : α) : Assignment α → Assignment α
  | [] => [(id, a)]
  | (k, b) :: rest => if k = id then (k, a) :: rest else (k, b) :: insert id a rest

/-- The value of an identifier. -/
def value? (s : Assignment α) (id : Nat) : Option α := s.lookup (id : Int)

/-- The value of a variable in a solution. -/
def valueOf (s : Assignment α) (v : Variable) : Except Error α :=
  match s.value? v.id with
  | some a => .ok a
  | none => .error (.variableNotFound v.id .solution)

end Assignment

/-- What a solver reports. The value of the objective and the status are kept as the solver
gives them. -/
structure Solution (α β : Type) where
  values : Assignment α
  objective : β
  status : β

end QuadraticProgram
