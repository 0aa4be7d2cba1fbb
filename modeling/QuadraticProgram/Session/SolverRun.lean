import QuadraticProgram.Session.Feature

/-!
# Runs of a recording solver

A solver that records the calls it gets and finds what it is told to find. It may be told to
fail in one of its operations, which it does each time after recording the call. What a problem
is loaded with is planned before the run; the plan ends where it cannot be continued.
-/

namespace QuadraticProgram.Session.SolverRun

/-- A call as it is recorded: the operation and its arguments. -/
structure Recorded where
  operation : String
  arguments : List Value

/-- A call as a value. -/
def Recorded.toValue (c : Recorded) : Value := .ofList (.ofText c.operation :: c.arguments)

/-- A step of a run. -/
abbrev Step := Action Recorded Fault

/-- A step that is a call. -/
def call (operation : String) (arguments : List Value) : Step := .call ⟨operation, arguments⟩

/-- What is recorded of a call of the library. -/
def recorded : Call Float Value → Recorded
  | .showLog flag => ⟨"show_log", [flag]⟩
  | .setTimeLimit seconds => ⟨"set_time_limit", [.ofFloat seconds]⟩
  | .addVariable v => ⟨"add_variable", [.ofNat v.id]⟩
  | .addConstraint c => ⟨"add_constraint", [.ofText c.text]⟩
  | .setObjective o => ⟨"set_objective", [.ofText o.text]⟩
  | .optimize => ⟨"optimize", []⟩
  | .delete => ⟨"delete", []⟩

/-- A step of a plan of the library. -/
def ofAction : Action (Call Float Value) Fault → Step
  | .call c => .call (recorded c)
  | .note n => .note n
  | .fail f => .fail f

/-- The solver that fails in an operation, if in any. -/
def solver (failing? : Option String) : Solver Recorded Unit Fault where
  answer _ c :=
    if failing? == some c.operation then .error (.ofError (.solverFailed c.operation)) else .ok ()
  solution _ := ()

/-- What a run gives: a result, and the calls that were made. -/
structure Report where
  result : Except Fault Value
  calls : List Value

/-! ### Plans -/

/-- The steps of several parts up to the first that fails. -/
def joined : List (Act (List Step)) → Act (List Step)
  | [] => return []
  | part :: parts => do
    match ← Act.attempt part with
    | .error f => return [.fail f]
    | .ok steps => return steps ++ (← joined parts)

/-- The steps that set a time limit. -/
def timeLimitSteps (on limit : Value) : Act (List Step) := do
  match ← Feature.limitSeconds limit with
  | .float _ seconds =>
    let name ← Act.shown (← Feature.get on "name")
    return [.note ⟨.info, "Solving problem " ++ name ++ " with a time limit of " ++
      briefText seconds ++ " seconds"⟩, call "set_time_limit" [.ofFloat seconds]]
  | _ => return []

/-- The steps that add the items of a value as variables. -/
def variableSteps (vs : Value) : Act (List Step) := do
  joined ((← vs.items).map fun v => do
    return [call "add_variable" [.ofNat (← Act.ofResult v.requireVariable).id]])

/-- The steps that add the items of a value as constraints. -/
def constraintSteps (cs : Value) : Act (List Step) := do
  joined ((← cs.items).map fun c => do
    return [call "add_constraint" [.ofText (← Act.printed c)]])

/-- The steps that solve a value in place of a problem. -/
def oddPlan (on enableOutput limit : Value) : Act (List Step) :=
  joined [do
      Act.check on
      return [call "show_log" [enableOutput]],
    timeLimitSteps on limit,
    do variableSteps (← Feature.get on "variables"),
    do constraintSteps (← Feature.get on "constraints"),
    do
      let o ← Feature.get on "objective"
      return [call "set_objective" [.ofText (← Act.printed o)], call "optimize" []]]

/-- The steps that solve a value. What is well formed is left to the library. -/
def plan (on enableOutput limit : Value) : Act (List Step) := do
  match on with
  | .problem tag =>
    let r ← Act.record tag
    if r.isPlain then
      let p ← Act.problemOf r
      let refuse (e : Error) : Fault := (Fault.ofError e).named r.name
      return (p.solvePlan refuse ⟨enableOutput, Feature.timeLimit limit⟩).map ofAction
    else oddPlan on enableOutput limit
  | on => oddPlan on enableOutput limit

/-- The steps that solve a value with parameters that may be missing or wrong. -/
def planWith (on params : Value) : Act (List Step) := do
  match params with
  | .parameters _ enableOutput limit => plan on enableOutput limit
  | params =>
    if ← Act.ofResult params.truth then
      joined [do
        Act.check on
        throw (.lacks params "enable_output")]
    else plan on (.bool false) .nothing

/-! ### Runs -/

/-- The result that a solver finds unless it is told otherwise. -/
def defaultResult : Act Value := do
  return .solution (← Act.fresh) [] [] (.ofFloat 0.0) (.member (.status .optimal))

/-- Leaves a note if the status of a result is not optimal. -/
def reportStatus (on result : Value) : Act Unit := do
  let status ← Feature.get result "status"
  let optimal := Value.member (.status .optimal)
  if ← Act.ofResult (← Act.different status optimal).truth then
    let name ← Feature.get on "name"
    let statusName ← Feature.get status "name"
    Act.note [statusNote (.other (← Act.shown name)) (← Act.printed statusName)]

/-- Takes the steps of a plan and reports the calls and the result. -/
def report (failing? : Option String) (steps : List Step) (finish : Act Value) : Act Report := do
  let run := (solver failing?).run ⟨"delete", []⟩ steps
  Act.note run.notes
  let calls := run.calls.map Recorded.toValue
  match run.outcome with
  | .error e => return ⟨.error e, calls⟩
  | .ok () => return ⟨← Act.attempt finish, calls⟩

/-- Solves a value in place of a problem. -/
def solve (on : Value) (result? : Option Value) (failing? : Option String) (params : Value) :
    Act Report := do
  match ← Act.attempt (planWith on params) with
  | .error f => return ⟨.error f, []⟩
  | .ok steps =>
    report failing? steps do
      let result ←
        match result? with
        | some v => pure v
        | none => defaultResult
      reportStatus on result
      return result

/-- Adds the items of a value to a solver as variables. -/
def within (on : Value) (failing? : Option String) : Act Report := do
  report failing? (← joined [variableSteps on]) (pure (.bool true))

end QuadraticProgram.Session.SolverRun
