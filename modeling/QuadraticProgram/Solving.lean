import QuadraticProgram.Note
import QuadraticProgram.Number.Text
import QuadraticProgram.Problem.Check

/-!
# Solving

A solver is driven by calls of some kind, each of which it may refuse, whatever calls came
before (`Solver`). `Problem.solvePlan` lists the calls that load and optimise a problem;
`Solver.run` makes them one after the other up to the first that fails, and at last lets go
of the solver, once, whatever happened before. What fails while letting go replaces an
earlier failure.
-/

namespace QuadraticProgram

variable {α β γ ρ ε : Type} [Coefficient α]

/-- A call of a solver. Output is switched by a value of the caller's own. -/
inductive Call (α β : Type) [Coefficient α] where
  | showLog (flag : β)
  | setTimeLimit (seconds : Float)
  | addVariable (v : Variable)
  | addConstraint (c : Constraint α)
  | setObjective (o : Objective α)
  | optimize
  | delete

/-- What a solver does in a call, after a list of earlier calls. -/
structure Solver (γ ρ ε : Type) where
  /-- Whether a call is refused. -/
  answer : List γ → γ → Except ε Unit
  /-- What is found by optimising. -/
  solution : List γ → ρ

/-- A limit on the time to be spent. -/
inductive TimeLimit where
  | unlimited
  | atMost (d : Duration)
  | other (kind : String)

/-- What is asked of a run of a solver. -/
structure Parameters (β : Type) where
  enableOutput : β
  timeLimit : TimeLimit

/-- A step of a run: a call, a note, or a failure that does not come from the solver. -/
inductive Action (γ ε : Type) where
  | call (c : γ)
  | note (n : Note)
  | fail (e : ε)

/-- What a run leaves: the calls and notes that were made, and its result. -/
structure Run (γ ρ ε : Type) where
  calls : List γ
  notes : List Note
  outcome : Except ε ρ

/-- The limit in seconds; it must not be negative. -/
def TimeLimit.seconds : TimeLimit → Except Error (Option Rat)
  | unlimited => .ok none
  | atMost d =>
    if d.totalSeconds < 0 then .error (.negativeTimeLimit d) else .ok (some d.totalSeconds)
  | other kind => .error (.lacks kind "total_seconds")

namespace Problem

/-- The steps that set a time limit. -/
def timeLimitPlan (p : Problem α) (refuse : Error → ε) (limit : TimeLimit) :
    List (Action (Call α β) ε) :=
  match limit.seconds with
  | .error e => [.fail (refuse e)]
  | .ok none => []
  | .ok (some q) =>
    let seconds := Rounding.nearest q
    [.note ⟨.info, "Solving problem " ++ p.name.shown ++ " with a time limit of " ++
        briefText seconds ++ " seconds"⟩,
     .call (.setTimeLimit seconds)]

/-- The steps that load a problem into a solver. -/
def loadingPlan (p : Problem α) : List (Action (Call α β) ε) :=
  p.vars.map (fun v => .call (.addVariable v)) ++
    p.constraints.map (fun c => .call (.addConstraint c.value)) ++
    p.objective?.toList.map fun o => .call (.setObjective o)

/-- The steps that solve a problem, if it is well defined. An error of the problem or of the
parameters fails as the caller says. -/
def solvePlan (p : Problem α) (refuse : Error → ε) (params : Parameters β) :
    List (Action (Call α β) ε) :=
  match p.check with
  | .error e => [.fail (refuse e)]
  | .ok () =>
    .call (.showLog params.enableOutput) :: p.timeLimitPlan refuse params.timeLimit ++
      p.loadingPlan ++ [.call .optimize]

end Problem

namespace Solver

/-- Takes steps up to the first one that fails. -/
def perform (s : Solver γ ρ ε) (calls : List γ) (notes : List Note) :
    List (Action γ ε) → Run γ Unit ε
  | [] => ⟨calls, notes, .ok ()⟩
  | .note n :: rest => s.perform calls (notes ++ [n]) rest
  | .fail e :: _ => ⟨calls, notes, .error e⟩
  | .call c :: rest =>
    match s.answer calls c with
    | .ok () => s.perform (calls ++ [c]) notes rest
    | .error e => ⟨calls ++ [c], notes, .error e⟩

/-- Makes the call that lets go of the solver after a run. -/
def release (s : Solver γ ρ ε) (delete : γ) (run : Run γ Unit ε) : Run γ Unit ε :=
  match s.answer run.calls delete with
  | .ok () => { run with calls := run.calls ++ [delete] }
  | .error e => ⟨run.calls ++ [delete], run.notes, .error e⟩

/-- Takes the steps of a plan and lets go of the solver. -/
def run (s : Solver γ ρ ε) (delete : γ) (plan : List (Action γ ε)) : Run γ Unit ε :=
  s.release delete (s.perform [] [] plan)

/-- Solves a problem. The solution is the one of the moment before the solver is let go. -/
def solve (s : Solver (Call α β) ρ ε) (refuse : Error → ε) (p : Problem α)
    (params : Parameters β) : Run (Call α β) ρ ε :=
  let performed := s.perform [] [] (p.solvePlan refuse params)
  let done := s.release .delete performed
  ⟨done.calls, done.notes, done.outcome.map fun () => s.solution performed.calls⟩

end Solver

/-- The note on a problem whose status is not optimal. -/
def statusNote (name : Label) (status : String) : Note :=
  ⟨.warning, "Solve of problem " ++ name.shown ++ " ended with status " ++ status⟩

end QuadraticProgram
