import QuadraticProgram.Problem

/-!
# Well-defined problems

`Problem.check` refuses a problem without an objective, with inconsistent variables, with
malformed constraints, or with an expression over variables that are not its own. The first
defect in that order is reported. `Problem.checkLinear` refuses products of variables, too.
-/

namespace QuadraticProgram.Problem

variable {α : Type} [Coefficient α]

/-- Refuses a variable that a problem lacks or that differs from its own. -/
def requireOwn (p : Problem α) (v : Variable) : Except Error Unit := do
  let own ← p.own? v.id
  if own.sameAs v then return ()
  else throw (p.lacksVariable v.id)

/-- Refuses variables that are not those of a problem. -/
def requireOwnAll (p : Problem α) (vs : List Variable) : Except Error Unit :=
  vs.forM p.requireOwn

/-- Refuses sides over variables that are not those of a problem. -/
def requireOwnSides (p : Problem α) (c : Constraint α) : Except Error Unit := do
  p.requireOwnAll c.lhs.vars
  p.requireOwnAll c.rhs.vars

/-- The checks beyond the presence of an objective, in their order. -/
def checkParts (p : Problem α) (o : Objective α) : Except Error Unit := do
  o.check
  p.vars.forM Variable.check
  p.constraints.forM fun c => c.value.check
  p.requireOwnAll o.expression.vars
  p.constraints.forM fun c => p.requireOwnSides c.value

/-- Refuses a problem that is not well defined. -/
def check (p : Problem α) : Except Error Unit := do
  let o ← p.objective
  match p.checkParts o with
  | .ok () => return ()
  | .error e => throw (if e.isStructural then .notWellDefined p.name e else e)

/-- Whether the objective, if there is one, and all constraints are linear. -/
def isLinear (p : Problem α) : Bool :=
  p.objective?.all Objective.isLinear && p.constraints.all fun c => c.value.isLinear

/-- Refuses the first constraint that is not linear; the constraints are counted from `k`. -/
def requireLinear (p : Problem α) (k : Nat) :
    List (Tagged (Constraint α)) → Except Error Unit
  | [] => .ok ()
  | c :: cs =>
    if c.value.isLinear then p.requireLinear (k + 1) cs
    else .error (.notLinear p.name (.constraint k))

/-- Refuses a problem that is not well defined or not linear. -/
def checkLinear (p : Problem α) : Except Error Unit := do
  match p.check with
  | .ok () => pure ()
  | .error e => throw (if e.isStructural then .notLinear p.name .notWellDefined else e)
  let o ← p.objective
  if o.isLinear then p.requireLinear 0 p.constraints
  else throw (.notLinear p.name .objective)

end QuadraticProgram.Problem
