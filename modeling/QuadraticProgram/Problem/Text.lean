import QuadraticProgram.Problem

/-!
# Text of problems

A problem is printed on several lines: its name, its objective, its variables with their
bounds and domains, and its constraints.
-/

namespace QuadraticProgram

/-- The name of a domain. -/
def Domain.name : Domain → String
  | continuous => "CONTINUOUS"
  | binary => "BINARY"
  | integer => "INTEGER"
  | other => "OTHER"

/-- A domain as it is printed beside a variable. -/
def Domain.text : Domain → String
  | continuous => "continuous"
  | binary => "binary"
  | integer => "integer"
  | other => "other"

/-- A variable with its bounds and its domain. -/
def Variable.described (v : Variable) : String :=
  v.text ++ " in [" ++ doubleText v.lower ++ ", " ++ doubleText v.upper ++ "] (" ++
    v.domain.text ++ ")"

namespace Problem

variable {α : Type} [Coefficient α]

/-- The lines of a problem around the texts of its objective and its constraints. -/
def linesWith (p : Problem α) (objective : String) (constraints : List String) :
    List String :=
  ["Problem " ++ p.name.shown, "  " ++ objective,
    "  " ++ toString p.vars.length ++ " variable(s):"] ++
  p.vars.map (fun v => "    " ++ v.described) ++
  ["  " ++ toString constraints.length ++ " constraint(s):"] ++
  constraints.map ("    " ++ ·)

/-- The lines of a problem. -/
def lines (p : Problem α) : List String :=
  let objective :=
    match p.objective? with
    | none => "no objective"
    | some o => o.text
  p.linesWith objective (p.constraints.map fun c => c.value.text)

/-- A problem as it is printed. -/
def text (p : Problem α) : String := "\n".intercalate p.lines

/-- A problem inside a message, its constraints only counted. -/
def shownWith (p : Problem α) (constraints : Nat) : String :=
  "<OptimizationProblem name: " ++ p.name.shown ++ ", variables: " ++
    toString p.vars.length ++ ", constraints: " ++ toString constraints ++ ">"

/-- A problem inside a message. -/
def shown (p : Problem α) : String := p.shownWith p.constraints.length

end Problem

end QuadraticProgram
