import QuadraticProgram.Matrix
import QuadraticProgram.Variable

/-!
# Alignment of variable lists

An expression refers to a list of variables, in which a variable may be repeated. To combine
two expressions their coefficients are moved onto one list of distinct variables:
`distinct` finds it, `position?` is the first position of an identifier, and `spread` adds
up, at each position of the new list, the coefficients of all occurrences of its variable.
-/

namespace QuadraticProgram

/-- What a caller lists where variables are expected. -/
inductive Candidate where
  | variable (v : Variable)
  | other (kind : String)

/-- The variables of a list of candidates, all of which have to be variables. -/
def Candidate.vars (defect : String → Defect) :
    List Candidate → Except Error (List Variable)
  | [] => .ok []
  | .variable v :: rest => (Candidate.vars defect rest).map (v :: ·)
  | .other kind :: _ => .error (.malformed (defect kind))

namespace Alignment

/-- The variables in the order of their first occurrences, each once. -/
def distinct : List Variable → List Variable
  | [] => []
  | v :: vs => v :: (distinct vs).filter fun w => w.id != v.id

/-- The first position of an identifier in a list of variables. -/
def position? (id : Nat) (vs : List Variable) : Option Nat :=
  vs.findIdx? (·.id == id)

/-- The identifiers of a list of variables with their first positions, counted from `k`. -/
def indexMapFrom (k : Nat) : List Variable → List (Nat × Nat)
  | [] => []
  | v :: vs => (v.id, k) :: (indexMapFrom (k + 1) vs).filter fun entry => entry.1 != v.id

/-- The identifiers of a list of variables with their first positions. -/
def indexMap (vs : List Variable) : List (Nat × Nat) := indexMapFrom 0 vs

/-- The first position of a variable. -/
def indexOf (v : Variable) (vs : List Variable) : Except Error Nat :=
  match position? v.id vs with
  | some i => .ok i
  | none => .error (.variableNotFound v.id .variableVector)

/-- Refuses the first variable of a list that another list lacks. -/
def requireAll (source target : List Variable) : Except Error Unit :=
  match source.find? fun v => (position? v.id target).isNone with
  | some v => .error (.variableNotFound v.id .targetVector)
  | none => .ok ()

/-- The items whose places are a given one, in their order. -/
def gather {β : Type} (places : List (Option Nat)) (xs : List β) (place : Nat) : List β :=
  (places.zip xs).filterMap fun (p, x) => if p = some place then some x else none

/-- The positions of the variables of one list in another. -/
def places (source target : List Variable) : List (Option Nat) :=
  source.map fun v => position? v.id target

variable {α : Type} [Coefficient α]

/-- Coefficients of one list of variables moved to another. -/
def spread (source : List Variable) (xs : List α) (target : List Variable) : List α :=
  let at? := places source target
  (List.range target.length).map fun j => Coefficient.total (gather at? xs j)

@[simp]
theorem length_spread (source : List Variable) (xs : List α) (target : List Variable) :
  (spread source xs target).length = target.length
  := by
  simp [spread]

/-- Coefficients of pairs of variables of one list moved to pairs of another. -/
def spreadPairs (source : List Variable) (m : Matrix α) (target : List Variable) :
    Matrix α :=
  let at? := places source target
  Matrix.ofFn target.length target.length fun i j =>
    Coefficient.total ((gather at? m.rowList i).flatMap fun row => gather at? row j)

@[simp]
theorem rows_spreadPairs (source : List Variable) (m : Matrix α) (target : List Variable) :
  (spreadPairs source m target).rows = target.length
  := Matrix.rows_ofFn ..

@[simp]
theorem cols_spreadPairs (source : List Variable) (m : Matrix α) (target : List Variable) :
  (spreadPairs source m target).cols = target.length
  := rfl

/-- The columns of a matrix, one for each variable of a list, moved to another list. -/
def spreadColumns (source : List Variable) (m : Matrix α) (target : List Variable) :
    Matrix α where
  cols := target.length
  rowList := m.rowList.map fun row => spread source row target
  length_row := by
    intro r hr
    obtain ⟨row, -, rfl⟩ := List.mem_map.1 hr
    simp

@[simp]
theorem rows_spreadColumns (source : List Variable) (m : Matrix α) (target : List Variable) :
  (spreadColumns source m target).rows = m.rows
  := by
  simp [spreadColumns, Matrix.rows]

@[simp]
theorem cols_spreadColumns (source : List Variable) (m : Matrix α) (target : List Variable) :
  (spreadColumns source m target).cols = target.length
  := rfl

/-- The values of a list of variables under an assignment to identifiers. -/
def valuesOf (s : Nat → Option α) (vs : List Variable) : Except Error (List α) :=
  vs.mapM fun v =>
    match s v.id with
    | some a => .ok a
    | none => .error (.variableNotFound v.id .values)

end Alignment

end QuadraticProgram
