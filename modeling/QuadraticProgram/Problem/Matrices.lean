import QuadraticProgram.Constraint.Rows
import QuadraticProgram.Note
import QuadraticProgram.Problem

/-!
# Matrices of linear constraints

The linear inequalities of a problem read `A x ≤ b` and its linear equalities `A x = b`
(`Problem.matrices`). Each linear constraint gives a block of rows; lower bounds are turned
into upper bounds by changing all signs. The rows of scalar constraints come first, then the
blocks of vector constraints, each kind in the order in which it was added. Constraints that
are not linear are skipped, and a note says so.
-/

namespace QuadraticProgram

variable {α : Type} [Coefficient α]

/-- The constraints that one of the two pairs of matrices is about. -/
inductive Family where
  | inequalities
  | equalities
deriving DecidableEq, BEq

/-- Whether a sense belongs to a family. -/
def Family.contains : Family → Sense → Bool
  | inequalities, .equal => false
  | inequalities, _ => true
  | equalities, s => s == .equal

/-- The rows that a constraint gives, over a number of columns, and their bounds. -/
structure Block (α : Type) (width : Nat) where
  form : ConstraintForm
  rows : { m : Matrix α // m.cols = width }
  bounds : Tensor α

namespace Block

variable {width : Nat}

/-- The block of a single row. -/
def ofRow (r : LinearRow α width) : Block α width :=
  ⟨.scalar, ⟨Matrix.ofRow r.coefficients, r.length_coefficients⟩,
    match r.bound with
    | .single a => .ofList [a]
    | .list l => ⟨[1, l.length], l⟩⟩

/-- The block of the rows of a vector constraint. -/
def ofRows (r : LinearRows α width) : Block α width :=
  ⟨.vector, ⟨r.coefficients, r.cols_coefficients⟩,
    match r.bound with
    | .single a => .single a
    | .list l => .ofList l⟩

/-- The block with all signs changed. -/
def negated (b : Block α width) : Block α width :=
  ⟨b.form, ⟨b.rows.val.map (- ·), b.rows.property⟩, b.bounds.map (- ·)⟩

/-- The first array of a list that cannot be joined to the first one along its first axis,
counted from `k`. -/
def joinError? (first : Tensor α) (k : Nat) : List (Tensor α) → Option Error
  | [] => none
  | t :: ts =>
    if t.axes ≠ first.axes then some (.axesDiffer first.axes k t.axes)
    else if t.shape.getD 1 0 ≠ first.shape.getD 1 0 then
      some (.sizesDiffer 1 (first.shape.getD 1 0) k (t.shape.getD 1 0))
    else joinError? first (k + 1) ts

/-- Arrays joined along their first axis. -/
def joinBounds : List (Tensor α) → Except Error (Tensor α)
  | [] => .ok (.ofList [])
  | t :: ts =>
    match joinError? t 1 ts with
    | some e => .error e
    | none =>
      .ok ⟨(t :: ts).foldl (fun n u => n + u.length) 0 :: t.shape.tail,
        (t :: ts).flatMap Tensor.entries⟩

end Block

namespace Problem

/-- The columns of the variables. -/
def columnPositions (p : Problem α) : Columns :=
  ⟨p.columns.length, p.columns.map fun (id, k) => (id, (k : Int))⟩

/-- The number of columns. -/
def width (p : Problem α) : Nat := p.columnPositions.width

/-- The block of a constraint, if it is linear. -/
def block? (p : Problem α) (c : Constraint α) : Except Error (Option (Block α p.width)) := do
  if c.isLinear then
    let block : Block α p.width ←
      match c.form with
      | .scalar => (c.linearRow p.columnPositions).map .ofRow
      | .vector => (c.linearRows p.columnPositions).map .ofRows
    return some (if c.sense == .greaterEqual then block.negated else block)
  else return none

/-- The constraints of a family, with their positions. -/
def family (p : Problem α) (family : Family) : List (Constraint α × Nat) :=
  (p.constraints.map Tagged.value).zipIdx.filter fun (c, _) => family.contains c.sense

/-- The blocks of a family, in the order of its constraints. -/
def blocks (p : Problem α) (family : Family) : Except Error (List (Block α p.width)) := do
  let found ← (p.family family).mapM fun (c, _) => p.block? c
  return found.filterMap id

/-- The matrix of a family and its bounds. -/
def matrices (p : Problem α) (family : Family) : Except Error (Matrix α × Tensor α) := do
  let blocks ← p.blocks family
  let ordered :=
    blocks.filter (·.form == .scalar) ++ blocks.filter (·.form == .vector)
  return (Matrix.stack p.width (ordered.map Block.rows),
    ← Block.joinBounds (ordered.map Block.bounds))

/-- The matrix of a family and its bounds, refused if there are no rows but some are
needed. -/
def matricesOr (p : Problem α) (family : Family) (allowEmpty : Bool) :
    Except Error (Matrix α × Tensor α) := do
  let (rows, bounds) ← p.matrices family
  if !allowEmpty && rows.rows == 0 then
    throw (match family with
      | .inequalities => .noInequalities p.name
      | .equalities => .noEqualities p.name)
  else return (rows, bounds)

/-- The notes on some constraints of a problem, up to the first one that is refused. -/
def notesOn (p : Problem α) : List (Constraint α × Nat) → List Note
  | [] => []
  | (c, k) :: rest =>
    match p.block? c with
    | .error _ => []
    | .ok none =>
      ⟨.detail, "Skipping constraint #" ++ toString k ++ " of problem " ++ p.name.shown ++
        ", it is not linear: " ++ c.text⟩ :: p.notesOn rest
    | .ok (some block) =>
      ⟨.trace, "Constraint #" ++ toString k ++ " of problem " ++ p.name.shown ++ " gives " ++
        toString block.rows.val.rows ++ " row(s)"⟩ :: p.notesOn rest

/-- The notes that the extraction of the matrix of a family leaves. -/
def notes (p : Problem α) (family : Family) : List Note := p.notesOn (p.family family)

end Problem

end QuadraticProgram
