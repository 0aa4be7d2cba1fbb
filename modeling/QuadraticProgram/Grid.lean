import QuadraticProgram.Vec.Text

/-!
# Grids of variables

Variables in rows and columns, kept row by row. `Grid.at?` refuses positions outside the
grid; `Grid.row` and `Grid.column` read the sequence of variables at the positions that they
compute, which may count from its end.
-/

namespace QuadraticProgram

/-- A grid of variables. -/
@[ext]
structure Grid where
  elements : List Variable
  rows : Nat
  columns : Nat
  length_elements : elements.length = rows * columns

namespace Grid

/-- The grid of some variables with the given numbers of rows and of columns. -/
def make? (elements : List Variable) (rows columns : Int) : Except Error Grid :=
  if h : 0 ≤ rows ∧ 0 ≤ columns ∧ (elements.length : Int) = rows * columns then
    .ok ⟨elements, rows.toNat, columns.toNat, by
      apply Int.ofNat.inj
      rw [Int.ofNat_eq_natCast, h.2.2, Int.ofNat_eq_natCast, Int.natCast_mul,
        Int.toNat_of_nonneg h.1, Int.toNat_of_nonneg h.2.1]⟩
  else .error (.gridSize rows columns elements.length)

/-- The variable in a row and a column. -/
def at? (g : Grid) (i j : Int) : Except Error Variable :=
  if 0 ≤ i ∧ i < g.rows ∧ 0 ≤ j ∧ j < g.columns then
    match g.elements[i.toNat * g.columns + j.toNat]? with
    | some v => .ok v
    | none => .error .positionOutOfRange
  else .error (.gridPosition i j g.rows g.columns)

/-- The variables from the first position of a row up to the first one of the next row. -/
def rowVariables (g : Grid) (i : Int) : List Variable :=
  let start := i * g.columns
  ((⟨some start, some (start + g.columns), none⟩ : Slice).of? g.elements).getD []

/-- The variable at a position, which may count from the end. -/
def element (g : Grid) (position : Int) : Except Error Variable :=
  match (position? position g.elements.length).bind (g.elements[·]?) with
  | some v => .ok v
  | none =>
    .error (if isBeyondPositions position then .beyondPositions else .positionOutOfRange)

/-- The variables at the positions of a column. -/
def columnVariables (g : Grid) (j : Int) : Except Error (List Variable) :=
  (List.range g.rows).mapM fun (i : Nat) => g.element (i * g.columns + j)

/-- The variables of the transposed grid, row by row. -/
def transposedElements (g : Grid) : List Variable :=
  (List.range g.columns).flatMap fun j =>
    (List.range g.rows).filterMap fun i => g.elements[i * g.columns + j]?

/-- A row and a column of a grid have a position among its variables. -/
theorem position_lt (g : Grid) {i j : Nat} (hi : i < g.rows) (hj : j < g.columns) :
  i * g.columns + j < g.elements.length
  := by
  rw [g.length_elements]
  calc i * g.columns + j < i * g.columns + g.columns := by omega
    _ = (i + 1) * g.columns := by rw [Nat.succ_mul]
    _ ≤ g.rows * g.columns := Nat.mul_le_mul_right _ hi

/-- The items that are found are all of them if none is missing. -/
theorem map_some_filterMap {β γ : Type} {f : β → Option γ} {xs : List β}
    (h : ∀ x ∈ xs, (f x).isSome) :
  (xs.filterMap f).map some = xs.map f
  := by
  induction xs with
  | nil => rfl
  | cons x xs ih =>
      obtain ⟨y, hy⟩ := Option.isSome_iff_exists.1 (h x List.mem_cons_self)
      rw [List.filterMap_cons_some hy, List.map_cons, List.map_cons, hy,
        ih fun z hz => h z (List.mem_cons_of_mem _ hz)]

/-- A row of the transposed grid has a variable for each row of the grid. -/
theorem map_some_transposedRow (g : Grid) {j : Nat} (hj : j < g.columns) :
  ((List.range g.rows).filterMap fun i => g.elements[i * g.columns + j]?).map some
    = (List.range g.rows).map fun i => g.elements[i * g.columns + j]?
  := by
  apply map_some_filterMap
  intro i hi
  rw [List.getElem?_eq_getElem (g.position_lt (List.mem_range.1 hi) hj)]
  rfl

theorem length_transposedRow (g : Grid) {j : Nat} (hj : j < g.columns) :
  ((List.range g.rows).filterMap fun i => g.elements[i * g.columns + j]?).length = g.rows
  := by
  have h := congrArg List.length (g.map_some_transposedRow hj)
  rwa [List.length_map, List.length_map, List.length_range] at h

theorem length_transposedElements (g : Grid) :
  g.transposedElements.length = g.columns * g.rows
  := by
  have lengths : (List.range g.columns).map (fun j =>
      ((List.range g.rows).filterMap fun i => g.elements[i * g.columns + j]?).length)
        = List.replicate g.columns g.rows := by
    rw [List.eq_replicate_iff, List.length_map, List.length_range]
    constructor
    · rfl
    · intro n hn
      obtain ⟨j, hj, rfl⟩ := List.mem_map.1 hn
      apply g.length_transposedRow (List.mem_range.1 hj)
  rw [transposedElements, List.length_flatMap, lengths, List.sum_replicate_nat]

/-- Rows and columns exchanged. -/
def transpose (g : Grid) : Grid :=
  ⟨g.transposedElements, g.columns, g.rows, g.length_transposedElements⟩

variable {α : Type} [Coefficient α]

/-- A row, as a row vector. -/
def row (g : Grid) (i : Int) : Vec α := ⟨.vars (g.rowVariables i), .row⟩

/-- A column, as a column vector. -/
def column (g : Grid) (j : Int) : Except Error (Vec α) := do
  return ⟨.vars (← g.columnVariables j), .column⟩

/-- All the rows. -/
def rowVectors (g : Grid) : List (Vec α) := (List.range g.rows).map fun (i : Nat) => g.row i

/-- All the columns. -/
def columnVectors (g : Grid) : Except Error (List (Vec α)) :=
  (List.range g.columns).mapM fun (j : Nat) => g.column j

/-- All the variables, row by row, as a column. -/
def flatten (g : Grid) : Vec α := ⟨.vars g.elements, .column⟩

/-- A grid as it is printed, a row on each line. -/
def text (g : Grid) : String :=
  "\n".intercalate ((g.rowVectors : List (Vec Float)).map Vec.text)

/-- A grid inside a message. -/
def shown (g : Grid) : String :=
  "VarMatrix(" ++ Scalar.varsShown g.elements ++ ", " ++ Text.shape [g.rows, g.columns] ++ ")"

end Grid

end QuadraticProgram
