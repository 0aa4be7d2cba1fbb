import QuadraticProgram.Position
import QuadraticProgram.Tensor.Broadcast

/-!
# Selections from arrays

An array is indexed by a list of indices, one for each axis from the first on
(`Tensor.select`). A position takes one item and a slice several; the fault of a slice is found
only at its axis. Both may be mixed with lists of positions, which are spread to one shape and
read side by side, and with masks, which stand for the positions where they hold. The axes of
the lists stand where the first of them stood, or in front if something else stands between
them. A selection is a shape and the place of each of its entries in the array.
-/

namespace QuadraticProgram

/-- How an array is indexed along an axis, or along several in the case of a mask. -/
inductive AxisIndex where
  | position (i : Int)
  | slice (s : Except Error Slice)
  | newAxis
  | positions (shape : List Nat) (items : List Int)
  | mask (shape : List Nat) (flags : List Bool)

/-- A shape and the places of its entries in an array. -/
structure Selection where
  shape : List Nat
  places : List Nat
  /-- Whether a single entry is meant, rather than an array without axes. -/
  isEntry : Bool

namespace AxisIndex

/-- The number of axes that an index is about. -/
def axes : AxisIndex → Nat
  | newAxis => 0
  | mask shape _ => shape.length
  | _ => 1

/-- Refuses a mask whose sizes are not those of its axes, which count from `axis`. -/
def checkMask (axis : Nat) : List Nat → List Nat → Except Error Unit
  | n :: ns, m :: ms =>
    if n = m then checkMask (axis + 1) ns ms else .error (.maskDiffers axis m n)
  | _, _ => .ok ()

/-- The coordinates along each axis of the places where a mask holds. -/
def coordinates : List Nat → List Nat → List (List Int)
  | [], _ => []
  | _ :: shape, places =>
    let size := Tensor.size shape
    places.map (fun p => ((p / size : Nat) : Int)) :: coordinates shape (places.map (· % size))

/-- The indices without masks: a mask is replaced by lists of positions, one for each axis. -/
def withoutMask (index : AxisIndex) : List AxisIndex :=
  match index with
  | mask [] flags =>
    [.positions [(flags.filter id).length] ((flags.filter id).map fun _ => 0)]
  | mask shape flags =>
    let places := (flags.zipIdx.filter Prod.fst).map Prod.snd
    (coordinates shape places).map (.positions [places.length])
  | index => [index]

/-- Whether an index is a mask without axes, which is about none. -/
def isFlag : AxisIndex → Bool
  | mask [] _ => true
  | _ => false

end AxisIndex

namespace Selection

/-- What an index contributes to a selection: an offset, an axis with an offset for each of
its items, or a list of positions with the axis that they are along. -/
inductive Part where
  | offset (n : Nat)
  | axis (offsets : List Nat)
  | list (shape : List Nat) (items : List Int) (axis size stride : Nat)

/-- The position of an item along an axis. -/
def item (i : Int) (axis size : Nat) : Except Error Nat :=
  match position? i size with
  | some k => .ok k
  | none => .error (.indexOutOfBounds i axis size)

/-- The parts of an index, for axes with sizes and strides that count from `axis`. -/
def parts (axis : Nat) : List (Nat × Nat) → List (AxisIndex × Bool) → Except Error (List Part)
  | axes, [] => .ok (axes.map fun (size, stride) => .axis ((List.range size).map (· * stride)))
  | axes, (.newAxis, _) :: rest => do return .axis [0] :: (← parts axis axes rest)
  | axes, (.positions shape items, true) :: rest => do
    return .list shape items axis 1 0 :: (← parts axis axes rest)
  | (size, stride) :: axes, (index, _) :: rest => do
    let part : Part ←
      match index with
      | .position i => do pure (.offset ((← item i axis size) * stride))
      | .slice s =>
        match (← s).indices? size with
        | some ks => pure (.axis (ks.map (· * stride)))
        | none => throw .zeroStep
      | .positions shape items => pure (.list shape items axis size stride)
      | .newAxis | .mask .. => pure (.axis [0])
    return part :: (← parts (axis + 1) axes rest)
  | [], _ :: _ => .ok []

/-- The sizes of the axes with the number of entries that lie between their items. -/
def strides : List Nat → List (Nat × Nat)
  | [] => []
  | n :: shape => (n, Tensor.size shape) :: strides shape

/-- The offsets of lists of positions spread to a common shape. -/
def listOffsets (shape : List Nat) : List Part → Except Error (List Nat)
  | [] => .ok (List.replicate (Tensor.size shape) 0)
  | .list own items axis size stride :: rest => do
    let ks ← items.mapM fun i => item i axis size
    let offsets := Tensor.spreadTo own shape (ks.map (· * stride))
    return List.zipWith (· + ·) offsets (← listOffsets shape rest)
  | _ :: rest => listOffsets shape rest

/-- Whether a part is an axis of its own. -/
def Part.isAxis : Part → Bool
  | .axis _ => true
  | _ => false

/-- The shape of a list of positions. -/
def Part.listShape? : Part → Option (List Nat)
  | .list shape .. => some shape
  | _ => none

/-- A shape and the offsets of its entries. -/
abbrev Block := List Nat × List Nat

/-- The block of an axis. -/
def Part.axisBlock? : Part → Option Block
  | .axis offsets => some ([offsets.length], offsets)
  | _ => none

/-- Two blocks, the second one inside each entry of the first. -/
def inside (a b : Block) : Block :=
  (a.1 ++ b.1, a.2.flatMap fun m => b.2.map (m + ·))

/-- The blocks of a selection in their order: lists of positions that stand side by side are
where the first of them is, and otherwise they are in front. -/
def blocks (ps : List Part) (lists : Block) : List Block :=
  let before := ps.takeWhile Part.isAxis
  let group := (ps.drop before.length).takeWhile fun p => !p.isAxis
  let after := ps.drop (before.length + group.length)
  if after.all Part.isAxis then
    before.filterMap Part.axisBlock? ++ lists :: after.filterMap Part.axisBlock?
  else lists :: ps.filterMap Part.axisBlock?

/-- The sum of the offsets that are not along an axis. -/
def base (ps : List Part) : Nat :=
  ps.foldl (fun n p => match p with | .offset m => n + m | _ => n) 0

end Selection

namespace Tensor

/-- What an index selects from an array of some shape. -/
def select (shape : List Nat) (index : List AxisIndex) : Except Error Selection := do
  let used := index.foldl (fun n i => n + i.axes) 0
  if shape.length < used then throw (.tooManyIndices shape.length used)
  let starts := index.foldl (fun (n, rows) i => (n + i.axes, rows ++ [(n, i)])) (0, [])
  starts.2.forM fun (axis, i) =>
    match i with
    | .mask own _ => AxisIndex.checkMask axis own (shape.drop axis)
    | _ => .ok ()
  let plain := index.flatMap fun i => i.withoutMask.map fun j => (j, i.isFlag)
  let ps ← Selection.parts 0 (Selection.strides shape) plain
  let shapes := ps.filterMap Selection.Part.listShape?
  let blocks ←
    if shapes.isEmpty then pure (ps.filterMap Selection.Part.axisBlock?)
    else
      match commonShapeOf? shapes with
      | none => throw (.indexShapesDiffer shapes)
      | some common =>
        let offsets ← Selection.listOffsets common ps
        pure (Selection.blocks ps (common, offsets))
  let (found, places) := blocks.foldl Selection.inside ([], [Selection.base ps])
  return ⟨found, places, shapes.isEmpty && ps.all fun p => !p.isAxis⟩

variable {α : Type} [Inhabited α]

/-- The entries that a selection takes. -/
def take (t : Tensor α) (s : Selection) : Tensor α :=
  let entries := t.entries.toArray
  ⟨s.shape, s.places.map fun p => entries.getD p default⟩

/-- An array with the entries of a selection replaced; of several entries at one place the last
remains. -/
def put (t : Tensor α) (s : Selection) (xs : List α) : Tensor α :=
  ⟨t.shape, ((s.places.zip xs).foldl (fun entries (p, x) => entries.setIfInBounds p x)
    t.entries.toArray).toList⟩

end Tensor

end QuadraticProgram
