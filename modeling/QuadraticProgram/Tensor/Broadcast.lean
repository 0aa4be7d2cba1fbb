import QuadraticProgram.Error
import QuadraticProgram.Tensor

/-!
# Arrays spread to a common shape

Two arrays are combined entry by entry after both are spread to one shape: their axes are
matched from the last one on, an axis of one item is repeated, and an array with fewer axes is
repeated along the others.
-/

namespace QuadraticProgram.Tensor

/-- The common shape of two shapes whose first sizes belong to the last axes. -/
def commonReversed? : List Nat → List Nat → Option (List Nat)
  | [], ms => some ms
  | ns, [] => some ns
  | n :: ns, m :: ms =>
    if n = m ∨ m = 1 then (commonReversed? ns ms).map (n :: ·)
    else if n = 1 then (commonReversed? ns ms).map (m :: ·)
    else none

/-- The common shape of two shapes, if there is one. -/
def commonShape? (s t : List Nat) : Option (List Nat) :=
  (commonReversed? s.reverse t.reverse).map List.reverse

/-- The common shape of some shapes, if there is one. -/
def commonShapeOf? (shapes : List (List Nat)) : Option (List Nat) :=
  shapes.foldlM commonShape? []

/-- The number of entries of a shape. -/
def size (shape : List Nat) : Nat := shape.foldl (· * ·) 1

/-- Entries of a shape repeated along the axes of a shape with the same number of axes. -/
def repeated {β : Type} : List Nat → List Nat → List β → List β
  | n :: ns, m :: ms, xs =>
    let item (i : Nat) : List β :=
      repeated ns ms ((xs.drop ((if n = 1 then 0 else i) * size ns)).take (size ns))
    (List.range m).flatMap item
  | _, _, xs => xs

/-- Entries of a shape spread to a shape with at least as many axes. -/
def spreadTo {β : Type} (source target : List Nat) (xs : List β) : List β :=
  if source = target then xs
  else repeated (List.replicate (target.length - source.length) 1 ++ source) target xs

/-- The shape and the entries of two arrays combined. -/
def combined? {β γ δ : Type} (f : β → γ → δ) (s : List Nat) (xs : List β) (t : List Nat)
    (ys : List γ) : Option (List Nat × List δ) :=
  (commonShape? s t).map fun shape =>
    (shape, List.zipWith f (spreadTo s shape xs) (spreadTo t shape ys))

variable {α : Type}

/-- Two arrays combined entry by entry. -/
def combine (f : α → α → α) (t u : Tensor α) : Except Error (Tensor α) :=
  match combined? f t.shape t.entries u.shape u.entries with
  | some (shape, entries) => .ok ⟨shape, entries⟩
  | none => .error (.shapesDiffer [t.shape, u.shape])

end QuadraticProgram.Tensor
