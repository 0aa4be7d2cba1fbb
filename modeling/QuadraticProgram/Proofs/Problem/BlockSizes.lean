import Mathlib.Algebra.BigOperators.Group.List.Basic
import Mathlib.Algebra.GroupWithZero.Nat
import Mathlib.Data.List.GetD
import QuadraticProgram.Problem.Matrices

/-!
# Sizes of blocks

A block is sized if it has one bound for each of its rows (`Block.Sized`). To change its signs
keeps its sizes. Arrays of bounds can be joined if any two of them can
(`Block.exists_joinBounds_iff`), as those of sized blocks always can.
-/

namespace QuadraticProgram.Block

variable {α : Type} {width : ℕ}

/-- A block with one bound for each of its rows. -/
structure Sized (b : Block α width) : Prop where
  shape_eq : b.bounds.shape = [b.rows.val.rows]
  length_eq : b.bounds.entries.length = b.rows.val.rows

/-! ### Signs -/

section Signs

variable [Coefficient α]

/-- The block of a constraint as it stands in the matrix of its family. -/
def signed (s : Sense) (b : Block α width) : Block α width :=
  if s == .greaterEqual then b.negated else b

theorem rows_signed (s : Sense) (b : Block α width) :
  (b.signed s).rows.val.rows = b.rows.val.rows
  := by
  rw [signed]
  split
  · apply Matrix.rows_map
  · rfl

theorem shape_signed (s : Sense) (b : Block α width) :
  (b.signed s).bounds.shape = b.bounds.shape
  := by
  rw [signed]
  split
  · rfl
  · rfl

theorem length_entries_signed (s : Sense) (b : Block α width) :
  (b.signed s).bounds.entries.length = b.bounds.entries.length
  := by
  rw [signed]
  split
  · apply List.length_map
  · rfl

/-- A change of sign keeps the sizes of a block in step. -/
theorem sized_signed_iff {s : Sense} {b : Block α width} :
  (b.signed s).Sized ↔ b.Sized
  := by
  constructor
  · rintro ⟨hshape, hlength⟩
    rw [shape_signed, rows_signed] at hshape
    rw [length_entries_signed, rows_signed] at hlength
    use hshape, hlength
  · rintro ⟨hshape, hlength⟩
    constructor
    · rw [shape_signed, rows_signed, hshape]
    · rw [length_entries_signed, rows_signed, hlength]

end Signs

/-! ### Blocks of constraints -/

/-- The block of a scalar constraint has a single row. -/
theorem rows_ofRow (r : LinearRow α width) :
  (ofRow r).rows.val.rows = 1
  := rfl

/-- A row with a number for its bound is in step with it. -/
theorem sized_ofRow {r : LinearRow α width} {t : α} (ht : r.bound = .single t) :
  (ofRow r).Sized
  := by
  rcases r with ⟨coefficients, bound, hlength⟩
  cases ht
  constructor
  · rfl
  · rfl

/-- A row with several bounds has them beside each other, on an axis of their own. -/
theorem shape_ofRow_list {r : LinearRow α width} {ts : List α} (ht : r.bound = .list ts) :
  (ofRow r).bounds.shape = [1, ts.length]
  := by
  rcases r with ⟨coefficients, bound, hlength⟩
  cases ht
  rfl

/-- Rows with as many bounds are in step with them. -/
theorem sized_ofRows {r : LinearRows α width} {ts : List α} (ht : r.bound = .list ts)
    (hl : ts.length = r.coefficients.rows) :
  (ofRows r).Sized
  := by
  rcases r with ⟨coefficients, bound, hlength⟩
  cases ht
  constructor
  · exact congrArg (fun n => [n]) hl
  · apply hl

theorem length_entries_ofRows {r : LinearRows α width} {ts : List α} (ht : r.bound = .list ts) :
  (ofRows r).bounds.entries.length = ts.length
  := by
  rcases r with ⟨coefficients, bound, hlength⟩
  cases ht
  rfl

/-! ### Blocks one below the other -/

/-- Blocks that are stacked have the rows of all of them. -/
theorem rows_stack (bs : List (Block α width)) :
  (Matrix.stack width (bs.map rows)).rows = (bs.map fun b => b.rows.val.rows).sum
  := by
  rw [Matrix.stack, Matrix.rows, List.length_flatMap, List.map_map]
  rfl

/-- Whether two arrays can be joined along their first axis. -/
def Joinable (t u : Tensor α) : Prop := t.axes = u.axes ∧ t.shape.getD 1 0 = u.shape.getD 1 0

/-- Lists of numbers can always be joined. -/
theorem joinable_of_single {t u : Tensor α} (ht : t.shape.length = 1) (hu : u.shape.length = 1) :
  Joinable t u
  := by
  constructor
  · rw [Tensor.axes, Tensor.axes, ht, hu]
  · rw [List.getD_eq_default _ _ (Nat.le_of_eq ht), List.getD_eq_default _ _ (Nat.le_of_eq hu)]

/-- Arrays of one shape can be joined. -/
theorem joinable_of_shape_eq {t u : Tensor α} {s : List ℕ} (ht : t.shape = s) (hu : u.shape = s) :
  Joinable t u
  := by
  rw [Joinable, Tensor.axes, Tensor.axes, ht, hu]
  use rfl

/-- Arrays are joined unless one of them does not fit the first one. -/
theorem joinError?_eq_none_iff {first : Tensor α} {k : ℕ} {ts : List (Tensor α)} :
  joinError? first k ts = none ↔ ∀ t ∈ ts, Joinable t first
  := by
  induction ts generalizing k with
  | nil => simp [joinError?]
  | cons t ts ih =>
      rw [joinError?, List.forall_mem_cons, ← ih (k := k + 1)]
      split_ifs with haxes hsize
      · apply iff_of_false nofun
        rintro ⟨h, -⟩
        apply haxes h.1
      · apply iff_of_false nofun
        rintro ⟨h, -⟩
        apply hsize h.2
      · have hfirst : Joinable t first := ⟨not_not.mp haxes, not_not.mp hsize⟩
        simp only [hfirst, true_and]

/-- Arrays can be joined if any two of them can. -/
theorem exists_joinBounds_iff {ts : List (Tensor α)} :
  (∃ whole, joinBounds ts = .ok whole) ↔ ∀ t ∈ ts, ∀ u ∈ ts, Joinable t u
  := by
  cases ts with
  | nil => simp [joinBounds]
  | cons first ts =>
      have hjoin : (∃ whole, joinBounds (first :: ts) = .ok whole)
          ↔ joinError? first 1 ts = none := by
        rw [joinBounds]
        cases joinError? first 1 ts <;> simp
      rw [hjoin, joinError?_eq_none_iff]
      constructor
      · intro h
        have hfirst : ∀ t ∈ first :: ts, Joinable t first := by
          rw [List.forall_mem_cons]
          use ⟨rfl, rfl⟩, h
        intro t ht u hu
        use (hfirst t ht).1.trans (hfirst u hu).1.symm
        apply (hfirst t ht).2.trans (hfirst u hu).2.symm
      · intro h t ht
        apply h t (List.mem_cons_of_mem _ ht) first List.mem_cons_self

/-- The bounds of blocks whose sizes are in step are as many as their rows. -/
theorem foldl_length (bs : List (Block α width)) (h : ∀ b ∈ bs, b.Sized) (n : ℕ) :
  (bs.map bounds).foldl (fun n t => n + t.length) n
    = n + (bs.map fun b => b.rows.val.rows).sum
  := by
  induction bs generalizing n with
  | nil => rfl
  | cons b bs ih =>
      rw [List.forall_mem_cons] at h
      rw [List.map_cons, List.foldl_cons, ih h.2, List.map_cons, List.sum_cons, Tensor.length,
        h.1.shape_eq, List.headD_cons, add_assoc]

/-- Bounds that are one for each row can be joined. -/
theorem exists_joinBounds {bs : List (Block α width)} (h : ∀ b ∈ bs, b.Sized) :
  ∃ t, joinBounds (bs.map bounds) = .ok t ∧ t.entries = bs.flatMap (fun b => b.bounds.entries)
    ∧ t.shape = [(Matrix.stack width (bs.map rows)).rows]
  := by
  have hlength := foldl_length bs h 0
  rw [zero_add, ← rows_stack] at hlength
  cases bs with
  | nil => exact ⟨_, rfl, rfl, rfl⟩
  | cons b bs =>
      have hshape := fun c hc => congrArg List.length (h c hc).shape_eq
      have hjoin : joinError? b.bounds 1 (bs.map bounds) = none := by
        apply joinError?_eq_none_iff.mpr
        intro t ht
        obtain ⟨c, hc, rfl⟩ := List.mem_map.mp ht
        apply joinable_of_single
        · apply hshape c (List.mem_cons_of_mem _ hc)
        · apply hshape b List.mem_cons_self
      use ⟨(((b :: bs).map bounds).foldl (fun n t => n + t.length) 0) :: b.bounds.shape.tail,
        ((b :: bs).map bounds).flatMap Tensor.entries⟩
      constructor
      · rw [List.map_cons, joinBounds, hjoin]
      · constructor
        · rw [List.flatMap_map]
        · rw [hlength, (h b List.mem_cons_self).shape_eq, List.tail_cons]

/-- The bounds of sized blocks have as many entries as the blocks have rows. -/
theorem length_flatMap_entries {bs : List (Block α width)} (h : ∀ b ∈ bs, b.Sized) :
  (bs.flatMap fun b => b.bounds.entries).length = (Matrix.stack width (bs.map rows)).rows
  := by
  rw [rows_stack, List.length_flatMap]
  apply congrArg List.sum
  apply List.map_congr_left
  intro b hb
  apply (h b hb).length_eq

end QuadraticProgram.Block
