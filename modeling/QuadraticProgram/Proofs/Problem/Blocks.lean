import QuadraticProgram.Proofs.Constraint.Satisfaction
import QuadraticProgram.Proofs.Problem.BlockSizes

/-!
# Blocks of rows

A block holds at a point by columns if its rows stand in a sense to its bounds there. A block
with all signs changed holds in the mirrored sense, so a block that is signed for its family
holds in the sense of the family if it held in its own. Blocks one below the other hold if each
of them does.
-/

namespace QuadraticProgram

open Coefficient

/-- The sense in which the rows of a family stand to their bounds. -/
def Family.sense : Family → Sense
  | inequalities => .lessEqual
  | equalities => .equal

namespace Block

variable {width : ℕ} {s : Sense} {y : List ℚ} {b : Block ℚ width}

/-- Whether the rows of a block stand in a sense to its bounds at a point by columns. -/
def Holds (s : Sense) (y : List ℚ) (b : Block ℚ width) : Prop :=
  s.HoldsAll (b.rows.val.mulVec y) b.bounds.entries

/-! ### Signs -/

/-- A block with the opposite signs holds the other way around. -/
theorem holds_negated :
  b.negated.Holds .lessEqual y ↔ b.Holds .greaterEqual y
  := by
  rw [Holds, Holds, negated, Matrix.mulVec_map_neg, Tensor.map, Sense.holdsAll_iff,
    Sense.holdsAll_iff, List.length_map, List.length_map]
  apply and_congr_right
  intro _
  apply forall₂_congr
  intro i _
  rw [getD_map_neg, getD_map_neg, Sense.holds_neg]

/-- A block with the signs of its sense holds in its family exactly if it holds in its sense. -/
theorem holds_signed {f : Family} (hf : f.contains s = true) :
  (b.signed s).Holds f.sense y ↔ b.Holds s y
  := by
  cases f with
  | inequalities =>
      cases s with
      | lessEqual => rfl
      | greaterEqual => apply holds_negated
      | equal => cases hf
  | equalities =>
      cases s with
      | equal => rfl
      | _ => cases hf

/-- What a block says if its rows less their bounds are differences of two sides. -/
theorem Sized.holds_iff (h : b.Sized) {l r : ℕ → ℚ}
    (hlr : ∀ i < b.rows.val.rows,
      (b.rows.val.mulVec y).getD i 0 - b.bounds.entries.getD i 0 = l i - r i) :
  b.Holds s y ↔ ∀ i < b.rows.val.rows, s.holds (l i) (r i) = true
  := by
  rw [Holds, Sense.holdsAll_iff, Matrix.length_mulVec, h.length_eq]
  simp only [true_and]
  apply forall₂_congr
  intro i hi
  apply s.holds_of_sub_eq (hlr i hi)

/-! ### Blocks of constraints -/

/-- The block of a row holds exactly if the constraint does whose difference of sides it gives. -/
theorem holds_ofRow {r : LinearRow ℚ width} {t l k : ℚ} (ht : r.bound = .single t)
    (h : dot r.coefficients y - t = l - k) :
  (ofRow r).Holds s y ↔ s.holds l k = true
  := by
  rw [(sized_ofRow ht).holds_iff (l := fun _ => l) (r := fun _ => k)]
  · constructor
    · intro hholds
      apply hholds 0 Nat.zero_lt_one
    · intro hholds i _
      apply hholds
  · intro i hi
    obtain rfl : i = 0 := Nat.lt_one_iff.mp hi
    rcases r with ⟨coefficients, bound, hlength⟩
    cases ht
    apply h

/-- The block of several rows holds exactly if the constraint does whose differences they give. -/
theorem holds_ofRows {r : LinearRows ℚ width} {ts : List ℚ} {l k : ℕ → ℚ}
    (ht : r.bound = .list ts) (hl : ts.length = r.coefficients.rows)
    (h : ∀ i < r.coefficients.rows,
      (r.coefficients.mulVec y).getD i 0 - ts.getD i 0 = l i - k i) :
  (ofRows r).Holds s y ↔ ∀ i < r.coefficients.rows, s.holds (l i) (k i) = true
  := by
  apply (sized_ofRows ht hl).holds_iff
  rcases r with ⟨coefficients, bound, hlength⟩
  cases ht
  apply h

/-! ### Blocks one below the other -/

/-- Blocks hold one below the other if each of them does. -/
theorem holdsAll_stack {bs : List (Block ℚ width)} (h : ∀ b ∈ bs, b.Sized) :
  s.HoldsAll ((Matrix.stack width (bs.map rows)).mulVec y)
      (bs.flatMap fun b => b.bounds.entries)
    ↔ ∀ b ∈ bs, b.Holds s y
  := by
  induction bs with
  | nil => simp [Sense.HoldsAll, Matrix.stack, Matrix.mulVec]
  | cons b bs ih =>
      rw [List.forall_mem_cons] at h
      rw [Matrix.mulVec_stack] at ih ⊢
      rw [List.map_cons, List.flatMap_cons, List.flatMap_cons, Sense.holdsAll_append, ih h.2,
        List.forall_mem_cons, Holds]
      rw [Matrix.length_mulVec, h.1.length_eq]

end Block

end QuadraticProgram
