/-!
# Positions in a sequence

A position counts from the beginning of a sequence or, if it is negative, from its end. A
slice takes every position of an interval that is a multiple of a step away from its start.
-/

namespace QuadraticProgram

/-- The index that a position stands for in a sequence of a given length. -/
def position? (i : Int) (length : Nat) : Option Nat :=
  if 0 ≤ i then if i < length then some i.toNat else none
  else if -i ≤ length then some (length - (-i).toNat) else none

/-- A position is less than the length. -/
theorem position?_lt {i : Int} {length k : Nat} (h : position? i length = some k) :
  k < length
  := by
  unfold position? at h
  split at h <;> split at h <;> simp at h <;> omega

/-- An index that is not negative is its own position. -/
theorem position?_natCast {k length : Nat} (h : k < length) :
  position? k length = some k
  := by
  simp [position?, h]

/-- A position from the end is one from the beginning, counted round the sequence. -/
theorem position?_eq_emod {i : Int} {length : Nat} (hlow : -length ≤ i) (hhigh : i < length) :
  position? i length = some (i % length).toNat
  := by
  by_cases h : 0 ≤ i
  · rw [position?, if_pos h, if_pos hhigh, Int.emod_eq_of_lt h hhigh]
  · have hround : i % length = i + length := by
      rw [← Int.add_emod_right, Int.emod_eq_of_lt (by omega) (by omega)]
    rw [position?, if_neg h, if_pos (by omega), hround]
    congr 1
    omega

/-- An index out of range has no position. -/
theorem position?_eq_none {i : Int} {length : Nat} (h : i < -length ∨ length ≤ i) :
  position? i length = none
  := by
  rw [position?]
  split
  · rw [if_neg (by omega)]
  · rw [if_neg (by omega)]

/-- Whether an integer is beyond the positions that any sequence can have. -/
def isBeyondPositions (i : Int) : Bool :=
  let most : Nat := Nat.pow 2 63
  i < -(most : Int) || (most : Int) ≤ i

/-- An interval of positions and a step, each of which may be left out. -/
structure Slice where
  start? : Option Int
  stop? : Option Int
  step? : Option Int
deriving DecidableEq, BEq

namespace Slice

/-- An end of an interval, counted from the beginning and moved between two bounds. -/
def clamp (i : Int) (length : Nat) (lo hi : Int) : Int :=
  max lo (min hi (if i < 0 then i + length else i))

/-- The indices that a slice takes from a sequence, in its order; none if the step is
zero. -/
def indices? (s : Slice) (length : Nat) : Option (List Nat) :=
  let step := s.step?.getD 1
  if step = 0 then none
  else if 0 < step then
    let start := (s.start?.map (clamp · length 0 length)).getD 0
    let stop := (s.stop?.map (clamp · length 0 length)).getD length
    some ((List.range length).filter fun (k : Nat) =>
      start ≤ k && k < stop && ((k : Int) - start) % step == 0)
  else
    let start := (s.start?.map (clamp · length (-1) (length - 1))).getD (length - 1)
    let stop := (s.stop?.map (clamp · length (-1) (length - 1))).getD (-1)
    some ((List.range length).reverse.filter fun (k : Nat) =>
      stop < k && k ≤ start && (start - (k : Int)) % step == 0)

/-- The items that a slice takes; none if the step is zero. -/
def of? {β : Type} (s : Slice) (xs : List β) : Option (List β) :=
  (s.indices? xs.length).map fun is => is.filterMap (xs[·]?)

end Slice

end QuadraticProgram
