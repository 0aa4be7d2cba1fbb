import Mathlib.Algebra.BigOperators.Group.Finset.Sigma
import Mathlib.Algebra.BigOperators.Ring.Finset
import Mathlib.Algebra.Field.Rat
import Mathlib.Algebra.Order.Ring.Rat
import Mathlib.Data.List.GetD
import Mathlib.Tactic.Linarith
import Mathlib.Tactic.Ring
import QuadraticProgram.Coefficient

/-!
# Exact sums

Over the rationals the total of a list and the sum of the products of two lists do not depend
on the order in which they are computed. They are sums over a range of positions, where an
entry beyond the end of a list counts as zero (`dot_eq_sum`).
-/

namespace QuadraticProgram.Coefficient

theorem half_eq :
  (half : ℚ) = 1 / 2
  := by
  rw [half]
  norm_num [instCoefficientRat, Rat.mkRat_eq_div]

/-- Over the rationals the order of a sum plays no part. -/
theorem total_eq_sum (xs : List ℚ) :
  total xs = xs.sum
  := by
  rw [total, List.sum_eq_foldl]

/-! ### Entries by position -/

/-- The sum of a list is the sum of its entries over any range that holds all positions. -/
theorem sum_eq_sum_range (xs : List ℚ) {n : ℕ} (h : xs.length ≤ n) :
  xs.sum = ∑ i ∈ Finset.range n, xs.getD i 0
  := by
  induction xs generalizing n with
  | nil => simp
  | cons x xs ih =>
      rw [List.length_cons] at h
      obtain ⟨m, rfl⟩ := Nat.exists_eq_add_one_of_ne_zero (Nat.ne_zero_of_lt h)
      rw [List.sum_cons, Finset.sum_range_succ', ih (Nat.le_of_succ_le_succ h), add_comm]
      rfl

/-- A list is determined by its length and its entries. -/
theorem eq_map_range {xs : List ℚ} {n : ℕ} {f : ℕ → ℚ} (hl : xs.length = n)
    (h : ∀ i < n, xs.getD i 0 = f i) :
  xs = (List.range n).map f
  := by
  apply List.ext_getElem
  · rw [hl, List.length_map, List.length_range]
  · intro i hi hi'
    rw [List.getElem_map, List.getElem_range, ← h i (hl ▸ hi), List.getD_eq_getElem _ _ hi]

/-- Lists of one length with equal entries are equal. -/
theorem eq_of_getD_eq {xs ys : List ℚ} (hl : xs.length = ys.length)
    (h : ∀ i < xs.length, xs.getD i 0 = ys.getD i 0) :
  xs = ys
  := by
  rw [eq_map_range hl.symm fun i hi => (h i hi).symm]
  apply eq_map_range rfl
  intro i _
  rfl

theorem getD_map_range (f : ℕ → ℚ) {n i : ℕ} (h : i < n) :
  ((List.range n).map f).getD i 0 = f i
  := by
  rw [List.getD_eq_getElem _ _ (by simpa using h), List.getElem_map, List.getElem_range]

/-- Lists are multiplied entry by entry, and beyond the shorter one there is zero. -/
theorem getD_zipWith_mul (xs ys : List ℚ) (i : ℕ) :
  (List.zipWith (· * ·) xs ys).getD i 0 = xs.getD i 0 * ys.getD i 0
  := by
  simp only [List.getD_eq_getElem?_getD, List.getElem?_zipWith]
  rcases xs[i]? with - | x
  · simp
  · rcases ys[i]? with - | y
    · simp
    · simp

/-- Two lists of one length are combined entry by entry. -/
theorem getD_zipWith {f : ℚ → ℚ → ℚ} (hf : f 0 0 = 0) {xs ys : List ℚ}
    (h : xs.length = ys.length) (i : ℕ) :
  (List.zipWith f xs ys).getD i 0 = f (xs.getD i 0) (ys.getD i 0)
  := by
  have hl : (List.zipWith f xs ys).length = xs.length := by
    simp [h]
  rcases lt_or_ge i xs.length with hi | hi
  · rw [List.getD_eq_getElem _ _ (hl ▸ hi), List.getD_eq_getElem _ _ hi,
      List.getD_eq_getElem _ _ (h ▸ hi), List.getElem_zipWith]
  · rw [List.getD_eq_default _ _ (hl ▸ hi), List.getD_eq_default _ _ hi,
      List.getD_eq_default _ _ (h ▸ hi), hf]

/-- Lists of one length are added entry by entry. -/
theorem getD_zipWith_add {xs ys : List ℚ} (h : xs.length = ys.length) (i : ℕ) :
  (List.zipWith (· + ·) xs ys).getD i 0 = xs.getD i 0 + ys.getD i 0
  := getD_zipWith (add_zero 0) h i

theorem getD_zipWith_sub {xs ys : List ℚ} (h : xs.length = ys.length) (i : ℕ) :
  (List.zipWith (· - ·) xs ys).getD i 0 = xs.getD i 0 - ys.getD i 0
  := getD_zipWith (sub_zero 0) h i

theorem getD_map_mul (a : ℚ) (xs : List ℚ) (i : ℕ) :
  (xs.map (a * ·)).getD i 0 = a * xs.getD i 0
  := by
  simp only [List.getD_eq_getElem?_getD, List.getElem?_map]
  rcases xs[i]? with - | x
  · simp
  · simp

theorem getD_map_neg (xs : List ℚ) (i : ℕ) :
  (xs.map (- ·)).getD i 0 = -xs.getD i 0
  := by
  simp only [List.getD_eq_getElem?_getD, List.getElem?_map]
  rcases xs[i]? with - | x
  · simp
  · simp

/-- The sum of the products of two lists over any range that holds all positions of the
first. -/
theorem dot_eq_sum (xs ys : List ℚ) {n : ℕ} (h : xs.length ≤ n) :
  dot xs ys = ∑ i ∈ Finset.range n, xs.getD i 0 * ys.getD i 0
  := by
  rw [dot, total_eq_sum, sum_eq_sum_range (n := n)]
  · apply Finset.sum_congr rfl
    intro i _
    apply getD_zipWith_mul
  · rw [List.length_zipWith]
    omega

/-- The order of two factors plays no part in a sum of products. -/
theorem dot_comm (xs ys : List ℚ) :
  dot xs ys = dot ys xs
  := by
  rw [dot, dot, List.zipWith_comm_of_comm mul_comm]

/-- A change of signs in one factor changes the sign of a sum of products. -/
theorem dot_map_neg (xs ys : List ℚ) :
  dot (xs.map (- ·)) ys = -dot xs ys
  := by
  rw [dot_eq_sum _ _ (List.length_map _).le, dot_eq_sum _ _ le_rfl, ← Finset.sum_neg_distrib]
  apply Finset.sum_congr rfl
  intro i _
  rw [getD_map_neg, neg_mul]

/-- A sum of products over positions. -/
theorem dot_map_range (f g : ℕ → ℚ) (n : ℕ) :
  dot ((List.range n).map f) ((List.range n).map g) = ∑ i ∈ Finset.range n, f i * g i
  := by
  rw [dot_eq_sum (n := n) _ _ (by simp)]
  apply Finset.sum_congr rfl
  intro i hi
  rw [getD_map_range f (Finset.mem_range.mp hi), getD_map_range g (Finset.mem_range.mp hi)]

end QuadraticProgram.Coefficient
