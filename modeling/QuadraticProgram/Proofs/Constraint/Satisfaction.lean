import QuadraticProgram.Constraint.Satisfaction
import QuadraticProgram.Proofs.Vec.Value

/-!
# Satisfied constraints

Whether two coefficients stand in a sense depends on their difference only. A constraint is
satisfied by an assignment that covers its variables if the values of its sides stand in its
sense, entry by entry for vectors (`Constraint.entries`).
-/

namespace QuadraticProgram

open QuadraticProgram.Alignment

/-! ### Senses -/

namespace Sense

/-- Coefficients with the same difference stand in the same senses. -/
theorem holds_of_sub_eq (s : Sense) {a b c d : ℚ} (h : a - b = c - d) :
  s.holds a b = true ↔ s.holds c d = true
  := by
  cases s with
  | lessEqual =>
      rw [holds, holds]
      simp only [Coefficient.atMost, decide_eq_true_eq]
      constructor
      · intro hab
        linarith
      · intro hcd
        linarith
  | greaterEqual =>
      rw [holds, holds]
      simp only [Coefficient.atMost, decide_eq_true_eq]
      constructor
      · intro hab
        linarith
      · intro hcd
        linarith
  | equal =>
      rw [holds, holds, beq_iff_eq, beq_iff_eq, ← sub_eq_zero, h, sub_eq_zero]

/-- What both sides are multiplied by so that a sense reads as an equality or an upper bound. -/
def sign : Sense → ℚ
  | lessEqual => 1
  | greaterEqual => -1
  | equal => 1

theorem sign_ne_zero (s : Sense) :
  s.sign ≠ 0
  := by
  cases s <;> norm_num [sign]

/-- A change of both signs turns an inequality around. -/
theorem holds_neg (a b : ℚ) :
  lessEqual.holds (-a) (-b) = true ↔ greaterEqual.holds a b = true
  := by
  rw [holds, holds]
  simp only [Coefficient.atMost, decide_eq_true_eq]
  apply neg_le_neg_iff

/-- Two lists stand in a sense if they have one length and their entries stand in it. -/
theorem holdsAll_iff {s : Sense} {xs ys : List ℚ} :
  s.HoldsAll xs ys
    ↔ xs.length = ys.length ∧ ∀ i < xs.length, s.holds (xs.getD i 0) (ys.getD i 0) = true
  := by
  apply and_congr_right
  intro hl
  have hzip : (xs.zip ys).length = xs.length := by
    rw [List.length_zip, ← hl, min_self]
  rw [List.forall_mem_iff_forall_getElem]
  constructor
  · intro h i hi
    have hp := h i (hzip.symm ▸ hi)
    rw [List.getElem_zip] at hp
    rw [List.getD_eq_getElem _ _ hi, List.getD_eq_getElem _ _ (hl ▸ hi), hp]
  · intro h i hi
    have hp := h i (hzip ▸ hi)
    rw [List.getD_eq_getElem _ _ (hzip ▸ hi), List.getD_eq_getElem _ _ (hl ▸ hzip ▸ hi)] at hp
    rw [List.getElem_zip, hp]

theorem holdsAll_singleton {s : Sense} {a b : ℚ} :
  s.HoldsAll [a] [b] ↔ s.holds a b = true
  := by
  simp [HoldsAll]

/-- A relation holds between two lists exactly if it does between their parts. -/
theorem holdsAll_append {s : Sense} {xs xs' ys ys' : List ℚ} (h : xs.length = ys.length) :
  s.HoldsAll (xs ++ xs') (ys ++ ys') ↔ s.HoldsAll xs ys ∧ s.HoldsAll xs' ys'
  := by
  rw [HoldsAll, List.zip_append h, List.forall_mem_append, List.length_append, List.length_append,
    h, Nat.add_left_cancel_iff]
  constructor
  · rintro ⟨hl, hxs, hxs'⟩
    use ⟨h, hxs⟩, hl, hxs'
  · rintro ⟨⟨-, hxs⟩, hl, hxs'⟩
    use hl, hxs, hxs'

end Sense

/-! ### Constraints -/

namespace Constraint

variable {sense : Sense} {s : ℕ → Option ℚ}

/-- A constraint whose sides have values is satisfied if these stand in its sense. -/
theorem satisfied_iff {α : Type} [Coefficient α] {c : Constraint α} {s : ℕ → Option α}
    {xs ys : List α} (hleft : c.lhs.values s = .ok xs) (hright : c.rhs.values s = .ok ys) :
  c.Satisfied s ↔ c.sense.HoldsAll xs ys
  := by
  constructor
  · rintro ⟨xs', ys', hxs, hys, h⟩
    cases hleft.symm.trans hxs
    cases hright.symm.trans hys
    apply h
  · intro h
    use xs, ys

/-- A comparison of scalar expressions is satisfied exactly if it holds between their values. -/
theorem satisfied_ofScalars_iff {a b : Scalar ℚ} (ha : Covers s a.vars) (hb : Covers s b.vars) :
  (ofScalars a sense b).Satisfied s
    ↔ sense.holds (a.valueAt (pointOf s)) (b.valueAt (pointOf s)) = true
  := by
  have hleft : (Expression.scalar a).values s = .ok [a.valueAt (pointOf s)] := by
    rw [Expression.values, Scalar.evaluate_eq_ok ha, Outcome.map_ok]
  have hright : (Expression.scalar b).values s = .ok [b.valueAt (pointOf s)] := by
    rw [Expression.values, Scalar.evaluate_eq_ok hb, Outcome.map_ok]
  rw [← Sense.holdsAll_singleton]
  apply satisfied_iff hleft hright

/-- A comparison of vectors is satisfied exactly if it holds between the values of all entries. -/
theorem satisfied_ofVectors_iff {u v : Vec ℚ} (hl : u.length = v.length) (hu : Covers s u.vars)
    (hv : Covers s v.vars) :
  (ofVectors u sense v).Satisfied s
    ↔ ∀ i < u.length,
        sense.holds (u.valueAt (pointOf s) i) (v.valueAt (pointOf s) i) = true
  := by
  have hleft : (Expression.vector u).values s
      = .ok ((List.range u.length).map (u.valueAt (pointOf s))) := Vec.evaluate_eq_ok hu
  have hright : (Expression.vector v).values s
      = .ok ((List.range v.length).map (v.valueAt (pointOf s))) := Vec.evaluate_eq_ok hv
  rw [satisfied_iff hleft hright, Sense.holdsAll_iff]
  simp only [List.length_map, List.length_range, ← hl, true_and]
  apply forall₂_congr
  intro i hi
  rw [Coefficient.getD_map_range _ hi, Coefficient.getD_map_range _ hi]
  rfl

/-! ### Entries -/

/-- The sides of a constraint entry by entry. -/
def entries {α : Type} [Coefficient α] (c : Constraint α) : List (Scalar α × Scalar α) :=
  match c.lhs, c.rhs with
  | .scalar a, .scalar b => [(a, b)]
  | .vector u, .vector v => u.toList.zip v.toList
  | _, _ => []

theorem entries_ofScalars {α : Type} [Coefficient α] (a b : Scalar α) :
  (ofScalars a sense b).entries = [(a, b)]
  := rfl

theorem entries_ofVectors {α : Type} [Coefficient α] {u v : Vec α} (h : u.length = v.length) :
  (ofVectors u sense v).entries
    = (List.finRange u.length).map fun (i : Fin u.length) =>
        (u.entry i i.isLt, v.entry i (h ▸ i.isLt))
  := by
  apply List.ext_getElem
  · simp [entries, ofVectors, Vec.toList, h]
  · intro i _ _
    simp [entries, ofVectors, Vec.toList]

/-- An assignment that covers the variables satisfies a constraint between vectors of one length
if it gives values in its sense to all entries. -/
theorem satisfied_ofVectors_iff_entries {u v : Vec ℚ} (hl : u.length = v.length)
    (hu : Covers s u.vars) (hv : Covers s v.vars) :
  (ofVectors u sense v).Satisfied s ↔ ∀ p ∈ (ofVectors u sense v).entries,
      sense.holds (p.1.valueAt (pointOf s)) (p.2.valueAt (pointOf s)) = true
  := by
  rw [satisfied_ofVectors_iff hl hu hv, entries_ofVectors hl, List.forall_mem_map]
  simp only [Vec.valueAt_entry, List.mem_finRange, forall_const, Fin.forall_iff]

end Constraint

end QuadraticProgram
