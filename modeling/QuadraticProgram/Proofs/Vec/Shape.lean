import QuadraticProgram.Proofs.Alignment
import QuadraticProgram.Vec.Algebra

/-!
# Shapes of vectors

Lengths, orientations and variables of the results of operations on vectors, over coefficients
of any type. Two vectors are added exactly if they have the same length and orientation.
-/

namespace QuadraticProgram.Vec

open QuadraticProgram.Alignment

variable {α : Type} [Coefficient α] {u v w : Vec α}

omit [Coefficient α] in
/-- Vectors have one shape if their lengths and their orientations are equal. -/
theorem requireSameShape_eq_ok_iff {operation : Operation} :
  u.requireSameShape operation v = .ok () ↔ u.length = v.length ∧ u.orientation = v.orientation
  := by
  rw [requireSameShape]
  by_cases hl : u.length = v.length
  · by_cases ho : u.orientation = v.orientation
    · simp [hl, ho]
    · simp [hl, ho]
  · simp [hl]

omit [Coefficient α] in
/-- The dimensions are read off the length and the orientation. -/
theorem dimensions_congr (hl : u.length = v.length) (ho : u.orientation = v.orientation) :
  u.dimensions = v.dimensions
  := by
  rw [dimensions, dimensions, hl, ho]

/-- The affine form of a vector is over the variables of the vector. -/
theorem vars_toAffine (v : Vec α) :
  v.toAffine.vars = v.vars
  := by
  rcases v with ⟨entries, o⟩
  cases entries <;> rfl

/-! ### Multiples and parts -/

/-- A multiple has as many entries. -/
@[simp]
theorem length_scale (a : α) (v : Vec α) :
  (v.scale a).length = v.length
  := by
  rcases v with ⟨entries, o⟩
  cases entries <;> simp [scale, length]

@[simp]
theorem orientation_scale (a : α) (v : Vec α) :
  (v.scale a).orientation = v.orientation
  := by
  rcases v with ⟨entries, o⟩
  cases entries <;> rfl

@[simp]
theorem vars_scale (a : α) (v : Vec α) :
  (v.scale a).vars = v.vars
  := by
  rcases v with ⟨entries, o⟩
  cases entries <;> rfl

/-- The variable part has as many entries. -/
@[simp]
theorem length_variablePart (v : Vec α) :
  v.variablePart.length = v.length
  := by
  rcases v with ⟨entries, o⟩
  cases entries <;> simp [variablePart, length]

@[simp]
theorem orientation_variablePart (v : Vec α) :
  v.variablePart.orientation = v.orientation
  := by
  rcases v with ⟨entries, o⟩
  cases entries <;> rfl

@[simp]
theorem vars_variablePart (v : Vec α) :
  v.variablePart.vars = v.vars
  := by
  rcases v with ⟨entries, o⟩
  cases entries <;> rfl

/-- The constant part has as many entries. -/
@[simp]
theorem length_constantPart (v : Vec α) :
  v.constantPart.length = v.length
  := v.length_constant

/-! ### Sums -/

/-- Only vectors of one shape have a sum. -/
theorem sameShape_of_add (h : u.add v = .ok w) :
  u.length = v.length ∧ u.orientation = v.orientation
  := by
  obtain ⟨⟨⟩, hshape, -⟩ := Outcome.bind_eq_ok_iff.mp h
  apply requireSameShape_eq_ok_iff.mp hshape

/-- A sum is over the variables of both summands and has their shape. -/
theorem exists_add_of_sameShape (hl : u.length = v.length) (ho : u.orientation = v.orientation) :
  ∃ w, u.add v = .ok w ∧ distinct w.vars = distinct (u.vars ++ v.vars) ∧ w.length = u.length
    ∧ w.orientation = u.orientation
  := by
  have hshape : u.requireSameShape .plus v = .ok () := requireSameShape_eq_ok_iff.mpr ⟨hl, ho⟩
  have hconst : u.constant.length = v.constant.length := by
    rw [length_constant, length_constant, hl]
  have haffine : ∃ w, (if h : u.constant.length = v.constant.length then
        pure ⟨.affine (affineSum u.toAffine v.toAffine h), u.orientation⟩
      else throw (.dimensionMismatch .plus u.dimensions v.dimensions) : Except Error (Vec α))
      = .ok w ∧ distinct w.vars = distinct (u.vars ++ v.vars) ∧ w.length = u.length
        ∧ w.orientation = u.orientation := by
    use ⟨.affine (affineSum u.toAffine v.toAffine hconst), u.orientation⟩
    rw [dif_pos hconst]
    use rfl
    constructor
    · rw [← vars_toAffine u, ← vars_toAffine v]
      apply distinct_distinct
    · constructor
      · have hlength : (List.zipWith (· + ·) u.constant v.constant).length = u.length := by
          rw [List.length_zipWith, ← hconst, min_self, length_constant]
        apply hlength
      · rfl
  rcases u with ⟨entries, o⟩
  rcases v with ⟨entries', o'⟩
  rw [add, hshape, Outcome.ok_bind]
  cases entries with
  | const values =>
      cases entries' with
      | const values' =>
          use ⟨.const (List.zipWith (· + ·) values values'), o⟩, rfl, rfl
          constructor
          · exact (List.length_zipWith).trans (min_eq_left hl.le)
          · rfl
      | _ => exact haffine
  | _ => exact haffine

end QuadraticProgram.Vec
