import QuadraticProgram.Operand
import QuadraticProgram.Proofs.Scalar.Canonical

/-!
# Expressions rebuilt from their parts

The functions that make forms from lists and arrays check the sizes of what they are given. They
accept the parts of every form that there is, and make the same form of them again
(`Expression.rebuilt_eq_ok`): coefficients without rows or columns included, and over the rationals
also the matrix of a quadratic form, which is made symmetric once more.
-/

namespace QuadraticProgram

variable {α : Type}

/-- Candidates that are variables are all accepted. -/
theorem Candidate.vars_map_variable (defect : String → Defect) (vs : List Variable) :
  Candidate.vars defect (vs.map .variable) = .ok vs
  := by
  induction vs with
  | nil => rfl
  | cons v vs ih =>
      rw [List.map_cons, Candidate.vars, ih]
      rfl

/-! ### Linear forms -/

/-- A linear form is made again of its own parts. -/
theorem LinearForm.make?_self (f : LinearForm α) :
  make? (f.vars.map .variable) (.ofList f.coeffs) f.const = .ok f
  := by
  have haxes : (Tensor.ofList f.coeffs).requireAxes "L" 1 = .ok () := rfl
  rw [make?, haxes, Outcome.ok_bind, Candidate.vars_map_variable, Outcome.ok_bind]
  exact dif_pos f.length_coeffs

/-! ### Matrices -/

variable [Coefficient α]

namespace Matrix

omit [Coefficient α] in
/-- Rows of one length are found in the flattened list. -/
theorem getD_flatten {rows : List (List α)} {cols : ℕ} (h : ∀ r ∈ rows, r.length = cols) (i : ℕ)
    {j : ℕ} (hj : j < cols) (a : α) :
  rows.flatten.getD (i * cols + j) a = (rows.getD i []).getD j a
  := by
  rw [List.getD_eq_getElem?_getD, getElem?_flatten h i hj, List.getD_eq_getElem?_getD,
    List.getD_eq_getElem?_getD]
  cases rows[i]? with
  | none => rfl
  | some r => rfl

/-- A matrix is read back from its array. -/
theorem ofTensor_toTensor {m : Matrix α} {rows cols : ℕ} (hr : m.rows = rows) (hc : m.cols = cols) :
  ofTensor rows cols m.toTensor.entries = m
  := by
  subst hr hc
  apply eq_of_entry_eq
  · apply rows_ofFn
  · rfl
  · intro i hi j hj
    have hj' : j < m.cols := hj
    rw [ofTensor, rows_ofFn] at hi
    rw [ofTensor, entry_ofFn _ hi hj', toTensor, getD_flatten m.length_row i hj, entry]

end Matrix

/-! ### Affine and quadratic forms -/

namespace AffineForm

/-- Without variables, coefficients without entries stand for a row of none for each constant. -/
theorem arrays?_of_blank (shape : List ℕ) (c? : Option (List α)) :
  arrays? true ⟨shape, []⟩ (c?.map .ofList)
    = .ok (⟨[(c?.getD []).length, 0], []⟩, .ofList (c?.getD []))
  := by
  cases c? with
  | none => rfl
  | some c => rfl

/-- Other coefficients are taken as they are. -/
theorem arrays?_of_not_blank {noVars : Bool} {entries : List α}
    (h : ¬ (entries.isEmpty && noVars) = true) (rows cols : ℕ) (c? : Option (List α)) :
  arrays? noVars ⟨[rows, cols], entries⟩ (c?.map .ofList)
    = .ok (⟨[rows, cols], entries⟩, .ofList (c?.getD (List.replicate rows 0)))
  := by
  cases c? with
  | none =>
      simp only [arrays?, if_neg h]
      rfl
  | some c =>
      simp only [arrays?, if_neg h]
      rfl

/-- With its arrays at hand a form is made if the coefficients have a row for each constant and
a column for each variable. -/
theorem make?_of_arrays? {vs : List Variable} {l l' : Tensor α} {c? : Option (Tensor α)}
    {consts : List α} (h : arrays? vs.isEmpty l c? = .ok (l', .ofList consts)) :
  make? (vs.map .variable) l c?
    = if l'.shape = [consts.length, vs.length] then
        .ok ⟨vs, Matrix.ofTensor consts.length vs.length l'.entries, consts,
          Matrix.rows_ofFn .., rfl⟩
      else .error (.malformed (.affineShape l'.shape consts.length vs.length))
  := by
  rw [make?, List.isEmpty_map, h, Outcome.ok_bind]
  simp only [Candidate.vars_map_variable, Outcome.ok_bind]
  rfl

/-- An affine form is made again of its own parts. -/
theorem make?_self (f : AffineForm α) :
  make? (f.vars.map .variable) f.coeffs.toTensor (some (.ofList f.consts)) = .ok f
  := by
  have hshape : f.coeffs.toTensor.shape = [f.consts.length, f.vars.length] :=
    congrArg₂ (fun n m => [n, m]) f.rows_coeffs f.cols_coeffs
  have harrays : arrays? f.vars.isEmpty f.coeffs.toTensor (some (.ofList f.consts))
      = .ok (f.coeffs.toTensor, .ofList f.consts) := by
    by_cases h : (f.coeffs.toTensor.entries.isEmpty && f.vars.isEmpty) = true
    · -- the row of none for each constant is what the coefficients are already
      rw [Bool.and_eq_true, List.isEmpty_iff, List.isEmpty_iff] at h
      obtain ⟨hentries, hvars⟩ := h
      have hblank : f.coeffs.toTensor = ⟨[f.consts.length, 0], []⟩ := by
        rw [hvars] at hshape
        exact congrArg₂ Tensor.mk hshape hentries
      rw [hblank, hvars]
      apply arrays?_of_blank _ (some f.consts)
    · apply arrays?_of_not_blank h _ _ (some f.consts)
  rw [make?_of_arrays? harrays, if_pos hshape]
  apply congrArg
  apply AffineForm.ext
  · rfl
  · apply Matrix.ofTensor_toTensor f.rows_coeffs f.cols_coeffs
  · rfl

end AffineForm

namespace QuadraticForm

/-- From arrays of the right sizes the form is made of what they hold. -/
theorem make?_eq_symmetrise? {vs : List Variable} {q : Matrix α} (l? : Option (List α))
    (hr : q.rows = vs.length) (hc : q.cols = vs.length)
    (hl : (l?.getD (List.replicate vs.length 0)).length = vs.length) (c : α) :
  make? (vs.map .variable) q.toTensor (l?.map .ofList) c
    = symmetrise? vs q (l?.getD (List.replicate vs.length 0)) c hr hc hl
  := by
  have hquad : q.toTensor.requireAxes "Q" 2 = .ok () := rfl
  have hcoeffs : (l?.map Tensor.ofList).getD (.ofList (List.replicate (vs.map
      Candidate.variable).length 0)) = .ofList (l?.getD (List.replicate vs.length 0)) := by
    rw [List.length_map]
    cases l? with
    | none => rfl
    | some l => rfl
  have haxes : (Tensor.ofList (l?.getD (List.replicate vs.length 0))).requireAxes "L" 1
      = .ok () := rfl
  have hshape : ¬ q.toTensor.shape ≠ [vs.length, vs.length] :=
    not_not.mpr (congrArg₂ (fun n m => [n, m]) hr hc)
  rw [make?, hquad, Outcome.ok_bind]
  simp only [hcoeffs, haxes, Outcome.ok_bind, Candidate.vars_map_variable, if_neg hshape]
  apply (dif_pos hl).trans
  exact symmetrise?_congr rfl (Matrix.ofTensor_toTensor hr hc) rfl rfl

/-- The matrix of a quadratic form is symmetric already, and stays as it is. -/
theorem symmetrise?_self (f : QuadraticForm ℚ) :
  symmetrise? f.vars f.quad f.coeffs f.const f.rows_quad f.cols_quad f.length_coeffs = .ok f
  := by
  have hsquare : f.quad.rows = f.quad.cols := by
    rw [f.rows_quad, f.cols_quad]
  rw [symmetrise?, dif_pos (Matrix.isSymmetric_symmetrised hsquare)]
  apply congrArg
  apply QuadraticForm.ext
  · rfl
  · apply Matrix.symmetrised_eq_self hsquare f.entry_comm
  · rfl
  · rfl

/-- A quadratic form is made again of its own parts. -/
theorem make?_self (f : QuadraticForm ℚ) :
  make? (f.vars.map .variable) f.quad.toTensor (some (.ofList f.coeffs)) f.const = .ok f
  := (make?_eq_symmetrise? (some f.coeffs) f.rows_quad f.cols_quad f.length_coeffs
    f.const).trans f.symmetrise?_self

end QuadraticForm

namespace Expression

/-- An expression that is made again from its own parts, which are checked. -/
def rebuilt : Expression α → Except Error (Expression α)
  | scalar (.const a) => .ok (scalar (.const a))
  | scalar (.var v) => .ok (scalar (.var v))
  | scalar (.linear f) =>
    (LinearForm.make? (f.vars.map .variable) (.ofList f.coeffs) f.const).map fun g =>
      scalar (.linear g)
  | scalar (.quadratic f) =>
    (QuadraticForm.make? (f.vars.map .variable) f.quad.toTensor (some (.ofList f.coeffs))
      f.const).map fun g => scalar (.quadratic g)
  | vector ⟨.const values, o⟩ => (Vec.ofTensor (.ofList values) o).map vector
  | vector ⟨.vars elements, o⟩ => (Vec.ofVariables (elements.map .variable) o).map vector
  | vector ⟨.affine f, o⟩ =>
    (AffineForm.make? (f.vars.map .variable) f.coeffs.toTensor (some (.ofList f.consts))).map
      fun g => vector ⟨.affine g, o⟩
  | matrix m =>
    if m.toTensor.axes = 2 then .ok (matrix (.ofArray m.toTensor))
    else .error (.malformed (.matrixAxes m.toTensor.shape))

/-- Every expression is accepted by the checks on its own parts. -/
theorem rebuilt_eq_ok (e : Expression ℚ) :
  e.rebuilt = .ok e
  := by
  cases e with
  | scalar a =>
      cases a with
      | const c => rfl
      | var v => rfl
      | linear f => rw [rebuilt, f.make?_self, Outcome.map_ok]
      | quadratic f => rw [rebuilt, f.make?_self, Outcome.map_ok]
  | vector v =>
      rcases v with ⟨entries, o⟩
      cases entries with
      | const values => rfl
      | vars elements =>
          rw [rebuilt, Vec.ofVariables, Candidate.vars_map_variable]
          rfl
      | affine f => rw [rebuilt, f.make?_self, Outcome.map_ok]
  | matrix m =>
      have haxes : m.toTensor.axes = 2 := rfl
      rw [rebuilt, if_pos haxes]
      exact congrArg (fun n => Except.ok (matrix n)) (Matrix.ofTensor_toTensor rfl rfl)

end Expression

end QuadraticProgram
