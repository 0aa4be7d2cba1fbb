import QuadraticProgram.Proofs.Scalar.Value
import QuadraticProgram.Vec

/-!
# Values of vector expressions

Every vector is a row of coefficients and a constant for each entry, over one list of
variables, and the value of an entry at a point is the sum of what both stand for
(`Vec.valueAt`). The entries as scalar expressions have these values (`Vec.valueAt_entry`),
and evaluation gives the list of them (`Vec.evaluate_eq_ok`).
-/

namespace QuadraticProgram.Vec

open QuadraticProgram.Alignment

/-- The value of an entry of a vector at a point. -/
def valueAt (x : ℕ → ℚ) (v : Vec ℚ) (i : ℕ) : ℚ :=
  rowValue x v.vars v.linearCoeff i + v.constant.getD i 0

/-- A constant vector is over no variables. -/
theorem vars_of_isConstant {α : Type} [Coefficient α] {v : Vec α} (h : v.isConstant = true) :
  v.vars = []
  := by
  rcases v with ⟨entries, o⟩
  cases entries with
  | const values => rfl
  | vars elements => cases h
  | affine f => cases h

/-- The entries of a constant vector have one value each. -/
theorem valueAt_of_isConstant {v : Vec ℚ} (h : v.isConstant = true) (x : ℕ → ℚ) (i : ℕ) :
  v.valueAt x i = v.constant.getD i 0
  := by
  rw [valueAt, vars_of_isConstant h, rowValue, linearValue_nil_left, zero_add]

theorem valueAt_const (values : List ℚ) (o : Orientation) (x : ℕ → ℚ) (i : ℕ) :
  (Vec.mk (.const values) o).valueAt x i = values.getD i 0
  := valueAt_of_isConstant rfl x i

theorem valueAt_affine (f : AffineForm ℚ) (o : Orientation) (x : ℕ → ℚ) (i : ℕ) :
  (Vec.mk (.affine f) o).valueAt x i = rowValue x f.vars f.coeffs i + f.consts.getD i 0
  := rfl

/-- The entry of a vector of variables has the value of its variable. -/
theorem valueAt_vars {elements : List Variable} (o : Orientation) (x : ℕ → ℚ) {i : ℕ}
    (h : i < elements.length) :
  (Vec.mk (.vars elements) o).valueAt x i = x (elements[i]).id
  := by
  calc (Vec.mk (.vars elements) o).valueAt x i
      = rowValue x elements (Matrix.identity elements.length) i
          + (List.replicate elements.length (0 : ℚ)).getD i 0 := rfl
    _ = x (elements[i]).id := by
        rw [rowValue_identity h, getD_valuesAt x h, List.getD_replicate _ h, add_zero]

/-! ### Entries -/

/-- An entry as a scalar expression has the value of the entry. -/
theorem valueAt_entry {v : Vec ℚ} {i : ℕ} (h : i < v.length) (x : ℕ → ℚ) :
  (v.entry i h).valueAt x = v.valueAt x i
  := by
  rcases v with ⟨entries, o⟩
  cases entries with
  | const values =>
      rw [entry, Scalar.valueAt_const, valueAt_const, List.getD_eq_getElem _ _ h]
      rfl
  | vars elements =>
      rw [entry, Scalar.valueAt_var, valueAt_vars o x h]
      rfl
  | affine f =>
      rw [entry, Scalar.valueAt_linear, valueAt_affine, List.getD_eq_getElem _ _ h]
      rfl

/-- An entry is over variables of the vector. -/
theorem mem_vars_of_mem_vars_entry {v : Vec ℚ} {i : ℕ} (h : i < v.length) {w : Variable}
    (hw : w ∈ (v.entry i h).vars) :
  w ∈ v.vars
  := by
  rcases v with ⟨entries, o⟩
  cases entries with
  | const values => apply hw
  | vars elements =>
      obtain rfl := List.mem_singleton.mp hw
      apply List.getElem_mem
  | affine f => apply hw

/-- No entry is quadratic. -/
theorem degree_entry_le {α : Type} [Coefficient α] {v : Vec α} {i : ℕ} (h : i < v.length) :
  (v.entry i h).degree ≤ 1
  := by
  rcases v with ⟨entries, o⟩
  cases entries with
  | const values => apply Nat.zero_le
  | vars elements => apply le_refl
  | affine f => apply le_refl

/-- An entry is constant exactly if the vector is. -/
theorem degree_entry_eq_zero_iff {α : Type} [Coefficient α] {v : Vec α} {i : ℕ}
    (h : i < v.length) :
  (v.entry i h).degree = 0 ↔ v.isConstant = true
  := by
  rcases v with ⟨entries, o⟩
  cases entries with
  | const values => exact iff_of_true rfl rfl
  | vars elements => exact iff_of_false Nat.one_ne_zero Bool.false_ne_true
  | affine f => exact iff_of_false Nat.one_ne_zero Bool.false_ne_true

/-- An assignment that covers a vector covers its entries. -/
theorem covers_vars_entry {v : Vec ℚ} {i : ℕ} (h : i < v.length) {s : ℕ → Option ℚ}
    (hs : Covers s v.vars) :
  Covers s (v.entry i h).vars
  := by
  intro w hw
  apply hs w (mem_vars_of_mem_vars_entry h hw)

/-- An entry evaluates to its value. -/
theorem evaluate_entry {v : Vec ℚ} {i : ℕ} (h : i < v.length) {s : ℕ → Option ℚ}
    (hs : Covers s v.vars) :
  (v.entry i h).evaluate s = .ok (v.valueAt (pointOf s) i)
  := by
  rw [Scalar.evaluate_eq_ok (covers_vars_entry h hs), valueAt_entry]

theorem degree_le_of_mem_toList {v : Vec ℚ} {e : Scalar ℚ} (h : e ∈ v.toList) :
  e.degree ≤ 1
  := by
  obtain ⟨i, -, rfl⟩ := List.mem_map.mp h
  apply degree_entry_le

theorem covers_of_mem_toList {v : Vec ℚ} {s : ℕ → Option ℚ} (hs : Covers s v.vars)
    {e : Scalar ℚ} (h : e ∈ v.toList) :
  Covers s e.vars
  := by
  obtain ⟨i, -, rfl⟩ := List.mem_map.mp h
  apply covers_vars_entry i.isLt hs

/-- The values of the entries, in their order. -/
theorem map_valueAt_toList (v : Vec ℚ) (x : ℕ → ℚ) :
  v.toList.map (Scalar.valueAt x) = (List.range v.length).map (v.valueAt x)
  := by
  rw [toList, List.map_map, ← List.map_coe_finRange_eq_range, List.map_map]
  apply List.map_congr_left
  intro i _
  apply valueAt_entry

/-! ### Evaluation -/

/-- To evaluate a vector is to look up its variables. -/
theorem evaluate_eq_lookingUp (s : ℕ → Option ℚ) (v : Vec ℚ) :
  v.evaluate s = lookingUp s v.vars ((List.range v.length).map (v.valueAt (pointOf s)))
  := by
  rcases v with ⟨entries, o⟩
  cases entries with
  | const values =>
      apply congrArg Except.ok
      apply Coefficient.eq_map_range rfl
      intro i _
      rw [valueAt_const]
  | vars elements =>
      have hvalues : valuesAt (pointOf s) elements
          = (List.range elements.length).map ((Vec.mk (.vars elements) o).valueAt (pointOf s)) := by
        apply Coefficient.eq_map_range (length_valuesAt _ _)
        intro i hi
        rw [getD_valuesAt _ hi, valueAt_vars o _ hi]
      simp only [evaluate]
      rw [valuesOf_eq_lookingUp, hvalues]
      rfl
  | affine f =>
      have hl : (f.coeffs.mulVec (valuesAt (pointOf s) f.vars)).length = f.consts.length := by
        rw [Matrix.length_mulVec, f.rows_coeffs]
      have hvalues : List.zipWith (· + ·) (f.coeffs.mulVec (valuesAt (pointOf s) f.vars)) f.consts
          = (List.range f.consts.length).map ((Vec.mk (.affine f) o).valueAt (pointOf s)) := by
        apply Coefficient.eq_map_range
        · rw [List.length_zipWith, hl, min_self]
        · intro i _
          rw [Coefficient.getD_zipWith_add hl, getD_mulVec_valuesAt f.cols_coeffs, valueAt_affine]
      simp only [evaluate]
      rw [valuesOf_eq_lookingUp]
      refine Eq.trans (lookingUp_bind_ok _) ?_
      rw [hvalues]
      rfl

/-- An assignment that covers the variables of a vector gives each entry its value. -/
theorem evaluate_eq_ok {v : Vec ℚ} {s : ℕ → Option ℚ} (hs : Covers s v.vars) :
  v.evaluate s = .ok ((List.range v.length).map (v.valueAt (pointOf s)))
  := by
  rw [evaluate_eq_lookingUp, lookingUp_of_covers hs]

end QuadraticProgram.Vec
