import QuadraticProgram.Proofs.Scalar.Canonical
import QuadraticProgram.Proofs.Spread
import QuadraticProgram.Proofs.Vec.Shape
import QuadraticProgram.Proofs.Vec.Value

/-!
# Rewritten expressions

An expression is rewritten over the variables of another list by moving its coefficients there.
It is refused exactly if the list lacks one of its variables; otherwise the result is over that
very list and says the same (`Scalar.IsRewritten`, `Vec.IsRewritten`). Sums and products rely on
it that chains of rewrites lead to the same coefficients as the last one alone.
-/

namespace QuadraticProgram

open QuadraticProgram.Alignment

/-! ### Scalar expressions -/

/-- A quadratic form with its coefficients moved to another list of variables. -/
def QuadraticForm.moved (f : QuadraticForm ℚ) (xs : List Variable) : QuadraticForm ℚ where
  vars := xs
  quad := spreadPairs f.vars f.quad xs
  coeffs := spread f.vars f.coeffs xs
  const := f.const
  rows_quad := rows_spreadPairs ..
  cols_quad := cols_spreadPairs ..
  length_coeffs := length_spread ..
  isSymmetric := by
    rw [← symmetrised_spreadPairs f.entry_comm]
    apply Matrix.isSymmetric_symmetrised
    rw [rows_spreadPairs, cols_spreadPairs]

namespace Scalar

variable {xs ys : List Variable} {d e : Scalar ℚ}

/-- An expression with its coefficients moved to another list of variables. -/
def moved : Scalar ℚ → List Variable → Scalar ℚ
  | quadratic f, xs => quadratic (f.moved xs)
  | e, xs => linear ⟨xs, spread e.vars e.coefficients xs, e.constant, length_spread ..⟩

/-- To rewrite is to look for the variables among the new ones, and then to move the coefficients.
-/
theorem rewrite_eq (e : Scalar ℚ) (xs : List Variable) :
  e.rewrite xs = (requireAll e.vars xs >>= fun () => .ok (e.moved xs))
  := by
  cases e with
  | quadratic f =>
      have hsymmetric : (spreadPairs f.vars f.quad xs).symmetrised.isSymmetric = true := by
        apply Matrix.isSymmetric_symmetrised
        rw [rows_spreadPairs, cols_spreadPairs]
      have hform : QuadraticForm.symmetrise? xs (spreadPairs f.vars f.quad xs)
          (spread f.vars f.coeffs xs) f.const (by simp) (by simp) (by simp) = .ok (f.moved xs) := by
        apply (dif_pos hsymmetric).trans
        apply congrArg Except.ok
        apply QuadraticForm.ext
        · rfl
        · apply symmetrised_spreadPairs f.entry_comm
        · rfl
        · rfl
      rw [rewrite, hform]
      rfl
  | _ => rfl

@[simp]
theorem vars_moved (e : Scalar ℚ) (xs : List Variable) :
  (e.moved xs).vars = xs
  := by
  cases e <;> rfl

/-- The coefficients go where their variables are. -/
@[simp]
theorem coefficients_moved (e : Scalar ℚ) (xs : List Variable) :
  (e.moved xs).coefficients = spread e.vars e.coefficients xs
  := by
  cases e <;> rfl

@[simp]
theorem constant_moved (e : Scalar ℚ) (xs : List Variable) :
  (e.moved xs).constant = e.constant
  := by
  cases e <;> rfl

/-- A form stays linear, or quadratic, over other variables. -/
theorem isLinear_moved (e : Scalar ℚ) (xs : List Variable) :
  (e.moved xs).isLinear = e.isLinear
  := by
  cases e <;> rfl

/-- The coefficients of products go where both of their variables are. -/
@[simp]
theorem products_moved (e : Scalar ℚ) (xs : List Variable) :
  (e.moved xs).products = spreadPairs e.vars e.products xs
  := by
  cases e with
  | const a => exact (spreadPairs_zeros 0).symm
  | var v => exact (spreadPairs_zeros 1).symm
  | linear f => exact (spreadPairs_zeros f.vars.length).symm
  | quadratic f => rfl

/-- An expression is rewritten exactly over lists with all of its variables. -/
theorem rewrite_eq_ok_iff :
  e.rewrite xs = .ok d ↔ Lists xs e.vars ∧ e.moved xs = d
  := by
  rw [rewrite_eq, requireAll_bind_eq_ok_iff]

/-- The only error is for the first variable that the list lacks. -/
theorem rewrite_eq_error_iff {err : Error} :
  e.rewrite xs = .error err
    ↔ ∃ v, FirstMissing e.vars xs v ∧ err = .variableNotFound v.id .targetVector
  := by
  rw [rewrite_eq, requireAll_bind_eq_error_iff]

/-- The value stays over a list with all variables. -/
theorem valueAt_moved (h : Lists xs e.vars) (x : ℕ → ℚ) :
  (e.moved xs).valueAt x = e.valueAt x
  := by
  rw [valueAt, vars_moved, products_moved, coefficients_moved, constant_moved,
    quadraticValue_spreadPairs h, linearValue_spread h, valueAt]

/-- To move coefficients twice is to move them to the second list. -/
theorem moved_moved (h : Lists xs e.vars) :
  (e.moved xs).moved ys = e.moved ys
  := by
  cases e with
  | quadratic f =>
      apply congrArg quadratic
      apply QuadraticForm.ext
      · rfl
      · apply spreadPairs_spreadPairs h
      · apply spread_spread h
      · rfl
  | _ =>
      apply congrArg linear
      apply LinearForm.ext
      · rfl
      · apply spread_spread h
      · rfl

/-- What an expression is when it is rewritten over other variables. -/
structure IsRewritten (e : Scalar ℚ) (xs : List Variable) (d : Scalar ℚ) : Prop where
  /-- It is over these variables. -/
  vars_eq : d.vars = xs
  /-- It has products of variables only if the expression has some. -/
  isLinear_eq : d.isLinear = e.isLinear
  /-- Its coefficients are zero beside those of the first occurrences of variables. -/
  coefficients_eq_zero : ∀ j, ¬ FirstAt xs j → d.coefficients.getD j 0 = 0
  products_eq_zero : ∀ i j, ¬ FirstAt xs i ∨ ¬ FirstAt xs j → d.products.entry i j = 0
  /-- It has the values of the expression. -/
  evaluate_eq : ∀ s, Covers s xs → ∃ a, d.evaluate s = .ok a ∧ e.evaluate s = .ok a
  /-- To rewrite it over further variables is to rewrite the expression over them. -/
  rewrite_eq : ∀ ys, Lists ys xs → ∃ b, d.rewrite ys = .ok b ∧ e.rewrite ys = .ok b
  /-- It has the coefficients of the expression if it is over the same distinct variables. -/
  eq_of_vars_eq : xs = e.vars → (xs.map Variable.id).Nodup →
    d.coefficients = e.coefficients ∧ d.products = e.products ∧ d.constant = e.constant

/-- What is moved has the variables, the coefficients and the values that rewriting calls for. -/
theorem isRewritten_moved (h : Lists xs e.vars) :
  e.IsRewritten xs (e.moved xs)
  := by
  constructor
  · apply vars_moved
  · apply isLinear_moved
  · intro j hj
    rw [coefficients_moved, getD_spread_eq_movedSum, movedSum_of_not_firstAt hj]
  · intro i j hij
    rw [products_moved, entry_spreadPairs_eq_movedSum]
    rcases hij with hi | hj
    · apply movedSum_of_not_firstAt hi
    · simp only [movedSum_of_not_firstAt hj, movedSum_zero]
  · intro s hs
    have hcovers : Covers s e.vars := covers_of_lists h hs
    use e.valueAt (pointOf s)
    rw [← valueAt_moved h]
    constructor
    · apply evaluate_eq_ok
      rw [vars_moved]
      apply hs
    · rw [valueAt_moved h, evaluate_eq_ok hcovers]
  · intro ys hys
    use e.moved ys
    rw [rewrite_eq_ok_iff, rewrite_eq_ok_iff, vars_moved]
    exact ⟨⟨hys, moved_moved h⟩, hys.trans h, rfl⟩
  · rintro rfl hnodup
    rw [coefficients_moved, products_moved, constant_moved]
    use spread_self hnodup e.length_coefficients
    use spreadPairs_self hnodup e.rows_products e.cols_products

end Scalar

/-! ### Vectors -/

namespace Vec

variable {xs ys : List Variable} {v w : Vec ℚ}

/-- A vector with its coefficients moved to another list of variables. -/
def moved (v : Vec ℚ) (xs : List Variable) : Vec ℚ :=
  ⟨.affine ⟨xs, spreadColumns v.vars v.linearCoeff xs, v.constant, by simp,
    cols_spreadColumns ..⟩, v.orientation⟩

/-- To rewrite is to look for the variables among the new ones, and then to move the columns. -/
theorem rewrite_eq (v : Vec ℚ) (xs : List Variable) :
  v.rewrite xs = (requireAll v.vars xs >>= fun () => .ok (v.moved xs))
  := rfl

/-- A vector is rewritten exactly over lists with all of its variables. -/
theorem rewrite_eq_ok_iff :
  v.rewrite xs = .ok w ↔ Lists xs v.vars ∧ v.moved xs = w
  := by
  rw [rewrite_eq, requireAll_bind_eq_ok_iff]

/-- The only error is for the first variable that the list lacks. -/
theorem rewrite_eq_error_iff {err : Error} :
  v.rewrite xs = .error err
    ↔ ∃ u, FirstMissing v.vars xs u ∧ err = .variableNotFound u.id .targetVector
  := by
  rw [rewrite_eq, requireAll_bind_eq_error_iff]

/-- A vector keeps its entries. -/
theorem length_moved (v : Vec ℚ) (xs : List Variable) :
  (v.moved xs).length = v.length
  := v.length_constant

/-- Each entry keeps its value over a list with all variables. -/
theorem valueAt_moved (h : Lists xs v.vars) (x : ℕ → ℚ) (i : ℕ) :
  (v.moved xs).valueAt x i = v.valueAt x i
  := by
  rw [moved, valueAt_affine, rowValue_spreadColumns h, valueAt]

/-- To move columns twice is to move them to the second list. -/
theorem moved_moved (h : Lists xs v.vars) :
  (v.moved xs).moved ys = v.moved ys
  := by
  apply Vec.ext
  · apply congrArg Entries.affine
    apply AffineForm.ext
    · rfl
    · apply spreadColumns_spreadColumns h
    · rfl
  · rfl

/-- What a vector is when it is rewritten over other variables. -/
structure IsRewritten (v : Vec ℚ) (xs : List Variable) (w : Vec ℚ) : Prop where
  /-- It is over these variables, and of the shape of the vector. -/
  vars_eq : w.vars = xs
  length_eq : w.length = v.length
  orientation_eq : w.orientation = v.orientation
  /-- Its coefficients are zero beside those of the first occurrences of variables. -/
  coefficients_eq_zero : ∀ i j, ¬ FirstAt xs j → w.linearCoeff.entry i j = 0
  /-- It has the values of the vector. -/
  evaluate_eq : ∀ s, Covers s xs → ∃ zs, w.evaluate s = .ok zs ∧ v.evaluate s = .ok zs
  /-- To rewrite it over further variables is to rewrite the vector over them. -/
  rewrite_eq : ∀ ys, Lists ys xs → ∃ u, w.rewrite ys = .ok u ∧ v.rewrite ys = .ok u
  /-- It has the coefficients of the vector if it is over the same distinct variables. -/
  eq_of_vars_eq : xs = v.vars → (xs.map Variable.id).Nodup →
    w.linearCoeff = v.linearCoeff ∧ w.constant = v.constant

/-- Each entry of what is moved is the entry, moved. -/
theorem isRewritten_moved (h : Lists xs v.vars) :
  v.IsRewritten xs (v.moved xs)
  := by
  constructor
  · rfl
  · apply length_moved
  · rfl
  · intro i j hj
    apply (entry_spreadColumns _ i j).trans
    apply movedSum_of_not_firstAt hj
  · intro s hs
    have hvalues : (List.range (v.moved xs).length).map ((v.moved xs).valueAt (pointOf s))
        = (List.range v.length).map (v.valueAt (pointOf s)) := by
      rw [length_moved, funext (valueAt_moved h _)]
    use (List.range v.length).map (v.valueAt (pointOf s))
    rw [← hvalues]
    use evaluate_eq_ok (v := v.moved xs) hs
    rw [hvalues]
    apply evaluate_eq_ok (covers_of_lists h hs)
  · intro ys hys
    use v.moved ys
    rw [rewrite_eq_ok_iff, rewrite_eq_ok_iff]
    exact ⟨⟨hys, moved_moved h⟩, hys.trans h, rfl⟩
  · rintro rfl hnodup
    use spreadColumns_self hnodup v.cols_linearCoeff
    rfl

/-- The entry of a moved form is the entry with its coefficients moved. -/
theorem at?_moved {f : AffineForm ℚ} (o : Orientation) {i : ℤ} {k : ℕ}
    (h : position? i f.consts.length = some k) :
  ((Vec.mk (.affine f) o).moved xs).at? i
    = .ok ((Scalar.linear (f.entry k (position?_lt h))).moved xs)
  := by
  have hk := position?_lt h
  have hrow : k < f.coeffs.rowList.length := by
    rw [← f.rows_coeffs] at hk
    apply hk
  rw [at?_eq_ok (v := (Vec.mk (.affine f) o).moved xs) h]
  apply congrArg (Except.ok ∘ Scalar.linear)
  apply LinearForm.ext
  · rfl
  · have hentry : (f.coeffs.rowList.map fun row => spread f.vars row xs).getD k []
        = spread f.vars (f.row k) xs := by
      rw [List.getD_eq_getElem _ _ (by rw [List.length_map]; apply hrow), List.getElem_map,
        AffineForm.row, List.getD_eq_getElem _ _ hrow]
    apply hentry
  · rfl

/-- An index without a position is out of bounds. -/
theorem at?_eq_error {f : AffineForm ℚ} (hv : v.entries = .affine f) {i : ℤ}
    (h : position? i v.length = none) :
  v.at? i = .error (.indexOutOfBounds i 0 v.length)
  := by
  unfold at?
  split
  · rename_i k hk
    cases hk.symm.trans h
  · rw [hv]

/-- To rewrite a vector commutes with taking an entry, as long as there is one or the vector can
be rewritten. -/
theorem rewrite_bind_at? {f : AffineForm ℚ} (o : Orientation) {i : ℤ}
    (h : (position? i f.consts.length).isSome = true ∨ Lists xs f.vars) :
  ((Vec.mk (.affine f) o).rewrite xs >>= fun w => w.at? i)
    = ((Vec.mk (.affine f) o).at? i >>= fun a => a.rewrite xs)
  := by
  have hvars : (Vec.mk (.affine f) o).vars = f.vars := rfl
  rw [rewrite_eq, hvars]
  cases hi : position? i f.consts.length with
  | some k =>
      -- Both sides ask for the same variables, and then have the same entry.
      have hentry : ((Vec.mk (.affine f) o).at? i >>= fun a => a.rewrite xs)
          = (requireAll f.vars xs >>= fun () => ((Vec.mk (.affine f) o).moved xs).at? i) := by
        rw [at?_moved o hi, at?_eq_ok (v := Vec.mk (.affine f) o) hi]
        apply Scalar.rewrite_eq
      rw [hentry]
      cases requireAll f.vars xs with
      | error e => rfl
      | ok => rfl
  | none =>
      have hlists : Lists xs f.vars := by
        simpa [hi] using h
      rw [requireAll_eq_ok_iff.mpr hlists, Outcome.ok_bind, Outcome.ok_bind,
        at?_eq_error (v := Vec.mk (.affine f) o) rfl hi, Outcome.error_bind]
      apply at?_eq_error (v := (Vec.mk (.affine f) o).moved xs) rfl hi

end Vec

/-! ### Rewriting -/

/-- An expression is rewritten over the variables of a list, possibly with repetitions, or it is
refused with the first of its variables that the list lacks. An entry of a rewritten vector is
the entry rewritten. -/
theorem rewrite_moves_coefficients (xs : List Variable) :
  (∀ e : Scalar ℚ,
    ((∃ v ∈ e.vars, ∀ w ∈ xs, w.id ≠ v.id) ↔ ∃ err, e.rewrite xs = .error err)
      ∧ (∀ err, e.rewrite xs = .error err →
          ∃ v, FirstMissing e.vars xs v ∧ err = .variableNotFound v.id .targetVector)
      ∧ ∀ d, e.rewrite xs = .ok d → e.IsRewritten xs d)
    ∧ (∀ v : Vec ℚ,
      ((∃ u ∈ v.vars, ∀ w ∈ xs, w.id ≠ u.id) ↔ ∃ err, v.rewrite xs = .error err)
        ∧ (∀ err, v.rewrite xs = .error err →
            ∃ u, FirstMissing v.vars xs u ∧ err = .variableNotFound u.id .targetVector)
        ∧ ∀ w, v.rewrite xs = .ok w → v.IsRewritten xs w)
    ∧ ∀ (f : AffineForm ℚ) (o : Orientation) (i : ℤ),
        (position? i f.consts.length).isSome = true ∨ Lists xs f.vars →
          ((Vec.mk (.affine f) o).rewrite xs >>= fun w => w.at? i)
            = ((Vec.mk (.affine f) o).at? i >>= fun a => a.rewrite xs)
  := by
  constructor
  · intro e
    constructor
    · simp only [Scalar.rewrite_eq_error_iff]
      apply exists_missing_iff
    · constructor
      · intro err herr
        apply Scalar.rewrite_eq_error_iff.mp herr
      · intro d hd
        obtain ⟨hlists, rfl⟩ := Scalar.rewrite_eq_ok_iff.mp hd
        apply Scalar.isRewritten_moved hlists
  · constructor
    · intro v
      constructor
      · simp only [Vec.rewrite_eq_error_iff]
        apply exists_missing_iff
      · constructor
        · intro err herr
          apply Vec.rewrite_eq_error_iff.mp herr
        · intro w hw
          obtain ⟨hlists, rfl⟩ := Vec.rewrite_eq_ok_iff.mp hw
          apply Vec.isRewritten_moved hlists
    · intro f o i h
      apply Vec.rewrite_bind_at? o h

/-- The variables `x`, `y` and `x` again. -/
def repeatingSource : List Variable :=
  [⟨0, 0.0, 1.0, .continuous, .text "x", 0⟩, ⟨1, 0.0, 1.0, .continuous, .text "y", 1⟩,
    ⟨0, 0.0, 1.0, .continuous, .text "x", 0⟩]

/-- The variables `y`, `x` and `x` again. -/
def repeatingTarget : List Variable :=
  [⟨1, 0.0, 1.0, .continuous, .text "y", 1⟩, ⟨0, 0.0, 1.0, .continuous, .text "x", 0⟩,
    ⟨0, 0.0, 1.0, .continuous, .text "x", 0⟩]

/-- The form `x + 2 y + 3 x`. -/
def repeatingForm : Scalar ℚ := .linear ⟨repeatingSource, [1, 2, 3], 0, rfl⟩

/-- The form `x + 2 y + 3 x` as the only entry of a vector. -/
def repeatingRow : AffineForm ℚ :=
  ⟨repeatingSource, ⟨3, [[1, 2, 3]], by simp⟩, [0], rfl, rfl⟩

/-- A form over one variable twice, over a list that has it once. -/
theorem rewrite_moves_coefficients_repeating :
  (∃ d, repeatingForm.rewrite repeatingTarget = .ok d
      ∧ repeatingForm.IsRewritten repeatingTarget d ∧ d.coefficients = [2, 4, 0])
    ∧ (∃ v, FirstMissing repeatingForm.vars [] v
      ∧ repeatingForm.rewrite [] = .error (.variableNotFound v.id .targetVector))
    ∧ ((Vec.mk (.affine repeatingRow) .column).rewrite repeatingTarget >>= fun w => w.at? 0)
      = ((Vec.mk (.affine repeatingRow) .column).at? 0 >>= fun a => a.rewrite repeatingTarget)
  := by
  obtain ⟨hscalar, -, hentry⟩ := rewrite_moves_coefficients repeatingTarget
  obtain ⟨hscalarNone, -, -⟩ := rewrite_moves_coefficients []
  constructor
  · obtain ⟨-, -, hrewritten⟩ := hscalar repeatingForm
    have hlists : Lists repeatingTarget repeatingForm.vars := by
      unfold Alignment.Lists
      decide
    have hrewrite : repeatingForm.rewrite repeatingTarget
        = .ok (repeatingForm.moved repeatingTarget) :=
      Scalar.rewrite_eq_ok_iff.mpr ⟨hlists, rfl⟩
    use repeatingForm.moved repeatingTarget, hrewrite, hrewritten _ hrewrite
    decide +kernel
  · constructor
    · obtain ⟨hmissing, hfirst, -⟩ := hscalarNone repeatingForm
      obtain ⟨err, herr⟩ := hmissing.mp ⟨_, List.mem_cons_self, List.forall_mem_nil _⟩
      obtain ⟨v, hv, rfl⟩ := hfirst err herr
      use v, hv, herr
    · apply hentry repeatingRow .column 0 (.inl rfl)

end QuadraticProgram
