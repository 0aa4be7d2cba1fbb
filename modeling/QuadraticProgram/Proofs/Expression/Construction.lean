import QuadraticProgram.Proofs.Expression.Rebuilding

/-!
# Forms made from arrays

An affine form is made from variables, an array of coefficients with two axes and perhaps an
array of constants (`AffineForm.construction_outcome`). If there is a variable or a coefficient,
the coefficients must have a column for each variable and a row for each constant, and are kept
as they are. If there is neither, the sizes of the array are not looked at: it stands for a row
of none for each constant, and rows that no constants are given for are lost.

A quadratic form is made from variables and a square matrix of their number. It holds half the sum
of the matrix and its transpose, and has the values that the matrix as it was given calls for
(`QuadraticForm.construction_keeps_values`). Made again from what it holds it stays as it is.
-/

namespace QuadraticProgram

open QuadraticProgram.Alignment

namespace AffineForm

variable {α : Type}

/-- Constants that are left out are as many as there are rows. -/
theorem length_getD_iff (a : α) (rows : ℕ) (c? : Option (List α)) :
  (c?.getD (List.replicate rows a)).length = rows ↔ ∀ c, c? = some c → c.length = rows
  := by
  cases c? with
  | none => simp
  | some c => simp

theorem not_isEmpty_of_not_blank {vs : List Variable} {entries : List α}
    (h : ¬ (vs = [] ∧ entries = [])) :
  ¬ (entries.isEmpty && vs.isEmpty) = true
  := by
  rw [Bool.and_eq_true, List.isEmpty_iff, List.isEmpty_iff, and_comm]
  exact h

variable [Coefficient α]

/-- Coefficients of the right sizes are kept. -/
theorem exists_make?_of_sizes {vs : List Variable} {rows : ℕ} {entries : List α}
    (hblank : ¬ (vs = [] ∧ entries = [])) (hentries : entries.length = rows * vs.length)
    {c? : Option (List α)} (hconsts : (c?.getD (List.replicate rows 0)).length = rows) :
  ∃ f, make? (vs.map .variable) ⟨[rows, vs.length], entries⟩ (c?.map .ofList) = .ok f
    ∧ f.vars = vs ∧ f.coeffs.toTensor = ⟨[rows, vs.length], entries⟩
    ∧ f.consts = c?.getD (List.replicate rows 0)
  := by
  have harrays := arrays?_of_not_blank (not_isEmpty_of_not_blank hblank) rows vs.length c?
  rw [make?_of_arrays? harrays, if_pos (by rw [hconsts])]
  refine ⟨_, rfl, rfl, ?_, rfl⟩
  simp only [hconsts]
  exact Matrix.toTensor_ofTensor hentries

/-- Coefficients of other sizes are refused with the sizes that were found and called for. -/
theorem make?_of_not_sizes {vs : List Variable} {rows cols : ℕ} {entries : List α}
    (hblank : ¬ (vs = [] ∧ entries = [])) {c? : Option (List α)}
    (hsizes : ¬ (cols = vs.length ∧ (c?.getD (List.replicate rows 0)).length = rows)) :
  make? (vs.map .variable) ⟨[rows, cols], entries⟩ (c?.map .ofList)
    = .error (.malformed (.affineShape [rows, cols] (c?.getD (List.replicate rows 0)).length
        vs.length))
  := by
  have harrays := arrays?_of_not_blank (not_isEmpty_of_not_blank hblank) rows cols c?
  rw [make?_of_arrays? harrays, if_neg]
  intro hshape
  rw [List.cons.injEq, List.cons.injEq] at hshape
  exact hsizes ⟨hshape.2.1, hshape.1.symm⟩

/-- Without variables and coefficients there are as many entries as constants. -/
theorem exists_make?_of_blank (shape : List ℕ) (c? : Option (List α)) :
  ∃ f, make? [] ⟨shape, []⟩ (c?.map .ofList) = .ok f
    ∧ f.vars = [] ∧ f.coeffs.toTensor = ⟨[(c?.getD []).length, 0], []⟩
    ∧ f.consts = c?.getD []
  := by
  have harrays : arrays? ([] : List Variable).isEmpty ⟨shape, []⟩ (c?.map .ofList)
      = .ok (⟨[(c?.getD []).length, 0], []⟩, .ofList (c?.getD [])) := arrays?_of_blank shape c?
  have hshape : (⟨[(c?.getD []).length, 0], []⟩ : Tensor α).shape
      = [(c?.getD []).length, ([] : List Variable).length] := rfl
  have hmake := make?_of_arrays? harrays
  rw [if_pos hshape] at hmake
  refine ⟨_, hmake, rfl, ?_, rfl⟩
  apply Matrix.toTensor_ofTensor
  rw [List.length_nil, List.length_nil, mul_zero]

/-- What comes of making an affine form from variables, coefficients with two axes, and
constants. -/
theorem construction_outcome (vs : List Variable) {rows cols : ℕ} {entries : List α}
    (hentries : entries.length = rows * cols) (c? : Option (List α)) :
  (¬ (vs = [] ∧ entries = []) →
    (cols = vs.length ∧ (∀ c, c? = some c → c.length = rows) →
      ∃ f, make? (vs.map .variable) ⟨[rows, cols], entries⟩ (c?.map .ofList) = .ok f
        ∧ (∀ o, (Vec.mk (.affine f) o).length = rows)
        ∧ f.vars = vs ∧ f.coeffs.toTensor = ⟨[rows, cols], entries⟩
        ∧ f.consts = c?.getD (List.replicate rows 0))
    ∧ (¬ (cols = vs.length ∧ ∀ c, c? = some c → c.length = rows) →
      make? (vs.map .variable) ⟨[rows, cols], entries⟩ (c?.map .ofList)
        = .error (.malformed (.affineShape [rows, cols]
            (c?.getD (List.replicate rows 0)).length vs.length))))
  ∧ (vs = [] ∧ entries = [] →
    ∃ f, make? (vs.map .variable) ⟨[rows, cols], entries⟩ (c?.map .ofList) = .ok f
      ∧ (∀ o, (Vec.mk (.affine f) o).length = (c?.getD []).length)
      ∧ f.vars = [] ∧ f.coeffs.toTensor = ⟨[(c?.getD []).length, 0], []⟩
      ∧ f.consts = c?.getD [])
  := by
  rw [← length_getD_iff (0 : α)]
  constructor
  · intro hblank
    constructor
    · rintro ⟨rfl, hconsts⟩
      obtain ⟨f, hf, hvars, hcoeffs, hc⟩ := exists_make?_of_sizes hblank hentries hconsts
      exact ⟨f, hf, fun o => (congrArg List.length hc).trans hconsts, hvars, hcoeffs, hc⟩
    · exact make?_of_not_sizes hblank
  · rintro ⟨rfl, rfl⟩
    obtain ⟨f, hf, hvars, hcoeffs, hc⟩ := exists_make?_of_blank [rows, cols] c?
    exact ⟨f, hf, fun o => congrArg List.length hc, hvars, hcoeffs, hc⟩

/-- A column of coefficients over one variable, without constants. -/
theorem construction_outcome_column :
  ([3, 4] : List ℚ).length = 2 * 1
    ∧ ∃ f : AffineForm ℚ, make? [.variable default] ⟨[2, 1], [3, 4]⟩ none = .ok f
      ∧ f.coeffs.toTensor = ⟨[2, 1], [3, 4]⟩ ∧ f.consts = [0, 0]
  := by
  use rfl
  have hblank : ¬ ([default] = ([] : List Variable) ∧ ([3, 4] : List ℚ) = []) := nofun
  have hsizes : 1 = [(default : Variable)].length
      ∧ ∀ c : List ℚ, none = some c → c.length = 2 := ⟨rfl, nofun⟩
  obtain ⟨f, hf, -, -, hcoeffs, hconsts⟩ :=
    ((construction_outcome [default] rfl none).1 hblank).1 hsizes
  exact ⟨f, hf, hcoeffs, hconsts⟩

/-- Without variables, three rows of no coefficients make a vector without entries or with two,
and three columns are accepted. -/
theorem construction_loses_rows :
  (∃ f : AffineForm ℚ, make? [] ⟨[3, 0], []⟩ none = .ok f ∧ f.consts = [])
  ∧ (∃ f : AffineForm ℚ, make? [] ⟨[3, 0], []⟩ (some (.ofList [1, 2])) = .ok f
    ∧ f.consts = [1, 2])
  ∧ ∃ f : AffineForm ℚ, make? [] ⟨[0, 3], []⟩ none = .ok f
  := ⟨⟨_, rfl, rfl⟩, ⟨_, rfl, rfl⟩, ⟨_, rfl⟩⟩

end AffineForm

/-! ### Quadratic forms -/

namespace QuadraticForm

/-- A form made from a square matrix has its values, and is made of what it holds. -/
theorem construction_keeps_values :
  (∀ (vs : List Variable) (q : Matrix ℚ) (l? : Option (List ℚ)) (c : ℚ),
    q.rows = vs.length → q.cols = vs.length → (∀ l, l? = some l → l.length = vs.length) →
    ∃ f, make? (vs.map .variable) q.toTensor (l?.map .ofList) c = .ok f
      ∧ f.vars = vs ∧ f.coeffs = l?.getD (List.replicate vs.length 0) ∧ f.const = c
      ∧ (∀ i j, f.quad.entry i j = (q.entry i j + q.entry j i) / 2)
      ∧ (∀ i j, f.quad.entry i j = f.quad.entry j i)
      ∧ ∀ s, Covers s vs →
        (Scalar.quadratic f).evaluate s = .ok
          (∑ i : Fin vs.length, ∑ j : Fin vs.length,
              q.entry i j * pointOf s (vs.get i).id * pointOf s (vs.get j).id
            + ∑ i : Fin vs.length, f.coeffs.getD i 0 * pointOf s (vs.get i).id
            + c))
  ∧ ∀ f : QuadraticForm ℚ,
    make? (f.vars.map .variable) f.quad.toTensor (some (.ofList f.coeffs)) f.const = .ok f
  := by
  constructor
  · intro vs q l? c hr hc hl
    have hsquare : q.rows = q.cols := by
      rw [hr, hc]
    have hcoeffs := (AffineForm.length_getD_iff (0 : ℚ) vs.length l?).mpr hl
    have hsymmetric := Matrix.isSymmetric_symmetrised hsquare
    rw [make?_eq_symmetrise? l? hr hc hcoeffs, symmetrise?, dif_pos hsymmetric]
    refine ⟨_, rfl, rfl, rfl, rfl, ?_, entry_comm _, ?_⟩
    · intro i j
      rw [Matrix.entry_symmetrised hsquare]
      ring
    · intro s hs
      rw [Scalar.evaluate_eq_ok hs, Scalar.valueAt_quadratic, quadraticValue_symmetrised hsquare,
        quadraticValue_eq_sum_fin, linearValue_eq_sum_fin]
  · intro f
    apply f.make?_self

/-- A matrix above the diagonal, over a variable that comes twice. -/
theorem construction_keeps_values_upper :
  (Matrix.ofTensor 2 2 [0, 4, 0, 0] : Matrix ℚ).rows = 2
    ∧ (Matrix.ofTensor 2 2 [0, 4, 0, 0] : Matrix ℚ).cols = 2
    ∧ ∃ f : QuadraticForm ℚ,
      make? [.variable default, .variable default] (Matrix.ofTensor 2 2 [0, 4, 0, 0]).toTensor
        none 3 = .ok f
      ∧ f.quad.entry 0 1 = 2 ∧ f.quad.entry 1 0 = 2
      ∧ (Scalar.quadratic f).evaluate (fun _ => some 5) = .ok 103
  := by
  have hcovers : Covers (fun _ => some (5 : ℚ)) [(default : Variable), default] :=
    fun _ _ => rfl
  obtain ⟨f, hf, -, hcoeffs, -, hquad, -, hvalue⟩ := construction_keeps_values.1
    [default, default] (Matrix.ofTensor 2 2 [0, 4, 0, 0]) none 3 rfl rfl nofun
  have hentry : (Matrix.ofTensor 2 2 [0, 4, 0, 0] : Matrix ℚ).entry 0 1 = 4 := rfl
  have hentry' : (Matrix.ofTensor 2 2 [0, 4, 0, 0] : Matrix ℚ).entry 1 0 = 0 := rfl
  have hdiagonal : (Matrix.ofTensor 2 2 [0, 4, 0, 0] : Matrix ℚ).entry 0 0 = 0 := rfl
  have hdiagonal' : (Matrix.ofTensor 2 2 [0, 4, 0, 0] : Matrix ℚ).entry 1 1 = 0 := rfl
  refine ⟨rfl, rfl, f, hf, ?_, ?_, ?_⟩
  · rw [hquad, hentry, hentry']
    norm_num
  · rw [hquad, hentry, hentry']
    norm_num
  · have hsum : ∀ g : Fin [(default : Variable), default].length → ℚ, ∑ i, g i = g 0 + g 1 :=
      Fin.sum_univ_two
    rw [hvalue _ hcovers, hcoeffs]
    norm_num [hsum, pointOf, hentry, hentry', hdiagonal, hdiagonal']

end QuadraticForm

end QuadraticProgram
