import QuadraticProgram.Proofs.Constraint.Comparison
import QuadraticProgram.Proofs.Double
import QuadraticProgram.Proofs.Entries

/-!
# Arrays as operands

An array beside an expression counts as the expression that it stands for (`Tensor.StandsFor`):
an array of two axes as a matrix, and one of one axis as a vector, which is placed like a vector
that it is added to or compared with and as a column otherwise. The sums, differences, products
and comparisons have the same results, and they are refused for the same reasons
(`Arithmetic.arrays_stand_for_expressions`), with one exception: a matrix beside an array of one
axis refuses it as an operand, and beside a vector for the sizes of both.
-/

namespace QuadraticProgram

variable {α : Type} [Coefficient α]

/-! ### What an array stands for -/

/-- The constant expression that an array of one or two axes stands for. One axis is placed in a
given way. -/
inductive Tensor.StandsFor (o : Orientation) : Tensor α → Expression α → Prop where
  | vector (values : List α) : StandsFor o (.ofList values) (.vector ⟨.const values, o⟩)
  | matrix (rows cols : ℕ) (entries : List α) (h : entries.length = rows * cols) :
      StandsFor o ⟨[rows, cols], entries⟩ (.matrix (.ofTensor rows cols entries))

/-- Every array with one or two axes stands for an expression. -/
theorem Tensor.exists_standsFor {t : Tensor α} (haxes : t.axes = 1 ∨ t.axes = 2)
    (hcount : t.entries.length = t.count) (o : Orientation) :
  ∃ f, t.StandsFor o f
  := by
  rcases t with ⟨shape, entries⟩
  rcases haxes with haxes | haxes
  · obtain ⟨n, rfl⟩ := List.length_eq_one_iff.mp haxes
    obtain rfl : entries.length = n := by
      simpa [count] using hcount
    exact ⟨_, .vector entries⟩
  · obtain ⟨rows, cols, rfl⟩ := List.length_eq_two.mp haxes
    have hentries : entries.length = rows * cols := by
      simpa [count] using hcount
    exact ⟨_, .matrix rows cols entries hentries⟩

omit [Coefficient α] in
theorem Matrix.map_ofFn {rows cols : ℕ} {f g : ℕ → ℕ → α} {k : α → α}
    (h : ∀ i < rows, ∀ j < cols, k (f i j) = g i j) :
  (ofFn rows cols f).map k = ofFn rows cols g
  := by
  apply Matrix.ext
  · rfl
  · simp only [map, ofFn, List.map_map]
    apply List.map_congr_left
    intro i hi
    simp only [Function.comp_apply, List.map_map]
    apply List.map_congr_left
    intro j hj
    apply h i (List.mem_range.mp hi) j (List.mem_range.mp hj)

/-- The matrix of changed entries is the changed matrix. -/
theorem Matrix.map_ofTensor {rows cols : ℕ} {entries : List α} (h : entries.length = rows * cols)
    (k : α → α) :
  (ofTensor rows cols entries).map k = ofTensor rows cols (entries.map k)
  := by
  apply map_ofFn
  intro i hi j hj
  have hposition : i * cols + j < entries.length := by
    calc i * cols + j < i * cols + cols := Nat.add_lt_add_left hj _
      _ = (i + 1) * cols := (Nat.succ_mul i cols).symm
      _ ≤ rows * cols := Nat.mul_le_mul_right _ hi
      _ = entries.length := h.symm
  have hposition' : i * cols + j < (entries.map k).length := by
    rwa [List.length_map]
  rw [List.getD_eq_getElem _ _ hposition, List.getD_eq_getElem _ _ hposition', List.getElem_map]

namespace Expression

/-- How an expression places an array of one axis that is added to it or compared with it. -/
def placement : Expression α → Orientation
  | vector u => u.orientation
  | _ => .column

/-- A matrix, beside an array of one axis. -/
def RefusesArray (e : Expression α) (t : Tensor α) : Prop := (∃ m, e = matrix m) ∧ t.axes = 1

variable {e f : Expression α} {t : Tensor α}

/-! ### Promotion beside an expression -/

/-- Where a scalar expression is asked for, an array is refused as the expression is. -/
theorem asScalar_array (h : t.StandsFor .column f) (operation : Operation) :
  (Operand.array t).asScalar operation = (Operand.expression f).asScalar operation
  := by
  cases h with
  | vector values => rfl
  | matrix rows cols entries _ =>
      simp [Operand.asScalar, Tensor.axes, Tensor.reportedDimensions, dimensions, Matrix.dimensions,
        Matrix.ofTensor]

/-- Where a vector is asked for, an array is taken as the expression is. -/
theorem asVector_array {u : Vec α} (h : t.StandsFor u.orientation f) (operation : Operation)
    (broadcast : Bool) :
  (Operand.array t).asVector operation broadcast u
    = (Operand.expression f).asVector operation broadcast u
  := by
  cases h with
  | vector values => rfl
  | matrix rows cols entries _ =>
      simp [Operand.asVector, Tensor.axes, dimensions, Matrix.dimensions, Matrix.ofTensor]

/-- An array is compared as the expression that it stands for. -/
theorem compare_array (h : t.StandsFor e.placement f) (s : Sense) :
  e.compare s (.array t) = e.compare s (.expression f)
  := by
  cases e with
  | scalar a => rw [compare, compare, asScalar_array h]
  | vector u => rw [compare, compare, asVector_array h]
  | matrix m => rfl

/-- An array is added as the expression that it stands for, unless it is refused. -/
theorem plus_array (h : t.StandsFor e.placement f) (hm : ¬ e.RefusesArray t) :
  e.plus (.array t) = e.plus (.expression f)
  := by
  cases e with
  | scalar a => rw [plus, plus, asScalar_array h]
  | vector u => rw [plus, plus, asVector_array h]
  | matrix m =>
      cases h with
      | vector values => exact absurd ⟨⟨m, rfl⟩, rfl⟩ hm
      | matrix rows cols entries _ => rfl

/-- An array multiplies as the expression that it stands for. -/
theorem multiply_array (h : t.StandsFor .column f) :
  e.multiply (.array t) = e.multiply (.expression f)
  := by
  cases h with
  | vector values => rfl
  | matrix rows cols entries _ => rfl

/-- An array with the signs of its entries changed stands for the expression with its sign changed,
which is the expression multiplied by minus one. -/
theorem exists_negated_standsFor (hneg : ∀ a : α, -a = -1 * a) {o : Orientation}
    (h : t.StandsFor o f) :
  ∃ g, f.negated = .ok g ∧ (t.map (- ·)).StandsFor o g
  := by
  rw [funext hneg]
  cases h with
  | vector values =>
      use .vector ⟨.const (values.map (-1 * ·)), o⟩, rfl
      have hmap : (Tensor.ofList values).map (-1 * ·) = .ofList (values.map (-1 * ·)) := by
        simp [Tensor.map, Tensor.ofList]
      rw [hmap]
      apply Tensor.StandsFor.vector
  | matrix rows cols entries hentries =>
      use .matrix (.ofTensor rows cols (entries.map (-1 * ·)))
      constructor
      · rw [← Matrix.map_ofTensor hentries]
        rfl
      · apply Tensor.StandsFor.matrix
        rw [List.length_map, hentries]

/-- An array is subtracted as the expression that it stands for, unless it is refused. -/
theorem minus_array (hneg : ∀ a : α, -a = -1 * a) (h : t.StandsFor e.placement f)
    (hm : ¬ e.RefusesArray t) :
  e.minus (.array t) = e.minus (.expression f)
  := by
  obtain ⟨g, hg, hstands⟩ := exists_negated_standsFor hneg h
  have haxes : t.axes ≠ 0 := by
    cases h <;> simp [Tensor.axes, Tensor.ofList]
  have hm' : ¬ e.RefusesArray (t.map (- ·)) := hm
  rw [minus, minus, if_neg haxes, hg, Outcome.ok_bind, plus_array hstands hm']

/-- A matrix beside an array of one axis is refused in sums and differences, and so is a matrix
beside the column that the array stands for, but for another reason. -/
theorem refused_of_refusesArray (h : t.StandsFor e.placement f) (hm : e.RefusesArray t) :
  e.plus (.array t) = .error (.unexpectedInput .plus "ndarray")
    ∧ e.minus (.array t) = .error (.unexpectedInput .plus "ndarray")
    ∧ e.plus (.expression f) = .error (.dimensionMismatch .plus e.dimensions f.dimensions)
    ∧ e.minus (.expression f) = .error (.dimensionMismatch .plus e.dimensions f.dimensions)
  := by
  obtain ⟨⟨m, rfl⟩, haxes⟩ := hm
  cases h with
  | matrix rows cols entries _ => cases haxes
  | vector values =>
      have hscaled : ((Vec.mk (.const values) .column).scale (-1)).dimensions
          = (Vec.mk (.const values) .column).dimensions := by
        apply Vec.dimensions_congr
        · apply Vec.length_scale
        · rfl
      use rfl, rfl, rfl
      exact congrArg (fun d => Except.error (Error.dimensionMismatch .plus m.dimensions d)) hscaled

end Expression

/-! ### Operators beside arrays -/

/-- A constant that is no scalar is compared with a variable as a constraint. -/
theorem Sense.compare?_standsFor {e f : Expression α} {t : Tensor α}
    (h : t.StandsFor e.placement f) (s : Sense) :
  s.compare? (.expression e) (.array t) = s.compare? (.expression e) (.expression f)
  := by
  rw [compare?_expression, compare?_expression, Expression.compare_array h]
  · rintro v w - - heq
    cases heq
    cases h
  · rintro v w - - heq
    cases heq

namespace Arithmetic

/-- Every array of one or two axes stands for an expression, and beside another expression its sums,
differences, products and comparisons are those of the expression that it stands for, whether they
are defined or refused. Only a matrix refuses an array of one axis in sums and differences for
itself, and the vector for its sizes. -/
theorem arrays_stand_for_expressions (e : Expression Float) (t : Tensor Float) :
  (t.axes = 1 ∨ t.axes = 2 → t.entries.length = t.count → ∀ o, ∃ f, t.StandsFor o f)
    ∧ (∀ (f : Expression Float) (op : Arithmetic), t.StandsFor e.placement f →
        op = .add ∨ op = .subtract →
        (¬ e.RefusesArray t →
            op.result? (.expression e) (.array t) = op.result? (.expression e) (.expression f))
          ∧ (e.RefusesArray t →
            op.result? (.expression e) (.array t)
                = some (.error (.unexpectedInput .plus "ndarray"))
              ∧ op.result? (.expression e) (.expression f)
                = some (.error (.dimensionMismatch .plus e.dimensions f.dimensions))))
    ∧ (∀ f, t.StandsFor .column f →
        multiply.result? (.expression e) (.array t)
          = multiply.result? (.expression e) (.expression f))
    ∧ ∀ f s, t.StandsFor e.placement f →
        Sense.compare? s (.expression e) (.array t) = s.compare? (.expression e) (.expression f)
  := by
  constructor
  · apply Tensor.exists_standsFor
  · constructor
    · intro f op h hop
      constructor
      · intro hm
        rcases hop with rfl | rfl
        · exact congrArg some (Expression.plus_array h hm)
        · exact congrArg some (Expression.minus_array Double.neg_eq_neg_one_mul h hm)
      · intro hm
        obtain ⟨hplus, hminus, hplus', hminus'⟩ := Expression.refused_of_refusesArray h hm
        rcases hop with rfl | rfl
        · exact ⟨congrArg some hplus, congrArg some hplus'⟩
        · exact ⟨congrArg some hminus, congrArg some hminus'⟩
    · constructor
      · intro f h
        exact congrArg some (Expression.multiply_array h)
      · intro f s h
        apply Sense.compare?_standsFor h

/-- A row of a variable, beside an array of one axis and one of two. -/
theorem arrays_stand_for_expressions_row :
  add.result? (α := Float) (.expression (.vector ⟨.vars [default], .row⟩))
        (.array (.ofList [1.0]))
      = add.result? (.expression (.vector ⟨.vars [default], .row⟩))
        (.expression (.vector ⟨.const [1.0], .row⟩))
    ∧ multiply.result? (α := Float) (.expression (.vector ⟨.vars [default], .row⟩))
        (.array ⟨[1, 2], [1.0, 2.0]⟩)
      = multiply.result? (.expression (.vector ⟨.vars [default], .row⟩))
        (.expression (.matrix (.ofTensor 1 2 [1.0, 2.0])))
    ∧ (∃ f, (Tensor.ofList [1.0]).StandsFor .row f)
    ∧ subtract.result? (α := Float) (.expression (.matrix (.ofTensor 1 2 [1.0, 2.0])))
        (.array (.ofList [1.0]))
      = some (.error (.unexpectedInput .plus "ndarray"))
  := by
  obtain ⟨hexists, hsum, -, -⟩ :=
    arrays_stand_for_expressions (.vector ⟨.vars [default], .row⟩) (.ofList [1.0])
  obtain ⟨-, -, hproduct, -⟩ :=
    arrays_stand_for_expressions (.vector ⟨.vars [default], .row⟩) ⟨[1, 2], [1.0, 2.0]⟩
  obtain ⟨-, hmatrix, -⟩ :=
    arrays_stand_for_expressions (.matrix (.ofTensor 1 2 [1.0, 2.0])) (.ofList [1.0])
  constructor
  · apply (hsum _ _ (.vector [1.0]) (.inl rfl)).1
    rintro ⟨⟨m, hm⟩, -⟩
    cases hm
  · constructor
    · apply hproduct _ (.matrix 1 2 [1.0, 2.0] rfl)
    · use hexists (.inl rfl) rfl .row
      apply ((hmatrix _ _ (.vector [1.0]) (.inr rfl)).2 ⟨⟨_, rfl⟩, rfl⟩).1

/-- A matrix refuses an array of one axis as an operand of a sum, although it refuses the vector
that the array stands for only for its sizes. -/
theorem array_differs_from_vector :
  add.result? (α := Float) (.expression (.matrix (.ofTensor 1 2 [1.0, 2.0])))
        (.array (.ofList [1.0, 2.0]))
      = some (.error (.unexpectedInput .plus "ndarray"))
    ∧ add.result? (α := Float) (.expression (.matrix (.ofTensor 1 2 [1.0, 2.0])))
        (.expression (.vector ⟨.const [1.0, 2.0], .column⟩))
      = some (.error (.dimensionMismatch .plus [1, 2] [2, 1]))
  := ⟨rfl, rfl⟩

end Arithmetic

end QuadraticProgram
