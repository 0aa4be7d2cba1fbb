import QuadraticProgram.Expression.Operator
import QuadraticProgram.Proofs.Double
import QuadraticProgram.Proofs.Vec.Shape
import QuadraticProgram.Proofs.Vec.Value

/-!
# Which products of vectors are defined

A vector is multiplied by a scalar expression as long as its entries stay linear, and by a
vector if the inner sizes agree and the result is neither a matrix nor a vector of quadratic
expressions (`Arithmetic.products_defined_iff`). Coefficients are of any type here. The product
of two vectors with variables is a quadratic form only if its matrix can be made symmetric
(`Vec.Skewed`), which it can over the rationals, and over doubles unless an entry is no number.
-/

namespace QuadraticProgram

variable {α : Type} [Coefficient α]

namespace Vec

/-! ### Sizes -/

/-- The number of rows. -/
def rowCount (v : Vec α) : ℕ :=
  match v.orientation with
  | .column => v.length
  | .row => 1

/-- The number of columns. -/
def columnCount (v : Vec α) : ℕ :=
  match v.orientation with
  | .column => 1
  | .row => v.length

omit [Coefficient α] in
/-- The rows and columns are those that a refusal names. -/
theorem dimensions_eq (v : Vec α) :
  v.dimensions = [v.rowCount, v.columnCount]
  := by
  rcases v with ⟨entries, o⟩
  cases o <;> rfl

/-! ### Products with scalar expressions -/

/-- A vector times a linear expression is defined for constant vectors, and would have quadratic
entries for others. -/
theorem timesScalar_of_degree_eq_one (v : Vec α) {e : Scalar α} (h : e.degree = 1) :
  v.timesScalar e =
    if v.isConstant then .ok ⟨.affine (timesLinear v.constant e.toLinear), v.orientation⟩
    else .error (.unsupportedProduct (.quadraticEntries v.kind e.kind))
  := by
  cases e with
  | var x => rfl
  | linear f => rfl
  | _ => simp [Scalar.degree] at h

/-- A vector times a quadratic expression is never defined. -/
theorem timesScalar_of_degree_eq_two (v : Vec α) {e : Scalar α} (h : e.degree = 2) :
  v.timesScalar e =
    if v.isConstant then .error (.unsupportedProduct .constantByQuadratic)
    else .error (.degreeExceeded v.kind e.kind)
  := by
  cases e with
  | quadratic f => rfl
  | _ => simp [Scalar.degree] at h

/-- A vector with its shape kept, if it is multiplied by a constant or is constant itself and
multiplied by a linear expression. -/
theorem exists_timesScalar {v : Vec α} {e : Scalar α}
    (h : e.degree = 0 ∨ v.isConstant = true ∧ e.degree = 1) :
  ∃ w, v.timesScalar e = .ok w ∧ w.length = v.length ∧ w.orientation = v.orientation
  := by
  rcases h with h | ⟨hv, h⟩
  · cases e with
    | const a => use v.scale a, rfl, v.length_scale a, v.orientation_scale a
    | _ => simp [Scalar.degree] at h
  · use ⟨.affine (timesLinear v.constant e.toLinear), v.orientation⟩
    rw [timesScalar_of_degree_eq_one v h, if_pos hv]
    constructor
    · rfl
    · constructor
      · simp [timesLinear, length]
      · rfl

/-- Which products of a vector and a scalar expression are defined, and how the others are
refused. -/
theorem timesScalar_defined_iff (v : Vec α) (e : Scalar α) :
  ((∃ w, v.timesScalar e = .ok w ∧ w.length = v.length ∧ w.orientation = v.orientation)
      ↔ e.degree = 0 ∨ v.isConstant = true ∧ e.degree = 1)
    ∧ (v.timesScalar e = .error (.degreeExceeded v.kind e.kind)
      ↔ e.degree = 2 ∧ v.isConstant = false)
    ∧ ((∃ p, v.timesScalar e = .error (.unsupportedProduct p))
      ↔ v.isConstant = true ∧ e.degree = 2 ∨ v.isConstant = false ∧ e.degree = 1)
  := by
  have hdegree : e.degree = 0 ∨ e.degree = 1 ∨ e.degree = 2 := by
    have h := e.degree_le_two
    omega
  rcases hdegree with h | h | h
  · obtain ⟨w, hw, hshape⟩ := exists_timesScalar (v := v) (.inl h)
    simpa [hw, h] using hshape
  · cases hv : v.isConstant with
    | true =>
        obtain ⟨w, hw, hshape⟩ := exists_timesScalar (.inr ⟨hv, h⟩)
        simpa [hw, h] using hshape
    | false => simp [timesScalar_of_degree_eq_one v h, hv, h]
  · cases hv : v.isConstant with
    | true => simp [timesScalar_of_degree_eq_two v h, hv, h]
    | false => simp [timesScalar_of_degree_eq_two v h, hv, h]

/-! ### Sums of products of entries -/

/-- The products of the coefficients of two vectors, added up over their entries. -/
def dotProducts (u v : Vec α) : Matrix α :=
  let xs := Alignment.distinct (u.vars ++ v.vars)
  (Alignment.spreadColumns u.vars u.linearCoeff xs).transpose.mul
    (Alignment.spreadColumns v.vars v.linearCoeff xs)

theorem rows_dotProducts (u v : Vec α) :
  (u.dotProducts v).rows = (Alignment.distinct (u.vars ++ v.vars)).length
  := by
  simp [dotProducts]

theorem cols_dotProducts (u v : Vec α) :
  (u.dotProducts v).cols = (Alignment.distinct (u.vars ++ v.vars)).length
  := by
  simp [dotProducts]

/-- Two vectors with variables the products of whose coefficients cannot be made symmetric. -/
structure Skewed (u v : Vec α) : Prop where
  left : u.isConstant = false
  right : v.isConstant = false
  isSymmetric_eq : (u.dotProducts v).symmetrised.isSymmetric = false

/-- Where sums of coefficients do not depend on their order, only an entry that is unequal to
itself keeps a matrix from being made symmetric. -/
theorem skewed_iff_exists_ne (hadd : ∀ a b : α, a + b = b + a) {u v : Vec α} :
  u.Skewed v ↔ u.isConstant = false ∧ v.isConstant = false
    ∧ ∃ i < (u.dotProducts v).rows, ∃ j < (u.dotProducts v).cols,
      ((u.dotProducts v).symmetrised.entry i j == (u.dotProducts v).symmetrised.entry i j)
        = false
  := by
  have hsquare : (u.dotProducts v).rows = (u.dotProducts v).cols := by
    rw [rows_dotProducts, cols_dotProducts]
  have hiff := not_congr (Matrix.isSymmetric_symmetrised_iff hsquare hadd)
  push Not at hiff
  simp only [Bool.not_eq_true] at hiff
  rw [← hiff]
  constructor
  · rintro ⟨hu, hv, h⟩
    use hu, hv, h
  · rintro ⟨hu, hv, h⟩
    use hu, hv, h

/-- Over the rationals half a sum is symmetric. -/
theorem not_skewed (u v : Vec ℚ) :
  ¬ u.Skewed v
  := by
  rw [skewed_iff_exists_ne fun a b => Rat.add_comm a b]
  simp

/-- Over doubles a matrix cannot be made symmetric exactly if one of its entries is then no
number. -/
theorem skewed_iff_exists_isNaN (u v : Vec Float) :
  u.Skewed v ↔ u.isConstant = false ∧ v.isConstant = false
    ∧ ∃ i < (u.dotProducts v).rows, ∃ j < (u.dotProducts v).cols,
      ((u.dotProducts v).symmetrised.entry i j).isNaN = true
  := by
  simp only [skewed_iff_exists_ne Double.add_comm, ← Double.beq_self_eq_false_iff]

/-- A sum of products whose matrix is not symmetric is malformed. -/
theorem quadraticDot_eq_error {u v : Vec α}
    (h : (u.dotProducts v).symmetrised.isSymmetric = false) :
  u.quadraticDot v = .error (.malformed .notSymmetric)
  := by
  have hne : ¬ (u.dotProducts v).symmetrised.isSymmetric = true := by
    rw [h]
    exact Bool.false_ne_true
  exact dif_neg hne

/-- A sum of products whose matrix is symmetric is given. -/
theorem exists_quadraticDot_of_isSymmetric {u v : Vec α}
    (h : (u.dotProducts v).symmetrised.isSymmetric = true) :
  ∃ f, u.quadraticDot v = .ok f
  := ⟨_, dif_pos h⟩

/-- The sum of the products of the entries is refused only for skewed vectors. -/
theorem dot_eq_error_iff {u v : Vec α} :
  u.dot v = .error (.malformed .notSymmetric) ↔ u.Skewed v
  := by
  constructor
  · intro h
    unfold dot at h
    split at h
    · cases h
    · cases h
    · cases h
    · rename_i hu hv
      use hu, hv
      by_contra hsymmetric
      obtain ⟨f, hf⟩ := exists_quadraticDot_of_isSymmetric (by simpa using hsymmetric)
      rw [hf] at h
      cases h
  · rintro ⟨hu, hv, h⟩
    simp only [dot, hu, hv, quadraticDot_eq_error h]
    rfl

/-- A row times a column of one length is given if its matrix is symmetric. -/
theorem exists_dot_of_not_skewed {u v : Vec α} (h : ¬ u.Skewed v) :
  ∃ e, u.dot v = .ok e
  := by
  unfold dot
  split
  · exact ⟨_, rfl⟩
  · exact ⟨_, rfl⟩
  · exact ⟨_, rfl⟩
  · rename_i hu hv
    have hsymmetric : (u.dotProducts v).symmetrised.isSymmetric = true := by
      by_contra hne
      apply h ⟨hu, hv, by simpa using hne⟩
    obtain ⟨f, hf⟩ := exists_quadraticDot_of_isSymmetric hsymmetric
    rw [hf]
    exact ⟨_, rfl⟩

/-! ### Products of vectors -/

/-- A column and a row that do not both have a single entry. -/
def IsOuter (u v : Vec α) : Prop :=
  u.orientation = .column ∧ v.orientation = .row ∧ ¬(u.length = 1 ∧ v.length = 1)

/-- Two vectors whose product would be a matrix, or a vector of quadratic expressions. -/
def Unsupported (u v : Vec α) : Prop :=
  u.IsOuter v ∨ u.orientation = v.orientation ∧ u.isConstant = false ∧ v.isConstant = false

/-- Two vectors whose product would be a quadratic form but for its matrix. -/
def Formless (u v : Vec α) : Prop :=
  u.orientation ≠ v.orientation ∧ ¬ u.IsOuter v ∧ u.Skewed v

/-- Vectors whose product has no form are not refused for another reason. -/
theorem Formless.not_unsupported {u v : Vec α} (h : u.Formless v) :
  ¬ u.Unsupported v
  := by
  rintro (houter | ⟨ho, -⟩)
  · apply h.2.1 houter
  · apply h.1 ho

end Vec

namespace Expression

open Vec

/-- What the product of two vectors whose inner sizes agree comes to. -/
inductive ProductOutcome (u v : Vec α) : Except Error (Expression α) → Prop where
  | unsupported (h : u.Unsupported v) (p : UnsupportedProduct) :
      ProductOutcome u v (.error (.unsupportedProduct p))
  | formless (h : u.Formless v) : ProductOutcome u v (.error (.malformed .notSymmetric))
  | defined (hu : ¬ u.Unsupported v) (hf : ¬ u.Formless v) (e : Expression α)
      (he : e.dimensions = [u.rowCount, v.columnCount]) : ProductOutcome u v (.ok e)

/-- Two vectors of different orientations are multiplied entry by entry. -/
theorem productOutcome_dot {u v : Vec α} (ho : u.orientation ≠ v.orientation)
    (houter : ¬ u.IsOuter v) (hr : u.rowCount = 1) (hc : v.columnCount = 1) :
  ProductOutcome u v ((u.dot v).map .scalar)
  := by
  by_cases h : u.Skewed v
  · rw [dot_eq_error_iff.mpr h]
    apply ProductOutcome.formless ⟨ho, houter, h⟩
  · obtain ⟨e, he⟩ := exists_dot_of_not_skewed h
    rw [he, Outcome.map_ok]
    apply ProductOutcome.defined
    · rintro (h' | h')
      · apply houter h'
      · apply ho h'.1
    · intro h'
      apply h h'.2.2
    · rw [hr, hc]
      rfl

/-- Of two vectors of one orientation one is multiplied by the only entry of the other. -/
theorem productOutcome_timesEntry {u v a b : Vec α} (ho : u.orientation = v.orientation)
    (hab : a = u ∧ b = v ∨ a = v ∧ b = u) (hb : 0 < b.length)
    (hd : a.dimensions = [u.rowCount, v.columnCount]) :
  ProductOutcome u v ((a.timesScalar (b.entry 0 hb)).map .vector)
  := by
  have hformless : ¬ u.Formless v := fun h => h.1 ho
  have houter : ¬ u.IsOuter v := by
    rintro ⟨hu, hv, -⟩
    rw [hu, hv] at ho
    cases ho
  have hunsupported : u.Unsupported v ↔ a.isConstant = false ∧ b.isConstant = false := by
    rw [Unsupported, or_iff_right houter, and_iff_right ho]
    rcases hab with ⟨rfl, rfl⟩ | ⟨rfl, rfl⟩
    · rfl
    · apply and_comm
  have hdegree := degree_entry_eq_zero_iff hb
  have hle := degree_entry_le hb
  by_cases h : u.Unsupported v
  · obtain ⟨hac, hbc⟩ := hunsupported.mp h
    have hone : (b.entry 0 hb).degree = 1 := by
      rw [hbc] at hdegree
      simp only [Bool.false_eq_true, iff_false] at hdegree
      omega
    rw [timesScalar_of_degree_eq_one a hone, hac]
    apply ProductOutcome.unsupported h
  · have hlinear : (b.entry 0 hb).degree = 0 ∨ a.isConstant = true ∧ (b.entry 0 hb).degree = 1 := by
      rw [hunsupported, not_and_or, Bool.not_eq_false, Bool.not_eq_false] at h
      rcases h with h | h
      · rw [and_iff_right h]
        omega
      · left
        apply hdegree.mpr h
    obtain ⟨w, hw, hwl, hwo⟩ := exists_timesScalar hlinear
    rw [hw, Outcome.map_ok]
    apply ProductOutcome.defined h hformless
    apply (dimensions_congr hwl hwo).trans hd

/-- The product of vectors whose inner sizes match has one of the outcomes that are told apart. -/
theorem productOutcome_vectorProduct {u v : Vec α} (h : u.columnCount = v.rowCount) :
  ProductOutcome u v (vectorProduct u v)
  := by
  rcases u with ⟨s, o⟩
  rcases v with ⟨t, o'⟩
  cases o with
  | column =>
      cases o' with
      | column =>
          have hone : (Vec.mk t .column).length = 1 := h.symm
          simp only [vectorProduct, hone, dite_true]
          apply productOutcome_timesEntry (u := ⟨s, .column⟩) (v := ⟨t, .column⟩) rfl _ _ rfl
          left
          use rfl
      | row =>
          by_cases hone : (Vec.mk s .column).length = 1 ∧ (Vec.mk t .row).length = 1
          · simp only [vectorProduct, if_pos hone]
            apply productOutcome_dot (u := ⟨s, .column⟩) (v := ⟨t, .row⟩) (by simp) _ hone.1 hone.2
            rintro ⟨-, -, hnot⟩
            apply hnot hone
          · simp only [vectorProduct, if_neg hone]
            apply ProductOutcome.unsupported
            left
            use rfl, rfl, hone
  | row =>
      cases o' with
      | column =>
          have hlength : (Vec.mk s .row).length = (Vec.mk t .column).length := h
          simp only [vectorProduct, if_pos hlength]
          apply productOutcome_dot (by simp) _ rfl rfl
          rintro ⟨hrow, -⟩
          cases hrow
      | row =>
          have hone : (Vec.mk s .row).length = 1 := h
          simp only [vectorProduct, hone, dite_true]
          apply productOutcome_timesEntry (u := ⟨s, .row⟩) (v := ⟨t, .row⟩) rfl _ _ rfl
          right
          use rfl

/-- The product of vectors whose inner sizes differ is a mismatch of dimensions. -/
theorem vectorProduct_of_ne {u v : Vec α} (h : u.columnCount ≠ v.rowCount) :
  vectorProduct u v = .error (.dimensionMismatch .multiply u.dimensions v.dimensions)
  := by
  rcases u with ⟨s, o⟩
  rcases v with ⟨t, o'⟩
  cases o with
  | column =>
      cases o' with
      | column => exact dif_neg fun hone => h hone.symm
      | row => exact absurd rfl h
  | row =>
      cases o' with
      | column => exact if_neg h
      | row => exact dif_neg h

/-- How the product of two vectors whose inner sizes agree is refused, and that it is defined
otherwise. -/
theorem vectorProduct_defined_iff {u v : Vec α} (h : u.columnCount = v.rowCount) :
  ((∃ p, vectorProduct u v = .error (.unsupportedProduct p)) ↔ u.Unsupported v)
    ∧ (vectorProduct u v = .error (.malformed .notSymmetric) ↔ u.Formless v)
    ∧ (vectorProduct u v ≠ .error (.dimensionMismatch .multiply u.dimensions v.dimensions))
    ∧ (¬ u.Unsupported v → ¬ u.Formless v →
      ∃ e, vectorProduct u v = .ok e ∧ e.dimensions = [u.rowCount, v.columnCount])
  := by
  have houtcome := productOutcome_vectorProduct h
  generalize vectorProduct u v = outcome at houtcome ⊢
  cases houtcome with
  | unsupported hu p =>
      have hf : ¬ u.Formless v := fun hf => hf.not_unsupported hu
      simp [hu, hf]
  | formless hf => simp [hf, hf.not_unsupported]
  | defined hu hf e he => simp [hu, hf, he]

end Expression

namespace Arithmetic

open Expression

theorem result?_vectors (u v : Vec α) :
  matrixMultiply.result? (.expression (.vector u)) (.expression (.vector v))
    = some (vectorProduct u v)
  := rfl

/-- Which products with vectors are defined, and how the others are refused. A scalar expression
and a vector commute. Over the rationals no product is refused for its matrix, and over doubles
only one whose matrix has an entry that is no number. -/
theorem products_defined_iff :
  (∀ (a : Scalar α) (v : Vec α),
      multiply.result? (.expression (.scalar a)) (.expression (.vector v))
          = multiply.result? (.expression (.vector v)) (.expression (.scalar a))
        ∧ ((∃ w, multiply.result? (.expression (.vector v)) (.expression (.scalar a))
                = some (.ok (.vector w)) ∧ w.length = v.length ∧ w.orientation = v.orientation)
            ↔ a.degree = 0 ∨ v.isConstant = true ∧ a.degree = 1)
        ∧ (multiply.result? (.expression (.vector v)) (.expression (.scalar a))
                = some (.error (.degreeExceeded v.kind a.kind))
            ↔ a.degree = 2 ∧ v.isConstant = false)
        ∧ ((∃ p, multiply.result? (.expression (.vector v)) (.expression (.scalar a))
                = some (.error (.unsupportedProduct p)))
            ↔ v.isConstant = true ∧ a.degree = 2 ∨ v.isConstant = false ∧ a.degree = 1))
    ∧ (∀ u v : Vec α,
        (matrixMultiply.result? (.expression (.vector u)) (.expression (.vector v))
                = some (.error (.dimensionMismatch .multiply u.dimensions v.dimensions))
            ↔ u.columnCount ≠ v.rowCount)
          ∧ (u.columnCount = v.rowCount →
            ((∃ p, matrixMultiply.result? (.expression (.vector u)) (.expression (.vector v))
                  = some (.error (.unsupportedProduct p)))
                ↔ u.Unsupported v)
              ∧ (matrixMultiply.result? (.expression (.vector u)) (.expression (.vector v))
                  = some (.error (.malformed .notSymmetric))
                ↔ u.Formless v)
              ∧ (¬ u.Unsupported v → ¬ u.Formless v →
                ∃ e, matrixMultiply.result? (.expression (.vector u)) (.expression (.vector v))
                    = some (.ok e) ∧ e.dimensions = [u.rowCount, v.columnCount])))
    ∧ (∀ u v : Vec ℚ, ¬ u.Formless v)
    ∧ ∀ u v : Vec Float, u.Formless v ↔
        u.orientation ≠ v.orientation ∧ ¬ u.IsOuter v
          ∧ u.isConstant = false ∧ v.isConstant = false
          ∧ ∃ i < (u.dotProducts v).rows, ∃ j < (u.dotProducts v).cols,
            ((u.dotProducts v).symmetrised.entry i j).isNaN = true
  := by
  constructor
  · intro a v
    have hleft : multiply.result? (.expression (.scalar a)) (.expression (.vector v))
        = some ((v.timesScalar a).map .vector) := rfl
    have hright : multiply.result? (.expression (.vector v)) (.expression (.scalar a))
        = some ((v.timesScalar a).map .vector) := rfl
    rw [hleft, hright]
    obtain ⟨hdefined, hdegree, hunsupported⟩ := v.timesScalar_defined_iff a
    simp only [Option.some.injEq, Outcome.map_eq_ok_iff, Outcome.map_eq_error_iff,
      Expression.vector.injEq, exists_eq_right, true_and]
    exact ⟨hdefined, hdegree, hunsupported⟩
  · constructor
    · intro u v
      simp only [result?_vectors, Option.some.injEq]
      constructor
      · constructor
        · intro hmismatch h
          apply (vectorProduct_defined_iff h).2.2.1 hmismatch
        · apply vectorProduct_of_ne
      · intro h
        obtain ⟨hunsupported, hformless, -, hdefined⟩ := vectorProduct_defined_iff h
        use hunsupported, hformless, hdefined
    · constructor
      · intro u v h
        apply u.not_skewed v h.2.2
      · intro u v
        rw [Vec.Formless, Vec.skewed_iff_exists_isNaN]

/-- A variable stands as a column beside itself as a row, and a constant row of two entries beside
a column of one. -/
theorem products_defined_iff_entries :
  (∃ e, matrixMultiply.result? (α := ℚ) (.expression (.vector ⟨.vars [default], .column⟩))
      (.expression (.vector ⟨.vars [default], .row⟩)) = some (.ok e) ∧ e.dimensions = [1, 1])
    ∧ matrixMultiply.result? (α := ℚ) (.expression (.vector ⟨.const [1, 2], .row⟩))
      (.expression (.vector ⟨.vars [default], .column⟩))
        = some (.error (.dimensionMismatch .multiply [1, 2] [1, 1]))
    ∧ ∃ p, matrixMultiply.result? (α := ℚ) (.expression (.vector ⟨.vars [default], .row⟩))
      (.expression (.vector ⟨.vars [default, default], .row⟩))
        = some (.error (.unsupportedProduct p))
  := by
  obtain ⟨-, hvectors, hrational, -⟩ := products_defined_iff (α := ℚ)
  constructor
  · apply ((hvectors ⟨.vars [default], .column⟩ ⟨.vars [default], .row⟩).2 rfl).2.2 _
      (hrational _ _)
    simp [Vec.Unsupported, Vec.IsOuter, Vec.length]
  · constructor
    · apply (hvectors ⟨.const [1, 2], .row⟩ ⟨.vars [default], .column⟩).1.mpr
      decide
    · apply ((hvectors ⟨.vars [default], .row⟩ ⟨.vars [default, default], .row⟩).2 rfl).1.mpr
      right
      exact ⟨rfl, rfl, rfl⟩

/-- A vector with one entry, in which a large number multiplies a variable and some other number
another one. -/
def largeEntry (a : Float) (o : Orientation) : Vec Float :=
  ⟨.affine ⟨[⟨0, Variable.unbounded.1, Variable.unbounded.2, .continuous, .text "", 0⟩,
    ⟨1, Variable.unbounded.1, Variable.unbounded.2, .continuous, .text "", 1⟩],
    Matrix.ofRow [1e200, a], [0.0], rfl, rfl⟩, o⟩

/-- A row and a column whose product is refused although it is supported: the products of their
finite coefficients are beyond all doubles, with opposite signs. -/
theorem product_not_defined_largeEntry :
  (largeEntry (-1e200) .row).columnCount = (largeEntry 1e200 .column).rowCount
    ∧ ¬ (largeEntry (-1e200) .row).Unsupported (largeEntry 1e200 .column)
    ∧ matrixMultiply.result? (.expression (.vector (largeEntry (-1e200) .row)))
      (.expression (.vector (largeEntry 1e200 .column)))
        = some (.error (.malformed .notSymmetric))
  := by
  have hasymmetric : ((largeEntry (-1e200) .row).dotProducts
      (largeEntry 1e200 .column)).symmetrised.isSymmetric = false := by
    decide +kernel
  have hinner : (largeEntry (-1e200) .row).columnCount = (largeEntry 1e200 .column).rowCount := by
    simp [Vec.columnCount, Vec.rowCount, Vec.length, largeEntry]
  have hformless : (largeEntry (-1e200) .row).Formless (largeEntry 1e200 .column) := by
    constructor
    · simp [largeEntry]
    · constructor
      · simp [Vec.IsOuter, largeEntry]
      · exact ⟨rfl, rfl, hasymmetric⟩
  use hinner, hformless.not_unsupported
  rw [result?_vectors, (vectorProduct_defined_iff hinner).2.1.mpr hformless]

end Arithmetic

end QuadraticProgram
