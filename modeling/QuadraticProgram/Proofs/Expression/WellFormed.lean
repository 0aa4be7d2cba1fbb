import QuadraticProgram.Expression.Sum
import QuadraticProgram.Proofs.Expression.ProductDomain
import QuadraticProgram.Proofs.Expression.Rebuilding
import QuadraticProgram.Proofs.Expression.ScalarOperator
import QuadraticProgram.Proofs.Expression.VectorOperator

/-!
# Operations keep expressions well formed

Over the rationals no operation on expressions is refused because its result would be malformed
(`NotMalformed`): sums, differences, products and quotients with all operands, changes of sign,
sums of many operands, transposition, parts, rewriting over other variables and entries in range.
Whatever they give has parts of the sizes that its constructor asks for and is accepted by it
(`Expression.operations_wellFormed`). Lists without variables, vectors without entries and matrices
without rows or columns are no exceptions.
-/

namespace QuadraticProgram

/-! ### Outcomes -/

/-- An outcome that is not refused for a malformed expression. -/
def NotMalformed {β : Type} (outcome : Except Error β) : Prop :=
  ∀ d, outcome ≠ .error (.malformed d)

namespace NotMalformed

variable {β γ : Type} {outcome : Except Error β}

theorem ok (b : β) :
  NotMalformed (.ok b)
  := by
  intro d h
  cases h

/-- An outcome that exists with some property is no error at all. -/
theorem of_exists {P : β → Prop} (h : ∃ b, outcome = .ok b ∧ P b) :
  NotMalformed outcome
  := by
  obtain ⟨b, rfl, -⟩ := h
  apply ok

/-- What is made of a result brings no error in. -/
theorem map (h : NotMalformed outcome) (f : β → γ) :
  NotMalformed (outcome.map f)
  := by
  intro d hd
  apply h d (Outcome.map_eq_error_iff.mp hd)

/-- Steps that each bring no malformed expression in bring none in together. -/
theorem bind (h : NotMalformed outcome) {f : β → Except Error γ} (hf : ∀ b, NotMalformed (f b)) :
  NotMalformed (outcome >>= f)
  := by
  cases outcome with
  | ok b => apply hf b
  | error e =>
      intro d hd
      cases hd
      apply h d rfl

/-- A traversal whose steps bring no malformed expression in brings none in. -/
theorem mapM {f : β → Except Error γ} (h : ∀ b, NotMalformed (f b)) (bs : List β) :
  NotMalformed (bs.mapM f)
  := by
  induction bs with
  | nil => apply NotMalformed.ok
  | cons b bs ih =>
      rw [List.mapM_cons]
      apply (h b).bind
      intro c
      apply ih.bind
      intro cs
      apply NotMalformed.ok

/-- A fold whose steps bring no malformed expression in brings none in. -/
theorem foldlM {f : γ → β → Except Error γ} (h : ∀ c b, NotMalformed (f c b)) (c : γ)
    (bs : List β) :
  NotMalformed (bs.foldlM f c)
  := by
  induction bs generalizing c with
  | nil => apply NotMalformed.ok
  | cons b bs ih =>
      rw [List.foldlM_cons]
      apply (h c b).bind
      intro d
      apply ih

end NotMalformed

/-! ### Scalar expressions -/

namespace Scalar

/-- Sums of scalar expressions always exist. -/
theorem notMalformed_add (a b : Scalar ℚ) :
  NotMalformed (a.add b)
  := .of_exists (exists_add a b)

/-- Multiples of scalar expressions always exist. -/
theorem notMalformed_scale (t : ℚ) (a : Scalar ℚ) :
  NotMalformed (a.scale t)
  := .of_exists (exists_scale t a)

/-- A product of scalar expressions is refused for its degree at most. -/
theorem notMalformed_mul (a b : Scalar ℚ) :
  NotMalformed (a.mul b)
  := by
  rcases le_or_gt (a.degree + b.degree) 2 with h | h
  · apply NotMalformed.of_exists (exists_mul h)
  · rw [mul_eq_error h]
    rintro d ⟨⟩

/-- Half the sum of a square matrix and its transpose is symmetric over the rationals, so that the
check of the constructor passes. -/
theorem notMalformed_symmetrise? (vs : List Variable) (q : Matrix ℚ) (l : List ℚ) (c : ℚ)
    (hr : q.rows = vs.length) (hc : q.cols = vs.length) (hl : l.length = vs.length) :
  NotMalformed (QuadraticForm.symmetrise? vs q l c hr hc hl)
  := .of_exists (QuadraticForm.exists_symmetrise? vs q l c hr hc hl)

/-- The variable part of a scalar expression always exists. -/
theorem notMalformed_variablePart (a : Scalar ℚ) :
  NotMalformed a.variablePart
  := by
  cases a with
  | quadratic f =>
      apply NotMalformed.map
      apply notMalformed_symmetrise?
  | _ => apply NotMalformed.ok

end Scalar

/-- A variable that is not in the target is the only reason for a refusal. -/
theorem Alignment.notMalformed_requireAll (source target : List Variable) :
  NotMalformed (requireAll source target)
  := by
  unfold requireAll
  split
  · rintro d ⟨⟩
  · apply NotMalformed.ok

/-- To rewrite a scalar expression is refused for a missing variable at most. -/
theorem Scalar.notMalformed_rewrite (a : Scalar ℚ) (target : List Variable) :
  NotMalformed (a.rewrite target)
  := by
  apply (Alignment.notMalformed_requireAll _ _).bind
  intro
  cases a with
  | quadratic f =>
      apply NotMalformed.map
      apply notMalformed_symmetrise?
  | _ => apply NotMalformed.ok

/-! ### Vectors -/

namespace Vec

/-- Shapes that differ are a mismatch of dimensions. -/
theorem notMalformed_requireSameShape (operation : Operation) (u v : Vec ℚ) :
  NotMalformed (u.requireSameShape operation v)
  := by
  unfold requireSameShape
  split_ifs
  · rintro d ⟨⟩
  · rintro d ⟨⟩
  · apply NotMalformed.ok

/-- A sum of vectors is refused for their shapes at most. -/
theorem notMalformed_add (u v : Vec ℚ) :
  NotMalformed (u.add v)
  := by
  apply (notMalformed_requireSameShape _ _ _).bind
  intro
  split
  · apply NotMalformed.ok
  · split_ifs
    · apply NotMalformed.ok
    · rintro d ⟨⟩

/-- A vector times a scalar expression is refused for its degree at most. -/
theorem notMalformed_timesScalar (v : Vec ℚ) (a : Scalar ℚ) :
  NotMalformed (v.timesScalar a)
  := by
  unfold timesScalar
  split
  · apply NotMalformed.ok
  · split_ifs
    · rintro d ⟨⟩
    · rintro d ⟨⟩
  · split_ifs
    · apply NotMalformed.ok
    · rintro d ⟨⟩

/-- A product with a matrix on the left is refused for its sizes at most. -/
theorem notMalformed_mulMatrixLeft (m : Matrix ℚ) (v : Vec ℚ) :
  NotMalformed (mulMatrixLeft m v)
  := by
  unfold mulMatrixLeft
  split_ifs
  · apply NotMalformed.ok
  · apply NotMalformed.ok
  · rintro d ⟨⟩

/-- A product with a matrix on the right is refused for its sizes at most. -/
theorem notMalformed_mulMatrixRight (v : Vec ℚ) (m : Matrix ℚ) :
  NotMalformed (v.mulMatrixRight m)
  := by
  unfold mulMatrixRight
  split_ifs
  · apply NotMalformed.ok
  · apply NotMalformed.ok
  · rintro d ⟨⟩

/-- Over the rationals the matrix of the products of coefficients can be made symmetric. -/
theorem notMalformed_dot (u v : Vec ℚ) :
  NotMalformed (u.dot v)
  := by
  obtain ⟨e, he⟩ := exists_dot_of_not_skewed (not_skewed u v)
  rw [he]
  apply NotMalformed.ok

/-- To rewrite a vector is refused for a missing variable at most. -/
theorem notMalformed_rewrite (v : Vec ℚ) (target : List Variable) :
  NotMalformed (v.rewrite target)
  := by
  apply (Alignment.notMalformed_requireAll _ _).bind
  intro
  apply NotMalformed.ok

end Vec

/-! ### Operands -/

/-- A number is refused for its size at most. -/
theorem Number.notMalformed_value (n : Number ℚ) :
  NotMalformed n.value
  := by
  rw [n.value_eq_ok]
  apply NotMalformed.ok

namespace Operand

/-- What cannot stand for a scalar expression is refused as an operand. -/
theorem notMalformed_asScalar (operation : Operation) (x : Operand ℚ) :
  NotMalformed (x.asScalar operation)
  := by
  unfold asScalar
  split
  · apply (Number.notMalformed_value _).map
  · split_ifs
    · apply NotMalformed.ok
    · rintro d ⟨⟩
  · apply NotMalformed.ok
  · rintro d ⟨⟩
  · rintro d ⟨⟩

/-- What cannot stand for a vector is refused as an operand. -/
theorem notMalformed_asVector (operation : Operation) (broadcast : Bool) (u : Vec ℚ)
    (x : Operand ℚ) :
  NotMalformed (x.asVector operation broadcast u)
  := by
  unfold asVector
  split
  · apply NotMalformed.ok
  · split_ifs
    · apply NotMalformed.ok
    · rintro d ⟨⟩
  · split_ifs
    · apply (Number.notMalformed_value _).map
    · rintro d ⟨⟩
  · rintro d ⟨⟩
  · rintro d ⟨⟩

/-- What cannot stand for an expression is refused as an operand. -/
theorem notMalformed_toExpression (x : Operand ℚ) :
  NotMalformed x.toExpression
  := by
  unfold toExpression
  split
  · apply NotMalformed.ok
  · apply (Number.notMalformed_value _).map
  · split
    · apply NotMalformed.ok
    · apply NotMalformed.ok
    · rintro d ⟨⟩
  · rintro d ⟨⟩

end Operand

/-! ### Expressions -/

namespace Expression

/-- Multiples of expressions of every form exist. -/
theorem notMalformed_scale (t : ℚ) (e : Expression ℚ) :
  NotMalformed (e.scale t)
  := by
  cases e with
  | scalar a => apply (a.notMalformed_scale t).map
  | vector v => apply NotMalformed.ok
  | matrix m => apply NotMalformed.ok

/-- The products of two vectors are refused for their shapes at most. -/
theorem notMalformed_vectorProduct (u v : Vec ℚ) :
  NotMalformed (vectorProduct u v)
  := by
  unfold vectorProduct
  split
  · split_ifs
    · apply (u.notMalformed_dot v).map
    · rintro d ⟨⟩
  · split_ifs
    · apply (u.notMalformed_dot v).map
    · rintro d ⟨⟩
  · split_ifs
    · apply (u.notMalformed_timesScalar _).map
    · rintro d ⟨⟩
  · split_ifs
    · apply (v.notMalformed_timesScalar _).map
    · rintro d ⟨⟩

theorem notMalformed_matrixTimesScalar (m : Matrix ℚ) (a : Scalar ℚ) :
  NotMalformed (m.timesScalar a)
  := by
  cases a with
  | const t => apply NotMalformed.ok
  | _ => rintro d ⟨⟩

/-- A product of matrices is refused for their sizes at most. -/
theorem notMalformed_matrixTimes (m n : Matrix ℚ) :
  NotMalformed (m.times n)
  := by
  unfold Matrix.times
  split_ifs
  · apply NotMalformed.ok
  · rintro d ⟨⟩

/-- The product of two expressions of any forms makes no malformed expression. -/
theorem notMalformed_times (e f : Expression ℚ) :
  NotMalformed (e.times f)
  := by
  unfold times
  split
  · apply (Scalar.notMalformed_mul _ _).map
  · apply (Vec.notMalformed_timesScalar _ _).map
  · apply (notMalformed_matrixTimesScalar _ _).map
  · apply (Vec.notMalformed_timesScalar _ _).map
  · apply notMalformed_vectorProduct
  · apply (Vec.notMalformed_mulMatrixRight _ _).map
  · apply (notMalformed_matrixTimesScalar _ _).map
  · apply (Vec.notMalformed_mulMatrixLeft _ _).map
  · apply (notMalformed_matrixTimes _ _).map

/-- The product of an expression and an operand makes no malformed expression. -/
theorem notMalformed_multiply (e : Expression ℚ) (x : Operand ℚ) :
  NotMalformed (e.multiply x)
  := by
  unfold multiply
  split
  · apply (Number.notMalformed_value _).bind
    intro t
    apply notMalformed_scale
  · apply notMalformed_times
  · split
    · apply (Scalar.notMalformed_mul _ _).map
    · apply notMalformed_times
    · apply notMalformed_times
    · rintro d ⟨⟩
  · rintro d ⟨⟩

/-- To change the sign of an expression makes no malformed expression. -/
theorem notMalformed_negated (e : Expression ℚ) :
  NotMalformed e.negated
  := e.notMalformed_multiply _

/-- The sum of an expression and an operand makes no malformed expression. -/
theorem notMalformed_plus (e : Expression ℚ) (x : Operand ℚ) :
  NotMalformed (e.plus x)
  := by
  cases e with
  | scalar a =>
      apply (Operand.notMalformed_asScalar _ _).bind
      intro b
      apply (a.notMalformed_add b).bind
      intro c
      apply NotMalformed.ok
  | vector u =>
      apply (Operand.notMalformed_asVector _ _ _ _).bind
      intro v
      apply (u.notMalformed_add v).bind
      intro w
      apply NotMalformed.ok
  | matrix m =>
      simp only [plus]
      split
      · split_ifs
        · apply NotMalformed.ok
        · rintro d ⟨⟩
      · split_ifs
        · apply NotMalformed.ok
        · rintro d ⟨⟩
        · rintro d ⟨⟩
      · rintro d ⟨⟩
      · rintro d ⟨⟩
      · rintro d ⟨⟩

/-- The difference of an expression and an operand makes no malformed expression. -/
theorem notMalformed_minus (e : Expression ℚ) (x : Operand ℚ) :
  NotMalformed (e.minus x)
  := by
  unfold minus
  split
  · apply notMalformed_plus
  · apply (notMalformed_negated _).bind
    intro g
    apply notMalformed_plus
  · split_ifs
    · apply notMalformed_plus
    · apply notMalformed_plus
  · rintro d ⟨⟩

/-- The difference of an operand and an expression makes no malformed expression. -/
theorem notMalformed_subtractedFrom (e : Expression ℚ) (x : Operand ℚ) :
  NotMalformed (e.subtractedFrom x)
  := by
  apply e.notMalformed_negated.bind
  intro g
  apply notMalformed_plus

/-- The quotient of an expression and an operand makes no malformed expression. -/
theorem notMalformed_divide (e : Expression ℚ) (x : Operand ℚ) :
  NotMalformed (e.divide x)
  := by
  unfold divide
  split
  · apply (Number.notMalformed_value _).bind
    intro t
    split_ifs
    · rintro d ⟨⟩
    · apply notMalformed_multiply
  · rintro d ⟨⟩

/-- The product of an operand and an expression makes no malformed expression. -/
theorem notMalformed_multipliedBy (e : Expression ℚ) (x : Operand ℚ) :
  NotMalformed (e.multipliedBy x)
  := by
  unfold multipliedBy
  split
  · apply notMalformed_multiply
  · split
    · apply notMalformed_times
    · apply notMalformed_times
    · rintro d ⟨⟩
    · rintro d ⟨⟩
  · apply notMalformed_multiply

theorem notMalformed_variablePart (e : Expression ℚ) :
  NotMalformed e.variablePart
  := by
  cases e with
  | scalar a => apply a.notMalformed_variablePart.map
  | vector v => apply NotMalformed.ok
  | matrix m => rintro d ⟨⟩

theorem notMalformed_constantPart (e : Expression ℚ) :
  NotMalformed e.constantPart
  := by
  cases e with
  | scalar a => apply NotMalformed.ok
  | vector v => apply NotMalformed.ok
  | matrix m => rintro d ⟨⟩

/-! ### Sums of many operands -/

/-- A sum of operands makes no malformed expression. -/
theorem notMalformed_sum (xs : List (Operand ℚ)) :
  NotMalformed (sum xs)
  := by
  apply NotMalformed.bind
  · apply NotMalformed.mapM Operand.notMalformed_toExpression
  · intro es
    split
    · apply NotMalformed.ok
    · apply NotMalformed.ok
    · apply NotMalformed.foldlM
      intro e f
      apply notMalformed_plus

end Expression

/-- Whichever operator gives an outcome, it makes no malformed expression. -/
theorem Arithmetic.notMalformed_result? {op : Arithmetic} {x y : Operand ℚ}
    {outcome : Except Error (Expression ℚ)} (h : op.result? x y = some outcome) :
  NotMalformed outcome
  := by
  unfold result? at h
  split at h
  · cases h
    cases op with
    | add => apply Expression.notMalformed_plus
    | subtract => apply Expression.notMalformed_minus
    | multiply => apply Expression.notMalformed_multiply
    | matrixMultiply => apply Expression.notMalformed_multiply
    | divide => apply Expression.notMalformed_divide
  · unfold reflected at h
    split at h
    · cases h
      apply Expression.notMalformed_plus
    · cases h
      apply Expression.notMalformed_subtractedFrom
    · cases h
      apply Expression.notMalformed_multipliedBy
    · cases h
    · cases h
      apply Expression.notMalformed_multipliedBy
    · cases h
  · cases h

/-! ### Entries -/

/-- Every index in range has an entry, counted from the front or from the end. -/
theorem Vec.exists_at? {v : Vec ℚ} {i : ℤ} (hlow : -v.length ≤ i) (hhigh : i < v.length) :
  ∃ a, v.at? i = .ok a
  := ⟨_, at?_eq_ok (position?_eq_emod hlow hhigh)⟩

/-! ### Results -/

namespace Expression

/-- The parts of an expression have sizes that agree, and the matrix of a quadratic form is
symmetric. -/
def WellFormed : Expression ℚ → Prop
  | scalar (.linear f) => f.coeffs.length = f.vars.length
  | scalar (.quadratic f) =>
    f.quad.rows = f.vars.length ∧ f.quad.cols = f.vars.length
      ∧ (∀ i j, f.quad.entry i j = f.quad.entry j i) ∧ f.coeffs.length = f.vars.length
  | scalar _ => True
  | vector v => v.linearCoeff.rows = v.constant.length ∧ v.linearCoeff.cols = v.vars.length
  | matrix m => ∀ row ∈ m.rowList, row.length = m.cols

/-- Every expression is well formed, because its parts are kept in step by their types. -/
theorem wellFormed (e : Expression ℚ) :
  e.WellFormed
  := by
  cases e with
  | scalar a =>
      cases a with
      | const c => trivial
      | var v => trivial
      | linear f => exact f.length_coeffs
      | quadratic f => exact ⟨f.rows_quad, f.cols_quad, f.entry_comm, f.length_coeffs⟩
  | vector v => exact ⟨v.rows_linearCoeff, v.cols_linearCoeff⟩
  | matrix m => exact m.length_row

/-- An operation that is not refused for a malformed expression, and whose result is well formed
and accepted by its own constructor. -/
structure StaysWellFormed (outcome : Except Error (Expression ℚ)) : Prop where
  notMalformed : NotMalformed outcome
  wellFormed {e : Expression ℚ} (h : outcome = .ok e) : e.WellFormed
  rebuilt_eq_ok {e : Expression ℚ} (h : outcome = .ok e) : e.rebuilt = .ok e

/-- A result is well formed as soon as the operation makes no malformed expression. -/
theorem staysWellFormed {outcome : Except Error (Expression ℚ)} (h : NotMalformed outcome) :
  StaysWellFormed outcome
  := by
  constructor
  · apply h
  · intro e _
    apply e.wellFormed
  · intro e _
    apply e.rebuilt_eq_ok

/-- No operation is refused for a malformed expression, and every result is a well-formed one. An
entry is found at every index in range, which may count from the end. -/
theorem operations_wellFormed :
  (∀ (op : Arithmetic) (x y : Operand ℚ) (outcome : Except Error (Expression ℚ)),
      op.result? x y = some outcome → StaysWellFormed outcome)
    ∧ (∀ xs : List (Operand ℚ), StaysWellFormed (sum xs))
    ∧ (∀ e : Expression ℚ, StaysWellFormed e.negated ∧ StaysWellFormed (.ok e.transpose)
        ∧ StaysWellFormed e.variablePart ∧ StaysWellFormed e.constantPart)
    ∧ (∀ (a : Scalar ℚ) (target : List Variable),
        StaysWellFormed ((a.rewrite target).map scalar))
    ∧ (∀ (v : Vec ℚ) (target : List Variable), StaysWellFormed ((v.rewrite target).map vector))
    ∧ ∀ (v : Vec ℚ) (i : ℤ), -v.length ≤ i → i < v.length →
        ∃ a, v.at? i = .ok a ∧ StaysWellFormed (.ok (scalar a))
  := by
  constructor
  · intro op x y outcome h
    apply staysWellFormed (Arithmetic.notMalformed_result? h)
  · constructor
    · intro xs
      apply staysWellFormed (notMalformed_sum xs)
    · constructor
      · intro e
        exact ⟨staysWellFormed e.notMalformed_negated, staysWellFormed (.ok _),
          staysWellFormed e.notMalformed_variablePart, staysWellFormed e.notMalformed_constantPart⟩
      · constructor
        · intro a target
          apply staysWellFormed ((a.notMalformed_rewrite target).map _)
        · constructor
          · intro v target
            apply staysWellFormed ((v.notMalformed_rewrite target).map _)
          · intro v i hlow hhigh
            obtain ⟨a, ha⟩ := Vec.exists_at? hlow hhigh
            use a, ha
            apply staysWellFormed (.ok _)

/-- A matrix without rows beside a column of two variables gives a vector without entries. The last
entry of a row stands at its only index from the end. -/
theorem operations_wellFormed_empty :
  (∃ w : Vec ℚ, Arithmetic.matrixMultiply.result? (.expression (.matrix (.zeros 0 2)))
        (.expression (.vector ⟨.vars [default, default], .column⟩)) = some (.ok (.vector w))
      ∧ w.length = 0 ∧ StaysWellFormed (.ok (.vector w)))
    ∧ ∃ a : Scalar ℚ, (Vec.mk (.vars [default]) .row).at? (-1) = .ok a
      ∧ StaysWellFormed (.ok (scalar a))
  := by
  obtain ⟨hresult, -, -, -, -, hat⟩ := operations_wellFormed
  constructor
  · have hproduct := hresult .matrixMultiply (.expression (.matrix (.zeros 0 2)))
      (.expression (.vector ⟨.vars [default, default], .column⟩)) _ rfl
    exact ⟨_, rfl, rfl, hproduct⟩
  · apply hat (Vec.mk (.vars [default]) .row) (-1)
    · decide
    · decide

end Expression

end QuadraticProgram
