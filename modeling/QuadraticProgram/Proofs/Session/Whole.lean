import Mathlib.Data.Int.Notation
import Mathlib.Data.List.Basic
import Mathlib.Data.Rat.Init
import QuadraticProgram.Proofs.Outcome
import QuadraticProgram.Proofs.Session.Quiet

/-!
# Values that are whole numbers

Integers and truth values count as whole numbers (`Value.whole?`). Two values have an integer as
their product only if both are such (`whole_of_product`); their order and their comparison are
then those of the integers.
-/

namespace QuadraticProgram.Session

namespace Value

/-- The whole number that a value counts as in arithmetic. -/
def whole? : Value → Option ℤ
  | bool b | flag b => some (if b then 1 else 0)
  | integer _ n => some n
  | _ => none

end Value

/-! ### Products -/

/-- An exact number that counts as an integer is a whole one. -/
theorem whole_of_quantity {v : Value} {q : ℚ} (h : Quantity.of? v = some (.exact q true)) :
  ∃ n : ℤ, v.whole? = some n ∧ q = n
  := by
  cases v with
  | bool b | flag b => cases b <;> cases h <;> simp [Value.whole?]
  | integer tag n => cases h; simp [Value.whole?]
  | _ => cases h

/-- A product of doubles is no integer. -/
theorem integer?_of_onDoubles {a b : Float} {isEntry : Bool} {v : Value}
    (h : Quantity.onDoubles .multiply a b isEntry = .ok v) :
  v.integer? = none
  := by
  cases h
  split
  · rfl
  · rfl

/-- A product of complex numbers is no integer. -/
theorem integer?_of_onComplex {a b : Float × Float} {v : Value}
    (h : Quantity.onComplex .multiply a b = .ok v) :
  v.integer? = none
  := by
  cases h
  rfl

/-- A product of exact numbers is an integer only if both are. -/
theorem exact_of_onExact {p q : ℚ} {i j : Bool} {v : Value} {k : ℤ}
    (h : Quantity.onExact .multiply p q (i && j) = .ok v) (hk : v.integer? = some k) :
  i = true ∧ j = true ∧ v = .ofInt (p * q).num
  := by
  cases h
  cases hij : i && j with
  | false =>
      rw [hij] at hk
      cases hk
  | true =>
      obtain ⟨hi, hj⟩ := Bool.and_eq_true_iff.mp hij
      exact ⟨hi, hj, rfl⟩

/-- A product of numbers is an integer only if both are exact integers. -/
theorem exact_of_combine {x y : Quantity} {v : Value} {k : ℤ}
    (h : Quantity.combine .multiply x y = .ok v) (hk : v.integer? = some k) :
  ∃ p q, x = .exact p true ∧ y = .exact q true ∧ v = .ofInt (p * q).num
  := by
  rw [Quantity.combine.eq_def] at h
  split at h
  · next p i q j =>
      obtain ⟨rfl, rfl, hv⟩ := exact_of_onExact h hk
      exact ⟨p, q, rfl, rfl, hv⟩
  all_goals
    obtain ⟨a, -, h⟩ := Outcome.bind_eq_ok_iff.mp h
    obtain ⟨b, -, h⟩ := Outcome.bind_eq_ok_iff.mp h
  · rw [integer?_of_onComplex h] at hk
    contradiction
  · rw [integer?_of_onComplex h] at hk
    contradiction
  · rw [integer?_of_onDoubles h] at hk
    contradiction

/-- A span of time is no integer. -/
theorem integer?_ofMicroseconds {n : ℤ} {v : Value} (h : Span.ofMicroseconds n = .ok v) :
  v.integer? = none
  := by
  rw [Span.ofMicroseconds] at h
  split at h
  · contradiction
  · cases h
    rfl

/-- A multiple of a span of time is no integer. -/
theorem integer?_of_span {a b v : Value} (h : Span.combine? .multiply a b = some (.ok v)) :
  v.integer? = none
  := by
  have hscaled (d : Duration) (factor : Value)
      (hd : ((Span.factor? factor).map fun q => do Span.scaled d (← q)) = some (.ok v)) :
      v.integer? = none := by
    obtain ⟨q, -, hq⟩ := Option.map_eq_some_iff.mp hd
    cases q with
    | error f => cases hq
    | ok q => apply integer?_ofMicroseconds hq
  rw [Span.combine?.eq_def] at h
  split at h
  · contradiction
  · contradiction
  · contradiction
  · apply hscaled _ _ h
  · apply hscaled _ _ h
  · contradiction
  · contradiction

/-- A sequence that is repeated is no integer. -/
theorem integer?_repeated {v w : Value} {n : ℤ} (hv : Joined.isSequence v)
    (h : Joined.repeated v n = .ok w) :
  w.integer? = none
  := by
  rw [Joined.repeated.eq_def] at h
  dsimp only at h
  split at h
  · contradiction
  · split at h
    · contradiction
    · split at h
      · cases h
        rfl
      · cases h
        rfl
      · cases h
        split
        · rfl
        · rfl
      · cases h
        cases v with
        | text | list | tuple => rfl
        | _ => contradiction

/-- A sequence times a value is no integer. -/
theorem integer?_times {v n w : Value} (hv : Joined.isSequence v)
    (h : Joined.times v n = .ok w) :
  w.integer? = none
  := by
  rw [Joined.times] at h
  split at h
  · apply integer?_repeated hv h
  · contradiction

/-- A product with a sequence is no integer. -/
theorem integer?_of_joined {a b v : Value} (h : Joined.combine? .multiply a b = some (.ok v)) :
  v.integer? = none
  := by
  rw [Joined.combine?] at h
  split at h
  · next ha => apply integer?_times ha (Option.some.inj h)
  · split at h
    · next hb => apply integer?_times hb (Option.some.inj h)
    · contradiction

/-- An array is no integer, and neither is an entry that stands for one. -/
theorem integer?_ofTensor (t : Tensor Float) :
  (Entrywise.ofTensor t).integer? = none
  := by
  rw [Entrywise.ofTensor]
  split
  · rfl
  · rfl

/-- A product of arrays is no integer. -/
theorem integer?_of_entrywise {a b v : Value} (h : Entrywise.combine .multiply a b = .ok v) :
  v.integer? = none
  := by
  obtain ⟨t, -, h⟩ := Outcome.bind_eq_ok_iff.mp h
  obtain ⟨u, -, h⟩ := Outcome.bind_eq_ok_iff.mp h
  obtain ⟨result, -, hv⟩ := Outcome.bind_eq_ok_iff.mp h
  cases hv
  apply integer?_ofTensor

/-- A product of plain values that is an integer is one of whole numbers. -/
theorem whole_of_plainArithmetic {a b v : Value} {k : ℤ}
    (h : plainArithmetic .multiply a b = .ok v) (hk : v.integer? = some k) :
  ∃ m n : ℤ, a.whole? = some m ∧ b.whole? = some n ∧ v = .ofInt (m * n)
  := by
  rw [plainArithmetic.eq_def] at h
  split at h
  · contradiction
  · split at h
    · rw [integer?_of_entrywise h] at hk
      contradiction
    · split at h
      · contradiction
      · next x y hx hy _ =>
          obtain ⟨p, q, rfl, rfl, rfl⟩ := exact_of_combine h hk
          obtain ⟨m, hm, rfl⟩ := whole_of_quantity hx
          obtain ⟨n, hn, rfl⟩ := whole_of_quantity hy
          use m, n, hm, hn
          rw [← Rat.intCast_mul, Rat.num_intCast]
      · next hspan _ _ =>
          rw [h] at hspan
          rw [integer?_of_span hspan] at hk
          contradiction
      · next hjoined _ _ =>
          rw [h] at hjoined
          rw [integer?_of_joined hjoined] at hk
          contradiction
      · contradiction

/-- An expression is no integer, and to make one changes nothing but the next free tag. -/
theorem integer?_expression {e : Expression Float} {s : State} :
  (Act.expression e).Ends s (fun v t => s.Agrees t ∧ v.integer? = none) fun _ t => s.Agrees t
  := by
  rw [Act.expression.eq_def]
  split
  · exact ⟨.refl s, rfl⟩
  · exact ⟨s.agrees_nextTag _, rfl⟩

/-- A product that is an integer is one of whole numbers. -/
theorem ends_product (a b : Value) (s : State) :
  (GridLine.product a b).Ends s
    (fun v t => s.Agrees t ∧ ∀ k, v.integer? = some k →
      ∃ m n : ℤ, a.whole? = some m ∧ b.whole? = some n ∧ v = .ofInt (m * n))
    fun _ t => s.Agrees t
  := by
  rw [GridLine.product, Act.arithmetic]
  split
  · apply (Act.isQuiet_ofExcept _).ends_bind
    intro e t ht
    apply integer?_expression.imp
    rintro v u ⟨hu, hv⟩
    use ht.trans hu
    intro k hk
    rw [hv] at hk
    contradiction
  · rw [Act.ends_ofResult]
    constructor
    · intro v hv
      use .refl s
      intro k hk
      apply whole_of_plainArithmetic hv hk
    · intro f _
      apply State.Agrees.refl

/-- A whole number counts as an exact integer in arithmetic. -/
theorem quantity_of_whole {v : Value} {n : ℤ} (h : v.whole? = some n) :
  Quantity.of? v = some (.exact n true)
  := by
  cases v with
  | bool b | flag b => cases h; cases b <;> rfl
  | integer tag m => cases h; rfl
  | _ => contradiction

/-- A whole number is neither an expression nor an array. -/
theorem plain_of_whole {v : Value} {n : ℤ} (h : v.whole? = some n) :
  v.isExpression = false ∧ v.tensor? = none
  := by
  cases v with
  | bool b | flag b | integer tag m => exact ⟨rfl, rfl⟩
  | _ => contradiction

/-- The product of two whole numbers is their product, and changes nothing. -/
theorem after_product {a b : Value} {m n : ℤ} (ha : a.whole? = some m) (hb : b.whole? = some n)
    (s : State) :
  (GridLine.product a b).after s = (.ok (.ofInt (m * n)), s)
  := by
  have hcombine : Quantity.combine .multiply (.exact m true) (.exact n true)
      = .ok (.ofInt (m * n)) := by
    rw [← Rat.num_intCast (m * n), Rat.intCast_mul]
    rfl
  have hplain : plainArithmetic .multiply a b = .ok (.ofInt (m * n)) := by
    obtain ⟨hla, hta⟩ := plain_of_whole ha
    obtain ⟨hlb, htb⟩ := plain_of_whole hb
    rw [plainArithmetic.eq_def, hla, hlb, quantity_of_whole ha, quantity_of_whole hb]
    simpa [Entrywise.applies, hta, htb] using hcombine
  have hresult : Arithmetic.multiply.result? a.operand b.operand = none := by
    cases a with
    | bool | flag | integer =>
        cases b with
        | bool | flag | integer => rfl
        | _ => contradiction
    | _ => contradiction
  rw [GridLine.product, Act.arithmetic, hresult]
  dsimp only
  rw [hplain]
  rfl

/-- Whether a whole number is negative is asked as between integers. -/
theorem after_isOrdered_zero {v : Value} {n : ℤ} (h : v.whole? = some n) (s : State) :
  (Act.isOrdered .less v (.ofInt 0)).after s = (.ok (decide (n < 0)), s)
  := by
  have hcast : decide ((n : ℚ) < (0 : ℤ)) = decide (n < 0) := by
    apply decide_eq_decide.mpr Rat.intCast_lt_intCast
  cases v with
  | bool b | flag b => cases h; cases b <;> rfl
  | integer tag m =>
      cases h
      rw [← hcast]
      rfl
  | _ => contradiction

/-- A whole number that is not found to be negative is none. -/
theorem ends_isOrdered_zero (v : Value) (s : State) :
  (Act.isOrdered .less v (.ofInt 0)).Ends s
    (fun b t => s.Agrees t ∧ (b = false → ∀ n, v.whole? = some n → 0 ≤ n))
    fun _ t => s.Agrees t
  := by
  rcases hv : v.whole? with - | m
  · apply ((Act.isQuiet_isOrdered _ _ _).ends s).imp
    intro b t ht
    use ht
    intro _ n hn
    contradiction
  · rw [Act.ends_of_after (after_isOrdered_zero hv s)]
    use .refl s
    intro hm n hn
    cases hn
    apply Int.not_lt.mp (of_decide_eq_false hm)

/-- What can be an index is an integer. -/
theorem integer?_of_toIndex {v : Value} {k : ℤ} (h : v.toIndex = .ok k) :
  v.integer? = some k
  := by
  rw [Value.toIndex.eq_def] at h
  split at h
  · next n _ hn =>
      cases h
      apply hn
  · contradiction
  · contradiction

/-- Whether two integers differ is asked as between integers. -/
theorem after_different (m n : ℤ) (s : State) :
  (Act.different (.ofInt m) (.ofInt n)).after s = (.ok (.bool (m != n)), s)
  := by
  have hcast : ((m : ℚ) == (n : ℚ) && (0 : ℚ) == 0) = (m == n) := by
    simp [beq_eq_decide]
  change _ = (Except.ok (Value.bool (!(m == n))), s)
  rw [← hcast]
  rfl

end QuadraticProgram.Session
