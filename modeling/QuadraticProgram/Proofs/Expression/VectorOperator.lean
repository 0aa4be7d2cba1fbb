import QuadraticProgram.Proofs.Expression.ScalarOperator
import QuadraticProgram.Proofs.Vec.Arithmetic

/-!
# Operators between vectors

The operators on vectors refine the operators on scalar expressions. At every index the entry
of a sum, of a difference, of a multiple or of a product with a constant matrix agrees with the
scalar expression that the same operation makes of the entries, and a row times a column with
the sum of the products of their entries.
-/

namespace QuadraticProgram

open QuadraticProgram.Alignment

/-! ### Entries -/

namespace Vec

/-- A vector of a given length and orientation, whose entry at each index in range agrees with
some scalar expression that is expected there. An index has a position, from which it differs
if it counts from the end. -/
def Refines (w : Vec ℚ) (vs : List Variable) (length : ℕ) (o : Orientation)
    (expected : ℤ → ℕ → Scalar ℚ → Prop) : Prop :=
  w.length = length ∧ w.orientation = o
    ∧ ∀ i k, position? i length = some k →
        ∃ c d, w.at? i = .ok c ∧ expected i k d ∧ Scalar.Agrees vs c d

/-- A vector with the right values refines scalar expressions with these values. -/
theorem Represents.refines {w : Vec ℚ} {vs : List Variable} {length : ℕ} {o : Orientation}
    {value : (ℕ → ℚ) → ℕ → ℚ} (h : w.Represents vs length o value)
    {expected : ℤ → ℕ → Scalar ℚ → Prop}
    (hexpected : ∀ i k, position? i length = some k →
      ∃ d, expected i k d ∧ (∀ s : ℕ → Option ℚ, Covers s vs → Covers s d.vars)
        ∧ ∀ x, d.valueAt x = value x k) :
  w.Refines vs length o expected
  := by
  use h.length_eq, h.orientation_eq
  intro i k hik
  obtain ⟨d, hd, hvars, hvalue⟩ := hexpected i k hik
  have hk : k < w.length := by
    rw [h.length_eq]
    apply position?_lt hik
  use w.entry k hk, d
  constructor
  · apply at?_eq_ok
    rw [h.length_eq, hik]
  · use hd
    apply Scalar.agrees_of_valueAt_eq _ hvars
    · intro x
      rw [valueAt_entry, hvalue, h.valueAt_eq x (position?_lt hik)]
    · intro s hs
      apply covers_vars_entry
      apply covers_of_distinct_eq h.distinct_vars hs

/-- An entry has the value that every scalar expression has that is expected in its place. -/
theorem Refines.exists_evaluate_eq {w : Vec ℚ} {vs : List Variable} {length : ℕ} {o : Orientation}
    {expected : ℤ → ℕ → Scalar ℚ → Prop} (h : w.Refines vs length o expected) {i : ℤ} {k : ℕ}
    (hik : position? i length = some k) {s : ℕ → Option ℚ} (hs : Covers s vs) {t : ℚ}
    (hvalue : ∀ d, expected i k d → d.evaluate s = .ok t) :
  ∃ c, w.at? i = .ok c ∧ c.evaluate s = .ok t
  := by
  obtain ⟨-, -, hentries⟩ := h
  obtain ⟨c, d, hc, hd, hagrees⟩ := hentries i k hik
  obtain ⟨t', hct, hdt⟩ := hagrees s hs
  rw [hvalue d hd] at hdt
  cases hdt
  use c, hc, hct

end Vec

variable {u v : Vec ℚ}

/-! ### Sums and differences -/

namespace Expression

/-- To add a vector adds the entries. -/
theorem exists_vector_plus (hl : u.length = v.length) (ho : u.orientation = v.orientation) :
  ∃ w, (vector u).plus (.expression (.vector v)) = .ok (.vector w)
    ∧ w.Represents (u.vars ++ v.vars) u.length u.orientation
        fun x i => u.valueAt x i + v.valueAt x i
  := by
  obtain ⟨w, hw, hr⟩ := Vec.exists_add hl ho
  use w
  rw [plus, Operand.asVector, Outcome.ok_bind, hw]
  use rfl

/-- To subtract a vector is to add one with the opposite entries. -/
theorem exists_vector_minus (hl : u.length = v.length) (ho : u.orientation = v.orientation) :
  ∃ w, (vector u).minus (.expression (.vector v)) = .ok (.vector w)
    ∧ w.Represents (u.vars ++ v.vars) u.length u.orientation
        fun x i => u.valueAt x i - v.valueAt x i
  := by
  have hneg := Vec.represents_scale (-1) v
  obtain ⟨w, hw, hr⟩ := exists_vector_plus (hl.trans hneg.length_eq.symm)
    (ho.trans hneg.orientation_eq.symm)
  use w
  constructor
  · rw [minus, negated, multiply_number, scale, Outcome.ok_bind]
    apply hw
  · constructor
    · rw [hr.distinct_vars]
      apply distinct_append_congr rfl hneg.distinct_vars
    · apply hr.length_eq
    · apply hr.orientation_eq
    · intro x i hi
      rw [hr.valueAt_eq x hi, hneg.valueAt_eq x (hl ▸ hi), neg_one_mul, ← sub_eq_add_neg]

end Expression

namespace Arithmetic

/-- An operator between two vectors gives a vector of their length and orientation, whose
entries agree with what it gives for their entries. -/
def RefinesEntries (op : Arithmetic) (u v : Vec ℚ) : Prop :=
  ∃ w, op.result? (.expression (.vector u)) (.expression (.vector v)) = some (.ok (.vector w))
    ∧ w.Refines (u.vars ++ v.vars) u.length u.orientation fun i _ d =>
        ∃ a b, u.at? i = .ok a ∧ v.at? i = .ok b
          ∧ op.result? (.expression (.scalar a)) (.expression (.scalar b))
              = some (.ok (.scalar d))

/-- An operator refines its work on entries if both compute the same function of the values. -/
theorem refinesEntries_of_represents (op : Arithmetic) {f : ℚ → ℚ → ℚ} {w : Vec ℚ}
    (hl : u.length = v.length)
    (hop : op.onLeft (.vector u) (.expression (.vector v)) = .ok (.vector w))
    (hw : w.Represents (u.vars ++ v.vars) u.length u.orientation
      fun x i => f (u.valueAt x i) (v.valueAt x i))
    (hscalar : ∀ a b : Scalar ℚ, ∃ degree,
      Expression.Gives (op.onLeft (.scalar a) (.expression (.scalar b))) (a.vars ++ b.vars) degree
        fun x => f (a.valueAt x) (b.valueAt x)) :
  op.RefinesEntries u v
  := by
  use w, congrArg some hop
  apply hw.refines
  intro i k hik
  have hu : k < u.length := position?_lt hik
  have hv : k < v.length := hl ▸ hu
  obtain ⟨degree, d, hd, hr⟩ := hscalar (u.entry k hu) (v.entry k hv)
  use d
  constructor
  · use u.entry k hu, v.entry k hv, Vec.at?_eq_ok hik, Vec.at?_eq_ok (hl ▸ hik)
    rw [result?, hd]
  · constructor
    · intro s hs
      obtain ⟨hsu, hsv⟩ := covers_append.mp hs
      apply covers_of_distinct_eq hr.distinct_vars
      apply covers_append.mpr ⟨Vec.covers_vars_entry hu hsu, Vec.covers_vars_entry hv hsv⟩
    · intro x
      rw [hr.valueAt_eq, Vec.valueAt_entry, Vec.valueAt_entry]

/-- The entries of a sum are the sums of the entries. -/
theorem refinesEntries_add (hl : u.length = v.length) (ho : u.orientation = v.orientation) :
  add.RefinesEntries u v
  := by
  obtain ⟨w, hw, hr⟩ := Expression.exists_vector_plus hl ho
  apply refinesEntries_of_represents add hl hw hr
  intro a b
  exact ⟨_, Expression.gives_plus a (.expression b)⟩

/-- The entries of a difference are the differences of the entries. -/
theorem refinesEntries_subtract (hl : u.length = v.length) (ho : u.orientation = v.orientation) :
  subtract.RefinesEntries u v
  := by
  obtain ⟨w, hw, hr⟩ := Expression.exists_vector_minus hl ho
  apply refinesEntries_of_represents subtract hl hw hr
  intro a b
  exact ⟨_, Expression.gives_minus a (.expression b)⟩

/-! ### Multiples -/

/-- The coefficient by which an operand multiplies expressions of every form. -/
inductive Multiplies : Operand ℚ → ℚ → Prop where
  | number (n : Number ℚ) : Multiplies (.number n) n.amount
  | constant (t : ℚ) : Multiplies (.expression (.scalar (.const t))) t

/-- A coefficient on the left multiplies expressions of every form. -/
theorem result?_multiply_left {k : Operand ℚ} {t : ℚ} (hk : Multiplies k t) (e : Expression ℚ) :
  multiply.result? k (.expression e) = some (e.scale t)
  := by
  cases hk with
  | number n => cases e <;> exact congrArg some (Expression.multiply_number _ n)
  | constant t =>
      cases e with
      | scalar a =>
          exact congrArg (fun c => some (Except.map Expression.scalar c)) (Scalar.const_mul t a)
      | _ => rfl

/-- A coefficient on the right multiplies expressions of every form. -/
theorem result?_multiply_right {k : Operand ℚ} {t : ℚ} (hk : Multiplies k t) (e : Expression ℚ) :
  multiply.result? (.expression e) k = some (e.scale t)
  := by
  cases hk with
  | number n => exact congrArg some (Expression.multiply_number e n)
  | constant t =>
      cases e with
      | scalar a =>
          exact congrArg (fun c => some (Except.map Expression.scalar c)) (Scalar.mul_const a t)
      | _ => rfl

/-- The entries of a multiple are the multiples of the entries. -/
theorem refines_scale (t : ℚ) (v : Vec ℚ) :
  (v.scale t).Refines v.vars v.length v.orientation fun i _ d =>
    ∃ a, v.at? i = .ok a ∧ (Expression.scalar a).scale t = .ok (.scalar d)
  := by
  apply (Vec.represents_scale t v).refines
  intro i k hik
  have hk : k < v.length := position?_lt hik
  obtain ⟨d, hd, hr⟩ := Expression.gives_scale (v.entry k hk) t
  use d
  constructor
  · use v.entry k hk, Vec.at?_eq_ok hik
  · constructor
    · intro s hs
      apply covers_of_distinct_eq hr.distinct_vars
      apply Vec.covers_vars_entry hk hs
    · intro x
      rw [hr.valueAt_eq, Vec.valueAt_entry]

/-! ### Products with constant matrices -/

/-- The constant matrix that an operand stands for. -/
inductive IsMatrix : Operand ℚ → Matrix ℚ → Prop where
  | matrix (m : Matrix ℚ) : IsMatrix (.expression (.matrix m)) m
  | array (t : Tensor ℚ) (h : t.axes = 2) : IsMatrix (.array t) (.ofArray t)

/-- A matrix on the left, or an array of two axes, multiplies a column. -/
theorem result?_matrix_left {y : Operand ℚ} {m : Matrix ℚ} (h : IsMatrix y m) (v : Vec ℚ) :
  matrixMultiply.result? y (.expression (.vector v))
    = some ((Vec.mulMatrixLeft m v).map .vector)
  := by
  cases h with
  | matrix m => rfl
  | array t h => simp [result?, reflected, Expression.multipliedBy, h, Expression.times]

/-- A matrix on the right, or an array of two axes, multiplies a row. -/
theorem result?_matrix_right {y : Operand ℚ} {m : Matrix ℚ} (h : IsMatrix y m) (v : Vec ℚ) :
  matrixMultiply.result? (.expression (.vector v)) y
    = some ((v.mulMatrixRight m).map .vector)
  := by
  cases h with
  | matrix m => rfl
  | array t h => simp [result?, onLeft, Expression.multiply, h, Expression.times]

/-- Constants as scalar expressions. -/
def constants (f : ℕ → ℚ) (n : ℕ) : List (Scalar ℚ) := (List.range n).map fun j => .const (f j)

theorem exists_of_mem_constants {f : ℕ → ℚ} {n : ℕ} {e : Scalar ℚ} (h : e ∈ constants f n) :
  ∃ t, e = .const t
  := by
  obtain ⟨j, -, rfl⟩ := List.mem_map.mp h
  use f j

theorem map_valueAt_constants (f : ℕ → ℚ) (n : ℕ) (x : ℕ → ℚ) :
  (constants f n).map (Scalar.valueAt x) = (List.range n).map f
  := by
  rw [constants, List.map_map]
  apply List.map_congr_left
  intro j _
  apply Scalar.valueAt_const

/-- Constants have no products. -/
theorem degree_le_of_mem_constants {f : ℕ → ℚ} {n : ℕ} {e : Scalar ℚ} (h : e ∈ constants f n) :
  e.degree ≤ 1
  := by
  obtain ⟨t, rfl⟩ := exists_of_mem_constants h
  apply Nat.zero_le

/-- Constants need no values. -/
theorem covers_of_mem_constants {f : ℕ → ℚ} {n : ℕ} {e : Scalar ℚ} (h : e ∈ constants f n)
    (s : ℕ → Option ℚ) :
  Covers s e.vars
  := by
  obtain ⟨t, rfl⟩ := exists_of_mem_constants h
  intro v hv
  cases hv

/-- The entry of a product with a matrix agrees with the sum of the products of the constants in a
row and the entries of the vector. -/
theorem refines_matrix_left {y : Operand ℚ} {m : Matrix ℚ} (hy : IsMatrix y m)
    (ho : v.orientation = .column) (h : m.cols = v.length) :
  ∃ w, matrixMultiply.result? y (.expression (.vector v)) = some (.ok (.vector w))
    ∧ w.Refines v.vars m.rows .column fun _ k d =>
        Scalar.sumOfProducts (constants (m.entry k) m.cols) v.toList = .ok d
  := by
  obtain ⟨w, hw, hr⟩ := Vec.exists_mulMatrixLeft ho h
  use w
  rw [result?_matrix_left hy, hw]
  use rfl
  apply hr.refines
  intro _ k _
  obtain ⟨d, hd, hvars, hvalue⟩ := Scalar.exists_sumOfProducts
    (fun a ha => degree_le_of_mem_constants (f := m.entry k) (n := m.cols) ha)
    (fun b hb => Vec.degree_le_of_mem_toList (v := v) hb)
  use d, hd
  constructor
  · intro s hs
    apply hvars s
    · intro a ha
      apply covers_of_mem_constants ha
    · intro b hb
      apply Vec.covers_of_mem_toList hs hb
  · intro x
    rw [hvalue, map_valueAt_constants, Vec.map_valueAt_toList, ← h, Coefficient.dot_map_range]

/-- The entry of a product with a matrix on the right agrees with the sum of the products of the
entries of the vector and the constants in a column. -/
theorem refines_matrix_right {y : Operand ℚ} {m : Matrix ℚ} (hy : IsMatrix y m)
    (ho : v.orientation = .row) (h : m.rows = v.length) :
  ∃ w, matrixMultiply.result? (.expression (.vector v)) y = some (.ok (.vector w))
    ∧ w.Refines v.vars m.cols .row fun _ k d =>
        Scalar.sumOfProducts v.toList (constants (m.entry · k) m.rows) = .ok d
  := by
  obtain ⟨w, hw, hr⟩ := Vec.exists_mulMatrixRight ho h
  use w
  rw [result?_matrix_right hy, hw]
  use rfl
  apply hr.refines
  intro _ k _
  obtain ⟨d, hd, hvars, hvalue⟩ := Scalar.exists_sumOfProducts
    (fun a ha => Vec.degree_le_of_mem_toList (v := v) ha)
    (fun b hb => degree_le_of_mem_constants (f := (m.entry · k)) (n := m.rows) hb)
  use d, hd
  constructor
  · intro s hs
    apply hvars s
    · intro a ha
      apply Vec.covers_of_mem_toList hs ha
    · intro b hb
      apply covers_of_mem_constants hb
  · intro x
    rw [hvalue, map_valueAt_constants, Vec.map_valueAt_toList, ← h, Coefficient.dot_map_range]

/-! ### Products of rows and columns -/

/-- A row times a column agrees with the sum of the products of their entries. -/
theorem agrees_dot (hu : u.orientation = .row) (hv : v.orientation = .column)
    (h : u.length = v.length) :
  ∃ c d, matrixMultiply.result? (.expression (.vector u)) (.expression (.vector v))
      = some (.ok (.scalar c))
    ∧ Scalar.sumOfProducts u.toList v.toList = .ok d ∧ Scalar.Agrees (u.vars ++ v.vars) c d
  := by
  obtain ⟨c, hc, hr⟩ := Vec.exists_dot h
  obtain ⟨d, hd, hvars, hvalue⟩ := Scalar.exists_sumOfProducts
    (fun a ha => Vec.degree_le_of_mem_toList (v := u) ha)
    (fun b hb => Vec.degree_le_of_mem_toList (v := v) hb)
  use c, d
  constructor
  · simp [result?, onLeft, Expression.multiply, Expression.times, Expression.vectorProduct, hu, hv,
      h, hc]
  · use hd
    apply Scalar.agrees_of_valueAt_eq
    · intro s hs
      apply covers_of_distinct_eq hr.distinct_vars hs
    · intro s hs
      obtain ⟨hsu, hsv⟩ := covers_append.mp hs
      apply hvars s
      · intro a ha
        apply Vec.covers_of_mem_toList hsu ha
      · intro b hb
        apply Vec.covers_of_mem_toList hsv hb
    · intro x
      rw [hr.valueAt_eq, hvalue, Vec.map_valueAt_toList, Vec.map_valueAt_toList, ← h,
        Coefficient.dot_map_range]

/-! ### The refinement -/

/-- Vectors refine their entries. Evaluation takes the value of each entry; sums, differences and
multiples are those of the entries, products with a constant matrix on either side and products of
a row and a column are sums of products of entries. -/
theorem vector_operators_refine (v : Vec ℚ) :
  (∀ s, Covers s v.vars → ∃ values, v.evaluate s = .ok values ∧ values.length = v.length
      ∧ ∀ i k, position? i v.length = some k →
          ∃ e t, v.at? i = .ok e ∧ e.evaluate s = .ok t ∧ values[k]? = some t)
    ∧ (∀ u : Vec ℚ, u.length = v.length → u.orientation = v.orientation →
        add.RefinesEntries u v ∧ subtract.RefinesEntries u v)
    ∧ (∀ k t, Multiplies k t →
        (∃ w, multiply.result? k (.expression (.vector v)) = some (.ok (.vector w))
          ∧ w.Refines v.vars v.length v.orientation fun i _ d =>
              ∃ a, v.at? i = .ok a
                ∧ multiply.result? k (.expression (.scalar a)) = some (.ok (.scalar d)))
          ∧ ∃ w, multiply.result? (.expression (.vector v)) k = some (.ok (.vector w))
            ∧ w.Refines v.vars v.length v.orientation fun i _ d =>
                ∃ a, v.at? i = .ok a
                  ∧ multiply.result? (.expression (.scalar a)) k = some (.ok (.scalar d)))
    ∧ (∀ y m, IsMatrix y m → v.orientation = .column → m.cols = v.length →
        ∃ w, matrixMultiply.result? y (.expression (.vector v)) = some (.ok (.vector w))
          ∧ w.Refines v.vars m.rows .column fun _ k d =>
              Scalar.sumOfProducts (constants (m.entry k) m.cols) v.toList = .ok d)
    ∧ (∀ y m, IsMatrix y m → v.orientation = .row → m.rows = v.length →
        ∃ w, matrixMultiply.result? (.expression (.vector v)) y = some (.ok (.vector w))
          ∧ w.Refines v.vars m.cols .row fun _ k d =>
              Scalar.sumOfProducts v.toList (constants (m.entry · k) m.rows) = .ok d)
    ∧ ∀ u : Vec ℚ, u.orientation = .row → v.orientation = .column → u.length = v.length →
        ∃ c d, matrixMultiply.result? (.expression (.vector u)) (.expression (.vector v))
            = some (.ok (.scalar c))
          ∧ Scalar.sumOfProducts u.toList v.toList = .ok d ∧ Scalar.Agrees (u.vars ++ v.vars) c d
  := by
  constructor
  · intro s hs
    use (List.range v.length).map (v.valueAt (pointOf s)), Vec.evaluate_eq_ok hs, by simp
    intro i k hik
    have hk : k < v.length := position?_lt hik
    use v.entry k hk, v.valueAt (pointOf s) k, Vec.at?_eq_ok hik, Vec.evaluate_entry hk hs
    simp [hk]
  · constructor
    · intro u hl ho
      constructor
      · apply refinesEntries_add hl ho
      · apply refinesEntries_subtract hl ho
    · constructor
      · intro k t hk
        have hscale := refines_scale t v
        simp only [result?_multiply_left hk, result?_multiply_right hk, Option.some.injEq]
        constructor
        · exact ⟨_, rfl, hscale⟩
        · exact ⟨_, rfl, hscale⟩
      · constructor
        · intro y m hy ho h
          apply refines_matrix_left hy ho h
        · constructor
          · intro y m hy ho h
            apply refines_matrix_right hy ho h
          · intro u hu hv h
            apply agrees_dot hu hv h

/-- An operator gives a vector of a length, whose entry at an index has a value. -/
def GivesEntry (op : Arithmetic) (x y : Operand ℚ) (length : ℕ) (i : ℤ) (s : ℕ → Option ℚ)
    (t : ℚ) : Prop :=
  ∃ w c, op.result? x y = some (.ok (.vector w)) ∧ w.length = length ∧ w.at? i = .ok c
    ∧ c.evaluate s = .ok t

/-- The value of an entry is found by evaluating what is expected in its place. -/
theorem givesEntry_of_refines {op : Arithmetic} {x y : Operand ℚ} {w : Vec ℚ}
    (hw : op.result? x y = some (.ok (.vector w))) {vs : List Variable} {length : ℕ}
    {o : Orientation} {expected : ℤ → ℕ → Scalar ℚ → Prop}
    (h : w.Refines vs length o expected) {i : ℤ} {k : ℕ} (hik : position? i length = some k)
    {s : ℕ → Option ℚ} (hs : Covers s vs) {t : ℚ}
    (hvalue : ∀ d, expected i k d → d.evaluate s = .ok t) :
  op.GivesEntry x y length i s t
  := by
  obtain ⟨c, hc, ht⟩ := h.exists_evaluate_eq hik hs hvalue
  exact ⟨w, c, hw, h.1, hc, ht⟩

/-- The value of an entry is found by evaluating what the operator gives for the entries. -/
theorem RefinesEntries.givesEntry {op : Arithmetic} (h : op.RefinesEntries u v) {i : ℤ} {k : ℕ}
    (hik : position? i u.length = some k) {s : ℕ → Option ℚ} (hs : Covers s (u.vars ++ v.vars))
    {a b d : Scalar ℚ} (ha : u.at? i = .ok a) (hb : v.at? i = .ok b)
    (hd : op.result? (.expression (.scalar a)) (.expression (.scalar b)) = some (.ok (.scalar d)))
    {t : ℚ} (ht : d.evaluate s = .ok t) :
  op.GivesEntry (.expression (.vector u)) (.expression (.vector v)) u.length i s t
  := by
  obtain ⟨w, hw, hr⟩ := h
  apply givesEntry_of_refines hw hr hik hs
  rintro d' ⟨a', b', ha', hb', hd'⟩
  rw [ha] at ha'
  rw [hb] at hb'
  cases ha'
  cases hb'
  rw [hd] at hd'
  cases hd'
  apply ht

/-- A vector that holds one variable twice. -/
def twice (o : Orientation) : Vec ℚ := ⟨.vars [default, default], o⟩

/-- The assignment of five to every variable. -/
def fives : ℕ → Option ℚ := fun _ => some 5

/-- A variable twice, beside constants, numbers, arrays on either side and itself, where it is
five. -/
theorem vector_operators_refine_twice :
  (∃ values, (twice .column).evaluate fives = .ok values ∧ values.length = 2
      ∧ values[1]? = some 5)
    ∧ add.RefinesEntries ⟨.const [1, 2], .column⟩ (twice .column)
    ∧ subtract.RefinesEntries ⟨.const [1, 2], .column⟩ (twice .column)
    ∧ add.GivesEntry (.expression (.vector ⟨.const [1, 2], .column⟩))
      (.expression (.vector (twice .column))) 2 0 fives 6
    ∧ subtract.GivesEntry (.expression (.vector ⟨.const [1, 2], .column⟩))
      (.expression (.vector (twice .column))) 2 (-1) fives (-3)
    ∧ multiply.GivesEntry (.number (.integer 3)) (.expression (.vector (twice .column))) 2 1 fives
      15
    ∧ matrixMultiply.GivesEntry (.array ⟨[1, 2], [3, 4]⟩) (.expression (.vector (twice .column)))
      1 0 fives 35
    ∧ matrixMultiply.GivesEntry (.expression (.vector (twice .row)))
      (.array ⟨[2, 3], [1, 2, 3, 4, 5, 6]⟩) 3 2 fives 45
    ∧ ∃ c, matrixMultiply.result? (.expression (.vector (twice .row)))
        (.expression (.vector (twice .column))) = some (.ok (.scalar c))
      ∧ c.evaluate fives = .ok 50
  := by
  have hcovers : ∀ vs, Covers fives vs := fun _ _ _ => rfl
  obtain ⟨hevaluate, hentries, hmultiple, hleft, -, hdot⟩ := vector_operators_refine (twice .column)
  obtain ⟨-, -, -, -, hright, -⟩ := vector_operators_refine (twice .row)
  obtain ⟨hadd, hsubtract⟩ := hentries ⟨.const [1, 2], .column⟩ rfl rfl
  refine ⟨?_, hadd, hsubtract, ?_, ?_, ?_, ?_, ?_, ?_⟩
  · obtain ⟨values, hvalues, hlength, hvalue⟩ := hevaluate fives (hcovers _)
    obtain ⟨_, _, ⟨⟩, ⟨⟩, hvalue⟩ := hvalue 1 1 rfl
    exact ⟨values, hvalues, hlength, hvalue⟩
  · apply hadd.givesEntry rfl (hcovers _) rfl rfl rfl
    decide +kernel
  · apply hsubtract.givesEntry rfl (hcovers _) rfl rfl rfl
    decide +kernel
  · obtain ⟨w, hw, hr⟩ := (hmultiple _ _ (.number (.integer 3))).1
    apply givesEntry_of_refines hw hr rfl (hcovers _)
    rintro d ⟨_, ⟨⟩, ⟨⟩⟩
    decide +kernel
  · obtain ⟨w, hw, hr⟩ := hleft _ _ (.array ⟨[1, 2], [3, 4]⟩ rfl) rfl rfl
    apply givesEntry_of_refines hw hr rfl (hcovers _)
    rintro d ⟨⟩
    decide +kernel
  · obtain ⟨w, hw, hr⟩ := hright _ _ (.array ⟨[2, 3], [1, 2, 3, 4, 5, 6]⟩ rfl) rfl rfl
    apply givesEntry_of_refines hw hr rfl (hcovers _)
    rintro d ⟨⟩
    decide +kernel
  · obtain ⟨c, d, hc, hd, hagrees⟩ := hdot (twice .row) rfl rfl rfl
    obtain ⟨t, hct, hdt⟩ := hagrees fives (hcovers _)
    have hvalue : (Scalar.sumOfProducts (twice .row).toList (twice .column).toList
        >>= Scalar.evaluate fives) = .ok 50 := by
      decide +kernel
    rw [hd, Outcome.ok_bind, hdt] at hvalue
    rw [hvalue] at hct
    use c, hc, hct

end Arithmetic

end QuadraticProgram
