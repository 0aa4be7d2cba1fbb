import QuadraticProgram.Proofs.Scalar.Canonical
import QuadraticProgram.Scalar.Text

/-!
# What the text of a scalar expression says

A text is read as a sum of monomials: a number and the names of variables make a product, and
products follow one another with their signs (`ReadsSum`). The text of an expression is read as
those of its monomials (`Scalar.monomials`) whose coefficients are not zero, or as its constant, and
their sum is its value (`Scalar.text_denotes`). The products below the diagonal are read off those
above it, because the matrix is symmetric (`sum_eq_sum_upper`).
-/

namespace QuadraticProgram

open QuadraticProgram.Alignment

/-- A coefficient with the variables that it multiplies. -/
structure Monomial where
  coeff : ℚ
  factors : List Variable

/-! ### Reading -/

/-- A text that is the number of one numeral, or the ratio of two. -/
inductive Spells : String → ℚ → Prop
  | whole (n : ℕ) : Spells (toString n) n
  | ratio (n : ℕ) {d : ℕ} (hd : d ≠ 0) : Spells (toString n ++ "/" ++ toString d) (n / d)

/-- A text that is a number multiplied by variables, each under its name. -/
inductive ReadsProduct : String → Monomial → Prop
  | number {t : String} {a : ℚ} (h : Spells t a) : ReadsProduct t ⟨a, []⟩
  | times {t : String} {a : ℚ} {vs : List Variable} (h : ReadsProduct t ⟨a, vs⟩) (v : Variable) :
    ReadsProduct (t ++ " * " ++ v.text) ⟨a, vs ++ [v]⟩

/-- A text that is a sum of products, all but the first between the signs of a sum. -/
inductive ReadsSum : String → List Monomial → Prop
  | first {t : String} {m : Monomial} (h : ReadsProduct t m) : ReadsSum t [m]
  | minusFirst {t : String} {a : ℚ} {vs : List Variable} (h : ReadsProduct t ⟨a, vs⟩) :
    ReadsSum ("-" ++ t) [⟨-a, vs⟩]
  | plus {s t : String} {ms : List Monomial} {m : Monomial} (hs : ReadsSum s ms)
    (h : ReadsProduct t m) : ReadsSum (s ++ " + " ++ t) (ms ++ [m])
  | minus {s t : String} {ms : List Monomial} {a : ℚ} {vs : List Variable} (hs : ReadsSum s ms)
    (h : ReadsProduct t ⟨a, vs⟩) : ReadsSum (s ++ " - " ++ t) (ms ++ [⟨-a, vs⟩])

theorem Spells.ne_empty {t : String} {a : ℚ} (h : Spells t a) :
  t ≠ ""
  := by
  cases h with
  | whole n => apply Nat.repr_ne_empty
  | ratio n hd => simp

theorem ReadsProduct.ne_empty {t : String} {m : Monomial} (h : ReadsProduct t m) :
  t ≠ ""
  := by
  cases h with
  | number h => apply h.ne_empty
  | times h v => simp

theorem ReadsSum.ne_empty {t : String} {ms : List Monomial} (h : ReadsSum t ms) :
  t ≠ ""
  := by
  cases h with
  | first h => apply h.ne_empty
  | minusFirst h => simp
  | plus hs h => simp
  | minus hs h => simp

/-! ### Numbers -/

/-- A number that is not negative is written as a numeral, or as a ratio of two. -/
theorem spells_text {a : ℚ} (h : 0 ≤ a) :
  Spells (Coefficient.text a) a
  := by
  obtain ⟨n, hn⟩ := Int.eq_ofNat_of_zero_le (Rat.num_nonneg.mpr h)
  have ha : (n : ℚ) / a.den = a := by
    rw [← Int.cast_natCast, ← hn, Rat.num_div_den]
  have hnum : toString a.num = toString n := by
    rw [hn]
    rfl
  have htext : Coefficient.text a = rationalText a := rfl
  rw [htext, rationalText, hnum]
  by_cases hden : a.den = 1
  · have hwhole : (n : ℚ) = a := by
      rw [← ha, hden, Nat.cast_one, div_one]
    rw [if_pos hden, ← hwhole]
    apply Spells.whole
  · have hratio := Spells.ratio n a.den_nz
    rw [ha] at hratio
    rw [if_neg hden]
    apply hratio

/-- A negative number is written with a sign before its absolute value. -/
theorem text_of_neg {a : ℚ} (h : a < 0) :
  Coefficient.text a = "-" ++ Coefficient.text (-a)
  := by
  have hnum : toString a.num = "-" ++ toString (-a.num) := by
    have hneg := Rat.num_neg.mpr h
    rw [Int.toString_eq_repr, Int.toString_eq_repr, Int.repr_eq_if, if_neg (by omega),
      Int.repr_eq_if, if_pos (by omega)]
  have htext : ∀ b : ℚ, Coefficient.text b = rationalText b := fun _ => rfl
  rw [htext, htext, rationalText, rationalText, Rat.neg_num, Rat.neg_den, hnum]
  split
  · rfl
  · simp only [String.append_assoc]

/-! ### Terms -/

namespace Monomial

/-- The value at a point. -/
def valueAt (x : ℕ → ℚ) (m : Monomial) : ℚ := m.coeff * (valuesAt x m.factors).prod

/-- A monomial as it is written. -/
def term (m : Monomial) : Term ℚ := .ofCoefficient m.coeff m.factors

/-- Whether a monomial is written among others. -/
def isNonzero (m : Monomial) : Bool := m.coeff != 0

theorem term_of_neg {m : Monomial} (h : m.coeff < 0) :
  m.term = ⟨true, -m.coeff, m.factors⟩
  := by
  have hless : Coefficient.less m.coeff 0 = true := decide_eq_true h
  have hmagnitude : Coefficient.magnitude m.coeff = -m.coeff := if_pos h
  rw [term, Term.ofCoefficient, hless, hmagnitude]

theorem term_of_nonneg {m : Monomial} (h : 0 ≤ m.coeff) :
  m.term = ⟨false, m.coeff, m.factors⟩
  := by
  have hless : Coefficient.less m.coeff 0 = false := decide_eq_false h.not_gt
  have hmagnitude : Coefficient.magnitude m.coeff = m.coeff := if_neg h.not_gt
  rw [term, Term.ofCoefficient, hless, hmagnitude]

end Monomial

/-- The absolute value of a term is read together with its variables. -/
theorem readsProduct_text (isNegative : Bool) {a : ℚ} (h : 0 ≤ a) (vs : List Variable) :
  ReadsProduct (Term.text ⟨isNegative, a, vs⟩) ⟨a, vs⟩
  := by
  induction vs using List.reverseRecOn with
  | nil =>
      rw [Term.text, List.map_nil, String.intercalate_singleton]
      apply ReadsProduct.number (spells_text h)
  | append_singleton vs v ih =>
      rw [Term.text, List.map_append, List.map_singleton, ← List.cons_append,
        String.intercalate_append_of_ne_nil (List.cons_ne_nil _ _) (List.cons_ne_nil _ _),
        String.intercalate_singleton]
      apply ReadsProduct.times ih

/-- The first term is read with a sign if it is negative. -/
theorem readsSum_leading (m : Monomial) :
  ReadsSum m.term.leading [m]
  := by
  rcases lt_or_ge m.coeff 0 with h | h
  · rw [m.term_of_neg h, Term.leading, if_pos rfl]
    have hread := ReadsSum.minusFirst (readsProduct_text true (neg_nonneg.mpr h.le) m.factors)
    rwa [neg_neg] at hread
  · rw [m.term_of_nonneg h, Term.leading, if_neg Bool.false_ne_true, String.empty_append]
    apply ReadsSum.first (readsProduct_text false h m.factors)

/-- Every other term is read with the sign between it and those before. -/
theorem readsSum_trailing {s : String} {ms : List Monomial} (hs : ReadsSum s ms) (m : Monomial) :
  ReadsSum (s ++ m.term.trailing) (ms ++ [m])
  := by
  rcases lt_or_ge m.coeff 0 with h | h
  · rw [m.term_of_neg h, Term.trailing, if_pos rfl, ← String.append_assoc]
    have hread := hs.minus (readsProduct_text true (neg_nonneg.mpr h.le) m.factors)
    rwa [neg_neg] at hread
  · rw [m.term_of_nonneg h, Term.trailing, if_neg Bool.false_ne_true, ← String.append_assoc]
    apply hs.plus (readsProduct_text false h m.factors)

/-- Terms are read one after the other. -/
theorem readsSum_foldl {s : String} {done : List Monomial} (hs : ReadsSum s done)
    (ms : List Monomial) :
  ReadsSum ((ms.map Monomial.term).foldl (fun s t => s ++ t.trailing) s) (done ++ ms)
  := by
  induction ms generalizing s done with
  | nil =>
      rw [List.append_nil]
      apply hs
  | cons m ms ih =>
      rw [List.append_cons]
      apply ih (readsSum_trailing hs m)

/-- The text of a sum of terms is read as their monomials. -/
theorem readsSum_sum {ms : List Monomial} (h : ms ≠ []) (otherwise : String) :
  ReadsSum (Term.sum (ms.map Monomial.term) otherwise) ms
  := by
  obtain ⟨m, rest, rfl⟩ := List.exists_cons_of_ne_nil h
  apply readsSum_foldl (readsSum_leading m)

/-- A number that stands alone is written with its sign. -/
theorem readsSum_constant (a : ℚ) :
  ReadsSum (Coefficient.text a) [⟨a, []⟩]
  := by
  rcases lt_or_ge a 0 with h | h
  · have hread := ReadsSum.minusFirst (.number (spells_text (neg_nonneg.mpr h.le)))
    rwa [neg_neg, ← text_of_neg h] at hread
  · apply ReadsSum.first (.number (spells_text h))

/-! ### Monomials of an expression -/

/-- The monomials of a matrix over a list of variables, in its upper triangle row by row. An entry
off the diagonal counts for itself and the one on the other side. -/
def productMonomials (vs : List Variable) (q : Matrix ℚ) : List Monomial :=
  (List.finRange vs.length).flatMap fun i =>
    ((List.finRange vs.length).filter (i ≤ ·)).map fun j =>
      ⟨if i = j then q.entry i j else 2 * q.entry i j, [vs.get i, vs.get j]⟩

/-- The monomials of coefficients over a list of variables. -/
def linearMonomials (vs : List Variable) (l : List ℚ) : List Monomial :=
  (List.finRange vs.length).map fun i : Fin vs.length => ⟨l.getD i 0, [vs.get i]⟩

/-- A term is written unless its coefficient is zero. -/
theorem term?_eq (m : Monomial) :
  Scalar.term? m.coeff m.factors = if m.isNonzero then some m.term else none
  := by
  by_cases h : m.coeff = 0
  · simp [Scalar.term?, Monomial.isNonzero, h]
  · simp [Scalar.term?, Monomial.isNonzero, Monomial.term, h]

/-- Where terms that are zero are left out those of the other monomials remain. -/
theorem filterMap_term? {β : Type} (f : β → Monomial) (bs : List β) :
  bs.filterMap (fun b => Scalar.term? (f b).coeff (f b).factors)
    = ((bs.map f).filter Monomial.isNonzero).map Monomial.term
  := by
  rw [← List.filterMap_eq_map, List.filterMap_filter, List.filterMap_map]
  apply List.filterMap_congr
  intro b _
  apply term?_eq

/-- The linear terms are the monomials of single variables that are not zero. -/
theorem linearTerms_eq {vs : List Variable} {l : List ℚ} (h : l.length = vs.length) :
  Scalar.linearTerms vs l = ((linearMonomials vs l).filter Monomial.isNonzero).map Monomial.term
  := by
  have hzip : vs.zip l
      = (List.finRange vs.length).map fun i : Fin vs.length => (vs.get i, l.getD i 0) := by
    apply List.ext_getElem
    · simp [h]
    · intro i hi hi'
      have hil : i < l.length := by
        simp only [List.length_zip] at hi
        omega
      simp [List.getElem?_eq_getElem hil]
  rw [Scalar.linearTerms, hzip, List.filterMap_map, linearMonomials, ← filterMap_term?]
  rfl

/-- What the upper triangle holds for a row and a column. -/
theorem upperTerm_eq {n : ℕ} (i j : Fin n) (q : Matrix ℚ) (vs : List Variable) :
  (if j.val < i.val then none
    else if i.val = j.val then Scalar.term? (q.entry i j) vs
    else Scalar.term? ((1 + 1) * q.entry i j) vs)
    = if decide (i ≤ j) = true then
        Scalar.term? (if i = j then q.entry i j else 2 * q.entry i j) vs
      else none
  := by
  have htwo : (1 + 1 : ℚ) = 2 := by
    norm_num
  rcases lt_trichotomy i j with h | rfl | h
  · have hval : i.val < j.val := h
    rw [if_neg hval.asymm, if_neg hval.ne, if_pos (decide_eq_true h.le), if_neg h.ne, ← htwo]
  · simp
  · have hval : j.val < i.val := h
    rw [if_pos hval, if_neg (by simpa using h)]

/-- The quadratic terms are the monomials of the upper triangle that are not zero. -/
theorem quadraticTerms_eq (vs : List Variable) (q : Matrix ℚ) :
  Scalar.quadraticTerms vs q
    = ((productMonomials vs q).filter Monomial.isNonzero).map Monomial.term
  := by
  have hzipIdx : vs.zipIdx = (List.finRange vs.length).map fun i => (vs.get i, i.val) := by
    apply List.ext_getElem
    · simp
    · intro i hi hi'
      simp
  rw [Scalar.quadraticTerms, hzipIdx, List.flatMap_map, productMonomials, List.filter_flatMap,
    List.map_flatMap]
  apply List.flatMap_congr
  intro i _
  rw [← filterMap_term?, List.filterMap_filter]
  simp only [List.filterMap_map]
  apply List.filterMap_congr
  intro j _
  apply upperTerm_eq

/-! ### Values -/

/-- Monomials that are zero add nothing. -/
theorem sum_map_filter_isNonzero (x : ℕ → ℚ) (ms : List Monomial) :
  ((ms.filter Monomial.isNonzero).map (Monomial.valueAt x)).sum
    = (ms.map (Monomial.valueAt x)).sum
  := by
  induction ms with
  | nil => rfl
  | cons m ms ih =>
      by_cases h : m.coeff = 0
      · have hvalue : m.valueAt x = 0 := by
          rw [Monomial.valueAt, h, zero_mul]
        rw [List.filter_cons_of_neg (by simp [Monomial.isNonzero, h]), ih, List.map_cons,
          List.sum_cons, hvalue, zero_add]
      · rw [List.filter_cons_of_pos (by simp [Monomial.isNonzero, h]), List.map_cons,
          List.sum_cons, ih, List.map_cons, List.sum_cons]

/-- What is alike on both sides of the diagonal can be summed up above it. -/
theorem sum_eq_sum_upper {n : ℕ} {f : Fin n → Fin n → ℚ} (hf : ∀ i j, f i j = f j i) :
  ∑ i, ∑ j, f i j = ∑ i, ∑ j, if i ≤ j then if i = j then f i j else 2 * f i j else 0
  := by
  let g := fun i j : Fin n => if i ≤ j then if i = j then f i j else 2 * f i j else 0
  have hpair : ∀ i j, f i j + f j i = g i j + g j i := by
    intro i j
    rcases lt_trichotomy i j with h | rfl | h
    · simp only [g, if_pos h.le, if_neg h.ne, if_neg h.not_ge, hf j i]
      ring
    · simp [g]
    · simp only [g, if_pos h.le, if_neg h.ne, if_neg h.not_ge, hf j i]
      ring
  -- sum up twice, once by rows and once by columns, to have both sides of each pair at once
  have htwice : ∑ i, ∑ j, f i j + ∑ i, ∑ j, f i j = ∑ i, ∑ j, g i j + ∑ i, ∑ j, g i j := by
    nth_rewrite 2 [Finset.sum_comm]
    nth_rewrite 4 [Finset.sum_comm]
    simp only [← Finset.sum_add_distrib, hpair]
  linarith

/-- The monomials of a symmetric matrix add up to its quadratic value. -/
theorem sum_productMonomials (x : ℕ → ℚ) (vs : List Variable) {q : Matrix ℚ}
    (hq : ∀ i j, q.entry i j = q.entry j i) :
  ((productMonomials vs q).map (Monomial.valueAt x)).sum = quadraticValue x vs q
  := by
  let product := fun i j : Fin vs.length => q.entry i j * x (vs.get i).id * x (vs.get j).id
  have hcomm : ∀ i j, product i j = product j i := by
    intro i j
    simp only [product, hq i j]
    ring
  have hmonomial : ∀ i j : Fin vs.length,
      Monomial.valueAt x ⟨if i = j then q.entry i j else 2 * q.entry i j, [vs.get i, vs.get j]⟩
        = if i = j then product i j else 2 * product i j := by
    intro i j
    rw [Monomial.valueAt]
    split
    · simp [product, valuesAt, mul_assoc]
    · simp [product, valuesAt, mul_assoc]
  have hvalue : quadraticValue x vs q = ∑ i, ∑ j, product i j := quadraticValue_eq_sum_fin vs q
  rw [hvalue, sum_eq_sum_upper hcomm, productMonomials, List.map_flatMap, List.flatMap_def,
    List.sum_flatten, List.map_map, Fin.sum_univ_def]
  congr 1
  apply List.map_congr_left
  intro i _
  rw [Fin.sum_univ_def, List.sum_map_ite, Function.comp_apply, List.map_map]
  simp only [Function.comp_def, hmonomial, List.map_const', List.sum_replicate, nsmul_zero,
    add_zero]

/-- The monomials of coefficients add up to their linear value. -/
theorem sum_linearMonomials (x : ℕ → ℚ) (vs : List Variable) (l : List ℚ) :
  ((linearMonomials vs l).map (Monomial.valueAt x)).sum = linearValue x vs l
  := by
  rw [linearValue_eq_sum_fin, Fin.sum_univ_def, linearMonomials, List.map_map]
  congr 1
  apply List.map_congr_left
  intro i _
  simp [Monomial.valueAt, valuesAt]

/-! ### Expressions -/

namespace Scalar

variable {e : Scalar ℚ}

/-- The monomials with variables, zero or not. -/
def variableMonomials (e : Scalar ℚ) : List Monomial :=
  productMonomials e.vars e.products ++ linearMonomials e.vars e.coefficients

/-- The monomials of an expression, zero or not: those of the products, those of single variables
and the constant. -/
def monomials (e : Scalar ℚ) : List Monomial :=
  e.variableMonomials ++ [⟨e.constant, []⟩]

/-- The coefficients of products are symmetric, since the forms that hold them are. -/
theorem products_comm (e : Scalar ℚ) (i j : ℕ) :
  e.products.entry i j = e.products.entry j i
  := by
  cases e with
  | const a => simp [products, Matrix.entry_zeros]
  | var v => simp [products, Matrix.entry_zeros]
  | linear f => simp [products, Matrix.entry_zeros]
  | quadratic f => apply f.entry_comm

/-- The monomials of an expression add up to its value. -/
theorem sum_monomials (e : Scalar ℚ) (x : ℕ → ℚ) :
  (e.monomials.map (Monomial.valueAt x)).sum = e.valueAt x
  := by
  have hconstant : Monomial.valueAt x ⟨e.constant, []⟩ = e.constant := mul_one e.constant
  rw [monomials, variableMonomials, List.map_append, List.map_append, List.sum_append,
    List.sum_append, sum_productMonomials x e.vars e.products_comm, sum_linearMonomials,
    List.map_singleton, List.sum_singleton, hconstant, valueAt]

/-- A matrix of zeros has no monomials that are written. -/
theorem filter_productMonomials_zeros (vs : List Variable) (rows cols : ℕ) :
  (productMonomials vs (Matrix.zeros rows cols)).filter Monomial.isNonzero = []
  := by
  rw [List.filter_eq_nil_iff]
  intro m hm
  obtain ⟨i, -, hm⟩ := List.mem_flatMap.mp hm
  obtain ⟨j, -, rfl⟩ := List.mem_map.mp hm
  simp [Monomial.isNonzero, Matrix.entry_zeros]

/-- The terms with variables are the monomials with variables that are not zero. -/
theorem variableTerms_eq (h : e.isVariable = false) :
  e.variableTerms = (e.variableMonomials.filter Monomial.isNonzero).map Monomial.term
  := by
  rw [variableMonomials, List.filter_append, List.map_append]
  cases e with
  | const a => rfl
  | var v => cases h
  | linear f =>
      rw [products, filter_productMonomials_zeros, List.map_nil, List.nil_append]
      apply linearTerms_eq f.length_coeffs
  | quadratic f => exact congrArg₂ (· ++ ·) (quadraticTerms_eq _ _) (linearTerms_eq f.length_coeffs)

theorem text_eq_sum (h : e.isVariable = false) :
  e.text = Term.sum e.terms (Coefficient.text e.constant)
  := by
  cases e with
  | const a => rfl
  | var v => cases h
  | linear f => rfl
  | quadratic f => rfl

/-- The constant is written after other terms unless it is zero. -/
theorem constantTerms_eq (e : Scalar ℚ) :
  (term? e.constant []).toList
    = ([⟨e.constant, []⟩].filter Monomial.isNonzero).map Monomial.term
  := by
  have hterm := term?_eq ⟨e.constant, []⟩
  rw [hterm, List.filter_singleton]
  cases Monomial.isNonzero ⟨e.constant, []⟩ with
  | true => rfl
  | false => rfl

/-- The text of an expression is read as its monomials but for those that are zero, or as its
constant if they all are. -/
theorem exists_readsSum (h : e.isVariable = false) :
  ∃ ms, ReadsSum e.text ms
    ∧ ms.filter Monomial.isNonzero = e.monomials.filter Monomial.isNonzero
  := by
  rw [text_eq_sum h, terms, variableTerms_eq h, monomials, List.filter_append]
  rcases hms : e.variableMonomials.filter Monomial.isNonzero with - | ⟨m, ms⟩
  · -- nothing is written before the constant, which stands alone even if it is zero
    use [⟨e.constant, []⟩], readsSum_constant e.constant
    rfl
  · use (m :: ms) ++ [⟨e.constant, []⟩].filter Monomial.isNonzero
    constructor
    · simp only [List.map_cons]
      rw [constantTerms_eq, ← List.map_cons, ← List.map_append]
      apply readsSum_sum (List.cons_ne_nil _ _)
    · rw [← hms, ← List.filter_append, List.filter_filter]
      simp only [Bool.and_self]

/-- The text of an expression says what it is the sum of. -/
theorem text_denotes (h : e.isVariable = false) :
  (∃ ms, ReadsSum e.text ms
    ∧ ms.filter Monomial.isNonzero = e.monomials.filter Monomial.isNonzero
    ∧ ∀ s, Covers s e.vars →
      e.evaluate s = .ok (ms.map (Monomial.valueAt (pointOf s))).sum)
  ∧ e.text ≠ ""
  := by
  obtain ⟨ms, hread, hms⟩ := exists_readsSum h
  refine ⟨⟨ms, hread, hms, ?_⟩, hread.ne_empty⟩
  intro s hs
  rw [evaluate_eq_ok hs, ← sum_monomials, ← sum_map_filter_isNonzero, ← hms,
    sum_map_filter_isNonzero]

/-- A product with a negative coefficient, a variable and a constant. -/
def signedProduct : Scalar ℚ :=
  quadratic ⟨[default, { (default : Variable) with id := 1 }],
    Matrix.ofTensor 2 2 [0, -1, -1, 0], [3, 0], -2, rfl, rfl, rfl, by decide⟩

/-- The text of a product with a negative coefficient, where each variable is five more than its
number. -/
theorem text_denotes_signedProduct :
  signedProduct.isVariable = false ∧ signedProduct.text = "-2 * x_0 * x_1 + 3 * x_0 - 2"
    ∧ ∃ ms, ReadsSum "-2 * x_0 * x_1 + 3 * x_0 - 2" ms
      ∧ signedProduct.evaluate (fun id => some ((id : ℚ) + 5))
        = .ok (ms.map (Monomial.valueAt fun id => (id : ℚ) + 5)).sum
  := by
  have htext : signedProduct.text = "-2 * x_0 * x_1 + 3 * x_0 - 2" := by
    decide +kernel
  obtain ⟨⟨ms, hread, -, hvalue⟩, -⟩ := text_denotes (e := signedProduct) rfl
  rw [htext] at hread
  exact ⟨rfl, htext, ms, hread, hvalue _ fun _ _ => rfl⟩

end Scalar

end QuadraticProgram
