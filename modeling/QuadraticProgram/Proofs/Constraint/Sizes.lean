import QuadraticProgram.Proofs.Constraint.Columns
import QuadraticProgram.Proofs.Constraint.Sides
import QuadraticProgram.Proofs.Scalar.Linear
import QuadraticProgram.Proofs.Vec.Shape

/-!
# Sizes of extracted constraints

The sides of a constraint are compared neither when it is built nor when its rows are extracted.
A constraint that does give rows has a left side of its own form, and its bounds are one for each
row exactly if its sides fit (`Constraint.Fits`): the right side of a scalar constraint is no
vector, and a vector with a single entry does not stand against a vector of another length, to
whose entries its own would be spread.
-/

namespace QuadraticProgram

open QuadraticProgram.Alignment

variable {α : Type} [Coefficient α]

/-! ### Bounds -/

/-- The difference of two lists is a list, as long as the right one unless that is a single entry
that is spread to another length. -/
theorem Bound.exists_list_of_minus {xs ys : List α} {b : Bound α}
    (h : (Bound.list xs).minus (.list ys) = .ok b) :
  ∃ ts, b = .list ts ∧ (ts.length = ys.length ↔ (ys.length = 1 → xs.length = 1))
  := by
  by_cases hl : xs.length = ys.length
  · rw [minus_list_of_length_eq hl] at h
    cases h
    use List.zipWith (· - ·) xs ys, rfl
    simp [hl]
  · unfold minus at h
    dsimp only at h
    rw [if_neg hl] at h
    split at h
    · cases h
      exact ⟨_, rfl, by simp⟩
    · cases h
      exact ⟨_, rfl, by simp⟩
    · cases h

namespace Constraint

variable {columns : Columns} {c d : Constraint α}

/-- The number of rows that a constraint stands for: one, or one for each entry of its left
side. -/
def rowCount (c : Constraint α) : ℕ :=
  match c.form, c.length with
  | .scalar, _ => 1
  | .vector, .ok n => n
  | .vector, .error _ => 0

theorem rowCount_of_scalar (hc : c.form = .scalar) :
  c.rowCount = 1
  := by
  rw [rowCount, hc]

/-- A constraint whose bounds are not spread beyond its rows. -/
def Fits (c : Constraint α) : Prop :=
  match c.form with
  | .scalar => ∀ v, c.rhs ≠ .vector v
  | .vector => ∀ u v, c.lhs = .vector u → c.rhs = .vector v → u.length = 1 → v.length = 1

/-- A scalar constraint against a vector without variables, whose entries are the bounds of its
one row. -/
def Spreads (c : Constraint α) (n : ℕ) : Prop :=
  ∃ a s v, c = ⟨.scalar, .scalar a, .vector v, s⟩ ∧ v.vars = [] ∧ v.length = n

/-! ### Moving variables to the left -/

/-- The variables of linear sides can be moved to the left, where they come after those on the left.
-/
theorem exists_movedLeft_of_isLinear {a b : Scalar α} (ha : a.isLinear = true)
    (hb : b.isLinear = true) :
  ∃ e, movedLeft (.scalar a) (.scalar b) = .ok (.scalar e)
    ∧ distinct e.vars = distinct (a.vars ++ b.vars)
  := by
  by_cases h : b.vars = []
  · use a, movedLeft_of_vars_eq_nil _ (.scalar b) h
    rw [h, List.append_nil]
  · obtain ⟨part, hpart, hpvars, hplinear⟩ := Scalar.exists_variablePart_of_isLinear hb
    obtain ⟨opposite, hopposite, hovars, holinear⟩ :=
      Scalar.exists_scale_of_isLinear (-1) hplinear
    obtain ⟨e, he, hevars, -⟩ := Scalar.exists_add_of_isLinear ha holinear
    use e
    have hpart' : (Expression.scalar b).variablePart = .ok (.scalar part) := by
      rw [Expression.variablePart, hpart, Outcome.map_ok]
    have hopposite' : (Expression.scalar part).negated = .ok (.scalar opposite) :=
      congrArg (Except.map Expression.scalar) hopposite
    constructor
    · rw [movedLeft_of_vars_ne_nil _ (.scalar b) h hpart', Expression.minus, hopposite']
      simp only [Expression.plus, Operand.asScalar, Outcome.ok_bind, he]
      rfl
    · rw [hevars, hovars, hpvars]

/-- The variables of vectors of one shape can be moved to the left, where they come after those on
the left. -/
theorem exists_movedLeft_of_sameShape {u v : Vec α} (hl : u.length = v.length)
    (ho : u.orientation = v.orientation) :
  ∃ w, movedLeft (.vector u) (.vector v) = .ok (.vector w)
    ∧ distinct w.vars = distinct (u.vars ++ v.vars) ∧ w.length = u.length
  := by
  by_cases h : v.vars = []
  · use u, movedLeft_of_vars_eq_nil _ (.vector v) h
    rw [h, List.append_nil]
    use rfl
  · obtain ⟨w, hw, hwvars, hwl, -⟩ := Vec.exists_add_of_sameShape (u := u)
      (v := v.variablePart.scale (-1)) (by simpa using hl) (by simpa using ho)
    use w
    constructor
    · have hopposite : (Expression.vector v.variablePart).negated
          = .ok (.vector (v.variablePart.scale (-1))) := rfl
      rw [movedLeft_of_vars_ne_nil _ (.vector v) h rfl, Expression.minus, hopposite]
      simp only [Expression.plus, Operand.asVector, Outcome.ok_bind, hw]
      rfl
    · rw [hwvars, Vec.vars_scale, Vec.vars_variablePart]
      use rfl, hwl

/-- The right side with its sign changed is a scalar expression or a vector as the right side
is. -/
theorem sides_of_opposite {rhs part opposite : Expression α} (hpart : rhs.variablePart = .ok part)
    (hopposite : part.negated = .ok opposite) :
  (∃ b d, rhs = .scalar b ∧ opposite = .scalar d)
    ∨ ∃ v w, rhs = .vector v ∧ opposite = .vector w ∧ w.length = v.length
  := by
  cases rhs with
  | scalar b =>
      obtain ⟨e, -, rfl⟩ := Outcome.map_eq_ok_iff.mp hpart
      obtain ⟨d, -, rfl⟩ := Outcome.map_eq_ok_iff.mp hopposite
      left
      use b, d
  | vector v =>
      cases hpart
      cases hopposite
      right
      use v, v.variablePart.scale (-1)
      simp
  | matrix m => cases hpart

/-- A sum of a matrix and an expression is a matrix. -/
theorem exists_matrix_of_plus {m : Matrix α} {e f : Expression α}
    (h : (Expression.matrix m).plus (.expression e) = .ok f) :
  ∃ n, f = .matrix n
  := by
  cases e with
  | scalar a => cases h
  | vector v => cases h
  | matrix n =>
      simp only [Expression.plus] at h
      split_ifs at h
      cases h
      exact ⟨_, rfl⟩

/-- A left side that is a scalar expression once all variables have been moved to it was one
before, and the right side is one, too, or without variables. -/
theorem sides_of_movedLeft_scalar {lhs rhs : Expression α} {e : Scalar α}
    (h : movedLeft lhs rhs = .ok (.scalar e)) :
  (∃ a, lhs = .scalar a) ∧ ((∃ b, rhs = .scalar b) ∨ rhs.vars = [])
  := by
  by_cases hvars : rhs.vars = []
  · rw [movedLeft_of_vars_eq_nil _ _ hvars] at h
    cases h
    exact ⟨⟨e, rfl⟩, .inr hvars⟩
  · rw [movedLeft, if_neg (by simpa using hvars)] at h
    obtain ⟨part, hpart, h⟩ := Outcome.bind_eq_ok_iff.mp h
    obtain ⟨opposite, hopposite, h⟩ := Outcome.bind_eq_ok_iff.mp h
    cases lhs with
    | scalar a =>
        use ⟨a, rfl⟩
        left
        rcases sides_of_opposite hpart hopposite with ⟨b, d, hb, -⟩ | ⟨v, w, -, rfl, -⟩
        · use b
        · cases h
    | vector u =>
        obtain ⟨v, -, hv⟩ := Outcome.bind_eq_ok_iff.mp h
        obtain ⟨w, -, hw⟩ := Outcome.bind_eq_ok_iff.mp hv
        cases hw
    | matrix m =>
        obtain ⟨n, hn⟩ := exists_matrix_of_plus h
        cases hn

/-- A left side that is a vector once all variables have been moved to it was one of that length
before, and the right side is one of that length, too, or without variables. -/
theorem sides_of_movedLeft_vector {lhs rhs : Expression α} {w : Vec α}
    (h : movedLeft lhs rhs = .ok (.vector w)) :
  (∃ u, lhs = .vector u ∧ w.length = u.length)
    ∧ ((∃ v, rhs = .vector v ∧ v.length = w.length) ∨ rhs.vars = [])
  := by
  by_cases hvars : rhs.vars = []
  · rw [movedLeft_of_vars_eq_nil _ _ hvars] at h
    cases h
    exact ⟨⟨w, rfl, rfl⟩, .inr hvars⟩
  · rw [movedLeft, if_neg (by simpa using hvars)] at h
    obtain ⟨part, hpart, h⟩ := Outcome.bind_eq_ok_iff.mp h
    obtain ⟨opposite, hopposite, h⟩ := Outcome.bind_eq_ok_iff.mp h
    cases lhs with
    | scalar a =>
        obtain ⟨b, -, hb⟩ := Outcome.bind_eq_ok_iff.mp h
        obtain ⟨e, -, he⟩ := Outcome.bind_eq_ok_iff.mp hb
        cases he
    | vector u =>
        obtain ⟨x, hx, h⟩ := Outcome.bind_eq_ok_iff.mp h
        obtain ⟨w', hw', h⟩ := Outcome.bind_eq_ok_iff.mp h
        cases h
        obtain ⟨hl, ho⟩ := Vec.sameShape_of_add hw'
        obtain ⟨w'', hw'', -, hlength, -⟩ := Vec.exists_add_of_sameShape hl ho
        cases hw'.symm.trans hw''
        use ⟨u, rfl, hlength⟩
        left
        rcases sides_of_opposite hpart hopposite with ⟨b, d, -, rfl⟩ | ⟨v, y, hv, rfl, hvl⟩
        · cases hx
        · cases hx
          use v, hv
          rw [← hvl, ← hl, hlength]
    | matrix m =>
        obtain ⟨n, hn⟩ := exists_matrix_of_plus h
        cases hn

/-! ### Rows -/

/-- The sides of a simplified constraint are what was moved to the left and the constant part. -/
theorem sides_of_simplifiedLinear (h : c.simplifiedLinear = .ok d) :
  movedLeft c.lhs c.rhs = .ok d.lhs ∧ c.rhs.constantPart = .ok d.rhs
  := by
  rw [simplifiedLinear] at h
  split_ifs at h
  obtain ⟨lhs, hlhs, h⟩ := Outcome.bind_eq_ok_iff.mp h
  obtain ⟨rhs, hrhs, h⟩ := Outcome.bind_eq_ok_iff.mp h
  cases h
  use hlhs, hrhs

theorem scalarLeft_eq_ok_iff {e : Scalar α} :
  d.scalarLeft = .ok e ↔ d.lhs = .scalar e
  := by
  rcases d with ⟨form, lhs, rhs, sense⟩
  cases lhs <;> simp [scalarLeft]

theorem vectorLeft_eq_ok_iff {w : Vec α} :
  d.vectorLeft = .ok w ↔ d.lhs = .vector w
  := by
  rcases d with ⟨form, lhs, rhs, sense⟩
  cases lhs <;> simp [vectorLeft, Expression.vectorAsking]

/-- A constraint with a row has a scalar expression on its left side. The right side is one, too,
and the bound is single, or it is a vector without variables, whose entries are the bounds. -/
theorem sides_of_linearRow {r : LinearRow α columns.width} (h : c.linearRow columns = .ok r) :
  (∃ a, c.lhs = .scalar a)
    ∧ ((∃ b t, c.rhs = .scalar b ∧ r.bound = .single t)
      ∨ ∃ v ts, c.rhs = .vector v ∧ v.vars = [] ∧ r.bound = .list ts ∧ ts.length = v.length)
  := by
  obtain ⟨d, hd, h⟩ := Outcome.bind_eq_ok_iff.mp h
  obtain ⟨e, he, h⟩ := Outcome.bind_eq_ok_iff.mp h
  obtain ⟨ks, -, h⟩ := Outcome.bind_eq_ok_iff.mp h
  obtain ⟨bound, hbound, h⟩ := Outcome.bind_eq_ok_iff.mp h
  cases h
  obtain ⟨hleft, hright⟩ := sides_of_simplifiedLinear hd
  rw [scalarLeft_eq_ok_iff] at he
  rw [he] at hleft
  obtain ⟨hlhs, hrhs'⟩ := sides_of_movedLeft_scalar hleft
  use hlhs
  obtain ⟨minuend, hminuend, hbound⟩ := Outcome.bind_eq_ok_iff.mp hbound
  rw [he, Expression.bound, Outcome.ok_bind] at hbound
  cases hrhs : c.rhs with
  | scalar b =>
      rw [hrhs] at hright
      rw [← Except.ok.inj hright] at hminuend
      cases hminuend
      cases hbound
      left
      exact ⟨b, _, rfl, rfl⟩
  | vector v =>
      rw [hrhs] at hright hrhs'
      rw [← Except.ok.inj hright] at hminuend
      cases hminuend
      cases hbound
      right
      obtain ⟨b, hb⟩ | hvars := hrhs'
      · cases hb
      · exact ⟨v, _, rfl, hvars, rfl, by simp⟩
  | matrix m =>
      rw [hrhs] at hright
      cases hright

/-- A constraint with rows has a vector on its left side. The bounds are as many as its rows
unless the left side has a single entry and the right side is a vector of another length. -/
theorem sides_of_linearRows {r : LinearRows α columns.width} (h : c.linearRows columns = .ok r) :
  ∃ u ts, c.lhs = .vector u ∧ r.coefficients.rows = u.length ∧ r.bound = .list ts
    ∧ (ts.length = u.length ↔ ∀ v, c.rhs = .vector v → u.length = 1 → v.length = 1)
  := by
  obtain ⟨d, hd, h⟩ := Outcome.bind_eq_ok_iff.mp h
  obtain ⟨w, hw, h⟩ := Outcome.bind_eq_ok_iff.mp h
  obtain ⟨ks, -, h⟩ := Outcome.bind_eq_ok_iff.mp h
  obtain ⟨bound, hbound, h⟩ := Outcome.bind_eq_ok_iff.mp h
  cases h
  obtain ⟨hleft, hright⟩ := sides_of_simplifiedLinear hd
  rw [vectorLeft_eq_ok_iff] at hw
  rw [hw] at hleft
  obtain ⟨⟨u, hu, hlength⟩, -⟩ := sides_of_movedLeft_vector hleft
  obtain ⟨minuend, hminuend, hbound⟩ := Outcome.bind_eq_ok_iff.mp hbound
  rw [hw, Expression.bound, Outcome.ok_bind] at hbound
  have hrows : (columns.matrix ks w.linearCoeff).rows = u.length := by
    rw [Columns.rows_matrix, Vec.rows_linearCoeff, Vec.length_constant, hlength]
  cases hrhs : c.rhs with
  | scalar b =>
      rw [hrhs] at hright
      rw [← Except.ok.inj hright] at hminuend
      cases hminuend
      cases hbound
      refine ⟨u, _, hu, hrows, rfl, ?_⟩
      simp [hlength]
  | vector v =>
      rw [hrhs] at hright
      rw [← Except.ok.inj hright] at hminuend
      cases hminuend
      obtain ⟨ts, rfl, hts⟩ := Bound.exists_list_of_minus hbound
      use u, ts, hu, hrows, rfl
      rw [Vec.length_constant, hlength] at hts
      rw [hts]
      simp
  | matrix m =>
      rw [hrhs] at hright
      cases hright

/-! ### Constraints with well-formed sides -/

/-- A comparison of scalar expressions is linear exactly if both sides are. -/
theorem isLinear_ofScalars_iff {a b : Scalar α} {s : Sense} :
  (ofScalars a s b).isLinear = true ↔ a.isLinear = true ∧ b.isLinear = true
  := Bool.and_eq_true_iff

/-- A linear constraint between scalar expressions has a row. -/
theorem exists_linearRow_of_scalars {a b : Scalar α} {s : Sense}
    (hlinear : (ofScalars a s b).isLinear = true) (h : columns.Finds (a.vars ++ b.vars)) :
  ∃ r, (ofScalars a s b).linearRow columns = .ok r
  := by
  obtain ⟨ha, hb⟩ := isLinear_ofScalars_iff.mp hlinear
  obtain ⟨e, he, hvars⟩ := exists_movedLeft_of_isLinear ha hb
  obtain ⟨ks, hks, -⟩ := (h.of_distinct_eq hvars).exists_indices 0
  exact ⟨_, linearRow_ofScalars s hlinear he hks⟩

/-- A linear scalar constraint against a vector without variables has a row. -/
theorem Spreads.exists_linearRow {n : ℕ} (hc : c.Spreads n) (hlinear : c.isLinear = true)
    (h : columns.Finds c.lhs.vars) :
  ∃ r, c.linearRow columns = .ok r
  := by
  obtain ⟨a, s, v, rfl, hvars, -⟩ := hc
  obtain ⟨ks, hks, -⟩ := h.exists_indices 0
  have hmoved := movedLeft_of_vars_eq_nil (.scalar a) (.vector v) hvars
  have hsimplified : (⟨.scalar, .scalar a, .vector v, s⟩ : Constraint α).simplifiedLinear
      = .ok ⟨.scalar, .scalar a, .vector v.constantPart, s⟩ := by
    rw [simplifiedLinear, if_pos hlinear, simplify, hmoved]
    rfl
  use ⟨columns.row ks a.coefficients, .list (v.constantPart.constant.map (· - a.constant)), by simp⟩
  rw [linearRow, hsimplified, Outcome.ok_bind, scalarLeft_eq_ok_iff.mpr rfl, Outcome.ok_bind,
    show columns.indices 0 a.vars = .ok ks from hks]
  rfl

/-- A constraint between vectors of one shape has rows. -/
theorem exists_linearRows_of_sameShape {u v : Vec α} {s : Sense} (hl : u.length = v.length)
    (ho : u.orientation = v.orientation) (h : columns.Finds (u.vars ++ v.vars)) :
  ∃ r, (ofVectors u s v).linearRows columns = .ok r
  := by
  obtain ⟨w, hw, hvars, hwl⟩ := exists_movedLeft_of_sameShape hl ho
  obtain ⟨ks, hks, -⟩ := (h.of_distinct_eq hvars).exists_indices 1
  exact ⟨_, linearRows_ofVectors s hw hks (hl.symm.trans hwl.symm)⟩

end Constraint

end QuadraticProgram
