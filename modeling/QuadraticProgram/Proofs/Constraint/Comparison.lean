import QuadraticProgram.Expression.Operator
import QuadraticProgram.Proofs.Vec.Shape

/-!
# Comparisons

What the comparison operators build: a constraint between two scalar expressions, or one
between two vectors of the same length and orientation (`Constraint.IsComparison.sides`). They
build any such constraint.
-/

namespace QuadraticProgram

variable {α : Type} [Coefficient α]

/-- An expression is compared as a scalar, or as a vector with one of its shape. -/
theorem Expression.sides_of_compare {e : Expression α} {s : Sense} {rhs : Operand α}
    {c : Constraint α} (h : e.compare s rhs = .ok c) :
  (∃ a b, c = .ofScalars a s b)
    ∨ ∃ u v, u.length = v.length ∧ u.orientation = v.orientation ∧ c = .ofVectors u s v
  := by
  cases e with
  | scalar a =>
      obtain ⟨b, -, hb⟩ := Outcome.bind_eq_ok_iff.mp h
      cases hb
      left
      use a, b
  | vector u =>
      obtain ⟨v, -, hv⟩ := Outcome.bind_eq_ok_iff.mp h
      obtain ⟨⟨⟩, hshape, hc⟩ := Outcome.bind_eq_ok_iff.mp hv
      obtain ⟨hl, ho⟩ := Vec.requireSameShape_eq_ok_iff.mp hshape
      cases hc
      right
      use u, v
  | matrix m => cases h

/-- An expression on the left is compared with the operand on the right, unless both are variables
and compared for equality. -/
theorem Sense.compare?_expression {s : Sense} {e : Expression α} {rhs : Operand α}
    (h : ∀ v w, s = .equal → e = .scalar (.var v) → rhs ≠ .expression (.scalar (.var w))) :
  s.compare? (.expression e) rhs = some ((e.compare s rhs).map .constraint)
  := Sense.compare?.eq_2 s rhs e fun v w hs hrhs he => h v w hs he hrhs

namespace Constraint

/-- A constraint that a comparison of two operands gives. A pair of variables counts as the
constraint that they are equal. -/
inductive IsComparison : Constraint α → Prop where
  | constraint {s : Sense} {lhs rhs : Operand α} {c : Constraint α}
      (h : s.compare? lhs rhs = some (.ok (.constraint c))) : IsComparison c
  | pair {s : Sense} {lhs rhs : Operand α} {p : VariablePair}
      (h : s.compare? lhs rhs = some (.ok (.pair p))) : IsComparison p.toConstraint

theorem sides_of_compare? {s : Sense} {lhs rhs : Operand α} {c : Constraint α}
    (h : s.compare? lhs rhs = some (.ok (.constraint c))) :
  ∃ e : Expression α, ∃ s' operand, e.compare s' operand = .ok c
  := by
  have hmap : ∀ outcome : Except Error (Constraint α),
      some (outcome.map Comparison.constraint) = some (.ok (.constraint c)) → outcome = .ok c := by
    intro outcome hout
    cases outcome with
    | error e => cases hout
    | ok d =>
        cases hout
        rfl
  rw [Sense.compare?.eq_def] at h
  split at h
  · cases h
  · exact ⟨_, _, _, hmap _ h⟩
  · exact ⟨_, _, _, hmap _ h⟩
  · cases h

/-- The sides of a comparison are two scalar expressions or two vectors of one shape. -/
theorem IsComparison.sides {c : Constraint α} (h : c.IsComparison) :
  (∃ a s b, c = ofScalars a s b)
    ∨ ∃ u s v, u.length = v.length ∧ u.orientation = v.orientation ∧ c = ofVectors u s v
  := by
  cases h with
  | constraint h =>
      obtain ⟨e, s, operand, he⟩ := sides_of_compare? h
      rcases Expression.sides_of_compare he with ⟨a, b, rfl⟩ | ⟨u, v, hl, ho, rfl⟩
      · left
        use a, s, b
      · right
        use u, s, v
  | pair h =>
      rename_i p
      left
      use .var p.first, .equal, .var p.second
      rfl

/-- Any two scalar expressions can be compared. -/
theorem isComparison_ofScalars (a : Scalar α) (s : Sense) (b : Scalar α) :
  (ofScalars a s b).IsComparison
  := by
  by_cases hpair : ∃ v w, s = .equal ∧ a = .var v ∧ b = .var w
  · obtain ⟨v, w, rfl, rfl, rfl⟩ := hpair
    have hcompare : Sense.equal.compare? (.expression (.scalar (.var v)) : Operand α)
        (.expression (.scalar (.var w))) = some (.ok (.pair ⟨v, w⟩)) := rfl
    exact .pair hcompare
  · have hcompare : s.compare? (.expression (.scalar a)) (.expression (.scalar b))
        = some (.ok (.constraint (ofScalars a s b))) := by
      apply Sense.compare?_expression
      rintro v w rfl ⟨⟩ ⟨⟩
      apply hpair
      use v, w
    exact .constraint hcompare

/-- Two vectors of one shape can be compared. -/
theorem isComparison_ofVectors {u v : Vec α} (hl : u.length = v.length)
    (ho : u.orientation = v.orientation) (s : Sense) :
  (ofVectors u s v).IsComparison
  := by
  have hshape : u.requireSameShape .comparison v = .ok () :=
    Vec.requireSameShape_eq_ok_iff.mpr ⟨hl, ho⟩
  have hbuilt : (Expression.vector u).compare s (.expression (.vector v))
      = .ok (ofVectors u s v) := by
    rw [Expression.compare, Operand.asVector, Outcome.ok_bind, hshape]
    rfl
  have hcompare : s.compare? (.expression (.vector u)) (.expression (.vector v))
      = some (.ok (.constraint (ofVectors u s v))) := by
    rw [Sense.compare?_expression (fun _ _ _ h => by cases h), hbuilt]
    rfl
  exact .constraint hcompare

end Constraint

end QuadraticProgram
