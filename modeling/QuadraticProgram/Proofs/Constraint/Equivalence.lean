import QuadraticProgram.Proofs.Constraint.Satisfaction
import QuadraticProgram.Proofs.Constraint.Simplify
import QuadraticProgram.Proofs.Problem.WellDefined

/-!
# Equivalence of simplified constraints

What a constraint says is in the differences of the values of its sides
(`Constraint.differences`): under every assignment the simplified constraint has the same ones,
and where the assignment lacks a variable both are refused with the same error. So the same
points satisfy it (`Constraint.simplify_preserves`).
-/

namespace QuadraticProgram

open QuadraticProgram.Alignment

/-! ### Values of the sides -/

namespace Expression

theorem values_scalar (s : ℕ → Option ℚ) (a : Scalar ℚ) :
  (scalar a).values s = lookingUp s a.vars [a.valueAt (pointOf s)]
  := by
  rw [values, Scalar.evaluate_eq_lookingUp, lookingUp_map]

theorem values_vector (s : ℕ → Option ℚ) (v : Vec ℚ) :
  (vector v).values s
    = lookingUp s v.vars ((List.range v.length).map (v.valueAt (pointOf s)))
  := v.evaluate_eq_lookingUp s

end Expression

namespace Constraint

variable {sense : Sense}

/-- The values of the left side less those of the right one, entry by entry. -/
def differences (s : ℕ → Option ℚ) (c : Constraint ℚ) : Except Error (List ℚ) := do
  let xs ← c.lhs.values s
  let ys ← c.rhs.values s
  return List.zipWith (· - ·) xs ys

/-- The variables of the left side are looked up before those of the right one. -/
theorem differences_eq_lookingUp {c : Constraint ℚ} {s : ℕ → Option ℚ} {vs ws : List Variable}
    {xs ys : List ℚ} (hleft : c.lhs.values s = lookingUp s vs xs)
    (hright : c.rhs.values s = lookingUp s ws ys) :
  c.differences s = lookingUp s (vs ++ ws) (List.zipWith (· - ·) xs ys)
  := by
  have hright' : ∀ xs, (c.rhs.values s >>= fun ys => .ok (List.zipWith (· - ·) xs ys))
      = lookingUp s ws (List.zipWith (· - ·) xs ys) := by
    intro xs
    rw [hright, lookingUp_bind_ok]
  rw [differences, hleft]
  simp only [Outcome.pure_eq_ok, hright']
  apply lookingUp_bind

/-- The difference of two scalar expressions is that of their values, where all variables have
values. -/
theorem differences_ofScalars (s : ℕ → Option ℚ) (a b : Scalar ℚ) :
  (ofScalars a sense b).differences s
    = lookingUp s (a.vars ++ b.vars) [a.valueAt (pointOf s) - b.valueAt (pointOf s)]
  := by
  apply differences_eq_lookingUp (c := ofScalars a sense b) (Expression.values_scalar s a)
    (Expression.values_scalar s b)

/-- The differences of two vectors are those of their entries, where all variables have values. -/
theorem differences_ofVectors (s : ℕ → Option ℚ) {u v : Vec ℚ} (hl : u.length = v.length) :
  (ofVectors u sense v).differences s
    = lookingUp s (u.vars ++ v.vars) ((List.range u.length).map fun i =>
        u.valueAt (pointOf s) i - v.valueAt (pointOf s) i)
  := by
  have hright : (Expression.vector v).values s
      = lookingUp s v.vars ((List.range u.length).map (v.valueAt (pointOf s))) := by
    rw [Expression.values_vector, hl]
  have hdifferences := differences_eq_lookingUp (c := ofVectors u sense v)
    (Expression.values_vector s u) hright
  rw [hdifferences, List.zipWith_map, List.zipWith_self]

/-- An assignment satisfies a constraint whose sides fit together if it gives differences that
stand in the sense of the constraint to zero. -/
theorem satisfied_iff_differences {c : Constraint ℚ} (hsides : c.HasSides) (hshape : c.SameShape)
    (s : ℕ → Option ℚ) :
  c.Satisfied s ↔ ∃ zs, c.differences s = .ok zs ∧ ∀ z ∈ zs, c.sense.holds z 0 = true
  := by
  have hlength : ∀ xs ys, c.lhs.values s = .ok xs → c.rhs.values s = .ok ys →
      xs.length = ys.length := by
    intro xs ys hxs hys
    cases hsides with
    | scalars a sense b =>
        obtain ⟨-, rfl⟩ := lookingUp_eq_ok_iff.mp ((Expression.values_scalar s a).symm.trans hxs)
        obtain ⟨-, rfl⟩ := lookingUp_eq_ok_iff.mp ((Expression.values_scalar s b).symm.trans hys)
        rfl
    | vectors u sense v =>
        obtain ⟨-, rfl⟩ := lookingUp_eq_ok_iff.mp ((Expression.values_vector s u).symm.trans hxs)
        obtain ⟨-, rfl⟩ := lookingUp_eq_ok_iff.mp ((Expression.values_vector s v).symm.trans hys)
        simpa using (hshape u sense v rfl).1
  have hentries : ∀ xs ys : List ℚ, (∀ z ∈ List.zipWith (· - ·) xs ys, c.sense.holds z 0 = true)
      ↔ ∀ p ∈ xs.zip ys, c.sense.holds p.1 p.2 = true := by
    intro xs ys
    rw [← List.map_uncurry_zip_eq_zipWith, List.forall_mem_map]
    apply forall₂_congr
    intro p _
    apply c.sense.holds_of_sub_eq (sub_zero _)
  constructor
  · rintro ⟨xs, ys, hxs, hys, -, hholds⟩
    use List.zipWith (· - ·) xs ys
    rw [differences, hxs, hys]
    use rfl, (hentries xs ys).mpr hholds
  · rintro ⟨zs, hzs, hholds⟩
    obtain ⟨xs, hxs, hzs⟩ := Outcome.bind_eq_ok_iff.mp hzs
    obtain ⟨ys, hys, hzs⟩ := Outcome.bind_eq_ok_iff.mp hzs
    cases hzs
    use xs, ys, hxs, hys, hlength xs ys hxs hys, (hentries xs ys).mp hholds

/-- Constraints with the same differences are satisfied by the same assignments. -/
theorem satisfied_congr {c d : Constraint ℚ} (hc : c.HasSides) (hcshape : c.SameShape)
    (hd : d.HasSides) (hdshape : d.SameShape) (hsense : d.sense = c.sense)
    (h : ∀ s, d.differences s = c.differences s) (s : ℕ → Option ℚ) :
  d.Satisfied s ↔ c.Satisfied s
  := by
  rw [satisfied_iff_differences hd hdshape, satisfied_iff_differences hc hcshape, hsense, h]

/-! ### Simplified constraints -/

/-- A comparison of scalar expressions is simplified without a change to its difference. -/
theorem exists_simplify_scalars (a b : Scalar ℚ) :
  ∃ e, (ofScalars a sense b).simplify = .ok (ofScalars e sense b.constantPart)
    ∧ ∀ s, (ofScalars e sense b.constantPart).differences s = (ofScalars a sense b).differences s
  := by
  obtain ⟨e, he, -, hvars, hvalue⟩ := exists_movedLeft_scalar a b
  use e, simplify_ofScalars sense he
  intro s
  have hconst : (b.constantPart).valueAt (pointOf s) = b.constant := Scalar.valueAt_const _ _
  have hnone : b.constantPart.vars = [] := rfl
  rw [differences_ofScalars, differences_ofScalars, hconst, hnone, List.append_nil, hvalue,
    lookingUp_congr hvars, sub_sub, sub_add_cancel]

/-- A comparison of vectors is simplified without a change to its differences. -/
theorem exists_simplify_vectors {u v : Vec ℚ} (hl : u.length = v.length)
    (ho : u.orientation = v.orientation) :
  ∃ w, (ofVectors u sense v).simplify = .ok (ofVectors w sense v.constantPart)
    ∧ (ofVectors w sense v.constantPart).SameShape
    ∧ ∀ s, (ofVectors w sense v.constantPart).differences s = (ofVectors u sense v).differences s
  := by
  obtain ⟨w, hw, hr⟩ := exists_movedLeft_vector hl ho
  have hlength : w.length = v.constantPart.length := by
    rw [hr.length_eq, Vec.length_constantPart, hl]
  use w, simplify_ofVectors sense hw
  constructor
  · rintro u' s' v' ⟨⟩
    use hlength
    rw [hr.orientation_eq, ho]
    rfl
  · intro s
    have hnone : v.constantPart.vars = [] := rfl
    have hentries : ((List.range w.length).map fun i =>
          w.valueAt (pointOf s) i - v.constantPart.valueAt (pointOf s) i)
        = (List.range u.length).map fun i =>
          u.valueAt (pointOf s) i - v.valueAt (pointOf s) i := by
      rw [hr.length_eq]
      apply List.map_congr_left
      intro i hi
      have hconst : v.constantPart.valueAt (pointOf s) i = v.constant.getD i 0 :=
        Vec.valueAt_const _ _ _ _
      rw [hr.valueAt_eq _ (List.mem_range.mp hi), hconst, sub_sub, sub_add_cancel]
    rw [differences_ofVectors s hlength, differences_ofVectors s hl, hnone, List.append_nil,
      hentries, lookingUp_congr hr.distinct_vars]

/-- A constraint that passes its check is simplified to one of the same form and sense, whose
right side is the constant term. Both have the same differences under every assignment, so the
same assignments satisfy them, and to simplify again changes nothing. -/
theorem simplify_preserves {c : Constraint ℚ} (hsides : c.HasSides) (hcheck : c.check = .ok ()) :
  ∃ d, c.simplify = .ok d ∧ d.HasSides ∧ d.form = c.form ∧ d.sense = c.sense
    ∧ c.rhs.constantPart = .ok d.rhs ∧ d.rhs.vars = []
    ∧ (∀ s, d.differences s = c.differences s)
    ∧ (∀ s, d.Satisfied s ↔ c.Satisfied s)
    ∧ d.simplify = .ok d
  := by
  have hshape := (hsides.check_eq_ok_iff.mp hcheck).1
  cases hsides with
  | scalars a sense b =>
      obtain ⟨e, he, hdifferences⟩ := exists_simplify_scalars a b
      have hshape' : (ofScalars e sense b.constantPart).SameShape := by
        rintro u s v ⟨⟩
      refine ⟨_, he, .scalars .., rfl, rfl, rfl, rfl, hdifferences, ?_, ?_⟩
      · apply satisfied_congr (.scalars ..) hshape (.scalars e sense _) hshape' rfl hdifferences
      · apply simplify_ofScalars sense
        apply movedLeft_of_vars_eq_nil _ _ rfl
  | vectors u sense v =>
      obtain ⟨hl, ho⟩ := hshape u sense v rfl
      obtain ⟨w, hw, hshape', hdifferences⟩ := exists_simplify_vectors hl ho
      refine ⟨_, hw, .vectors .., rfl, rfl, rfl, rfl, hdifferences, ?_, ?_⟩
      · apply satisfied_congr (.vectors ..) hshape (.vectors w sense _) hshape' rfl hdifferences
      · apply simplify_ofVectors sense
        apply movedLeft_of_vars_eq_nil _ _ rfl

/-- Twice a variable is at most the sum of it, of another one and of three. -/
def sharing : Constraint ℚ :=
  ofScalars (.linear (.ofPairs [(⟨0, 0.0, 1.0, .continuous, .text "x", 0⟩, 2)] 0)) .lessEqual
    (.linear (.ofPairs [(⟨0, 0.0, 1.0, .continuous, .text "x", 0⟩, 1),
      (⟨1, 0.0, 1.0, .continuous, .text "y", 1⟩, 1)] 3))

/-- A variable on both sides. -/
theorem simplify_preserves_sharing :
  sharing.HasSides ∧ sharing.check = .ok ()
    ∧ ∃ d, sharing.simplify = .ok d ∧ d.rhs.vars = []
      ∧ (∀ s, d.Satisfied s ↔ sharing.Satisfied s) ∧ d.simplify = .ok d
  := by
  have hsides : sharing.HasSides := .scalars ..
  have hcheck : sharing.check = .ok () := rfl
  obtain ⟨d, hd, -, -, -, -, hvars, -, hsatisfied, hagain⟩ := simplify_preserves hsides hcheck
  exact ⟨hsides, hcheck, d, hd, hvars, hsatisfied, hagain⟩

end Constraint

end QuadraticProgram
