import QuadraticProgram.Proofs.Constraint.Columns
import QuadraticProgram.Proofs.Problem.BlockSizes
import QuadraticProgram.Proofs.Problem.Reachable

/-!
# Columns and families

In a numbered problem the column of a variable is its identifier. Each constraint belongs to one
of the two families, and the blocks of a family stand in its matrix in an order that puts those
of scalar constraints first.
-/

namespace QuadraticProgram

variable {α : Type} [Coefficient α]

namespace Block

variable {width : ℕ}

/-- The blocks of scalar constraints, then those of vector constraints. -/
def ordered (bs : List (Block α width)) : List (Block α width) :=
  bs.filter (·.form == .scalar) ++ bs.filter (·.form == .vector)

omit [Coefficient α] in
/-- Every block stands among those of the scalar constraints or among those of the vectors. -/
theorem perm_ordered (bs : List (Block α width)) :
  (ordered bs).Perm bs
  := by
  have hvector : ∀ b ∈ bs, (b.form == .vector) = !(b.form == .scalar) := by
    intro b _
    cases b.form with
    | scalar => rfl
    | vector => rfl
  rw [ordered, List.filter_congr hvector]
  apply List.filter_append_perm

omit [Coefficient α] in
/-- The blocks of scalar constraints go first, and none is lost or made up. -/
theorem mem_ordered {bs : List (Block α width)} {b : Block α width} :
  b ∈ ordered bs ↔ b ∈ bs
  := (perm_ordered bs).mem_iff

end Block

/-- Every sense belongs to a family. -/
theorem Family.contains_or (s : Sense) :
  Family.inequalities.contains s = true ∨ Family.equalities.contains s = true
  := by
  cases s with
  | equal =>
      right
      rfl
  | _ =>
      left
      rfl

namespace Problem

variable {p : Problem α}

/-! ### Columns -/

theorem Numbered.width_eq (hp : p.Numbered) :
  p.width = p.vars.length
  := by
  rw [width, columnPositions, hp.columns_eq, List.length_map, List.length_range]

/-- The column of a variable of the problem is its number. -/
theorem Numbered.index_eq_ok (hp : p.Numbered) (axis : ℕ) {v : Variable}
    (h : v.id < p.vars.length) :
  p.columnPositions.index axis v = .ok v.id
  := by
  have hlookup : p.columnPositions.positions.lookup v.id = some (v.id : ℤ) := by
    rw [columnPositions, hp.columns_eq, List.map_map]
    apply List.lookup_graph (fun k : ℕ => (k : ℤ)) (List.mem_range.mpr h)
  have hposition : position? v.id p.columnPositions.width = some v.id := by
    apply position?_natCast
    apply h.trans_eq hp.width_eq.symm
  rw [Columns.index, hlookup]
  simp only [hposition]

/-- All variables with numbers in range have columns. -/
theorem Numbered.finds (hp : p.Numbered) {vs : List Variable}
    (h : ∀ v ∈ vs, v.id < p.vars.length) :
  p.columnPositions.Finds vs
  := by
  intro axis v hv
  use v.id, hp.index_eq_ok axis (h v hv)

/-! ### Families -/

/-- The constraints of a family are those of the problem whose sense belongs to it. -/
theorem forall_mem_family {f : Family} {Q : Constraint α → Prop} :
  (∀ x ∈ p.family f, Q x.1)
    ↔ ∀ c ∈ p.constraints, f.contains c.value.sense = true → Q c.value
  := by
  constructor
  · intro h c hc hf
    obtain ⟨k, hk⟩ := List.mem_iff_getElem?.mp (List.mem_map_of_mem (f := Tagged.value) hc)
    apply h (c.value, k)
    apply List.mem_filter.mpr
    use List.mem_zipIdx_iff_getElem?.mpr hk, hf
  · rintro h ⟨d, k⟩ hx
    obtain ⟨hmem, hf⟩ := List.mem_filter.mp hx
    obtain ⟨c, hc, rfl⟩ := List.mem_map.mp (List.fst_mem_of_mem_zipIdx hmem)
    apply h c hc hf

theorem exists_mem_family {f : Family} {Q : Constraint α → Prop} :
  (∃ x ∈ p.family f, Q x.1)
    ↔ ∃ c ∈ p.constraints, f.contains c.value.sense = true ∧ Q c.value
  := by
  simpa using not_congr (forall_mem_family (p := p) (f := f) (Q := fun c => ¬ Q c))

/-- A sum over the two families is a sum over all constraints. -/
theorem sum_families (p : Problem α) (g : Constraint α → ℕ) :
  ((p.family .inequalities).map fun x => g x.1).sum
      + ((p.family .equalities).map fun x => g x.1).sum
    = (p.constraints.map fun c => g c.value).sum
  := by
  have hequal : ∀ x : Constraint α × ℕ,
      Family.equalities.contains x.1.sense = !Family.inequalities.contains x.1.sense := by
    rintro ⟨⟨form, lhs, rhs, s⟩, k⟩
    cases s <;> rfl
  have hperm := List.filter_append_perm (fun x : Constraint α × ℕ =>
    Family.inequalities.contains x.1.sense) (p.constraints.map Tagged.value).zipIdx
  have hall : ((p.constraints.map Tagged.value).zipIdx.map fun x => g x.1)
      = p.constraints.map fun c => g c.value := by
    calc ((p.constraints.map Tagged.value).zipIdx.map fun x => g x.1)
        = ((p.constraints.map Tagged.value).zipIdx.map Prod.fst).map g := by
          rw [List.map_map]
          rfl
      _ = p.constraints.map fun c => g c.value := by
          rw [List.zipIdx_map_fst, List.map_map]
          rfl
  rw [← hall, ← (hperm.map fun x => g x.1).sum_eq, List.map_append, List.sum_append]
  simp only [← hequal]
  rfl

/-- The matrices of a family stack its blocks and join their bounds. -/
theorem matrices_of_blocks {f : Family} {bs : List (Block α p.width)} (h : p.blocks f = .ok bs) :
  p.matrices f = (Block.joinBounds ((Block.ordered bs).map Block.bounds)).map fun t =>
    (Matrix.stack p.width ((Block.ordered bs).map Block.rows), t)
  := by
  unfold matrices
  rw [h, Outcome.ok_bind]
  rfl

/-- The matrix and the bounds that the blocks of a family make. -/
theorem matricesOr_of_blocks {f : Family} {bs : List (Block α p.width)}
    (hbs : p.blocks f = .ok bs) {t : Tensor α}
    (ht : Block.joinBounds ((Block.ordered bs).map Block.bounds) = .ok t) :
  p.matricesOr f true = .ok (Matrix.stack p.width ((Block.ordered bs).map Block.rows), t)
  := by
  unfold matricesOr
  rw [matrices_of_blocks hbs, ht]
  rfl

/-- A matrix and bounds are those that the blocks of the family make. -/
theorem exists_blocks_of_matricesOr {f : Family} {allowEmpty : Bool} {A : Matrix α} {t : Tensor α}
    (h : p.matricesOr f allowEmpty = .ok (A, t)) :
  ∃ bs, p.blocks f = .ok bs ∧ A = Matrix.stack p.width ((Block.ordered bs).map Block.rows)
    ∧ Block.joinBounds ((Block.ordered bs).map Block.bounds) = .ok t
  := by
  obtain ⟨⟨B, u⟩, hmatrices, h⟩ := Outcome.bind_eq_ok_iff.mp h
  have hsame : (B, u) = (A, t) := by
    dsimp only at h
    split at h
    · cases h
    · apply Except.ok.inj h
  cases hsame
  obtain ⟨bs, hbs, -⟩ := Outcome.bind_eq_ok_iff.mp hmatrices
  rw [matrices_of_blocks hbs] at hmatrices
  obtain ⟨t, ht, hAt⟩ := Outcome.map_eq_ok_iff.mp hmatrices
  cases hAt
  use bs, hbs, rfl, ht

end Problem

end QuadraticProgram
