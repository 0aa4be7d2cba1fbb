import Mathlib.Data.Set.Function
import QuadraticProgram.Proofs.Alignment

/-!
# First occurrences

The distinct variables of a list are those at its first positions, in their order
(`exists_firstPositions`). The map of first positions and the search for a single variable find the
same positions, and lack the same variables (`lookup_indexMap`). Over distinct variables the map
is a bijection onto the positions (`first_occurrences_agree`).
-/

namespace QuadraticProgram.Alignment

variable {vs : List Variable} {id : ℕ}

/-! ### First positions -/

theorem firstAt_cons_zero (v : Variable) (vs : List Variable) :
  FirstAt (v :: vs) 0
  := by
  use Nat.zero_lt_succ vs.length
  intro i hi
  exact absurd hi i.not_lt_zero

/-- Behind a variable another one is the first if it was so before, and the two differ. -/
theorem firstAt_cons_succ (v : Variable) (vs : List Variable) (p : ℕ) :
  FirstAt (v :: vs) (p + 1) ↔ FirstAt vs p ∧ vs[p]?.map Variable.id ≠ some v.id
  := by
  constructor
  · rintro ⟨hp, hbefore⟩
    have hp' : p < vs.length := Nat.lt_of_succ_lt_succ hp
    constructor
    · use hp'
      intro i hi
      apply hbefore (i + 1) (Nat.succ_lt_succ hi)
    · rw [List.getElem?_eq_getElem hp', Option.map_some, ne_eq, Option.some_inj]
      intro heq
      apply hbefore 0 p.succ_pos heq.symm
  · rintro ⟨⟨hp, hbefore⟩, hv⟩
    use Nat.succ_lt_succ hp
    intro i hi
    cases i with
    | zero =>
        rw [List.getElem?_eq_getElem hp, Option.map_some, ne_eq, Option.some_inj] at hv
        intro heq
        apply hv heq.symm
    | succ i => apply hbefore i (Nat.lt_of_succ_lt_succ hi)

/-- The distinct variables are those at the first positions, in the order of these. -/
theorem exists_firstPositions (vs : List Variable) :
  ∃ ps : List ℕ, ps.Pairwise (· < ·) ∧ (∀ p, p ∈ ps ↔ FirstAt vs p)
    ∧ (distinct vs).map some = ps.map (vs[·]?)
  := by
  induction vs with
  | nil =>
      use [], List.Pairwise.nil
      constructor
      · intro p
        constructor
        · intro hp
          cases hp
        · rintro ⟨hp, -⟩
          exact absurd hp p.not_lt_zero
      · rfl
  | cons v vs ih =>
      obtain ⟨ps, hps, hmem, hdistinct⟩ := ih
      -- the positions that stay first behind `v`
      let others := ps.filter fun p => vs[p]?.map Variable.id != some v.id
      use 0 :: others.map (· + 1)
      refine ⟨?_, ?_, ?_⟩
      · rw [List.pairwise_cons]
        constructor
        · intro p hp
          obtain ⟨q, -, rfl⟩ := List.mem_map.mp hp
          apply q.succ_pos
        · apply List.Pairwise.map _ _ (hps.filter _)
          intro p q
          apply Nat.succ_lt_succ
      · intro p
        cases p with
        | zero => simp [firstAt_cons_zero]
        | succ p => simp [others, firstAt_cons_succ, hmem]
      · have hfilter : ((distinct vs).filter (·.id != v.id)).map some
            = others.map (vs[·]?) := by
          have hsome := congrArg (List.filter fun w? => w?.map Variable.id != some v.id) hdistinct
          rw [List.filter_map, List.filter_map] at hsome
          exact hsome
        rw [distinct, List.map_cons, hfilter, List.map_cons, List.map_map]
        rfl

/-! ### The map of first positions -/

theorem lookup_indexMapFrom (k : ℕ) (vs : List Variable) (id : ℕ) :
  (indexMapFrom k vs).lookup id = (position? id vs).map (k + ·)
  := by
  induction vs generalizing k with
  | nil => rfl
  | cons v vs ih =>
      rw [indexMapFrom, List.lookup_cons, position?, List.findIdx?_cons]
      by_cases h : v.id = id
      · simp [h]
      · have hid : (id == v.id) = false := by simpa using fun heq => h heq.symm
        have hpositions : vs.findIdx? (·.id == id) = position? id vs := rfl
        have hshift : (k + 1 + ·) = (k + ·) ∘ (· + 1) := by
          funext i
          apply Nat.add_right_comm
        rw [hid, lookup_filter_ne _ fun heq => h heq.symm, ih, if_neg (by simpa using h),
          hpositions, Option.map_map, hshift]

/-- The map finds the position that the search finds. -/
theorem lookup_indexMap (vs : List Variable) (id : ℕ) :
  (indexMap vs).lookup id = position? id vs
  := by
  simp [indexMap, lookup_indexMapFrom]

theorem map_fst_indexMapFrom (k : ℕ) (vs : List Variable) :
  (indexMapFrom k vs).map Prod.fst = (distinct vs).map Variable.id
  := by
  induction vs generalizing k with
  | nil => rfl
  | cons v vs ih =>
      have hids := congrArg (List.filter (· != v.id)) (ih (k + 1))
      rw [List.filter_map, List.filter_map] at hids
      rw [indexMapFrom, distinct, List.map_cons, List.map_cons]
      exact congrArg (v.id :: ·) hids

/-- The keys of the map are the identifiers of the distinct variables, each once and in their
order. -/
theorem map_fst_indexMap (vs : List Variable) :
  (indexMap vs).map Prod.fst = (distinct vs).map Variable.id
  := map_fst_indexMapFrom 0 vs

/-- The search gives the position of a variable that occurs. -/
theorem indexOf_eq_ok_iff {v : Variable} {i : ℕ} :
  indexOf v vs = .ok i ↔ position? v.id vs = some i
  := by
  rw [indexOf]
  cases position? v.id vs with
  | none => simp
  | some j => simp

/-- The search fails exactly for a variable that does not occur, and names it. -/
theorem indexOf_eq_error_iff {v : Variable} {e : Error} :
  indexOf v vs = .error e
    ↔ position? v.id vs = none ∧ e = .variableNotFound v.id .variableVector
  := by
  rw [indexOf]
  cases position? v.id vs with
  | none => simp [eq_comm]
  | some j => simp

/-! ### Distinct variables -/

/-- Each distinct variable has a position of its own, and each position a variable. -/
theorem bijOn_position? (h : (vs.map Variable.id).Nodup) :
  Set.BijOn (fun id => (position? id vs).getD 0) {id | ∃ v ∈ vs, v.id = id} (Set.Iio vs.length)
  := by
  refine ⟨?_, ?_, ?_⟩
  · rintro id hid
    obtain ⟨i, hi, hpos, -⟩ := position?_eq_some hid
    simpa [hpos] using hi
  · rintro id hid id' hid' heq
    obtain ⟨i, hi, hpos, rfl⟩ := position?_eq_some hid
    obtain ⟨j, hj, hpos', rfl⟩ := position?_eq_some hid'
    obtain rfl : i = j := by simpa [hpos, hpos'] using heq
    rfl
  · intro i hi
    have hpos := (position?_eq_some_iff_of_nodup h).mpr ⟨hi, rfl⟩
    use (vs[i]).id
    constructor
    · exact ⟨vs[i], List.getElem_mem hi, rfl⟩
    · simp [hpos]

/-! ### Agreement -/

/-- What the distinct variables of a list, the map of its first positions and the search for a
variable have to do with one another. -/
theorem first_occurrences_agree (xs ys : List Variable) :
  (((distinct xs).map Variable.id).Nodup
    ∧ (∀ id, (∃ v ∈ distinct xs, v.id = id) ↔ ∃ v ∈ xs, v.id = id)
    ∧ (∃ ps : List ℕ, ps.Pairwise (· < ·) ∧ (∀ p, p ∈ ps ↔ FirstAt xs p)
      ∧ (distinct xs).map some = ps.map (xs[·]?))
    ∧ distinct (distinct xs) = distinct xs
    ∧ distinct (xs ++ ys) = distinct (distinct xs ++ ys))
  ∧ (indexMap xs).map Prod.fst = (distinct xs).map Variable.id
  ∧ (∀ v : Variable,
    ((∃ w ∈ xs, w.id = v.id) →
      ∃ i, FirstAt xs i ∧ xs[i]?.map Variable.id = some v.id
        ∧ (indexMap xs).lookup v.id = some i ∧ indexOf v xs = .ok i)
    ∧ ((indexMap xs).lookup v.id = none ↔ ∀ w ∈ xs, w.id ≠ v.id)
    ∧ (indexOf v xs = .error (.variableNotFound v.id .variableVector) ↔ ∀ w ∈ xs, w.id ≠ v.id))
  ∧ ∃ f : ℕ → ℕ, Set.BijOn f {id | ∃ v ∈ xs, v.id = id} (Set.Iio (distinct xs).length)
    ∧ ∀ id i, (indexMap (distinct xs)).lookup id = some i ↔ (∃ v ∈ xs, v.id = id) ∧ f id = i
  := by
  refine ⟨⟨nodup_distinct xs, ?_, exists_firstPositions xs, distinct_distinct xs, ?_⟩,
    map_fst_indexMap xs, ?_, ?_⟩
  · intro id
    apply exists_mem_distinct_iff
  · symm
    apply distinct_distinct_append
  · intro v
    rw [lookup_indexMap, position?_eq_none_iff, indexOf_eq_error_iff, position?_eq_none_iff]
    refine ⟨?_, Iff.rfl, by simp⟩
    intro hv
    obtain ⟨i, hi, hpos, hid⟩ := position?_eq_some hv
    use i, firstAt_of_position? hpos
    rw [List.getElem?_eq_getElem hi, Option.map_some, hid]
    exact ⟨rfl, hpos, indexOf_eq_ok_iff.mpr hpos⟩
  · have hids : {id | ∃ v ∈ distinct xs, v.id = id} = {id | ∃ v ∈ xs, v.id = id} := by
      ext id
      apply exists_mem_distinct_iff
    use fun id => (position? id (distinct xs)).getD 0
    constructor
    · rw [← hids]
      apply bijOn_position? (nodup_distinct xs)
    · intro id i
      rw [lookup_indexMap, ← exists_mem_distinct_iff, ← isSome_position?_iff]
      cases position? id (distinct xs) with
      | none => simp
      | some j => simp

/-- A list in which the first variable comes again. -/
def repeating : List Variable := [default, { (default : Variable) with id := 1 }, default]

/-- The second variable of a list in which the first one comes again. -/
theorem first_occurrences_agree_repeating :
  (∃ w ∈ repeating, w.id = 1)
    ∧ ∃ i, (indexMap repeating).lookup 1 = some i
      ∧ indexOf { (default : Variable) with id := 1 } repeating = .ok i
  := by
  have hmem : ∃ w ∈ repeating, w.id = 1 := by
    use { (default : Variable) with id := 1 }
    simp [repeating]
  obtain ⟨i, -, -, hmap, hsearch⟩ :=
    ((first_occurrences_agree repeating []).2.2.1 { (default : Variable) with id := 1 }).1 hmem
  exact ⟨hmem, i, hmap, hsearch⟩

end QuadraticProgram.Alignment
