import QuadraticProgram.Proofs.Entries
import QuadraticProgram.Proofs.Outcome
import QuadraticProgram.Variable.Alignment

/-!
# Places of variables

A point gives a value to every identifier, an assignment to some of them. The distinct
variables of a list are what decides which assignments cover it. To move coefficients to other
places is to multiply them by a matrix of zeros and ones (`incidence`), and each variable takes
the value that its place has (`sum_incidence`).
-/

namespace QuadraticProgram.Alignment

open Coefficient

/-! ### Assignments and points -/

/-- Whether an assignment gives values to all variables of a list. -/
def Covers {α : Type} (s : ℕ → Option α) (vs : List Variable) : Prop :=
  ∀ v ∈ vs, (s v.id).isSome

/-- An assignment with zero wherever it gives no value. -/
def pointOf (s : ℕ → Option ℚ) : ℕ → ℚ := fun id => (s id).getD 0

/-- The values of a list of variables at a point. -/
def valuesAt (x : ℕ → ℚ) (vs : List Variable) : List ℚ := vs.map fun v => x v.id

@[simp]
theorem length_valuesAt (x : ℕ → ℚ) (vs : List Variable) :
  (valuesAt x vs).length = vs.length
  := List.length_map _

theorem getD_valuesAt (x : ℕ → ℚ) {vs : List Variable} {a : ℕ} (h : a < vs.length) :
  (valuesAt x vs).getD a 0 = x (vs[a]).id
  := by
  rw [List.getD_eq_getElem _ _ (by rw [length_valuesAt]; apply h)]
  apply List.getElem_map

/-- A result that needs the values of the variables of a list: where the assignment lacks one,
the error for the first that it lacks. -/
def lookingUp {α β : Type} (s : ℕ → Option α) (vs : List Variable) (b : β) : Except Error β :=
  match vs.find? fun v => (s v.id).isNone with
  | some v => .error (.variableNotFound v.id .values)
  | none => .ok b

section LookingUp

variable {α β γ : Type} {s : ℕ → Option α} {vs ws : List Variable} {b c : β}

/-- An assignment covers variables if none is found without a value. -/
theorem covers_iff_find?_eq_none :
  Covers s vs ↔ (vs.find? fun v => (s v.id).isNone) = none
  := by
  rw [List.find?_eq_none]
  apply forall₂_congr
  intro v _
  cases s v.id with
  | none => simp
  | some a => simp

/-- A result is given exactly to assignments that cover the variables. -/
theorem lookingUp_eq_ok_iff :
  lookingUp s vs b = .ok c ↔ Covers s vs ∧ b = c
  := by
  rw [covers_iff_find?_eq_none, lookingUp]
  cases vs.find? fun v => (s v.id).isNone with
  | none => simp
  | some v => simp

theorem lookingUp_of_covers (h : Covers s vs) :
  lookingUp s vs b = .ok b
  := lookingUp_eq_ok_iff.mpr ⟨h, rfl⟩

/-- To look up and then to change the result is to look up with the result changed. -/
theorem lookingUp_map (f : β → γ) :
  (lookingUp s vs b).map f = lookingUp s vs (f b)
  := by
  rw [lookingUp, lookingUp]
  cases vs.find? fun v => (s v.id).isNone with
  | none => rfl
  | some v => rfl

theorem lookingUp_bind_ok (f : β → γ) :
  (lookingUp s vs b >>= fun b => .ok (f b)) = lookingUp s vs (f b)
  := by
  rw [lookingUp, lookingUp]
  cases vs.find? fun v => (s v.id).isNone with
  | none => rfl
  | some v => rfl

/-- Variables are looked up in the order of their lists. -/
theorem lookingUp_bind (f : β → γ) :
  (lookingUp s vs b >>= fun b => lookingUp s ws (f b)) = lookingUp s (vs ++ ws) (f b)
  := by
  rw [lookingUp, lookingUp, List.find?_append]
  cases vs.find? fun v => (s v.id).isNone with
  | none => rfl
  | some v => rfl

end LookingUp

/-- The values of the variables of a list are looked up in their order. -/
theorem valuesOf_eq {α : Type} [Coefficient α] (s : ℕ → Option α) (vs : List Variable) :
  valuesOf s vs = lookingUp s vs (vs.map fun v => (s v.id).getD 0)
  := by
  induction vs with
  | nil => rfl
  | cons v vs ih =>
      cases hv : s v.id with
      | none =>
          rw [valuesOf, List.mapM_cons, hv]
          simp [lookingUp, hv]
      | some a =>
          have hstep : valuesOf s (v :: vs) = (valuesOf s vs >>= fun as => .ok (a :: as)) := by
            rw [valuesOf, List.mapM_cons, hv]
            rfl
          have hfind : ((v :: vs).find? fun w => (s w.id).isNone)
              = vs.find? fun w => (s w.id).isNone := by
            rw [List.find?_cons_of_neg (by simp [hv])]
          rw [hstep, ih, lookingUp_bind_ok, lookingUp, lookingUp, hfind]
          simp [hv]

/-- To take the values of variables is to look them up. -/
theorem valuesOf_eq_lookingUp (s : ℕ → Option ℚ) (vs : List Variable) :
  valuesOf s vs = lookingUp s vs (valuesAt (pointOf s) vs)
  := valuesOf_eq s vs

/-! ### Distinct variables -/

/-- Whether the identifiers of one list are among those of another. -/
def Lists (target source : List Variable) : Prop :=
  ∀ v ∈ source, ∃ w ∈ target, w.id = v.id

/-- A list with all variables of a second one has all variables of a third one if the second one
does. -/
theorem Lists.trans {us vs ws : List Variable} (h : Lists us vs) (h' : Lists vs ws) :
  Lists us ws
  := by
  intro w hw
  obtain ⟨v, hv, hvw⟩ := h' w hw
  obtain ⟨u, hu, huv⟩ := h v hv
  exact ⟨u, hu, huv.trans hvw⟩

/-- An assignment that covers a list covers the variables in it. -/
theorem covers_of_lists {α : Type} {s : ℕ → Option α} {target source : List Variable}
    (h : Lists target source) (hs : Covers s target) :
  Covers s source
  := by
  intro v hv
  obtain ⟨w, hw, hwv⟩ := h v hv
  rw [← hwv]
  apply hs w hw

/-- The distinct variables of a list have its identifiers. -/
theorem exists_mem_distinct_iff {vs : List Variable} {id : ℕ} :
  (∃ w ∈ distinct vs, w.id = id) ↔ ∃ w ∈ vs, w.id = id
  := by
  induction vs with
  | nil => rfl
  | cons v vs ih =>
      rw [distinct]
      by_cases hv : v.id = id
      · simp [hv]
      · rw [List.exists_mem_cons_iff, List.exists_mem_cons_iff, ← ih]
        simp only [hv, false_or, List.mem_filter, bne_iff_ne, ne_eq]
        constructor
        · rintro ⟨w, ⟨hw, -⟩, rfl⟩
          use w
        · rintro ⟨w, hw, rfl⟩
          use w
          exact ⟨⟨hw, fun h => hv h.symm⟩, rfl⟩

/-- The distinct variables of a list have different identifiers. -/
theorem nodup_distinct (vs : List Variable) :
  ((distinct vs).map Variable.id).Nodup
  := by
  induction vs with
  | nil => exact List.nodup_nil
  | cons v vs ih =>
      rw [distinct, List.map_cons, List.nodup_cons]
      constructor
      · simp
      · apply List.Nodup.sublist _ ih
        apply List.Sublist.map
        apply List.filter_sublist

/-- Variables with different identifiers are all kept. -/
theorem distinct_of_nodup {vs : List Variable} (h : (vs.map Variable.id).Nodup) :
  distinct vs = vs
  := by
  induction vs with
  | nil => rfl
  | cons v vs ih =>
      rw [List.map_cons, List.nodup_cons] at h
      rw [distinct, ih h.2, List.filter_eq_self.mpr]
      intro w hw
      rw [bne_iff_ne]
      intro hwv
      apply h.1
      rw [← hwv]
      apply List.mem_map_of_mem hw

/-- To keep the distinct variables of a list twice is to do so once. -/
@[simp]
theorem distinct_distinct (vs : List Variable) :
  distinct (distinct vs) = distinct vs
  := distinct_of_nodup (nodup_distinct vs)

theorem lists_distinct_append_left (vs ws : List Variable) :
  Lists (distinct (vs ++ ws)) vs
  := by
  intro v hv
  apply exists_mem_distinct_iff.mpr
  use v, List.mem_append_left ws hv

theorem lists_distinct_append_right (vs ws : List Variable) :
  Lists (distinct (vs ++ ws)) ws
  := by
  intro v hv
  apply exists_mem_distinct_iff.mpr
  use v, List.mem_append_right vs hv

/-- To leave out an identifier commutes with taking the distinct variables. -/
theorem distinct_filter (id : ℕ) (vs : List Variable) :
  distinct (vs.filter (·.id != id)) = (distinct vs).filter (·.id != id)
  := by
  induction vs with
  | nil => rfl
  | cons v vs ih =>
      by_cases h : v.id = id
      · rw [List.filter_cons_of_neg (by simp [h]), ih, distinct,
          List.filter_cons_of_neg (by simp [h]), List.filter_filter, h]
        simp only [Bool.and_self]
      · rw [List.filter_cons_of_pos (by simp [h]), distinct, ih, distinct,
          List.filter_cons_of_pos (by simp [h]), List.filter_comm]

/-- What is repeated on the right may be left out before. -/
theorem distinct_append_distinct (vs ws : List Variable) :
  distinct (vs ++ distinct ws) = distinct (vs ++ ws)
  := by
  induction vs with
  | nil => apply distinct_distinct
  | cons v vs ih => rw [List.cons_append, distinct, ih, List.cons_append, distinct]

/-- What is repeated on the left may be left out before. -/
theorem distinct_distinct_append (vs ws : List Variable) :
  distinct (distinct vs ++ ws) = distinct (vs ++ ws)
  := by
  induction vs with
  | nil => rfl
  | cons v vs ih =>
      have hfilter : ((distinct vs).filter (·.id != v.id) ++ ws).filter (·.id != v.id)
          = (distinct vs ++ ws).filter (·.id != v.id) := by
        rw [List.filter_append, List.filter_filter, List.filter_append]
        simp only [Bool.and_self]
      rw [distinct, List.cons_append, distinct, ← distinct_filter, hfilter, distinct_filter, ih,
        List.cons_append, distinct]

/-- A search that only minds identifiers finds among the distinct variables what it finds in the
list. -/
theorem find?_distinct (q : ℕ → Bool) (vs : List Variable) :
  ((distinct vs).find? fun v => q v.id) = vs.find? fun v => q v.id
  := by
  induction vs with
  | nil => rfl
  | cons v vs ih =>
      rw [distinct, List.find?_cons, List.find?_cons]
      cases hv : q v.id with
      | true => rfl
      | false =>
          -- What is left out has the identifier of a variable that the search passes by.
          have hpass : ∀ w : Variable, decide ((w.id != v.id) = true ∧ q w.id = true) = q w.id := by
            intro w
            by_cases hw : w.id = v.id
            · simp [hw, hv]
            · simp [hw]
          rw [List.find?_filter]
          simp only [hpass]
          apply ih

/-- The distinct variables of two lists depend on those of either list only. -/
theorem distinct_append_congr {vs vs' ws ws' : List Variable} (h : distinct vs = distinct vs')
    (h' : distinct ws = distinct ws') :
  distinct (vs ++ ws) = distinct (vs' ++ ws')
  := by
  rw [← distinct_append_distinct, ← distinct_distinct_append, h, h', distinct_append_distinct,
    distinct_distinct_append]

/-- Lists with the same distinct variables have the same identifiers. -/
theorem exists_mem_of_distinct_eq {vs ws : List Variable} (h : distinct vs = distinct ws)
    {v : Variable} (hv : v ∈ vs) :
  ∃ w ∈ ws, w.id = v.id
  := by
  apply exists_mem_distinct_iff.mp
  rw [← h]
  apply exists_mem_distinct_iff.mpr
  use v

/-- A list that contains the identifiers of another one contains those of its distinct
variables. -/
theorem lists_of_distinct_eq {us vs ws : List Variable} (h : distinct vs = distinct ws)
    (hws : Lists us ws) :
  Lists us vs
  := hws.trans fun _ hv => exists_mem_of_distinct_eq h hv

/-- An assignment covers a list when it covers the distinct variables of it. -/
theorem covers_of_distinct_eq {α : Type} {s : ℕ → Option α} {vs ws : List Variable}
    (h : distinct vs = distinct ws) (hs : Covers s ws) :
  Covers s vs
  := covers_of_lists (fun _ hv => exists_mem_of_distinct_eq h hv) hs

/-- Lists with the same distinct variables are covered by the same assignments. -/
theorem covers_congr {α : Type} {s : ℕ → Option α} {vs ws : List Variable}
    (h : distinct vs = distinct ws) :
  Covers s vs ↔ Covers s ws
  := ⟨covers_of_distinct_eq h.symm, covers_of_distinct_eq h⟩

/-- Lists with the same distinct variables lack the same variable first. -/
theorem lookingUp_congr {α β : Type} {s : ℕ → Option α} {vs ws : List Variable} {b : β}
    (h : distinct vs = distinct ws) :
  lookingUp s vs b = lookingUp s ws b
  := by
  have hfind : (vs.find? fun v => (s v.id).isNone) = ws.find? fun v => (s v.id).isNone := by
    rw [← find?_distinct (fun id => (s id).isNone) vs, h,
      find?_distinct (fun id => (s id).isNone) ws]
  rw [lookingUp, lookingUp, hfind]

/-- An assignment covers two lists together exactly if it covers each. -/
theorem covers_append {α : Type} {s : ℕ → Option α} {vs ws : List Variable} :
  Covers s (vs ++ ws) ↔ Covers s vs ∧ Covers s ws
  := List.forall_mem_append

/-! ### Places -/

/-- A variable in a list has a position, where its identifier stands. -/
theorem position?_eq_some {vs : List Variable} {id : ℕ} (h : ∃ w ∈ vs, w.id = id) :
  ∃ j, ∃ hj : j < vs.length, position? id vs = some j ∧ (vs[j]).id = id
  := by
  obtain ⟨w, hw, hwid⟩ := h
  rcases hp : position? id vs with - | j
  · rw [position?, List.findIdx?_eq_none_iff] at hp
    have hne := hp w hw
    simp [hwid] at hne
  · obtain ⟨hj, hjid, -⟩ := List.findIdx?_eq_some_iff_getElem.mp hp
    use j, hj, rfl
    apply beq_iff_eq.mp hjid

/-- Exactly the variables that a list lacks have no position. -/
theorem position?_eq_none_iff {vs : List Variable} {id : ℕ} :
  position? id vs = none ↔ ∀ w ∈ vs, w.id ≠ id
  := by
  simp [position?, List.findIdx?_eq_none_iff]

/-- Exactly the variables in a list have a position. -/
theorem isSome_position?_iff {vs : List Variable} {id : ℕ} :
  (position? id vs).isSome = true ↔ ∃ w ∈ vs, w.id = id
  := by
  rw [Option.isSome_iff_ne_none, ne_eq, position?_eq_none_iff]
  simp

/-- Among distinct variables an identifier is found at every position that has it. -/
theorem position?_eq_some_iff_of_nodup {vs : List Variable} (h : (vs.map Variable.id).Nodup)
    {id i : ℕ} :
  position? id vs = some i ↔ ∃ hi : i < vs.length, (vs[i]).id = id
  := by
  constructor
  · intro hpos
    obtain ⟨hi, hid, -⟩ := List.findIdx?_eq_some_iff_getElem.mp hpos
    use hi
    apply beq_iff_eq.mp hid
  · rintro ⟨hi, rfl⟩
    obtain ⟨j, hj, hpos, hid⟩ := position?_eq_some ⟨vs[i], List.getElem_mem hi, rfl⟩
    have hij : j = i := by
      rw [← List.getElem_map Variable.id (h := by simpa using hj),
        ← List.getElem_map Variable.id (h := by simpa using hi)] at hid
      exact h.getElem_inj_iff.mp hid
    rw [hpos, hij]

/-- A position at which a list has a variable for the first time. -/
def FirstAt (vs : List Variable) (j : ℕ) : Prop :=
  ∃ hj : j < vs.length, ∀ (i : ℕ) (hi : i < j), (vs[i]).id ≠ (vs[j]).id

/-- The position of a variable is its first one. -/
theorem firstAt_of_position? {vs : List Variable} {id j : ℕ} (h : position? id vs = some j) :
  FirstAt vs j
  := by
  obtain ⟨hj, hid, hbefore⟩ := List.findIdx?_eq_some_iff_getElem.mp h
  use hj
  intro i hi heq
  rw [beq_iff_eq] at hid
  apply hbefore i hi
  rw [heq, hid, beq_self_eq_true]

/-- To leave out one key keeps what is found under the other ones. -/
theorem lookup_filter_ne {β : Type} (entries : List (ℕ × β)) {key id : ℕ} (h : id ≠ key) :
  (entries.filter fun entry => entry.1 != key).lookup id = entries.lookup id
  := by
  induction entries with
  | nil => rfl
  | cons entry entries ih =>
      obtain ⟨l, b⟩ := entry
      by_cases hl : l = key
      · have hid : (id == l) = false := by simpa [hl] using h
        rw [List.filter_cons_of_neg (by simpa using hl), ih, List.lookup_cons, hid]
      · rw [List.filter_cons_of_pos (by simpa using hl), List.lookup_cons, List.lookup_cons, ih]

/-- Whether a variable is the first of a list that another list lacks. -/
def FirstMissing (source target : List Variable) (v : Variable) : Prop :=
  ∃ before after, source = before ++ v :: after ∧ Lists target before ∧ ∀ w ∈ target, w.id ≠ v.id

/-- The check passes exactly if the target has all variables. -/
theorem requireAll_eq_ok_iff {source target : List Variable} :
  requireAll source target = .ok () ↔ Lists target source
  := by
  have hfind : (source.find? fun v => (position? v.id target).isNone) = none
      ↔ Lists target source := by
    simp [List.find?_eq_none, position?_eq_none_iff, Lists]
  rw [← hfind, requireAll]
  cases source.find? fun v => (position? v.id target).isNone with
  | none => simp
  | some v => simp

/-- The first variable that is missing is reported. -/
theorem requireAll_eq_error_iff {source target : List Variable} {e : Error} :
  requireAll source target = .error e
    ↔ ∃ v, FirstMissing source target v ∧ e = .variableNotFound v.id .targetVector
  := by
  have hfind : ∀ v, (source.find? fun v => (position? v.id target).isNone) = some v
      ↔ FirstMissing source target v := by
    intro v
    rw [List.find?_eq_some_iff_append, Option.isNone_iff_eq_none, position?_eq_none_iff]
    constructor
    · rintro ⟨hmissing, before, after, h, hbefore⟩
      use before, after, h
      exact ⟨by simpa [isSome_position?_iff, Lists] using hbefore, hmissing⟩
    · rintro ⟨before, after, h, hbefore, hmissing⟩
      use hmissing, before, after, h
      simpa [isSome_position?_iff, Lists] using hbefore
  simp only [← hfind, requireAll]
  cases source.find? fun v => (position? v.id target).isNone with
  | none => simp
  | some v => simp [eq_comm]

/-- Some variable is missing exactly if some list of variables is refused. -/
theorem exists_missing_iff {source target : List Variable} :
  (∃ v ∈ source, ∀ w ∈ target, w.id ≠ v.id)
    ↔ ∃ e : Error, ∃ v, FirstMissing source target v ∧ e = .variableNotFound v.id .targetVector
  := by
  simp only [← requireAll_eq_error_iff]
  constructor
  · rintro ⟨v, hv, hmissing⟩
    rcases hall : requireAll source target with e | ⟨⟩
    · use e
    · obtain ⟨w, hw, hwv⟩ := requireAll_eq_ok_iff.mp hall v hv
      exact absurd hwv (hmissing w hw)
  · rintro ⟨e, he⟩
    obtain ⟨v, ⟨before, after, rfl, -, hmissing⟩, -⟩ := requireAll_eq_error_iff.mp he
    use v, List.mem_append_right before List.mem_cons_self

theorem requireAll_bind_eq_ok_iff {β : Type} {source target : List Variable} {b c : β} :
  (requireAll source target >>= fun () => .ok b) = .ok c ↔ Lists target source ∧ b = c
  := by
  rw [← requireAll_eq_ok_iff]
  cases requireAll source target with
  | error e => simp
  | ok => simp

/-- The check fails exactly for the first variable that the target lacks. -/
theorem requireAll_bind_eq_error_iff {β : Type} {source target : List Variable} {b : β}
    {e : Error} :
  (requireAll source target >>= fun () => .ok b) = .error e
    ↔ ∃ v, FirstMissing source target v ∧ e = .variableNotFound v.id .targetVector
  := by
  rw [← requireAll_eq_error_iff]
  cases requireAll source target with
  | error e => simp
  | ok => simp

/-- One where the item at a position is moved to a place, zero elsewhere. -/
def incidence (ps : List (Option ℕ)) (a j : ℕ) : ℚ :=
  if ps[a]? = some (some j) then 1 else 0

theorem incidence_of_length_le {ps : List (Option ℕ)} {a : ℕ} (h : ps.length ≤ a) (j : ℕ) :
  incidence ps a j = 0
  := by
  rw [incidence, List.getElem?_eq_none h, if_neg]
  simp

/-- Nothing is moved beyond the list that the places are in. -/
theorem incidence_of_target_le (source : List Variable) {target : List Variable} (a : ℕ) {j : ℕ}
    (h : target.length ≤ j) :
  incidence (places source target) a j = 0
  := by
  rw [incidence, places, List.getElem?_map, if_neg]
  intro hj
  obtain ⟨v, -, hv⟩ := Option.map_eq_some_iff.mp hj
  obtain ⟨hlt, -⟩ := List.findIdx?_eq_some_iff_getElem.mp hv
  omega

/-- Nothing is gathered at a place to which nothing goes. -/
theorem gather_eq_nil {β : Type} {ps : List (Option ℕ)} {j : ℕ} (h : some j ∉ ps) (xs : List β) :
  gather ps xs j = []
  := by
  apply List.filterMap_eq_nil_iff.mpr
  rintro ⟨p, x⟩ hx
  apply if_neg
  rintro rfl
  apply h (List.of_mem_zip hx).1

/-- A sum over the items gathered at a place is a sum over all positions. -/
theorem sum_map_gather {β : Type} (g : β → ℚ) (ps : List (Option ℕ)) (xs : List β) (j : ℕ) :
  ((gather ps xs j).map g).sum
    = ∑ a ∈ Finset.range ps.length, incidence ps a j * (xs[a]?.map g).getD 0
  := by
  induction ps generalizing xs with
  | nil => simp [gather]
  | cons p ps ih =>
      rw [List.length_cons, Finset.sum_range_succ']
      cases xs with
      | nil => simp [gather]
      | cons x xs =>
          have hshift : ∑ a ∈ Finset.range ps.length,
                incidence (p :: ps) (a + 1) j * ((x :: xs)[a + 1]?.map g).getD 0
              = ((gather ps xs j).map g).sum := by
            rw [ih]
            rfl
          rw [hshift, add_comm]
          by_cases hp : p = some j
          · simp [gather, incidence, hp]
          · simp [gather, incidence, hp]

/-- What is gathered at a place is the sum of the items that go there. -/
theorem total_gather (ps : List (Option ℕ)) (xs : List ℚ) (j : ℕ) :
  total (gather ps xs j) = ∑ a ∈ Finset.range ps.length, incidence ps a j * xs.getD a 0
  := by
  have h := sum_map_gather id ps xs j
  rw [List.map_id] at h
  rw [total_eq_sum, h]
  apply Finset.sum_congr rfl
  intro a _
  rw [Option.map_id, id, List.getD_eq_getElem?_getD]

@[simp]
theorem length_places (source target : List Variable) :
  (places source target).length = source.length
  := List.length_map _

/-- An item takes the value of the place that it is moved to. -/
theorem sum_incidence_of_getElem? {ps : List (Option ℕ)} {a k n : ℕ} (h : ps[a]? = some (some k))
    (hk : k < n) (y : ℕ → ℚ) :
  ∑ j ∈ Finset.range n, incidence ps a j * y j = y k
  := by
  rw [Finset.sum_eq_single k]
  · rw [incidence, if_pos h, one_mul]
  · intro j _ hj
    rw [incidence, h, if_neg, zero_mul]
    simp [hj.symm]
  · intro hk'
    exact absurd (Finset.mem_range.mpr hk) hk'

/-- Beyond the last item nothing goes anywhere. -/
theorem sum_incidence_of_length_le {ps : List (Option ℕ)} {a : ℕ} (h : ps.length ≤ a) (n : ℕ)
    (y : ℕ → ℚ) :
  ∑ j ∈ Finset.range n, incidence ps a j * y j = 0
  := by
  apply Finset.sum_eq_zero
  intro j _
  rw [incidence_of_length_le h, zero_mul]

/-- Each variable takes the value that its place has. -/
theorem sum_incidence {source target : List Variable} (h : Lists target source) (x : ℕ → ℚ)
    (a : ℕ) :
  ∑ j ∈ Finset.range target.length,
      incidence (places source target) a j * (valuesAt x target).getD j 0
    = (valuesAt x source).getD a 0
  := by
  rcases lt_or_ge a source.length with ha | ha
  · obtain ⟨j, hj, hpos, hid⟩ := position?_eq_some (h (source[a]) (List.getElem_mem ha))
    have hplace : (places source target)[a]? = some (some j) := by
      rw [places, List.getElem?_map, List.getElem?_eq_getElem ha, Option.map_some, hpos]
    rw [sum_incidence_of_getElem? hplace hj, getD_valuesAt x hj, getD_valuesAt x ha, hid]
  · rw [List.getD_eq_default _ _ (by rw [length_valuesAt]; apply ha)]
    apply sum_incidence_of_length_le
    rw [length_places]
    apply ha

end QuadraticProgram.Alignment
