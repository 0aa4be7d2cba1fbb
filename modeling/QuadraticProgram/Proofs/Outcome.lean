import Mathlib.Data.List.Forall2

/-!
# Outcomes

How an operation that may be refused is carried on after another one, and what it takes for a
traversal of a list to be refused nowhere.
-/

namespace QuadraticProgram.Outcome

variable {ε β γ δ : Type}

@[simp]
theorem ok_bind (b : β) (f : β → Except ε γ) :
  (Except.ok b >>= f) = f b
  := rfl

@[simp]
theorem error_bind (e : ε) (f : β → Except ε γ) :
  (Except.error e >>= f) = .error e
  := rfl

@[simp]
theorem pure_eq_ok (b : β) :
  (pure b : Except ε β) = .ok b
  := rfl

@[simp]
theorem map_ok (f : β → γ) (b : β) :
  (Except.ok b : Except ε β).map f = .ok (f b)
  := rfl

/-- An operation after another one gives a result when both do. -/
theorem bind_eq_ok_iff {x : Except ε β} {f : β → Except ε γ} {c : γ} :
  (x >>= f) = .ok c ↔ ∃ b, x = .ok b ∧ f b = .ok c
  := by
  cases x with
  | error e => simp
  | ok b => simp

/-- A result that was changed comes from a result. -/
theorem map_eq_ok_iff {x : Except ε β} {f : β → γ} {c : γ} :
  x.map f = .ok c ↔ ∃ b, x = .ok b ∧ f b = c
  := by
  cases x with
  | error e => simp [Except.map]
  | ok b => simp

/-- To change a result keeps the errors. -/
theorem map_eq_error_iff {x : Except ε β} {f : β → γ} {e : ε} :
  x.map f = .error e ↔ x = .error e
  := by
  cases x with
  | error e => simp [Except.map]
  | ok b => simp

theorem eq_ok_of_toOption {x : Except ε β} {b : β} (h : x.toOption = some b) :
  x = .ok b
  := by
  cases x with
  | error e => cases h
  | ok c =>
      cases h
      rfl

/-- A traversal each step of which gives a known result. -/
theorem mapM_eq_ok {f : β → Except ε γ} {g : β → γ} {xs : List β}
    (h : ∀ x ∈ xs, f x = .ok (g x)) :
  xs.mapM f = .ok (xs.map g)
  := by
  induction xs with
  | nil => rfl
  | cons x xs ih =>
      rw [List.mapM_cons, h x List.mem_cons_self, ih fun y hy => h y (List.mem_cons_of_mem _ hy)]
      rfl

/-- A traversal each step of which gives a result of some kind. -/
theorem exists_mapM {f : β → Except ε γ} {P : β → γ → Prop} {xs : List β}
    (h : ∀ x ∈ xs, ∃ y, f x = .ok y ∧ P x y) :
  ∃ ys, xs.mapM f = .ok ys ∧ List.Forall₂ P xs ys
  := by
  induction xs with
  | nil => use [], rfl, .nil
  | cons x xs ih =>
      obtain ⟨y, hy, hxy⟩ := h x List.mem_cons_self
      obtain ⟨ys, hys, hxys⟩ := ih fun z hz => h z (List.mem_cons_of_mem _ hz)
      use y :: ys
      constructor
      · rw [List.mapM_cons, hy, ok_bind, hys]
        rfl
      · apply List.Forall₂.cons hxy hxys

/-- The results of a traversal are those of its steps. -/
theorem forall₂_of_mapM {f : β → Except ε γ} {xs : List β} {ys : List γ}
    (h : xs.mapM f = .ok ys) :
  List.Forall₂ (fun x y => f x = .ok y) xs ys
  := by
  induction xs generalizing ys with
  | nil =>
      cases h
      apply List.Forall₂.nil
  | cons x xs ih =>
      rw [List.mapM_cons] at h
      obtain ⟨y, hy, h⟩ := bind_eq_ok_iff.mp h
      obtain ⟨zs, hzs, h⟩ := bind_eq_ok_iff.mp h
      cases h
      exact List.Forall₂.cons hy (ih hzs)

/-- A traversal whose steps give what those of another one give, changed. -/
theorem mapM_of_mapM {f : β → Except ε γ} {g : β → Except ε δ} {k : γ → δ} {xs : List β}
    {ys : List γ} (h : xs.mapM f = .ok ys) (hfg : ∀ x y, f x = .ok y → g x = .ok (k y)) :
  xs.mapM g = .ok (ys.map k)
  := by
  have hsteps := forall₂_of_mapM h
  clear h
  induction hsteps with
  | nil => rfl
  | cons hx _ ih =>
      rw [List.mapM_cons, hfg _ _ hx, ih]
      rfl

/-- The results of a traversal are those that its steps give. -/
theorem mem_mapM_iff {f : β → Except ε γ} {xs : List β} {ys : List γ} (h : xs.mapM f = .ok ys)
    {y : γ} :
  y ∈ ys ↔ ∃ x ∈ xs, f x = .ok y
  := by
  have hsteps := forall₂_of_mapM h
  clear h
  induction hsteps with
  | nil => simp
  | cons hx _ ih => simp [hx, ih, eq_comm]

/-- An item of a list is related to some item of a list that is related to it. -/
theorem exists_mem_of_forall₂ {P : β → γ → Prop} {xs : List β} {ys : List γ}
    (h : List.Forall₂ P xs ys) {x : β} (hx : x ∈ xs) :
  ∃ y ∈ ys, P x y
  := by
  induction h with
  | nil => cases hx
  | cons hxy _ ih =>
      rcases List.mem_cons.mp hx with rfl | hx
      · exact ⟨_, List.mem_cons_self, hxy⟩
      · obtain ⟨y, hy, hxy⟩ := ih hx
        exact ⟨y, List.mem_cons_of_mem _ hy, hxy⟩

/-- A step of a traversal that gives results gives one itself. -/
theorem exists_of_mapM {f : β → Except ε γ} {xs : List β} {ys : List γ} (h : xs.mapM f = .ok ys)
    {x : β} (hx : x ∈ xs) :
  ∃ y, f x = .ok y
  := by
  obtain ⟨y, -, hy⟩ := exists_mem_of_forall₂ (forall₂_of_mapM h) hx
  use y

/-- A traversal gives a result for each item. -/
theorem length_of_mapM {f : β → Except ε γ} {xs : List β} {ys : List γ}
    (h : xs.mapM f = .ok ys) :
  ys.length = xs.length
  := (forall₂_of_mapM h).length_eq.symm

/-- The result of a traversal at a position is that of its step there. -/
theorem exists_getElem?_of_mapM {f : β → Except ε γ} {xs : List β} {ys : List γ}
    (h : xs.mapM f = .ok ys) {k : Nat} {x : β} (hx : xs[k]? = some x) :
  ∃ y, ys[k]? = some y ∧ f x = .ok y
  := by
  obtain ⟨hk, rfl⟩ := List.getElem?_eq_some_iff.mp hx
  have hk' : k < ys.length := by
    rwa [length_of_mapM h]
  exact ⟨ys[k], List.getElem?_eq_getElem hk', (forall₂_of_mapM h).get hk hk'⟩

/-- A traversal gives results exactly if all its steps do. -/
theorem exists_mapM_iff {f : β → Except ε γ} {xs : List β} :
  (∃ ys, xs.mapM f = .ok ys) ↔ ∀ x ∈ xs, ∃ y, f x = .ok y
  := by
  constructor
  · rintro ⟨ys, hys⟩ x hx
    apply exists_of_mapM hys hx
  · intro h
    obtain ⟨ys, hys, -⟩ := exists_mapM (P := fun _ _ => True) fun x hx =>
      (h x hx).imp fun _ hy => ⟨hy, trivial⟩
    exact ⟨ys, hys⟩

/-- A traversal is refused by one of its steps. -/
theorem exists_of_mapM_eq_error {f : β → Except ε γ} {xs : List β} {e : ε}
    (h : xs.mapM f = .error e) :
  ∃ x ∈ xs, f x = .error e
  := by
  induction xs with
  | nil => cases h
  | cons x xs ih =>
      rw [List.mapM_cons] at h
      rcases hx : f x with d | y
      · rw [hx] at h
        cases h
        use x, List.mem_cons_self
      · rw [hx, ok_bind] at h
        rcases hxs : xs.mapM f with d | ys
        · rw [hxs] at h
          cases h
          obtain ⟨z, hz, hfz⟩ := ih hxs
          use z, List.mem_cons_of_mem x hz
        · rw [hxs] at h
          cases h

/-- Lists that are both related to a third one, item by item. -/
theorem forall₂_of_forall₂ {P : β → γ → Prop} {Q : β → δ → Prop} {R : γ → δ → Prop}
    {xs : List β} {ys : List γ} {zs : List δ} (h : List.Forall₂ P xs ys)
    (h' : List.Forall₂ Q xs zs) (hR : ∀ x y z, P x y → Q x z → R y z) :
  List.Forall₂ R ys zs
  := by
  induction h generalizing zs with
  | nil =>
      cases h'
      exact .nil
  | cons hxy _ ih =>
      cases h' with
      | cons hxz hzs => exact .cons (hR _ _ _ hxy hxz) (ih hzs)

/-- What is said of all items of a list in terms of the items of a list that is related to it. -/
theorem forall_mem_iff_of_forall₂ {P : β → γ → Prop} {Q : γ → Prop} {R : β → Prop} {xs : List β}
    {ys : List γ} (h : List.Forall₂ P xs ys) (hP : ∀ x y, P x y → (Q y ↔ R x)) :
  (∀ y ∈ ys, Q y) ↔ ∀ x ∈ xs, R x
  := by
  induction h with
  | nil => simp
  | cons hxy _ ih => rw [List.forall_mem_cons, List.forall_mem_cons, ih, hP _ _ hxy]

/-- What is said of some item of a list in terms of the items of a list that is related to it. -/
theorem exists_mem_iff_of_forall₂ {P : β → γ → Prop} {Q : γ → Prop} {R : β → Prop} {xs : List β}
    {ys : List γ} (h : List.Forall₂ P xs ys) (hP : ∀ x y, P x y → (Q y ↔ R x)) :
  (∃ y ∈ ys, Q y) ↔ ∃ x ∈ xs, R x
  := by
  induction h with
  | nil => simp
  | cons hxy _ ih => rw [List.exists_mem_cons_iff, List.exists_mem_cons_iff, ih, hP _ _ hxy]

/-- What follows for all items of a list from what is said of all items of a list that is related
to it. -/
theorem forall_mem_of_forall₂ {P : β → γ → Prop} {Q : γ → Prop} {R : β → Prop} {xs : List β}
    {ys : List γ} (h : List.Forall₂ P xs ys) (hP : ∀ x y, P x y → R x → Q y) (hR : ∀ x ∈ xs, R x) :
  ∀ y ∈ ys, Q y
  := by
  induction h with
  | nil => simp
  | cons hxy _ ih =>
      rw [List.forall_mem_cons] at hR ⊢
      use hP _ _ hxy hR.1, ih hR.2

/-- A traversal is refused nowhere when no step is. -/
theorem forM_eq_ok_iff {f : β → Except ε Unit} {xs : List β} :
  xs.forM f = .ok () ↔ ∀ x ∈ xs, f x = .ok ()
  := by
  induction xs with
  | nil => simp [List.forM]
  | cons x xs ih =>
      rw [List.forall_mem_cons, ← ih]
      constructor
      · intro h
        obtain ⟨⟨⟩, hx, hxs⟩ := bind_eq_ok_iff.mp h
        use hx, hxs
      · rintro ⟨hx, hxs⟩
        apply bind_eq_ok_iff.mpr
        use (), hx, hxs

/-- Searches that decide alike item by item have the same answer. -/
theorem anyM_congr {f : β → Except ε Bool} {g : γ → Except ε Bool} {xs : List β} {ys : List γ}
    (h : List.Forall₂ (fun x y => f x = g y) xs ys) :
  xs.anyM f = ys.anyM g
  := by
  induction h with
  | nil => rfl
  | cons hxy _ ih => rw [List.anyM, List.anyM, hxy, ih]

/-- Tests that decide alike item by item have the same answer. -/
theorem allM_congr {f : β → Except ε Bool} {g : γ → Except ε Bool} {xs : List β} {ys : List γ}
    (h : List.Forall₂ (fun x y => f x = g y) xs ys) :
  xs.allM f = ys.allM g
  := by
  induction h with
  | nil => rfl
  | cons hxy _ ih => rw [List.allM, List.allM, hxy, ih]

theorem anyM_singleton (f : β → Except ε Bool) (x : β) :
  [x].anyM f = f x
  := by
  rw [List.anyM]
  rcases f x with e | b
  · rfl
  · cases b <;> rfl

theorem allM_singleton (f : β → Except ε Bool) (x : β) :
  [x].allM f = f x
  := by
  rw [List.allM]
  rcases f x with e | b
  · rfl
  · cases b <;> rfl

/-- A search for an item with a property that is decided for each item. -/
theorem exists_anyM {f : β → Except ε Bool} {xs : List β} (h : ∀ x ∈ xs, ∃ b, f x = .ok b) :
  ∃ b, xs.anyM f = .ok b ∧ (b = true ↔ ∃ x ∈ xs, f x = .ok true)
  := by
  induction xs with
  | nil =>
      use false, rfl
      simp
  | cons x xs ih =>
      obtain ⟨a, ha⟩ := h x List.mem_cons_self
      cases a with
      | true =>
          use true
          constructor
          · rw [List.anyM, ha]
            rfl
          · simp [ha]
      | false =>
          obtain ⟨b, hb, hiff⟩ := ih fun y hy => h y (List.mem_cons_of_mem _ hy)
          use b
          constructor
          · rw [List.anyM, ha, ← hb]
            rfl
          · simp [hiff, ha]

/-- A test whether all items have a property that is decided for each item. -/
theorem exists_allM {f : β → Except ε Bool} {xs : List β} (h : ∀ x ∈ xs, ∃ b, f x = .ok b) :
  ∃ b, xs.allM f = .ok b ∧ (b = true ↔ ∀ x ∈ xs, f x = .ok true)
  := by
  induction xs with
  | nil =>
      use true, rfl
      simp
  | cons x xs ih =>
      obtain ⟨a, ha⟩ := h x List.mem_cons_self
      cases a with
      | false =>
          use false
          constructor
          · rw [List.allM, ha]
            rfl
          · simp [ha]
      | true =>
          obtain ⟨b, hb, hiff⟩ := ih fun y hy => h y (List.mem_cons_of_mem _ hy)
          use b
          constructor
          · rw [List.allM, ha, ← hb]
            rfl
          · simp [hiff, ha]

/-! ### Operations in turn -/

/-- Operations one after the other, up to the first that is refused. -/
def inTurn (rs : List (Except ε Unit)) : Except ε Unit := rs.forM id

/-- The error of the first operation that is refused. -/
def FirstFailure (rs : List (Except ε Unit)) (e : ε) : Prop :=
  ∃ before after, rs = before ++ .error e :: after ∧ ∀ r ∈ before, r = .ok ()

theorem inTurn_cons (r : Except ε Unit) (rs : List (Except ε Unit)) :
  inTurn (r :: rs) = (r >>= fun () => inTurn rs)
  := rfl

/-- The operations of two lists are carried out one list after the other. -/
theorem inTurn_append (rs ts : List (Except ε Unit)) :
  inTurn (rs ++ ts) = (inTurn rs >>= fun () => inTurn ts)
  := by
  induction rs with
  | nil => rfl
  | cons r rs ih =>
      rw [List.cons_append, inTurn_cons, inTurn_cons, ih]
      cases r with
      | error e => rfl
      | ok => rfl

/-- A traversal without results carries out an operation for each item. -/
theorem forM_eq_inTurn (f : β → Except ε Unit) (xs : List β) :
  xs.forM f = inTurn (xs.map f)
  := by
  induction xs with
  | nil => rfl
  | cons x xs ih =>
      rw [List.map_cons, inTurn_cons, ← ih]
      rfl

/-- A traversal of traversals is one through all of their operations. -/
theorem forM_inTurn (f : β → List (Except ε Unit)) (xs : List β) :
  (xs.forM fun x => inTurn (f x)) = inTurn (xs.flatMap f)
  := by
  induction xs with
  | nil => rfl
  | cons x xs ih =>
      rw [List.flatMap_cons, inTurn_append, ← ih]
      rfl

/-- Operations in turn succeed exactly if each of them does. -/
theorem inTurn_eq_ok_iff {rs : List (Except ε Unit)} :
  inTurn rs = .ok () ↔ ∀ r ∈ rs, r = .ok ()
  := forM_eq_ok_iff

/-- Operations in turn fail exactly with the first one that does. -/
theorem inTurn_eq_error_iff {rs : List (Except ε Unit)} {e : ε} :
  inTurn rs = .error e ↔ FirstFailure rs e
  := by
  constructor
  · intro h
    induction rs with
    | nil => cases h
    | cons r rs ih =>
        rw [inTurn_cons] at h
        cases r with
        | error f =>
            cases h
            use [], rs
            simp
        | ok =>
            obtain ⟨before, after, rfl, hbefore⟩ := ih h
            use .ok () :: before, after
            simpa using hbefore
  · rintro ⟨before, after, rfl, hbefore⟩
    rw [inTurn_append, inTurn_eq_ok_iff.mpr hbefore, ok_bind, inTurn_cons, error_bind]

end QuadraticProgram.Outcome
