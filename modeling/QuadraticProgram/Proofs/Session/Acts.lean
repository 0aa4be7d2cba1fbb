import Mathlib.Data.Nat.Notation
import QuadraticProgram.Session.State

/-!
# What acts leave

What an act gives and which state it leaves is described by two properties (`Act.Ends`), one of a
result and one of a fault, since changes before a fault remain. An act is quiet if in either case
it changes nothing but the next free tag (`Act.IsQuiet`).
-/

namespace QuadraticProgram.Session

variable {β γ δ ε : Type}

/-- Two states that differ in the next free tag at most. -/
structure State.Agrees (s t : State) : Prop where
  registers_eq : t.registers = s.registers
  problems_eq : t.problems = s.problems
  attributes_eq : t.attributes = s.attributes
  notes_eq : t.notes = s.notes

@[refl]
theorem State.Agrees.refl (s : State) :
  s.Agrees s
  := ⟨rfl, rfl, rfl, rfl⟩

theorem State.agrees_nextTag (s : State) (n : ℕ) :
  s.Agrees { s with nextTag := n }
  := ⟨rfl, rfl, rfl, rfl⟩

theorem State.Agrees.trans {s t u : State} (h : s.Agrees t) (h' : t.Agrees u) :
  s.Agrees u
  := by
  constructor
  · rw [h'.registers_eq, h.registers_eq]
  · rw [h'.problems_eq, h.problems_eq]
  · rw [h'.attributes_eq, h.attributes_eq]
  · rw [h'.notes_eq, h.notes_eq]

/-- A record is still found if only the next free tag has changed. -/
theorem State.Agrees.lookup {s t : State} {tag : ℕ} {r : Record} (h : s.Agrees t)
    (hs : s.problems.lookup tag = some r) :
  t.problems.lookup tag = some r
  := by
  rw [h.problems_eq, hs]

namespace Act

/-- The outcome of an act at a state, beside the state that it leaves. -/
def after (act : Act β) (s : State) : Except Fault β × State := act.run s

/-- What holds at the end of an act: one property of its result and the state, another one of
its fault and the state. -/
def Ends (act : Act β) (s : State) (P : β → State → Prop) (Q : Fault → State → Prop) : Prop :=
  match act.after s with
  | (.ok b, t) => P b t
  | (.error f, t) => Q f t

/-! ### Steps -/

variable {P : β → State → Prop} {Q : Fault → State → Prop} {s t : State}

/-- A result ends where it starts. -/
@[simp]
theorem ends_pure (b : β) :
  (pure b : Act β).Ends s P Q ↔ P b s
  := Iff.rfl

/-- A fault ends where it is thrown. -/
@[simp]
theorem ends_throw (f : Fault) :
  (throw f : Act β).Ends s P Q ↔ Q f s
  := Iff.rfl

/-- The second of two acts starts from the state that the first one leaves, and is left out if that
is refused. -/
theorem after_bind (act : Act β) (next : β → Act γ) (s : State) :
  (act >>= next).after s =
    match act.after s with
    | (.ok b, t) => (next b).after t
    | (.error f, t) => (.error f, t)
  := by
  change ExceptT.bindCont next (act.after s).1 (act.after s).2 = _
  rcases act.after s with ⟨f | b, t⟩
  · rfl
  · rfl

/-- What holds at the end is read off the outcome. -/
theorem ends_of_after {act : Act β} {b : β} (h : act.after s = (.ok b, t)) :
  act.Ends s P Q ↔ P b t
  := by
  rw [Ends, h]

theorem ends_of_after_error {act : Act β} {f : Fault} (h : act.after s = (.error f, t)) :
  act.Ends s P Q ↔ Q f t
  := by
  rw [Ends, h]

/-- An act whose outcome is known is left out of a sequence. -/
theorem after_bind_of_after {act : Act β} {next : β → Act γ} {b : β}
    (h : act.after s = (.ok b, t)) :
  (act >>= next).after s = (next b).after t
  := by
  rw [after_bind, h]

theorem after_get (s : State) :
  (get : Act State).after s = (.ok s, s)
  := rfl

/-- What holds after two acts is what the first one leaves for the second one to bring about. -/
@[simp]
theorem ends_bind {act : Act β} {next : β → Act γ} {P : γ → State → Prop} :
  (act >>= next).Ends s P Q ↔ act.Ends s (fun b t => (next b).Ends t P Q) Q
  := by
  rw [Ends, Ends, after_bind]
  rcases act.after s with ⟨f | b, t⟩
  · rfl
  · rfl

/-- What holds at the end of an act may be weakened. -/
theorem Ends.mono {act : Act β} {P' : β → State → Prop} {Q' : Fault → State → Prop}
    (h : act.Ends s P Q) (hP : ∀ b t, P b t → P' b t) (hQ : ∀ f t, Q f t → Q' f t) :
  act.Ends s P' Q'
  := by
  rw [Ends] at h ⊢
  rcases hact : act.after s with ⟨f | b, t⟩
  · rw [hact] at h
    apply hQ _ _ h
  · rw [hact] at h
    apply hP _ _ h

/-- What holds of a result may be weakened. -/
theorem Ends.imp {act : Act β} {P' : β → State → Prop} (h : act.Ends s P Q)
    (hP : ∀ b t, P b t → P' b t) :
  act.Ends s P' Q
  := h.mono hP fun _ _ hQ => hQ

/-- An act that is never refused. -/
theorem Ends.of_total {act : Act β} {P' : β → State → Prop} (h : act.Ends s P fun _ _ => False)
    (hP : ∀ b t, P b t → P' b t) :
  act.Ends s P' Q
  := h.mono hP fun _ _ hQ => hQ.elim

/-- What holds of the state whether an act gives a result or not. -/
theorem Ends.state {act : Act β} (h : act.Ends s P Q) {R : State → Prop}
    (hP : ∀ b t, P b t → R t) (hQ : ∀ f t, Q f t → R t) :
  R (act.after s).2
  := by
  rw [Ends] at h
  rcases hact : act.after s with ⟨f | b, t⟩
  · rw [hact] at h
    apply hQ f t h
  · rw [hact] at h
    apply hP b t h

/-- An outcome of the library is a result, or a fault that tells its error. -/
theorem ends_ofExcept {e : Except Error β} :
  (ofExcept e).Ends s P Q ↔
    (∀ b, e = .ok b → P b s) ∧ ∀ error, e = .error error → Q (.ofError error) s
  := by
  cases e with
  | ok b => simp [ofExcept]
  | error error => simp [ofExcept]

@[simp]
theorem after_ofResult_ok (b : β) (s : State) :
  (ofResult (.ok b)).after s = (.ok b, s)
  := rfl

/-- An outcome is a result or a fault, and changes nothing. -/
theorem ends_ofResult {e : Except Fault β} :
  (ofResult e).Ends s P Q ↔ (∀ b, e = .ok b → P b s) ∧ ∀ f, e = .error f → Q f s
  := by
  cases e with
  | ok b => simp [ofResult]
  | error f => simp [ofResult]

/-- Several tags are taken from the next free one on. -/
@[simp]
theorem ends_freshMany {n : ℕ} {P : ℕ → State → Prop} :
  (freshMany n).Ends s P Q ↔ P s.nextTag { s with nextTag := s.nextTag + n }
  := Iff.rfl

@[simp]
theorem ends_fresh {P : ℕ → State → Prop} :
  fresh.Ends s P Q ↔ P s.nextTag { s with nextTag := s.nextTag + 1 }
  := Iff.rfl

/-! ### Quiet acts -/

/-- An act that changes nothing but the next free tag, whether it gives a result or not. -/
def IsQuiet (act : Act β) : Prop := ∀ s : State, s.Agrees (act.after s).2

/-- A quiet act leaves a state that agrees, whatever its outcome is. -/
theorem IsQuiet.ends {act : Act β} (h : act.IsQuiet) (s : State) :
  act.Ends s (fun _ t => s.Agrees t) (fun _ t => s.Agrees t)
  := by
  have hs := h s
  rw [Ends]
  rcases hact : act.after s with ⟨f | b, t⟩
  all_goals
    rw [hact] at hs
    apply hs

/-- After a quiet beginning a quiet refusal is quiet from the start. -/
theorem Ends.of_agrees {act : Act β} (hs : s.Agrees t)
    (h : act.Ends t P fun _ u => t.Agrees u) :
  act.Ends t P fun _ u => s.Agrees u
  := h.mono (fun _ _ hP => hP) fun _ _ hu => hs.trans hu

/-- If a quiet act or one after it is refused, the state is still that of the beginning. -/
theorem IsQuiet.ends_bind {act : Act β} (h : act.IsQuiet) {next : β → Act γ}
    {P : γ → State → Prop}
    (hnext : ∀ b t, s.Agrees t → (next b).Ends t P fun _ u => t.Agrees u) :
  (act >>= next).Ends s P fun _ t => s.Agrees t
  := by
  rw [Act.ends_bind]
  apply (h.ends s).mono
  · intro b t ht
    apply (hnext b t ht).of_agrees ht
  · intro f t ht
    apply ht

@[simp]
theorem isQuiet_pure (b : β) :
  (pure b : Act β).IsQuiet
  := State.Agrees.refl

@[simp]
theorem isQuiet_throw (f : Fault) :
  (throw f : Act β).IsQuiet
  := State.Agrees.refl

/-- Two quiet acts are quiet one after the other. -/
theorem IsQuiet.bind {act : Act β} {next : β → Act γ} (h : act.IsQuiet)
    (h' : ∀ b, (next b).IsQuiet) :
  (act >>= next).IsQuiet
  := by
  intro s
  have hs := h s
  rw [after_bind]
  rcases hact : act.after s with ⟨f | b, t⟩
  · rw [hact] at hs
    apply hs
  · rw [hact] at hs
    apply hs.trans (h' b t)

/-- A result that is made of what a quiet act gives. -/
theorem IsQuiet.map {act : Act β} (h : act.IsQuiet) (f : β → γ) :
  (act >>= fun b => pure (f b)).IsQuiet
  := h.bind fun b => isQuiet_pure (f b)

/-- A result that is made of what two quiet acts give, one after the other. -/
theorem IsQuiet.map₂ {act : Act β} {other : Act γ} (h : act.IsQuiet) (h' : other.IsQuiet)
    (f : β → γ → δ) :
  (act >>= fun b => other >>= fun c => pure (f b c)).IsQuiet
  := h.bind fun b => h'.map (f b)

/-- A result that is made of what three quiet acts give, one after the other. -/
theorem IsQuiet.map₃ {act : Act β} {other : Act γ} {third : Act δ} (h : act.IsQuiet)
    (h' : other.IsQuiet) (h'' : third.IsQuiet) (f : β → γ → δ → ε) :
  (act >>= fun b => other >>= fun c => third >>= fun d => pure (f b c d)).IsQuiet
  := h.bind fun b => h'.map₂ h'' (f b)

/-- An act is quiet if it is in either case. -/
@[simp]
theorem isQuiet_ite {c : Prop} [Decidable c] {act other : Act β} (h : act.IsQuiet)
    (h' : other.IsQuiet) :
  (if c then act else other).IsQuiet
  := by
  split
  · apply h
  · apply h'

@[simp]
theorem isQuiet_ofExcept (e : Except Error β) :
  (ofExcept e).IsQuiet
  := by
  cases e with
  | ok b => apply isQuiet_pure
  | error e => apply isQuiet_throw

@[simp]
theorem isQuiet_ofResult (e : Except Fault β) :
  (ofResult e).IsQuiet
  := by
  cases e with
  | ok b => apply isQuiet_pure
  | error e => apply isQuiet_throw

@[simp]
theorem isQuiet_freshMany (n : ℕ) :
  (freshMany n).IsQuiet
  := fun s => s.agrees_nextTag _

@[simp]
theorem isQuiet_fresh : fresh.IsQuiet := isQuiet_freshMany 1

@[simp]
theorem isQuiet_attribute? (tag : ℕ) (name : String) :
  (attribute? tag name).IsQuiet
  := State.Agrees.refl

/-- A record is only looked up. -/
@[simp]
theorem isQuiet_record (tag : ℕ) :
  (record tag).IsQuiet
  := by
  intro s
  rw [record, after_bind_of_after (after_get s)]
  cases s.problems.lookup tag with
  | some r => apply State.Agrees.refl
  | none => apply State.Agrees.refl

/-- A traversal by quiet acts is quiet. -/
theorem isQuiet_mapM {f : β → Act γ} (h : ∀ b, (f b).IsQuiet) (bs : List β) :
  (bs.mapM f).IsQuiet
  := by
  induction bs with
  | nil => apply isQuiet_pure
  | cons b bs ih =>
      rw [List.mapM_cons]
      apply (h b).bind
      intro c
      apply ih.bind
      intro cs
      apply isQuiet_pure

/-- A traversal by quiet acts without results is quiet. -/
theorem isQuiet_forM {f : β → Act Unit} (h : ∀ b, (f b).IsQuiet) (bs : List β) :
  (bs.forM f).IsQuiet
  := by
  induction bs with
  | nil => apply isQuiet_pure
  | cons b bs ih => apply (h b).bind fun _ => ih

/-- An expression as a value needs one tag, if it is not a variable. -/
@[simp]
theorem isQuiet_expression (e : Expression Float) :
  (expression e).IsQuiet
  := by
  rw [expression.eq_def]
  split
  · apply isQuiet_pure
  · apply isQuiet_fresh.bind
    intro tag
    apply isQuiet_pure

/-- An expression that may be refused changes nothing but the next free tag. -/
@[simp]
theorem isQuiet_expression? (e : Except Error (Expression Float)) :
  (expression? e).IsQuiet
  := by
  apply (isQuiet_ofExcept e).bind
  apply isQuiet_expression

end Act

end QuadraticProgram.Session
