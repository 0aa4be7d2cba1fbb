import Mathlib.Algebra.Order.Field.Basic
import Mathlib.Algebra.Order.Ring.Rat
import Mathlib.Data.List.Basic
import Mathlib.Tactic.NormNum.Ineq
import QuadraticProgram.Proofs.Outcome
import QuadraticProgram.Proofs.Problem.Reachable
import QuadraticProgram.Solving

/-!
# The calls of a solver

A solver that may refuse any call gets the calls that solve a problem in a fixed order
(`Problem.solverCalls`), up to the first that fails. The ways in which this ends are listed by
`Solver.Ends`. Whatever the end, the solver is let go exactly once, by the last call, and a
failure to let it go is reported in place of an earlier one.
-/

namespace QuadraticProgram

variable {α β γ ρ ε : Type} [Coefficient α]

/-! ### Taking the steps of a plan -/

/-- The call that a step makes, if it makes one. -/
def Action.call? : Action γ ε → Option γ
  | call c => some c
  | note _ => none
  | fail _ => none

/-- The calls of a plan. -/
def plannedCalls (plan : List (Action γ ε)) : List γ := plan.filterMap Action.call?

@[simp]
theorem plannedCalls_nil :
  plannedCalls ([] : List (Action γ ε)) = []
  := rfl

@[simp]
theorem plannedCalls_call (c : γ) (plan : List (Action γ ε)) :
  plannedCalls (.call c :: plan) = c :: plannedCalls plan
  := rfl

@[simp]
theorem plannedCalls_note (n : Note) (plan : List (Action γ ε)) :
  plannedCalls (.note n :: plan) = plannedCalls plan
  := rfl

@[simp]
theorem plannedCalls_fail (e : ε) (plan : List (Action γ ε)) :
  plannedCalls (.fail e :: plan) = plannedCalls plan
  := rfl

/-- The calls of two plans are those of the one and then those of the other. -/
@[simp]
theorem plannedCalls_append (plan rest : List (Action γ ε)) :
  plannedCalls (plan ++ rest) = plannedCalls plan ++ plannedCalls rest
  := List.filterMap_append

/-- A plan in which no step is a failure. -/
def Faultless (plan : List (Action γ ε)) : Prop := ∀ e, Action.fail e ∉ plan

theorem faultless_nil :
  Faultless ([] : List (Action γ ε))
  := fun _ => List.not_mem_nil

/-- Two plans that fail nowhere fail nowhere together. -/
theorem Faultless.append {plan rest : List (Action γ ε)} (hplan : Faultless plan)
    (hrest : Faultless rest) :
  Faultless (plan ++ rest)
  := by
  intro e he
  rcases List.mem_append.mp he with he | he
  · apply hplan e he
  · apply hrest e he

/-- A step that does not fail may stand before a plan that fails nowhere. -/
theorem Faultless.cons {plan : List (Action γ ε)} (h : Faultless plan) {step : Action γ ε}
    (hstep : ∀ e, step ≠ .fail e) :
  Faultless (step :: plan)
  := by
  intro e he
  rcases List.mem_cons.mp he with he | he
  · apply hstep e he.symm
  · apply h e he

namespace Solver

/-- Calls none of which is refused when they are made in turn, after some earlier ones. -/
def Accepts (s : Solver γ ρ ε) : List γ → List γ → Prop
  | _, [] => True
  | earlier, c :: cs => s.answer earlier c = .ok () ∧ s.Accepts (earlier ++ [c]) cs

/-- Calls are accepted if the first ones are, and then the other ones after these. -/
theorem accepts_append (s : Solver γ ρ ε) (earlier cs ds : List γ) :
  s.Accepts earlier (cs ++ ds) ↔ s.Accepts earlier cs ∧ s.Accepts (earlier ++ cs) ds
  := by
  induction cs generalizing earlier with
  | nil => simp [Accepts]
  | cons c cs ih => simp [Accepts, ih, and_assoc]

/-- How the steps of a plan end that are taken after some earlier calls: the calls that are made
and the outcome. -/
inductive Takes (s : Solver γ ρ ε) (earlier : List γ) (plan : List (Action γ ε)) :
    List γ → Except ε Unit → Prop
  /-- Every call is accepted. -/
  | finished (hplan : Faultless plan) (h : s.Accepts earlier (plannedCalls plan)) :
      Takes s earlier plan (plannedCalls plan) (.ok ())
  /-- A call is refused. -/
  | refused (before : List (Action γ ε)) (c : γ) (after : List (Action γ ε)) {e : ε}
      (hplan : plan = before ++ .call c :: after) (hbefore : Faultless before)
      (h : s.Accepts earlier (plannedCalls before))
      (hc : s.answer (earlier ++ plannedCalls before) c = .error e) :
      Takes s earlier plan (plannedCalls before ++ [c]) (.error e)
  /-- A failure that does not come from the solver is met. -/
  | failed (before : List (Action γ ε)) (e : ε) (after : List (Action γ ε))
      (hplan : plan = before ++ .fail e :: after) (hbefore : Faultless before)
      (h : s.Accepts earlier (plannedCalls before)) :
      Takes s earlier plan (plannedCalls before) (.error e)

/-- The calls that are made are the first ones of the plan. -/
theorem Takes.isPrefix {s : Solver γ ρ ε} {earlier made : List γ} {plan : List (Action γ ε)}
    {ending : Except ε Unit} (h : s.Takes earlier plan made ending) :
  made <+: plannedCalls plan
  := by
  cases h with
  | finished hplan h => apply List.prefix_rfl
  | refused before c after hplan hbefore h hc =>
      use plannedCalls after
      simp [hplan]
  | failed before e after hplan hbefore h =>
      use plannedCalls after
      simp [hplan]

/-- A note makes no call. -/
theorem Takes.note {s : Solver γ ρ ε} {earlier made : List γ} {plan : List (Action γ ε)}
    {ending : Except ε Unit} (h : s.Takes earlier plan made ending) (n : Note) :
  s.Takes earlier (.note n :: plan) made ending
  := by
  have hnote : ∀ e, (Action.note n : Action γ ε) ≠ .fail e := nofun
  cases h with
  | finished hplan h => apply Takes.finished (hplan.cons hnote) h
  | refused before c after hplan hbefore h hc =>
      apply Takes.refused (.note n :: before) c after _ (hbefore.cons hnote) h hc
      rw [hplan, List.cons_append]
  | failed before e after hplan hbefore h =>
      apply Takes.failed (.note n :: before) e after _ (hbefore.cons hnote) h
      rw [hplan, List.cons_append]

/-- A call that is accepted is made before the rest of the plan. -/
theorem Takes.call {s : Solver γ ρ ε} {earlier made : List γ} {plan : List (Action γ ε)}
    {ending : Except ε Unit} {c : γ} (hc : s.answer earlier c = .ok ())
    (h : s.Takes (earlier ++ [c]) plan made ending) :
  s.Takes earlier (.call c :: plan) (c :: made) ending
  := by
  have hcall : ∀ e, (Action.call c : Action γ ε) ≠ .fail e := nofun
  cases h with
  | finished hplan h => apply Takes.finished (hplan.cons hcall) ⟨hc, h⟩
  | refused before d after hplan hbefore h hd =>
      apply Takes.refused (.call c :: before) d after _ (hbefore.cons hcall) ⟨hc, h⟩
      · rw [← hd, plannedCalls_call, List.append_assoc, List.singleton_append]
      · rw [hplan, List.cons_append]
  | failed before e after hplan hbefore h =>
      apply Takes.failed (.call c :: before) e after _ (hbefore.cons hcall) ⟨hc, h⟩
      rw [hplan, List.cons_append]

/-- The steps of a plan are taken up to the first that fails. -/
theorem perform_takes (s : Solver γ ρ ε) (earlier : List γ) (notes : List Note)
    (plan : List (Action γ ε)) :
  ∃ made ending, s.Takes earlier plan made ending
    ∧ (s.perform earlier notes plan).calls = earlier ++ made
    ∧ (s.perform earlier notes plan).outcome = ending
  := by
  induction plan generalizing earlier notes with
  | nil =>
      use [], .ok ()
      constructor
      · apply Takes.finished faultless_nil trivial
      · simp [perform]
  | cons step plan ih =>
      cases step with
      | note n =>
          obtain ⟨made, ending, htakes, hcalls, houtcome⟩ := ih earlier (notes ++ [n])
          use made, ending, htakes.note n, hcalls, houtcome
      | fail e =>
          use [], .error e
          constructor
          · apply Takes.failed [] e plan rfl faultless_nil trivial
          · simp [perform]
      | call c =>
          rcases hc : s.answer earlier c with e | ⟨⟩
          · use [c], .error e
            constructor
            · apply Takes.refused [] c plan rfl faultless_nil trivial
              simpa [plannedCalls] using hc
            · simp [perform, hc]
          · obtain ⟨made, ending, htakes, hcalls, houtcome⟩ := ih (earlier ++ [c]) notes
            use c :: made, ending, htakes.call hc
            simp only [perform, hc, hcalls, houtcome, List.append_assoc, List.singleton_append,
              and_self]

/-! ### Letting the solver go -/

/-- The solver is let go after all calls, however they end. -/
theorem release_calls (s : Solver γ ρ ε) (delete : γ) (body : Run γ Unit ε) :
  (s.release delete body).calls = body.calls ++ [delete]
  := by
  rw [release]
  split
  · rfl
  · rfl

/-- A failure to let the solver go replaces the outcome of the run. -/
theorem release_outcome (s : Solver γ ρ ε) (delete : γ) (body : Run γ Unit ε) :
  (s.release delete body).outcome = (s.answer body.calls delete >>= fun () => body.outcome)
  := by
  rw [release]
  split
  case h_1 h => rw [h, Outcome.ok_bind]
  case h_2 e h => rw [h, Outcome.error_bind]

end Solver

/-! ### Limits on the time -/

namespace TimeLimit

/-- The limits that are refused, each with its error. -/
inductive Refused : TimeLimit → Error → Prop
  | negative {d : Duration} (h : d.microseconds < 0) : Refused (atMost d) (.negativeTimeLimit d)
  | unknown (kind : String) : Refused (other kind) (.lacks kind "total_seconds")

/-- The calls that pass a limit on. -/
def calls : TimeLimit → List (Call α β)
  | unlimited => []
  | atMost d => [.setTimeLimit (Rounding.nearest d.totalSeconds)]
  | other _ => []

/-- A span of time is negative in seconds if it is in microseconds. -/
theorem totalSeconds_neg_iff (d : Duration) :
  d.totalSeconds < 0 ↔ d.microseconds < 0
  := by
  rw [Duration.totalSeconds, Rat.mkRat_eq_div, div_lt_iff₀ (by norm_num), zero_mul]
  apply Int.cast_lt_zero

/-- A limit is refused with an error, or there is a plan that passes it on. -/
theorem refused_or_planned (β : Type) (p : Problem α) (refuse : Error → ε) (limit : TimeLimit) :
  let plan : List (Action (Call α β) ε) := p.timeLimitPlan refuse limit
  (∃ e, limit.Refused e ∧ plan = [.fail (refuse e)])
    ∨ (∀ e, ¬ limit.Refused e) ∧ Faultless plan ∧ plannedCalls plan = limit.calls
  := by
  cases limit with
  | unlimited =>
      right
      refine ⟨nofun, faultless_nil, rfl⟩
  | other kind =>
      left
      refine ⟨_, .unknown kind, rfl⟩
  | atMost d =>
      by_cases hd : d.totalSeconds < 0
      · left
        use .negativeTimeLimit d, .negative ((totalSeconds_neg_iff d).mp hd)
        simp [Problem.timeLimitPlan, seconds, hd]
      · right
        constructor
        · rintro e ⟨h⟩
          apply hd ((totalSeconds_neg_iff d).mpr h)
        · simp only [Problem.timeLimitPlan, seconds, hd, if_false]
          use (faultless_nil.cons nofun).cons nofun
          rfl

end TimeLimit

/-! ### Solving a problem -/

namespace Problem

/-- The calls that solve a problem, if none is refused: what is set first, the variables in the
order of their identifiers, the constraints in the order in which they were added, the
objective. -/
def solverCalls (p : Problem α) (params : Parameters β) : List (Call α β) :=
  .showLog params.enableOutput :: params.timeLimit.calls ++ p.vars.map .addVariable ++
    p.constraints.map (fun c => .addConstraint c.value) ++
    p.objective?.toList.map .setObjective ++ [.optimize]

/-- No call of the plan of a problem lets the solver go. -/
theorem delete_notMem_solverCalls (p : Problem α) (params : Parameters β) :
  .delete ∉ p.solverCalls params
  := by
  rcases params with ⟨enableOutput, - | d | kind⟩
  · simp [solverCalls, TimeLimit.calls]
  · simp [solverCalls, TimeLimit.calls]
  · simp [solverCalls, TimeLimit.calls]

/-- To load a problem fails only where the solver refuses. -/
theorem faultless_loadingPlan (p : Problem α) :
  Faultless (p.loadingPlan : List (Action (Call α β) ε))
  := by
  intro e
  simp [loadingPlan]

/-- A problem is loaded by its variables, its constraints and its objective, in this order. -/
theorem plannedCalls_loadingPlan (p : Problem α) :
  plannedCalls (p.loadingPlan : List (Action (Call α β) ε))
    = p.vars.map .addVariable ++ p.constraints.map (fun c => .addConstraint c.value)
      ++ p.objective?.toList.map .setObjective
  := by
  simp [loadingPlan, plannedCalls, List.filterMap_map, Function.comp_def, Action.call?]

end Problem

namespace Solver

/-- The ways in which the calls before the last one end that are made to solve a problem, and
the outcomes if the solver can be let go. -/
inductive Ends (s : Solver (Call α β) ρ ε) (refuse : Error → ε) (p : Problem α)
    (params : Parameters β) : List (Call α β) → Except ε Unit → Prop
  /-- The problem is not well defined. -/
  | problemRefused {e : Error} (hp : p.check = .error e) :
      Ends s refuse p params [] (.error (refuse e))
  /-- The limit on the time is not taken. -/
  | limitRefused {e : Error} (hp : p.check = .ok ()) (hlimit : params.timeLimit.Refused e)
      (hlog : s.answer [] (.showLog params.enableOutput) = .ok ()) :
      Ends s refuse p params [.showLog params.enableOutput] (.error (refuse e))
  /-- A call is refused. -/
  | callRefused (before : List (Call α β)) (c : Call α β) (after : List (Call α β)) {e : ε}
      (hp : p.check = .ok ()) (hlimit : before = [] ∨ ∀ e, ¬ params.timeLimit.Refused e)
      (hcalls : p.solverCalls params = before ++ c :: after) (hbefore : s.Accepts [] before)
      (hc : s.answer before c = .error e) :
      Ends s refuse p params (before ++ [c]) (.error e)
  /-- Nothing is refused. -/
  | finished (hp : p.check = .ok ()) (hlimit : ∀ e, ¬ params.timeLimit.Refused e)
      (h : s.Accepts [] (p.solverCalls params)) :
      Ends s refuse p params (p.solverCalls params) (.ok ())

/-- Wherever a run ends, the calls that were made are the first ones of all. -/
theorem Ends.isPrefix {s : Solver (Call α β) ρ ε} {refuse : Error → ε} {p : Problem α}
    {params : Parameters β} {made : List (Call α β)} {ending : Except ε Unit}
    (h : s.Ends refuse p params made ending) :
  made <+: p.solverCalls params
  := by
  cases h with
  | problemRefused hp => apply List.nil_prefix
  | limitRefused hp hlimit hlog =>
      apply List.cons_prefix_cons.mpr
      constructor
      · rfl
      · apply List.nil_prefix
  | callRefused before c after hp hlimit hcalls hbefore hc =>
      use after
      rw [hcalls, List.append_assoc, List.singleton_append]
  | finished hp hlimit h => apply List.prefix_rfl

/-- Nothing fails exactly if the problem is well defined, the limit is taken and every call is
accepted. -/
theorem Ends.eq_ok_iff {s : Solver (Call α β) ρ ε} {refuse : Error → ε} {p : Problem α}
    {params : Parameters β} {made : List (Call α β)} {ending : Except ε Unit}
    (h : s.Ends refuse p params made ending) :
  ending = .ok () ↔ p.check = .ok () ∧ (∀ e, ¬ params.timeLimit.Refused e)
    ∧ s.Accepts [] (p.solverCalls params)
  := by
  cases h with
  | problemRefused hp => simp [hp]
  | limitRefused hp hlimit hlog =>
      constructor
      · intro h
        cases h
      · rintro ⟨-, h, -⟩
        cases h _ hlimit
  | callRefused before c after hp hlimit hcalls hbefore hc =>
      constructor
      · intro h
        cases h
      · rintro ⟨-, -, h⟩
        rw [hcalls, accepts_append] at h
        obtain ⟨-, hcok, -⟩ := h
        rw [List.nil_append, hc] at hcok
        cases hcok
  | finished hp hlimit h => simp [hp, hlimit, h]

/-- A run that succeeds has made all calls. -/
theorem Ends.eq_solverCalls {s : Solver (Call α β) ρ ε} {refuse : Error → ε} {p : Problem α}
    {params : Parameters β} {made : List (Call α β)}
    (h : s.Ends refuse p params made (.ok ())) :
  made = p.solverCalls params
  := by
  cases h with
  | finished => rfl

/-- The plan of a problem ends in one of the ways that are foreseen. -/
theorem perform_ends (s : Solver (Call α β) ρ ε) (refuse : Error → ε) (p : Problem α)
    (params : Parameters β) :
  s.Ends refuse p params (s.perform [] [] (p.solvePlan refuse params)).calls
    (s.perform [] [] (p.solvePlan refuse params)).outcome
  := by
  rcases hp : p.check with e | ⟨⟩
  · simp only [Problem.solvePlan, hp, perform]
    apply Ends.problemRefused hp
  · rcases TimeLimit.refused_or_planned β p refuse params.timeLimit with
      ⟨e, hlimit, hplan⟩ | ⟨hlimit, hfaultless, hplanned⟩
    · rcases hlog : s.answer [] (.showLog params.enableOutput) with f | ⟨⟩
      · simp only [Problem.solvePlan, hp, List.cons_append, perform, hlog]
        apply Ends.callRefused [] _ _ hp (.inl rfl) rfl trivial hlog
      · simp only [Problem.solvePlan, hp, List.cons_append, perform, hlog, hplan]
        apply Ends.limitRefused hp hlimit hlog
    · have hcalls : plannedCalls (p.solvePlan refuse params) = p.solverCalls params := by
        simpa [Problem.solvePlan, hp, Problem.plannedCalls_loadingPlan, Problem.solverCalls]
          using hplanned
      have hnone : Faultless (p.solvePlan refuse params) := by
        rw [Problem.solvePlan, hp]
        apply Faultless.append
        · apply Faultless.append _ p.faultless_loadingPlan
          apply hfaultless.cons
          nofun
        · apply faultless_nil.cons
          nofun
      obtain ⟨made, ending, htakes, hmade, hending⟩ :=
        s.perform_takes [] [] (p.solvePlan refuse params)
      rw [hmade, hending, List.nil_append]
      cases htakes with
      | finished hplan h =>
          rw [hcalls] at h ⊢
          apply Ends.finished hp hlimit h
      | refused before c after hplan hbefore h hc =>
          apply Ends.callRefused _ c (plannedCalls after) hp (.inr hlimit) _ h hc
          rw [← hcalls, hplan, plannedCalls_append, plannedCalls_call]
      | failed before e after hplan hbefore h =>
          rw [hplan] at hnone
          cases hnone e (List.mem_append_right before List.mem_cons_self)

/-- To solve a problem is to carry out its plan and to let the solver go. -/
theorem solve_calls (s : Solver (Call α β) ρ ε) (refuse : Error → ε) (p : Problem α)
    (params : Parameters β) :
  (s.solve refuse p params).calls
    = (s.perform [] [] (p.solvePlan refuse params)).calls ++ [.delete]
  := s.release_calls _ _

/-- The outcome is that of letting the solver go if this fails, and that of the plan otherwise. -/
theorem solve_outcome (s : Solver (Call α β) ρ ε) (refuse : Error → ε) (p : Problem α)
    (params : Parameters β) :
  (s.solve refuse p params).outcome
    = (s.answer (s.perform [] [] (p.solvePlan refuse params)).calls .delete >>= fun () =>
        (s.perform [] [] (p.solvePlan refuse params)).outcome.map fun () =>
          s.solution (s.perform [] [] (p.solvePlan refuse params)).calls)
  := by
  rw [solve, release_outcome]
  cases s.answer (s.perform [] [] (p.solvePlan refuse params)).calls .delete with
  | ok => rfl
  | error e => rfl

/-- A solution is found exactly if nothing fails, and it is what the optimisation gave. -/
theorem solve_eq_ok_iff (s : Solver (Call α β) ρ ε) (refuse : Error → ε) (p : Problem α)
    (params : Parameters β) (found : ρ) :
  (s.solve refuse p params).outcome = .ok found ↔
    p.check = .ok () ∧ (∀ e, ¬ params.timeLimit.Refused e)
      ∧ s.Accepts [] (p.solverCalls params ++ [.delete])
      ∧ found = s.solution (p.solverCalls params)
  := by
  have hends := s.perform_ends refuse p params
  rw [solve_outcome, Outcome.bind_eq_ok_iff, s.accepts_append, List.nil_append]
  constructor
  · rintro ⟨⟨⟩, hdelete, hfound⟩
    obtain ⟨⟨⟩, hending, rfl⟩ := Outcome.map_eq_ok_iff.mp hfound
    obtain ⟨hp, hlimit, haccepted⟩ := hends.eq_ok_iff.mp hending
    rw [hending] at hends
    rw [hends.eq_solverCalls] at hdelete ⊢
    refine ⟨hp, hlimit, ⟨haccepted, hdelete, trivial⟩, rfl⟩
  · rintro ⟨hp, hlimit, ⟨haccepted, hdelete, -⟩, rfl⟩
    have hending := hends.eq_ok_iff.mpr ⟨hp, hlimit, haccepted⟩
    rw [hending] at hends
    rw [hending, hends.eq_solverCalls]
    use (), hdelete
    rfl

/-- A run makes the planned calls up to the first that fails, and then exactly one more, which
lets the solver go. -/
theorem solve_releases_last (s : Solver (Call α β) ρ ε) (refuse : Error → ε) (p : Problem α)
    (params : Parameters β) :
  (∃ made ending, s.Ends refuse p params made ending
    ∧ made <+: p.solverCalls params ∧ .delete ∉ made
    ∧ (s.solve refuse p params).calls = made ++ [.delete]
    ∧ (s.solve refuse p params).outcome
      = (s.answer made .delete >>= fun () => ending.map fun () => s.solution made))
  ∧ (∀ found, (s.solve refuse p params).outcome = .ok found ↔
      p.check = .ok () ∧ (∀ e, ¬ params.timeLimit.Refused e)
        ∧ s.Accepts [] (p.solverCalls params ++ [.delete])
        ∧ found = s.solution (p.solverCalls params))
  ∧ (p.check = .ok () → p.objective?.isSome)
  ∧ (p.Reachable → p.vars.map Variable.id = List.range p.vars.length)
  ∧ ∀ plan : List (Action (Call α β) ε), ∃ made ending, s.Takes [] plan made ending
    ∧ made <+: plannedCalls plan
    ∧ (s.run .delete plan).calls = made ++ [.delete]
    ∧ (s.run .delete plan).outcome = (s.answer made .delete >>= fun () => ending)
  := by
  have hends := s.perform_ends refuse p params
  constructor
  · have hdelete : .delete ∉ (s.perform [] [] (p.solvePlan refuse params)).calls := by
      intro h
      apply p.delete_notMem_solverCalls params (hends.isPrefix.subset h)
    refine ⟨_, _, hends, hends.isPrefix, hdelete, ?_⟩
    use s.solve_calls refuse p params, s.solve_outcome refuse p params
  · use s.solve_eq_ok_iff refuse p params, p.isSome_objective?_of_check
    use fun hp => hp.numbered.ids_eq
    intro plan
    obtain ⟨made, ending, htakes, hmade, hending⟩ := s.perform_takes [] [] plan
    rw [List.nil_append] at hmade
    use made, ending, htakes, htakes.isPrefix
    rw [run, release_calls, release_outcome, hmade, hending]
    constructor
    · rfl
    · rfl

end Solver

end QuadraticProgram
