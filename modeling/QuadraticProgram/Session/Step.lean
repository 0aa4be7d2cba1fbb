import QuadraticProgram.Session.Copy
import QuadraticProgram.Session.Hash
import QuadraticProgram.Session.SolverRun

/-!
# Steps of a session

A session is a list of steps. A step computes a value from plain data and from earlier
results, which it names, and may give a name to its own result. `Step.run` carries out one
step and replies with its value or its fault.
-/

namespace QuadraticProgram.Session

/-! ### Terms -/

/-- An argument of a step: plain data with names of earlier results in it. -/
inductive Term where
  | value (v : Value)
  | register (name : String)
  | list (items : List Term)
  | tuple (items : List Term)
  | dict (keys values : List Term)
  | slice (start stop step : Term)
deriving Inhabited

namespace Term

mutual

/-- The first name in a term that is not known. -/
def unset? (registers : List (String × Value)) : Term → Option String
  | value _ => none
  | register name => if (registers.lookup name).isNone then some name else none
  | list items | tuple items => unsetAmong? registers items
  | dict keys values =>
    (unsetAmong? registers keys).orElse fun () => unsetAmong? registers values
  | slice start stop step =>
    ((unset? registers start).orElse fun () => unset? registers stop).orElse fun () =>
      unset? registers step

/-- The first name in some terms that is not known. -/
def unsetAmong? (registers : List (String × Value)) : List Term → Option String
  | [] => none
  | t :: ts => (unset? registers t).orElse fun () => unsetAmong? registers ts

end

mutual

/-- The value of a term. Plain data is told from equal data from now on. -/
def resolve : Term → Act Value
  | value v => Act.keep v
  | register name => do return ((← get).registers.lookup name).getD .nothing
  | list items => do return .list (← Act.fresh) (← resolveAll items)
  | tuple items => do return .tuple (← Act.fresh) (← resolveAll items)
  | dict keys values => do
    let entries := (← resolveAll keys).zip (← resolveAll values)
    let (ks, vs) ← entries.foldlM (fun (ks, vs) (k, v) => Act.insert ks vs k v) ([], [])
    return .dict (← Act.fresh) ks vs
  | slice start stop step => do
    return .slice (← Act.fresh) (← resolve start) (← resolve stop) (← resolve step)

/-- The values of terms. -/
def resolveAll : List Term → Act (List Value)
  | [] => return []
  | t :: ts => do
    let v ← resolve t
    return v :: (← resolveAll ts)

end

end Term

/-! ### Steps -/

/-- What a step computes. -/
inductive Deed where
  | value (on : Term)
  | function (name : String) (args : List Term) (byName : List (String × Term))
  | method (on : Term) (name : String) (args : List Term) (byName : List (String × Term))
  | property (on : Term) (name : String)
  | operator (symbol : String) (a b : Term)
  | negate (on : Term)
  | item (on index : Term)
  | iterate (on : Term)
  | length (on : Term)
  | truth (on : Term)
  | hash (on : Term)
  | text (on : Term)
  | shown (on : Term)
  | identity (a b : Term)
  | chain (a b c : Term)
  | copy (on : Term)
  | solve (on : Term) (result? : Option Term) (failing? : Option String) (params : Term)
  | within (on : Term) (failing? : Option String)

/-- A step, and the name of its result. -/
structure Step where
  deed : Deed
  register? : Option String

/-- The terms of a step. -/
def Deed.terms : Deed → List Term
  | value on | property on _ | negate on | iterate on | length on | truth on | hash on | text on
  | shown on | copy on | within on _ => [on]
  | function _ args byName => args ++ byName.map Prod.snd
  | method on _ args byName => on :: (args ++ byName.map Prod.snd)
  | operator _ a b | identity a b | item a b => [a, b]
  | chain a b c => [a, b, c]
  | solve on result? _ params => on :: (result?.toList ++ [params])

/-- The values of the named arguments of a step. -/
def resolveNamed (args : List (String × Term)) : Act (List (String × Value)) :=
  args.mapM fun (name, t) => do return (name, ← t.resolve)

/-- The value of an operator. -/
def operated (symbol : String) (a b : Value) : Act Value :=
  match arithmetic? symbol, Order.of? symbol with
  | some op, _ => Act.arithmetic op a b
  | none, some o => Act.ordered o a b
  | none, none => if symbol == "==" then Act.equal a b else Act.different a b

/-- Two comparisons in a row, the second only if the first one counts as true. -/
def chained (a b c : Value) : Act Value := do
  let first ← Act.ordered .atMost a b
  if ← Act.ofResult first.truth then Act.ordered .atMost b c else return first

/-- The reply to a step. -/
inductive Reply where
  | value (v : Value)
  | fault (f : Fault)
  | unset (name : String)
  | report (r : SolverRun.Report)

/-- What a step does. -/
def Deed.perform : Deed → Act Reply
  | value on => give on.resolve
  | function name args byName => give do
    let xs ← Term.resolveAll args
    Function.call name xs (← resolveNamed byName)
  | method on name args byName => give do
    let v ← on.resolve
    let xs ← Term.resolveAll args
    Feature.call v name xs (← resolveNamed byName)
  | property on name => give do Feature.get (← on.resolve) name
  | operator symbol a b => give do
    let v ← a.resolve
    operated symbol v (← b.resolve)
  | negate on => give do Act.negated (← on.resolve)
  | item on index => give do
    let v ← on.resolve
    Indexing.item v (← index.resolve)
  | iterate on => give do return .ofList (← (← on.resolve).items)
  | length on => give do return .ofNat (← Act.ofResult (← on.resolve).length)
  | truth on => give do return .bool (← Act.ofResult (← on.resolve).truth)
  | hash on => give do Act.ofResult (← on.resolve).hash
  | text on => give do return .ofText (← Act.printed (← on.resolve))
  | shown on => give do return .ofText (← Act.shown (← on.resolve))
  | identity a b => give do
    let v ← a.resolve
    return .bool (v.same (← b.resolve))
  | chain a b c => give do
    let v ← a.resolve
    let w ← b.resolve
    chained v w (← c.resolve)
  | copy on => give do Act.copied (← on.resolve)
  | solve on result? failing? params => do
    let v ← on.resolve
    let result? ← result?.mapM Term.resolve
    return .report (← SolverRun.solve v result? failing? (← params.resolve))
  | within on failing? => do return .report (← SolverRun.within (← on.resolve) failing?)
where
  /-- The reply with a value. -/
  give (act : Act Value) : Act Reply := do return .value (← Act.keep (← act))

/-- The value that a reply gives to the name of a step. -/
def Reply.result? : Reply → Option Value
  | value v => some v
  | report ⟨.ok v, _⟩ => some v
  | _ => none

/-- Values by name without one name. -/
def without (registers : List (String × Value)) (name? : Option String) :
    List (String × Value) :=
  registers.filter fun entry => some entry.1 != name?

/-- Carries out a step. The name of its result is unknown until there is one. -/
def Step.run (step : Step) (s : State) : Reply × State :=
  let s := { s with notes := [], registers := without s.registers step.register? }
  match Term.unsetAmong? s.registers step.deed.terms with
  | some name => (.unset name, s)
  | none =>
    let (outcome, s) := (step.deed.perform.run : StateM State (Except Fault Reply)).run s
    let reply :=
      match outcome with
      | .ok reply => reply
      | .error f => .fault f
    match step.register?, reply.result? with
    | some name, some v => (reply, { s with registers := (name, v) :: s.registers })
    | _, _ => (reply, s)

end QuadraticProgram.Session
