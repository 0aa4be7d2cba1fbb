import QuadraticProgram.Problem.Text
import QuadraticProgram.Session.GridLine
import QuadraticProgram.Tensor.Text

/-!
# Texts of values

A value is printed for its reader (`Act.printed`) or shown inside a message (`Act.shown`), where
texts are quoted and objects name their kind. A variable whose name is neither a text nor void
cannot be printed, so that no expression with it can.
-/

namespace QuadraticProgram.Session

/-- A double without a fraction of zero. -/
def partText (x : Float) : String :=
  let s := doubleText x
  if s.endsWith ".0" then String.ofList (s.toList.dropLast.dropLast) else s

/-- A complex number. A real part of positive zero is left out. -/
def complexText (re im : Float) : String :=
  if re.toBits == 0 then partText im ++ "j"
  else
    let sign := if im.toBits.toNat < Nat.pow 2 63 || im.isNaN then "+" else ""
    "(" ++ partText re ++ sign ++ partText im ++ "j)"

/-- A span of time inside a message. -/
def durationShown (d : Duration) : String :=
  let parts :=
    [("days", d.days), ("seconds", d.secondsOfDay), ("microseconds", d.microsecondsOfSecond)]
  let named := parts.filterMap fun (name, n) =>
    if n = 0 then none else some (name ++ "=" ++ toString n)
  "datetime.timedelta(" ++ (if named.isEmpty then "0" else ", ".intercalate named) ++ ")"

/-- Truth values as they are printed. -/
def boolText (b : Bool) : String := if b then "True" else "False"

/-- Entries of a dictionary. -/
def entriesText (keys values : List String) : String :=
  "\x7b" ++ ", ".intercalate (List.zipWith (fun k v => k ++ ": " ++ v) keys values) ++ "\x7d"

/-- The variables whose names are printed in a scalar expression, in their order. -/
def printedVariables : Expression Float → List Variable
  | .scalar (.var v) => [v]
  | .scalar e => e.terms.flatMap Term.factors
  | .vector u =>
    u.toList.flatMap fun e =>
      match e with
      | .var v => [v]
      | e => e.terms.flatMap Term.factors
  | .matrix _ => []

/-- Whether the name of a variable is no text. -/
def hasOddName (v : Variable) : Bool :=
  match v.name with
  | .text _ => false
  | .other _ => true

namespace Act

/-- The name of a variable. -/
def nameOf (v : Variable) : Act Value := do
  match v.name, ← attribute? v.tag "name" with
  | _, some name => return name
  | .text s, none => return .ofText s
  | .other shown, none => return .ofText shown

/-- Refuses a variable that cannot be printed. -/
def requirePrintable (v : Variable) : Act Unit := do
  if hasOddName v then
    let name ← nameOf v
    if ← ofResult name.truth then
      throw (.type ("__str__ returned non-string (type " ++ name.typeName ++ ")"))

/-- Refuses an expression that cannot be printed. -/
def requirePrintableAll (e : Expression Float) : Act Unit :=
  (printedVariables e).forM requirePrintable

mutual

/-- A value inside a message, parts inside each other up to a depth. -/
def shownTo : Nat → Value → Act String
  | 0, _ => throw .tooDeep
  | depth + 1, v =>
    match v with
    | .nothing => pure "None"
    | .bool b => pure (boolText b)
    | .flag b => pure ("np." ++ boolText b ++ "_")
    | .integer _ n => pure (toString n)
    | .float _ x => pure (doubleText x)
    | .entry _ x => pure ("np.float64(" ++ doubleText x ++ ")")
    | .ratio _ q => pure ("Fraction(" ++ toString q.num ++ ", " ++ toString q.den ++ ")")
    | .complex _ re im => pure (complexText re im)
    | .text _ s => pure (Text.quoted s)
    | .list _ items => do return Text.bracketed (← items.mapM (shownTo depth))
    | .tuple _ items => do return Text.parenthesised (← items.mapM (shownTo depth))
    | .dict _ keys values => do
      return entriesText (← keys.mapM (shownTo depth)) (← values.mapM (shownTo depth))
    | .frozen _ keys values => do
      return "immutabledict(" ++
        entriesText (← keys.mapM (shownTo depth)) (← values.mapM (shownTo depth)) ++ ")"
    | .array _ t => pure t.shown
    | .flags _ shape entries =>
      pure (Tensor.flagsShown ⟨shape, entries.map fun b => if b then 1.0 else 0.0⟩)
    | .member m => pure m.shown
    | .duration _ d => pure (durationShown d)
    | .slice _ a b c => do
      return "slice(" ++ (← shownTo depth a) ++ ", " ++ (← shownTo depth b) ++ ", " ++
        (← shownTo depth c) ++ ")"
    | .expression _ e => do
      let odd := e.vars.filter hasOddName
      if odd.isEmpty then return e.shown
      else
        let names ← odd.mapM fun v => do
          return (v.tag, ← shownTo depth (← nameOf v))
        return (e.rename fun v =>
          match hasOddName v, names.lookup v.tag with
          | true, some name => { v with name := .other name }
          | _, _ => v).shown
    | .grid _ elements rows columns => do
      return "VarMatrix(" ++ Text.bracketed (← elements.mapM (shownTo depth)) ++ ", " ++
        Text.parenthesised [← shownTo depth rows, ← shownTo depth columns] ++ ")"
    | .pair _ a b => do return (← shownTo depth a) ++ " == " ++ (← shownTo depth b)
    | .constraint _ form lhs rhs sense => do
      return form.kind ++ "(" ++ (← shownTo depth lhs) ++ ", " ++ (← shownTo depth rhs) ++
        ", " ++ sense.shown ++ ")"
    | .objective _ e sense => do
      return "Objective(" ++ (← shownTo depth e) ++ ", " ++ sense.shown ++ ")"
    | .problem tag => do
      let r ← record tag
      return (← problemWith depth r).shownWith r.constraints.length
    | .solution _ keys values best status => do
      return "Solution(variable_values=" ++ (← shownTo depth (.frozen 0 keys values)) ++
        ", objective_value=" ++ (← shownTo depth best) ++ ", status=" ++
        (← shownTo depth status) ++ ")"
    | .parameters _ flag limit => do
      return "SolveParameters(enable_output=" ++ (← shownTo depth flag) ++ ", time_limit=" ++
        (← shownTo depth limit) ++ ")"
    | .exception _ kind args _ _ => do
      return kind ++ "(" ++ ", ".intercalate (← args.mapM (shownTo depth)) ++ ")"
    | .method _ => pure "<bound method>"

/-- The problem of a record, its name as it is shown now. Constraints that are not well formed
are counted as they are. -/
def problemWith (depth : Nat) (r : Record) : Act (Problem Float) := do
  match depth, r.name with
  | _, .text _ s => return { r.problem with name := .text s }
  | 0, _ => throw .tooDeep
  | depth + 1, name => return { r.problem with name := .other (← shownTo depth name) }

end

/-- A value inside a message. -/
def shown (v : Value) : Act String := shownTo depth v

/-- The problem of a record, its name as it is shown now. -/
def problemOf (r : Record) : Act (Problem Float) := problemWith depth r

/-- An expression as it is printed. -/
def printedExpression (e : Expression Float) : Act String := do
  requirePrintableAll e
  return e.text

/-- A value as it is printed, parts inside each other up to a depth. -/
def printedTo : Nat → Value → Act String
  | 0, _ => throw .tooDeep
  | depth + 1, v =>
    match v with
    | .text _ s => pure s
    | .entry _ x => pure (doubleText x)
    | .flag b => pure (boolText b)
    | .ratio _ q => pure (rationalText q)
    | .array _ t => pure t.text
    | .flags _ shape entries =>
      pure (Tensor.flagsText ⟨shape, entries.map fun b => if b then 1.0 else 0.0⟩)
    | .member m => pure m.text
    | .duration _ d => pure d.text
    | .expression _ e => printedExpression e
    | .pair _ a b => do return (← printedTo depth a) ++ " == " ++ (← printedTo depth b)
    | .constraint _ _ lhs rhs sense => do
      return (← printedTo depth lhs) ++ " " ++ sense.text ++ " " ++ (← printedTo depth rhs)
    | .objective _ e sense => do return sense.text ++ " " ++ (← printedTo depth e)
    | .problem tag => do
      let r ← record tag
      let p ← problemOf r
      let objective ←
        match r.objective with
        | .nothing => pure "no objective"
        | o => printedTo depth o
      p.vars.forM requirePrintable
      let constraints ← r.constraints.mapM (printedTo depth)
      return "\n".intercalate (p.linesWith objective constraints)
    | .grid _ elements rows columns => do
      let lines ← (← GridLine.indicesBelow rows).mapM fun i => do
        printedTo depth (← GridLine.row elements columns i)
      return "\n".intercalate lines
    | .exception _ kind args _ _ =>
      match kind, args with
      | _, [] => pure ""
      | _, [v] => printedTo depth v
      | "VariableNotFoundError", v :: _ => printedTo depth v
      | _, args => shownTo depth (.ofTuple args)
    | v => shownTo depth v

/-- A value as it is printed. -/
def printed (v : Value) : Act String := printedTo depth v

end Act

end QuadraticProgram.Session
