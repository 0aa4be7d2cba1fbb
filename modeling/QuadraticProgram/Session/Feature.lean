import QuadraticProgram.Session.Function
import QuadraticProgram.Session.GridMethod
import QuadraticProgram.Solving

/-!
# Features of values

The properties that can be read from a value (`Feature.get`) and the methods that can be called
on it (`Feature.call`). A property that an object keeps is the same value each time.
-/

namespace QuadraticProgram.Session.Feature

/-! ### Methods -/

/-- The signature of a method of a value. -/
def signature? (v : Value) (m : String) : Option Signature :=
  let own : Option Signature := some (.method (v.kind ++ "." ++ m) [])
  match v, m with
  | .expression _ e, m => ExpressionMethod.signature? e m
  | .constraint _ form .., m => ConstraintMethod.signature? form m
  | .problem _, m => ProblemMethod.signature? m
  | .grid .., m => GridMethod.signature? m
  | .pair .., "to_constraint" => own
  | .objective .., "check" | .objective .., "is_linear" => own
  | .parameters .., "time_limit_seconds" => own
  | .member (.orientation _), "flipped" => own
  | _, _ => none

/-- A value as a limit on time. -/
def timeLimit : Value → TimeLimit
  | .nothing => .unlimited
  | .duration _ d => .atMost d
  | v => .other v.typeName

/-- The seconds of a limit on time. -/
def limitSeconds (limit : Value) : Act Value := do
  match ← Act.ofExcept (timeLimit limit).seconds with
  | none => return .nothing
  | some q => return .ofFloat (Rounding.nearest q)

/-- The result of a method of a value. -/
def run (self : Value) (m : String) (args : List Value) : Act Value := do
  match self, m with
  | .expression _ e, m => ExpressionMethod.run self e m args
  | .constraint _ form lhs rhs sense, m => ConstraintMethod.run self form lhs rhs sense m args
  | .problem tag, m => ProblemMethod.run self tag m args
  | .grid _ elements rows columns, m => GridMethod.run self elements rows columns m args
  | .pair _ first second, _ => Construct.ofPair first second
  | .objective _ e _, "check" =>
    Act.check e
    return .nothing
  | .objective _ e _, _ => return .bool (← Act.isLinear e)
  | .parameters _ _ limit, _ => limitSeconds limit
  | .member (.orientation o), _ => return .member (.orientation o.flipped)
  | self, m => throw (.lacks self m)

/-! ### Properties -/

/-- What a member stands for, as a value. -/
def codeValue (m : Member) : Value :=
  match m.code with
  | .text s => .text 3 s
  | .number n => .ofInt n

/-- A property of plain data. -/
def ofPlain? (v : Value) (m : String) : Option Value :=
  match v, m with
  | .bool _, "real" | .bool _, "numerator" => v.integer?.map Value.ofInt
  | .bool _, "imag" => some (.ofNat 0)
  | .bool _, "denominator" => some (.ofNat 1)
  | .integer .., "real" | .integer .., "numerator" => some v
  | .integer .., "imag" => some (.ofNat 0)
  | .integer .., "denominator" => some (.ofNat 1)
  | .float .., "real" | .entry .., "real" => some v
  | .float .., "imag" => some (.ofFloat 0.0)
  | .entry .., "imag" => some (.entry 0 0.0)
  | .ratio .., "real" => some v
  | .ratio .., "imag" => some (.ofNat 0)
  | .ratio _ q, "numerator" => some (.ofInt q.num)
  | .ratio _ q, "denominator" => some (.ofNat q.den)
  | .complex _ re _, "real" => some (.ofFloat re)
  | .complex _ _ im, "imag" => some (.ofFloat im)
  | .slice _ start _ _, "start" => some start
  | .slice _ _ stop _, "stop" => some stop
  | .slice _ _ _ step, "step" => some step
  | .duration _ d, "days" => some (.ofInt d.days)
  | .duration _ d, "seconds" => some (.ofInt d.secondsOfDay)
  | .duration _ d, "microseconds" => some (.ofInt d.microsecondsOfSecond)
  | .member x, "value" => some (codeValue x)
  | .member x, "name" => some (.text 4 x.name)
  | _, _ => none

/-- A property of an array. -/
def ofArray? (v : Value) (m : String) : Option Value :=
  match v, v.tensor?, m with
  | .entry .., _, "shape" | .flag _, _, "shape" => some (.ofTuple [])
  | .entry .., _, "ndim" | .flag _, _, "ndim" => some (.ofNat 0)
  | .entry .., _, "size" | .flag _, _, "size" => some (.ofNat 1)
  | .entry .., _, "T" | .flag _, _, "T" => some v
  | _, some t, "shape" => some (.ofSizes t.shape)
  | _, some t, "ndim" => some (.ofNat t.axes)
  | _, some t, "size" => some (.ofNat t.count)
  | .array _ t, _, "T" =>
    match t.shape with
    | [_, _] => some (.ofMatrix (Matrix.ofArray t).transpose)
    | [_] | [] => some (.ofTensor t)
    | _ => none
  | _, _, _ => none

/-- A property of an object that it consists of. -/
def partOf? (v : Value) (m : String) : Option Value :=
  match v, m with
  | .pair _ first _, "first_variable" => some first
  | .pair _ _ second, "second_variable" => some second
  | .constraint _ _ lhs _ _, "lhs" => some lhs
  | .constraint _ _ _ rhs _, "rhs" => some rhs
  | .constraint _ _ _ _ s, "sense" => some (.member (.constraintSense s))
  | .objective _ e _, "expression" => some e
  | .objective _ _ s, "sense" => some (.member (.objectiveSense s))
  | .objective _ _ s, "is_maximize" => some (.bool (s == .maximize))
  | .solution _ _ _ best _, "objective_value" => some best
  | .solution _ _ _ _ status, "status" => some status
  | .parameters _ flag _, "enable_output" => some flag
  | .parameters _ _ limit, "time_limit" => some limit
  | .exception _ _ _ names values, m => (names.zip values).lookup m
  | _, _ => none

/-- A property of an object that it keeps once it was asked for. -/
def stored? (v : Value) (m : String) : Option Value :=
  match v, m with
  | .expression _ e, m => ExpressionMethod.kept? e m
  | .grid _ _ rows columns, "shape" => some (.ofTuple [rows, columns])
  | .grid _ elements _ _, "elements" => some (.ofTuple elements)
  | .solution _ keys values _ _, "variable_values" => some (.frozen 0 keys values)
  | .exception _ _ args _ _, "args" => some (.ofTuple args)
  | _, _ => none

/-- Whether the domain of a variable differs from that of all numbers. -/
def isInteger (x : Variable) : Act Value := do
  match x.domain with
  | .other => Act.different (← Act.domainOf x) (.member (.domain .continuous))
  | _ => return .bool x.isInteger

/-- A property of an expression that depends on its form. -/
def ofExpression? (v : Value) (e : Expression Float) (m : String) : Option (Act Value) :=
  match e, m with
  | .scalar (.var x), "var_type" => some (Act.domainOf x)
  | .scalar (.var x), "integer" => some (isInteger x)
  | .scalar (.var x), "name" =>
    some do Act.stored v.tag "name" (← Act.nameOf x)
  | .vector u, "orientation" => some (pure (.member (.orientation u.orientation)))
  | .matrix a, "T" => some (Act.expression (.matrix a.transpose))
  | _, _ => none

/-- A property of a problem, whose tuples are made anew. -/
def ofRecord? (r : Record) (m : String) : Option Value :=
  match m with
  | "name" => some r.name
  | "variables" => some (.ofTuple (r.problem.vars.map Value.ofVariable))
  | "constraints" => some (.ofTuple r.constraints)
  | "objective" => some r.objective
  | _ => none

/-- A property of a value. -/
def property (v : Value) (m : String) : Act (Option Value) := do
  let special : Option (Act Value) :=
    match v with
    | .expression _ e => ofExpression? v e m
    | _ => none
  match v, special, stored? v m with
  | .problem tag, _, _ => return ofRecord? (← Act.record tag) m
  | _, some act, _ => return some (← act)
  | _, none, some x => return some (← Act.stored v.tag m x)
  | _, none, none =>
    return ((partOf? v m).orElse fun () => ofPlain? v m).orElse fun () => ofArray? v m

/-- Reads a property of a value. A method that is not called is an object of its own. -/
def get (v : Value) (m : String) : Act Value := do
  match ← property v m with
  | some x => return x
  | none => if (signature? v m).isSome then return .method 0 else throw (.lacks v m)

/-- Calls a method of a value. -/
def call (v : Value) (m : String) (args : List Value) (byName : List (String × Value)) :
    Act Value := do
  match signature? v m with
  | some s => run v m (← Act.ofResult (s.bind args byName))
  | none => throw (.notCallable (← get v m))

end QuadraticProgram.Session.Feature
