import QuadraticProgram.Session.Fault

/-!
# Arguments

What a function is called with: arguments by position and by name. `Signature.bind` puts
them in the order of the parameters, fills in the defaults of those that are left out, and
refuses arguments that do not fit. Names are looked at first, then the number of positions,
then what is missing.
-/

namespace QuadraticProgram.Session

/-- A parameter, required unless it has a default. -/
structure Parameter where
  name : String
  default? : Option Value

/-- The parameters of a function. -/
structure Signature where
  /-- The function as faults call it. -/
  name : String
  parameters : List Parameter
  /-- Parameters that are given by name only. -/
  named : List Parameter
  /-- Whether the function belongs to an object, which counts as its first argument. -/
  hasReceiver : Bool

/-- A parameter that has to be given. -/
def required (name : String) : Parameter := ⟨name, none⟩

/-- A parameter that may be left out. -/
def optional (name : String) (v : Value) : Parameter := ⟨name, some v⟩

namespace Signature

/-- A function without parameters that are given by name only. -/
def function (name : String) (parameters : List Parameter) : Signature :=
  ⟨name, parameters, [], false⟩

/-- An operation of an object. -/
def method (name : String) (parameters : List Parameter) : Signature :=
  ⟨name, parameters, [], true⟩

/-- A count of arguments with the noun after it. -/
def plural (n : Nat) (noun : String) : String :=
  toString n ++ " " ++ noun ++ (if n = 1 then "" else "s")

/-- Names in quotes, joined as in prose. -/
def listed (names : List String) : String :=
  match names.map Text.quoted with
  | [] => ""
  | [a] => a
  | [a, b] => a ++ " and " ++ b
  | quoted => ", ".intercalate quoted.dropLast ++ ", and " ++ quoted.getLast?.getD ""

/-- The fault of an argument that is given by a name which does not fit. -/
def nameFault? (s : Signature) (positions : Nat) (name : String) : Option Fault :=
  let taken := (s.parameters.take positions).any fun p => p.name == name
  let known := (s.parameters ++ s.named).any fun p => p.name == name
  if taken || (s.hasReceiver && name == "self") then
    some (.type (s.name ++ "() got multiple values for argument " ++ Text.quoted name))
  else if known then none
  else some (.type (s.name ++ "() got an unexpected keyword argument " ++ Text.quoted name))

/-- The fault of too many arguments. -/
def countFault (s : Signature) (positions : Nat) (byNameOnly : Nat) : Fault :=
  let receiver := if s.hasReceiver then 1 else 0
  let most := s.parameters.length + receiver
  let least := (s.parameters.filter fun p => p.default?.isNone).length + receiver
  let expected :=
    if least = most then plural most "positional argument"
    else "from " ++ toString least ++ " to " ++ toString most ++ " positional arguments"
  let given := positions + receiver
  let extra :=
    if byNameOnly = 0 then ""
    else
      " positional argument" ++ (if given = 1 then "" else "s") ++ " (and " ++
        plural byNameOnly "keyword-only argument" ++ ")"
  .type (s.name ++ "() takes " ++ expected ++ " but " ++ toString given ++ extra ++
    (if given = 1 && byNameOnly = 0 then " was given" else " were given"))

/-- The fault of arguments that are missing. -/
def missingFault (s : Signature) (noun : String) (names : List String) : Fault :=
  .type (s.name ++ "() missing " ++ plural names.length ("required " ++ noun ++ " argument") ++
    ": " ++ listed names)

/-- The parameters that get no value. -/
def missing (parameters : List Parameter) (byName : List (String × Value)) : List String :=
  parameters.filterMap fun p =>
    if p.default?.isNone && (byName.lookup p.name).isNone then some p.name else none

/-- The value of a parameter that is not given by position. -/
def valueOf (byName : List (String × Value)) (p : Parameter) : Value :=
  ((byName.lookup p.name).orElse fun () => p.default?).getD .nothing

/-- The values of all parameters in their order, those given by name only last. -/
def bind (s : Signature) (args : List Value) (byName : List (String × Value)) :
    Except Fault (List Value) := do
  match byName.findSome? fun (name, _) => s.nameFault? args.length name with
  | some fault => throw fault
  | none => pure ()
  let rest := s.parameters.drop args.length
  if s.parameters.length < args.length then
    throw (s.countFault args.length
      (byName.filter fun (name, _) => s.named.any fun p => p.name == name).length)
  match missing rest byName, missing s.named byName with
  | [], [] => return args ++ (rest ++ s.named).map (valueOf byName)
  | [], names => throw (s.missingFault "keyword-only" names)
  | names, _ => throw (s.missingFault "positional" names)

end Signature

end QuadraticProgram.Session
