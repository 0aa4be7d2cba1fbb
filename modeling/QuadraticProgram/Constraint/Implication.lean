import QuadraticProgram.Constraint.Rows

/-!
# Implication between constraints

A test whether all points that satisfy one constraint satisfy another. It compares the rows
of linear constraints, written with the variables on the left and as equalities or upper
bounds (`NormalRow`): one row implies another with close coefficients and no smaller bound,
an equality also one with all signs changed. `false` means that nothing is known.
-/

namespace QuadraticProgram

variable {α : Type} [Coefficient α]

/-- A row of a linear constraint: coefficients that are not zero by identifier, and what their
sum equals or is bounded by from above. An upper bound may be a list, all of whose entries
bound the sum. -/
structure NormalRow (α : Type) where
  coefficients : List (Nat × α)
  bound : Bound α
  isEquality : Bool

namespace Bound

/-- The bound as a single coefficient. -/
def toSingle : Bound α → Except Error α
  | single a => .ok a
  | list [a] => .ok a
  | list _ => .error .singleEntryExpected

/-- The answer that a list of answers is, if it is not ambiguous. -/
def truth : List Bool → Except Error Bool
  | [b] => .ok b
  | bs => .error (.ambiguousTruth bs.isEmpty)

/-- Whether a bound is at most another. A single entry is compared with all others, and the
answer has to be a single one. -/
def atMost : Bound α → Bound α → Except Error Bool
  | single a, single b => .ok (Coefficient.atMost a b)
  | single a, list ys => truth (ys.map (Coefficient.atMost a))
  | list xs, single b => truth (xs.map (Coefficient.atMost · b))
  | list xs, list ys =>
    if xs.length = ys.length then truth (List.zipWith Coefficient.atMost xs ys)
    else
      match xs, ys with
      | [a], ys => truth (ys.map (Coefficient.atMost a))
      | xs, [b] => truth (xs.map (Coefficient.atMost · b))
      | xs, ys => .error (.shapesDiffer [[xs.length], [ys.length]])

/-- Whether two bounds, both of which have to be single ones, are close. -/
def close : Bound α → Bound α → Except Error Bool
  | a, b => do return Coefficient.close (← a.toSingle) (← b.toSingle)

end Bound

namespace NormalRow

/-- The row of a linear form in some sense to a bound. -/
def ofForm (vars : List Variable) (coeffs : List α) (bound : Bound α) (sense : Sense) :
    Except Error (NormalRow α) :=
  let xs := Alignment.distinct vars
  let entries := ((xs.map Variable.id).zip (Alignment.spread vars coeffs xs)).filter fun
    (_, a) => !(a == 0)
  match sense with
  | .greaterEqual => .ok ⟨entries.map fun (id, a) => (id, -a), bound.negated, false⟩
  | .lessEqual => do return ⟨entries, .single (← bound.toSingle), false⟩
  | .equal => do return ⟨entries, .single (← bound.toSingle), true⟩

/-- Whether two lists of coefficients have the same identifiers, with close values. -/
def sameCoefficients (l m : List (Nat × α)) : Bool :=
  l.length == m.length &&
    l.all fun (id, a) =>
      match m.lookup id with
      | some b => Coefficient.close a b
      | none => false

/-- Whether one row implies another. -/
def implies (r s : NormalRow α) : Except Error Bool :=
  if sameCoefficients r.coefficients s.coefficients then
    if r.isEquality && s.isEquality then r.bound.close s.bound
    else if r.isEquality || !s.isEquality then r.bound.atMost s.bound
    else .ok false
  else if r.isEquality && !s.isEquality &&
      sameCoefficients (r.coefficients.map fun (id, a) => (id, -a)) s.coefficients then
    r.bound.negated.atMost s.bound
  else .ok false

end NormalRow

namespace Constraint

/-- The rows of a linear constraint. -/
def normalRows (c : Constraint α) : Except Error (List (NormalRow α)) := do
  let simplified ← c.simplify
  match c.form with
  | .scalar =>
    let e ← simplified.scalarLeft
    return [← NormalRow.ofForm e.vars e.coefficients (← simplified.bound) c.sense]
  | .vector =>
    let v ← simplified.vectorLeft
    let bounds :=
      match ← simplified.bound with
      | .single a => List.replicate v.length a
      | .list l => l
    if bounds.length < v.length then
      throw (.indexOutOfBounds bounds.length 0 bounds.length)
    (v.linearCoeff.rowList.zip bounds).mapM fun (row, b) =>
      NormalRow.ofForm v.vars row (.single b) c.sense

/-- Whether all points that satisfy a constraint are known to satisfy another. -/
def implies (c d : Constraint α) : Except Error Bool :=
  if c.isLinear && d.isLinear then do
    let rows ← c.normalRows
    (← d.normalRows).allM fun s => rows.anyM fun r => r.implies s
  else .ok false

end Constraint

end QuadraticProgram
