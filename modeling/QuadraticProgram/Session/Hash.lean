import QuadraticProgram.Session.Comparison

/-!
# Numbers that stand for values

Equal keys have one number (`Value.hash?`). That of an integer is the integer reduced by a
modulus, that of a ratio the quotient in the field of that modulus, and that of a tuple is mixed
from the numbers of its items. The numbers of texts and of most objects are not fixed.
-/

namespace QuadraticProgram.Session

namespace Hash

/-- A power in the field of the modulus of keys. -/
def power (b e : Nat) : Nat :=
  (Nat.toDigits 2 e).foldl
    (fun a d => a * a * (if d = '1' then b else 1) % Value.keyModulus) 1

/-- The number that stands for an infinite number. -/
def infinite : Int := 314159

/-- The number that stands for a ratio. -/
def ofRatio (q : Rat) : Int :=
  let divisor := q.den % Value.keyModulus
  let magnitude : Nat :=
    if divisor = 0 then infinite.toNat
    else q.num.natAbs % Value.keyModulus * power divisor (Value.keyModulus - 2) %
      Value.keyModulus
  let h : Int := if q.num < 0 then -(magnitude : Int) else magnitude
  if h = -1 then -2 else h

/-- The number that stands for a double. -/
def ofDouble? (x : Float) : Option Int :=
  match Extended.ofFloat x with
  | .finite q => some (ofRatio q)
  | .infinite isNegative => some (if isNegative then -infinite else infinite)
  | .notANumber => none

/-- A word of 64 bits as an integer with a sign. -/
def signed (n : Nat) : Int := (Int.bmod n (Nat.pow 2 64))

/-- An integer as a word of 64 bits. -/
def word (i : Int) : Nat := (i % (Nat.pow 2 64 : Nat)).toNat

/-- The factors by which the numbers of items are mixed. -/
def factors : Nat × Nat × Nat :=
  (11400714785074694791, 14029467366897019727, 2870177450012600261)

/-- A word turned by 31 bits. -/
def turned (n : Nat) : Nat := n * Nat.pow 2 31 % Nat.pow 2 64 + n / Nat.pow 2 33

/-- The number that stands for a tuple whose items have some numbers. -/
def ofItems (hs : List Int) : Int :=
  let (first, second, last) := factors
  let mixed := hs.foldl
    (fun a h => turned ((a + word h * second) % Nat.pow 2 64) * first % Nat.pow 2 64) last
  let h := signed ((mixed + Nat.xor hs.length (Nat.xor last 3527539)) % Nat.pow 2 64)
  if h = -1 then 1546275796 else h

/-- The number that stands for a complex number. -/
def ofParts (re im : Int) : Int :=
  let h := signed (word (re + 1000003 * im))
  if h = -1 then -2 else h

end Hash

namespace Value

mutual

/-- The number that stands for a value among keys, if its contents fix it. -/
def hash? (v : Value) : Option Int :=
  match v with
  | bool b | flag b => some (if b then 1 else 0)
  | integer _ n => some (keyNumber n)
  | ratio _ q => some (Hash.ofRatio q)
  | float _ x | entry _ x => Hash.ofDouble? x
  | complex _ re im => do return Hash.ofParts (← Hash.ofDouble? re) (← Hash.ofDouble? im)
  | text _ s => if s.isEmpty then some 0 else none
  | tuple _ items => (hashes? items).map Hash.ofItems
  | frozen _ keys values => do
    let ks ← hashes? keys
    let vs ← hashes? values
    let mixed := (List.zipWith (fun h k => Hash.ofItems [h, k]) ks vs).foldl
      (fun a h => Nat.xor a (Hash.word h)) 0
    return Hash.signed mixed
  | duration _ d =>
    some (Hash.ofItems ([d.days, d.secondsOfDay, d.microsecondsOfSecond].map keyNumber))
  | expression _ (.scalar (.var x)) => some (keyNumber x.id)
  | _ => none

/-- The numbers that stand for values. -/
def hashes? : List Value → Option (List Int)
  | [] => some []
  | v :: vs => do
    let h ← hash? v
    return h :: (← hashes? vs)

end

/-- The number that stands for a value which can be a key. -/
def hash (v : Value) : Except Fault Value := do
  discard v.keyCode
  return (v.hash?.map ofInt).getD nothing

end Value

end QuadraticProgram.Session
