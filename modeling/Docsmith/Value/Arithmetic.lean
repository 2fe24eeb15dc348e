import Docsmith.Fault

/-!
# Arithmetic of values

Sums, products, quotients, order and rounding.  Two integers are added and multiplied exactly, and their quotient is
the binary64 number nearest to the exact one; an integer that meets a binary64 number is first rounded to one.
-/

namespace Docsmith.Value

namespace Number

/-- The binary64 number nearest to a number. -/
def toBinary64 : Number → Outcome Binary64
  | .float x => .ok x
  | .int n =>
    match Binary64.ofInt? n with
    | some x => .ok x
    | none => .error .overflow

/-- An operation that is exact on two integers and rounded otherwise. -/
def combine (exact : Int → Int → Int) (rounded : Binary64 → Binary64 → Binary64) (a b : Number) :
    Outcome Number :=
  match a, b with
  | .int m, .int n => .ok (.int (exact m n))
  | a, b => do
    let x ← a.toBinary64
    let y ← b.toBinary64
    .ok (.float (rounded x y))

/-- The sum. -/
def add (a b : Number) : Outcome Number := combine (· + ·) Binary64.add a b

/-- The difference. -/
def sub (a b : Number) : Outcome Number := combine (· - ·) Binary64.sub a b

/-- The product. -/
def mul (a b : Number) : Outcome Number := combine (· * ·) Binary64.mul a b

/-- The quotient of two integers, rounded once. -/
def divInt (m n : Int) : Outcome Binary64 :=
  if n = 0 then .error (.divisionByZero false)
  else match Binary64.ofQuotient ((m < 0) != (n < 0)) m.natAbs n.natAbs with
    | .infinity _ => .error .overflow
    | x => .ok x

/-- The quotient. -/
def div (a b : Number) : Outcome Number :=
  match a, b with
  | .int m, .int n => (divInt m n).map .float
  | a, b => do
    let x ← a.toBinary64
    let y ← b.toBinary64
    match x.div? y with
    | some q => .ok (.float q)
    | none => .error (.divisionByZero true)

/-- The largest integer that is at most the number. -/
def floor : Number → Outcome Int
  | .int n => .ok n
  | .float .nan => .error .badValue
  | .float x =>
    match x.floor? with
    | some n => .ok n
    | none => .error .overflow

/-- The least integer that is at least the number. -/
def ceil : Number → Outcome Int
  | .int n => .ok n
  | .float .nan => .error .badValue
  | .float x =>
    match x.ceil? with
    | some n => .ok n
    | none => .error .overflow

/-- The number without its sign. -/
def abs : Number → Number
  | .int n => .int n.natAbs
  | .float x => .float x.abs

/-- The number rounded to decimal places; an integer stays as it is. -/
def roundPlaces (places : Nat) : Number → Number
  | .int n => .int n
  | .float x => .float (x.roundPlaces places)

/-- Whether a number is less than another. -/
def lt (a b : Number) : Bool := a.compare? b == some .lt

end Number

/-- The number that a value stands for, or the fault that it is none. -/
def toNumber (v : Value) : Outcome Number :=
  match v.number? with
  | some n => .ok n
  | none => .error .wrongType

/-- The most members that a repeated list or text can have, `2 ^ 63 - 1`. -/
def maxLength : Int := 9223372036854775807

/-- A list or text repeated `n` times; no times if `n` is negative. -/
def repeatItems {α : Type} (n : Int) (items : List α) : Outcome (List α) :=
  if maxLength < n then .error .overflow else .ok (List.replicate n.toNat items).flatten

/-- The sum of two numbers, or two texts or lists one after the other. -/
def add (a b : Value) : Outcome Value :=
  match a, b with
  | .text s, .text t => .ok (.text (s ++ t))
  | .list xs, .list ys => .ok (.list (xs ++ ys))
  | a, b => do
    let x ← a.toNumber
    let y ← b.toNumber
    (x.add y).map ofNumber

/-- The difference of two numbers. -/
def sub (a b : Value) : Outcome Value := do
  let x ← a.toNumber
  let y ← b.toNumber
  (x.sub y).map ofNumber

/-- The product of two numbers; a text or list times an integer is repeated. -/
def mul (a b : Value) : Outcome Value :=
  match a, b.int?, b, a.int? with
  | .text s, some n, _, _ => (repeatItems n s.toList).map fun t => .text (String.ofList t)
  | .list xs, some n, _, _ => (repeatItems n xs).map .list
  | _, _, .text s, some n => (repeatItems n s.toList).map fun t => .text (String.ofList t)
  | _, _, .list xs, some n => (repeatItems n xs).map .list
  | a, _, b, _ => do
    let x ← a.toNumber
    let y ← b.toNumber
    (x.mul y).map ofNumber

/-- The quotient of two numbers. -/
def div (a b : Value) : Outcome Value := do
  let x ← a.toNumber
  let y ← b.toNumber
  (x.div y).map ofNumber

/-- The largest integer that is at most the value. -/
def floor (v : Value) : Outcome Int := do
  let n ← v.toNumber
  n.floor

/-- The least integer that is at least the value. -/
def ceil (v : Value) : Outcome Int := do
  let n ← v.toNumber
  n.ceil

mutual

/-- Whether a value comes before another, or, if `orEqual`, is equal to it.  Numbers, texts and lists have an
order. -/
def before (orEqual : Bool) : Value → Value → Outcome Bool
  | .text s, .text t => .ok (s < t || (orEqual && s == t))
  | .list xs, .list ys => beforeItems orEqual xs ys
  | a, b => do
    let x ← a.toNumber
    let y ← b.toNumber
    .ok (x.lt y || (orEqual && x.same y))

/-- The order of lists: the first members that differ decide, and a shorter list comes first. -/
def beforeItems (orEqual : Bool) : List Value → List Value → Outcome Bool
  | [], [] => .ok orEqual
  | [], _ :: _ => .ok true
  | _ :: _, [] => .ok false
  | x :: xs, y :: ys => if x.same y then beforeItems orEqual xs ys else before orEqual x y

end

/-- Whether a value is less than another. -/
def lt (a b : Value) : Outcome Bool := before false a b

/-- Whether a value is at most another. -/
def le (a b : Value) : Outcome Bool := before true a b

/-- The larger of two values, the first if they are equal. -/
def max (a b : Value) : Outcome Value := do
  if ← a.lt b then .ok b else .ok a

end Docsmith.Value
