/-!
# Binary64 numbers

Numbers of the IEEE 754 format binary64, as data one can compute with in the logic.  A finite number is
`± mantissa * 2 ^ exponent`; every operation is the exact rational result followed by one rounding to the nearest
number of the format, a tie going to the even mantissa (`ofQuotient`).  All functions here return numbers in normal
form: the mantissa is below `2 ^ 53`, the exponent at least `-1074`, and one of the two is as large, respectively
as small, as it can be.
-/

namespace Docsmith

/-- A datum of the format binary64. -/
inductive Binary64 where
  | finite (negative : Bool) (mantissa : Nat) (exponent : Int)
  | infinity (negative : Bool)
  | nan
  deriving DecidableEq, Repr, Inhabited

namespace Binary64

/-- The least exponent of a finite number. -/
def minExponent : Int := -1074

/-- The largest exponent of a finite number. -/
def maxExponent : Int := 971

/-- The quotient `num / den` rounded to the nearest natural number, a tie going to the even one. -/
def divRound (num den : Nat) : Nat :=
  let q := num / den
  let r := num % den
  if 2 * r < den then q
  else if den < 2 * r then q + 1
  else if q % 2 = 0 then q else q + 1

/-- The exponent `k` with `2 ^ k ≤ num / den < 2 ^ (k + 1)`, for positive `num` and `den`. -/
def floorLog (num den : Nat) : Int :=
  let k : Int := (Nat.log2 num : Int) - Nat.log2 den
  let below := if 0 ≤ k then num < den * Nat.pow 2 k.toNat else num * Nat.pow 2 (-k).toNat < den
  if below then k - 1 else k

/-- `num / den` divided by `2 ^ e` and rounded to a natural number. -/
def scaledRound (num den : Nat) (e : Int) : Nat :=
  if 0 ≤ e then divRound num (den * Nat.pow 2 e.toNat) else divRound (num * Nat.pow 2 (-e).toNat) den

/-- The number with a mantissa of at most `2 ^ 53`, which is put into normal form. -/
def pack (negative : Bool) (m : Nat) (e : Int) : Binary64 :=
  let (m, e) := if m = Nat.pow 2 53 then (Nat.pow 2 52, e + 1) else (m, e)
  if maxExponent < e then .infinity negative else .finite negative m e

/-- The number nearest to `± num / den`, for positive `den`; beyond the largest one it is an infinity. -/
def ofQuotient (negative : Bool) (num den : Nat) : Binary64 :=
  if num = 0 then .finite negative 0 minExponent
  else
    let e := max minExponent (floorLog num den - 52)
    pack negative (scaledRound num den e) e

/-- The number nearest to `± m * 2 ^ e`. -/
def ofScaled (negative : Bool) (m : Nat) (e : Int) : Binary64 :=
  if 0 ≤ e then ofQuotient negative (m * Nat.pow 2 e.toNat) 1 else ofQuotient negative m (Nat.pow 2 (-e).toNat)

/-- The number nearest to `± digits * 10 ^ e`. -/
def ofDecimal (negative : Bool) (digits : Nat) (e : Int) : Binary64 :=
  if 0 ≤ e then ofQuotient negative (digits * Nat.pow 10 e.toNat) 1
  else ofQuotient negative digits (Nat.pow 10 (-e).toNat)

/-- The number nearest to an integer; `none` if that is an infinity. -/
def ofInt? (n : Int) : Option Binary64 :=
  match ofQuotient (n < 0) n.natAbs 1 with
  | .infinity _ => none
  | x => some x

/-- The zero with a given sign. -/
def zero (negative : Bool) : Binary64 := .finite negative 0 minExponent

/-- Whether the sign is negative. -/
def isNegative : Binary64 → Bool
  | .finite s _ _ => s
  | .infinity s => s
  | .nan => false

/-- Whether the number is one of the two zeros. -/
def isZero : Binary64 → Bool
  | .finite _ m _ => m == 0
  | _ => false

/-- The signed mantissa. -/
def signed (negative : Bool) (m : Nat) : Int :=
  if negative then -(m : Int) else m

/-- The number with the opposite sign. -/
def neg : Binary64 → Binary64
  | .finite s m e => .finite (!s) m e
  | .infinity s => .infinity (!s)
  | .nan => .nan

/-- The number without its sign. -/
def abs : Binary64 → Binary64
  | .finite _ m e => .finite false m e
  | .infinity _ => .infinity false
  | .nan => .nan

/-- The rounded sum.  A sum that is exactly zero is negative only if both summands are. -/
def add : Binary64 → Binary64 → Binary64
  | .nan, _ => .nan
  | _, .nan => .nan
  | .infinity s, .infinity t => if s = t then .infinity s else .nan
  | .infinity s, _ => .infinity s
  | _, .infinity t => .infinity t
  | .finite s m e, .finite t n f =>
    let g := min e f
    let sum := signed s (m * Nat.pow 2 (e - g).toNat) + signed t (n * Nat.pow 2 (f - g).toNat)
    if sum = 0 then zero (s && t) else ofScaled (sum < 0) sum.natAbs g

/-- The rounded difference. -/
def sub (x y : Binary64) : Binary64 := add x y.neg

/-- The rounded product. -/
def mul : Binary64 → Binary64 → Binary64
  | .nan, _ => .nan
  | _, .nan => .nan
  | .infinity s, y => if y.isZero then .nan else .infinity (s != y.isNegative)
  | x, .infinity t => if x.isZero then .nan else .infinity (x.isNegative != t)
  | .finite s m e, .finite t n f => ofScaled (s != t) (m * n) (e + f)

/-- The rounded quotient; `none` if the divisor is zero. -/
def div? : Binary64 → Binary64 → Option Binary64
  | x, y =>
    if y.isZero then none
    else match x, y with
      | .nan, _ => some .nan
      | _, .nan => some .nan
      | .infinity _, .infinity _ => some .nan
      | .infinity s, .finite t _ _ => some (.infinity (s != t))
      | .finite s _ _, .infinity t => some (zero (s != t))
      | .finite s m e, .finite t n f =>
        some (if f ≤ e then ofQuotient (s != t) (m * Nat.pow 2 (e - f).toNat) n
          else ofQuotient (s != t) m (n * Nat.pow 2 (f - e).toNat))

/-- A finite number as a fraction with a positive denominator. -/
def fraction? : Binary64 → Option (Int × Nat)
  | .finite s m e =>
    some (if 0 ≤ e then (signed s (m * Nat.pow 2 e.toNat), 1) else (signed s m, Nat.pow 2 (-e).toNat))
  | _ => none

/-- The largest integer that is at most the number; `none` if it is not finite. -/
def floor? (x : Binary64) : Option Int :=
  x.fraction?.map fun q => q.1.fdiv q.2

/-- The least integer that is at least the number; `none` if it is not finite. -/
def ceil? (x : Binary64) : Option Int :=
  x.fraction?.map fun q => -((-q.1).fdiv q.2)

/-- How two fractions with positive denominators compare. -/
def compareFractions (p q : Int × Nat) : Ordering :=
  compare (p.1 * q.2) (q.1 * p.2)

/-- How two numbers compare; `none` if one of them is not a number. -/
def compare? : Binary64 → Binary64 → Option Ordering
  | .nan, _ => none
  | _, .nan => none
  | .infinity s, .infinity t => some (if s = t then .eq else if s then .lt else .gt)
  | .infinity s, _ => some (if s then .lt else .gt)
  | _, .infinity t => some (if t then .gt else .lt)
  | x, y =>
    match x.fraction?, y.fraction? with
    | some p, some q => some (compareFractions p q)
    | _, _ => none

/-- How a number compares with an integer, exactly. -/
def compareInt? (x : Binary64) (n : Int) : Option Ordering :=
  match x with
  | .nan => none
  | .infinity s => some (if s then .lt else .gt)
  | x => x.fraction?.map fun p => compareFractions p (n, 1)

/-- The number rounded to `places` decimal places: the exact value is rounded to the decimal grid, a tie going to
the even neighbour, and the result to the format. -/
def roundPlaces (places : Nat) (x : Binary64) : Binary64 :=
  match x with
  | .finite s _ _ =>
    match x.abs.fraction? with
    | some (num, den) => ofQuotient s (divRound (num.natAbs * Nat.pow 10 places) den) (Nat.pow 10 places)
    | none => x
  | x => x

/-- The 64 bits of the interchange format. -/
def toBits : Binary64 → Nat
  | .finite s m e =>
    let sign := if s then Nat.pow 2 63 else 0
    if m < Nat.pow 2 52 then sign + m else sign + (e - minExponent + 1).toNat * Nat.pow 2 52 + (m - Nat.pow 2 52)
  | .infinity s => (if s then Nat.pow 2 63 else 0) + 2047 * Nat.pow 2 52
  | .nan => 2047 * Nat.pow 2 52 + Nat.pow 2 51

end Binary64

end Docsmith
