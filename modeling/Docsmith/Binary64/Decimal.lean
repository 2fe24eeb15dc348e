import Docsmith.Binary64.Basic

/-!
# Decimal texts of binary64 numbers

The shortest text of a number has the fewest digits that read back as the number and, among those, the nearest
ones (`shortestDigits`).  A text with fixed places rounds the exact value to the decimal grid (`fixedText`).
-/

namespace Docsmith.Binary64

/-- The decimal digits of a natural number. -/
def digitChars (n : Nat) : List Char := Nat.toDigits 10 n

/-- The exponent `k` with `10 ^ k ≤ num / den < 10 ^ (k + 1)`, for positive `num` and `den`. -/
def floorLog10 (num den : Nat) : Int :=
  let guess := (floorLog num den * 30103).fdiv 100000
  let atLeast (k : Int) : Bool :=
    if 0 ≤ k then decide (den * Nat.pow 10 k.toNat ≤ num) else decide (den ≤ num * Nat.pow 10 (-k).toNat)
  if atLeast (guess + 1) then guess + 1 else if atLeast guess then guess else guess - 1

/-- `num / den` divided by `10 ^ k`, as a fraction. -/
def shiftTen (num den : Nat) (k : Int) : Nat × Nat :=
  if 0 ≤ k then (num, den * Nat.pow 10 k.toNat) else (num * Nat.pow 10 (-k).toNat, den)

/-- A decimal with `n` digits next to `num / den` that reads back as `x`, the nearer one if both neighbours on the
grid do. -/
def digitsReadingBack (x : Binary64) (num den n : Nat) : Option (Nat × Int) :=
  let k := floorLog10 num den - (n - 1 : Nat)
  let (a, b) := shiftTen num den k
  let low := a / b
  let readsBack (d : Nat) : Bool := ofDecimal false d k == x
  match readsBack low, readsBack (low + 1) with
  | true, true => some (divRound a b, k)
  | true, false => some (low, k)
  | false, true => some (low + 1, k)
  | false, false => none

/-- The fewest digits `d` and the exponent `k` such that `d * 10 ^ k` reads back as a positive number. -/
def shortestDigits (x : Binary64) : Nat × Int :=
  match x.fraction? with
  | some (num, den) =>
    ((List.range 17).findSome? fun n => digitsReadingBack x num.natAbs den (n + 1)).getD (0, 0)
  | none => (0, 0)

/-- The digits without zeros at the end, and the exponent of the last one. -/
def dropZeros (digits : List Char) (k : Int) : List Char × Int :=
  let kept := (digits.reverse.dropWhile (· == '0')).reverse
  (kept, k + (digits.length - kept.length : Nat))

/-- An exponent with its sign and at least two digits. -/
def exponentText (e : Int) : List Char :=
  let digits := digitChars e.natAbs
  (if e < 0 then '-' else '+') :: (if digits.length < 2 then '0' :: digits else digits)

/-- A positive number in its shortest form.  Numbers from `10 ^ -4` up to `10 ^ 16` are written positionally, with
at least one digit after the point; the others with an exponent. -/
def positiveText (x : Binary64) : List Char :=
  let (d, k) := shortestDigits x
  let (digits, k) := dropZeros (digitChars d) k
  let point : Int := digits.length + k
  if -4 < point ∧ point ≤ 16 then
    if point ≤ 0 then '0' :: '.' :: (List.replicate (-point).toNat '0' ++ digits)
    else if digits.length ≤ point.toNat then
      digits ++ List.replicate (point.toNat - digits.length) '0' ++ ['.', '0']
    else digits.take point.toNat ++ '.' :: digits.drop point.toNat
  else
    let mantissa := match digits with
      | [] => []
      | [c] => [c]
      | c :: cs => c :: '.' :: cs
    mantissa ++ 'e' :: exponentText (point - 1)

/-- The shortest text that reads back as the number. -/
def text : Binary64 → List Char
  | .nan => ['n', 'a', 'n']
  | .infinity s => (if s then ['-'] else []) ++ ['i', 'n', 'f']
  | x =>
    (if x.isNegative then ['-'] else []) ++ (if x.isZero then ['0', '.', '0'] else positiveText x.abs)

/-- The number with a fixed count of decimal places, the exact value being rounded and a tie going to the even
digit. -/
def fixedText (places : Nat) : Binary64 → List Char
  | .nan => ['n', 'a', 'n']
  | .infinity s => (if s then ['-'] else []) ++ ['i', 'n', 'f']
  | x =>
    let sign := if x.isNegative then ['-'] else []
    match x.abs.fraction? with
    | some (num, den) =>
      let digits := digitChars (divRound (num.natAbs * Nat.pow 10 places) den)
      let digits := List.replicate (places + 1 - digits.length) '0' ++ digits
      let whole := digits.take (digits.length - places)
      sign ++ (if places = 0 then whole else whole ++ '.' :: digits.drop (digits.length - places))
    | none => sign

end Docsmith.Binary64
