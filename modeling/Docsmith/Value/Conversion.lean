import Docsmith.Text.Blank
import Docsmith.Value.Arithmetic

/-!
# Numbers from values

A value as a binary64 number or as an integer, where it is a number or a text that writes one.  A text may have blanks
around the number, a sign, and single underscores between digits.
-/

namespace Docsmith.Value

/-- Digits with single underscores between them, as the digits alone and the rest of the text. -/
def readDigits : List Char → List Char × List Char
  | [] => ([], [])
  | [c] => if c.isDigit then ([c], []) else ([], [c])
  | c :: d :: s =>
    if c.isDigit then
      if d == '_' then
        match s with
        | e :: _ =>
          if e.isDigit then
            let (digits, rest) := readDigits s
            (c :: digits, rest)
          else ([c], d :: s)
        | [] => ([c], d :: s)
      else
        let (digits, rest) := readDigits (d :: s)
        (c :: digits, rest)
    else ([], c :: d :: s)

/-- The sign in front of a number, and the rest. -/
def readSign : List Char → Bool × List Char
  | '-' :: s => (true, s)
  | '+' :: s => (false, s)
  | s => (false, s)

/-- The number that decimal digits write. -/
def digitsNumber (digits : List Char) : Nat := digits.foldl (fun n c => n * 10 + (c.toNat - 48)) 0

/-- The exponent at the end of a number; `none` if something else stands there. -/
def readExponent (s : List Char) : Option Int :=
  match s with
  | [] => some 0
  | c :: t =>
    if c == 'e' || c == 'E' then
      let (negative, t) := readSign t
      let (digits, rest) := readDigits t
      if digits.isEmpty || !rest.isEmpty then none
      else
        let n : Int := digitsNumber digits
        some (if negative then -n else n)
    else none

/-- The words for numbers that are not finite. -/
def infinityWords : List (List Char) := ["inf".toList, "infinity".toList]

/-- An exponent, cut where the number is an infinity or zero whatever its digits are. -/
def clampExponent (e : Int) : Int :=
  if e < -100000 then -100000 else if 100000 < e then 100000 else e

/-- The binary64 number that a text writes. -/
def parseFloat? (text : List Char) : Option Binary64 :=
  let (negative, s) := readSign (Text.trim text)
  let word := s.map Char.toLower
  if infinityWords.contains word then some (.infinity negative)
  else if word == "nan".toList then some .nan
  else
    let (whole, s) := readDigits s
    let (fraction, s) := match s with
      | '.' :: t => readDigits t
      | _ => ([], s)
    if whole.isEmpty && fraction.isEmpty then none
    else do
      let e ← readExponent s
      let digits := digitsNumber (whole ++ fraction)
      return if digits = 0 then .zero negative
        else .ofDecimal negative digits (clampExponent e - fraction.length)

/-- The integer that a text writes. -/
def parseInt? (text : List Char) : Option Int :=
  let (negative, s) := readSign (Text.trim text)
  let (digits, rest) := readDigits s
  if digits.isEmpty || !rest.isEmpty || maxDigits < digits.length then none
  else
    let n : Int := digitsNumber digits
    some (if negative then -n else n)

/-- The value as a binary64 number. -/
def toFloat (v : Value) : Outcome Binary64 :=
  match v with
  | .text s =>
    match parseFloat? s.toList with
    | some x => .ok x
    | none => .error .badValue
  | v => do (← v.toNumber).toBinary64

/-- The value as an integer; a binary64 number loses what is after its point. -/
def toInt (v : Value) : Outcome Int :=
  match v with
  | .text s =>
    match parseInt? s.toList with
    | some n => .ok n
    | none => .error .badValue
  | .float x => if x.isNegative then (Number.float x).ceil else (Number.float x).floor
  | v => do (← v.toNumber).floor

end Docsmith.Value
