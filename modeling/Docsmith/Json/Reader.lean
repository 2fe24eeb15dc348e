import Docsmith.Fault

/-!
# Reading JSON

A reader of JSON texts that keeps integers exact and apart from numbers with a point or an exponent, keeps fields in
the order of the text (the last value of a repeated name wins), and also takes `NaN`, `Infinity` and `-Infinity`.
The readers of parts return the rest of the text.  The fuel bounds the nesting; the length of the text is enough.
-/

namespace Docsmith.Json

/-- Drops the blanks between tokens. -/
def skipBlanks (s : List Char) : List Char :=
  s.dropWhile fun c => c == ' ' || c == '\t' || c == '\n' || c == '\r'

/-- The value of a hexadecimal digit. -/
def hexDigit? (c : Char) : Option Nat :=
  if '0' ≤ c ∧ c ≤ '9' then some (c.toNat - 48)
  else if 'a' ≤ c ∧ c ≤ 'f' then some (c.toNat - 87)
  else if 'A' ≤ c ∧ c ≤ 'F' then some (c.toNat - 55)
  else none

/-- The number written by four hexadecimal digits. -/
def unit? (a b c d : Char) : Option Nat := do
  let a ← hexDigit? a
  let b ← hexDigit? b
  let c ← hexDigit? c
  let d ← hexDigit? d
  return ((a * 16 + b) * 16 + c) * 16 + d

/-- The character of a one-letter escape. -/
def escape? (c : Char) : Option Char :=
  match c with
  | '"' => some '"'
  | '\\' => some '\\'
  | '/' => some '/'
  | 'b' => some '\x08'
  | 'f' => some '\x0c'
  | 'n' => some '\n'
  | 'r' => some '\r'
  | 't' => some '\t'
  | _ => none

/-- A character by its code point; half of a surrogate pair has none and becomes the replacement character. -/
def charOfCode (n : Nat) : Char :=
  if n.isValidChar then Char.ofNat n else Char.ofNat 0xFFFD

/-- The characters of code points in which a pair of surrogates stands for one character. -/
def joinPairs : List Nat → List Char
  | [] => []
  | [n] => [charOfCode n]
  | m :: n :: ns =>
    if 0xD800 ≤ m ∧ m < 0xDC00 ∧ 0xDC00 ≤ n ∧ n < 0xE000 then
      charOfCode (0x10000 + (m - 0xD800) * 0x400 + (n - 0xDC00)) :: joinPairs ns
    else charOfCode m :: joinPairs (n :: ns)

/-- Reads the rest of a text after its opening quote; `acc` holds the code points that were read, in reverse. -/
def readText (acc : List Nat) : List Char → Option (List Char × List Char)
  | [] => none
  | '"' :: s => some (joinPairs acc.reverse, s)
  | '\\' :: 'u' :: a :: b :: c :: d :: s =>
    match unit? a b c d with
    | some code => readText (code :: acc) s
    | none => none
  | '\\' :: c :: s =>
    match escape? c with
    | some c => readText (c.toNat :: acc) s
    | none => none
  | c :: s => if c.toNat < 0x20 then none else readText (c.toNat :: acc) s

/-- The number that decimal digits write. -/
def digitsValue (digits : List Char) : Nat :=
  digits.foldl (fun n c => n * 10 + (c.toNat - 48)) 0

/-- The part of a number after its integer digits: the digits of the fraction and the exponent. -/
structure Tail where
  fraction : List Char
  exponent : Option Int
  rest : List Char

/-- Reads the fraction and the exponent, where they are complete. -/
def readTail (s : List Char) : Tail :=
  let (fraction, s) := match s with
    | '.' :: t =>
      let digits := t.takeWhile Char.isDigit
      if digits.isEmpty then ([], s) else (digits, t.dropWhile Char.isDigit)
    | _ => ([], s)
  match s with
  | c :: t =>
    if c == 'e' || c == 'E' then
      let (negative, t) := match t with
        | '-' :: u => (true, u)
        | '+' :: u => (false, u)
        | _ => (false, t)
      let digits := t.takeWhile Char.isDigit
      if digits.isEmpty then ⟨fraction, none, s⟩
      else
        let n : Int := digitsValue digits
        ⟨fraction, some (if negative then -n else n), t.dropWhile Char.isDigit⟩
    else ⟨fraction, none, s⟩
  | [] => ⟨fraction, none, []⟩

/-- The power of ten beyond which a number is an infinity or zero whatever its digits are. -/
def exponentLimit : Int := 100000

/-- Reads a number after its sign. -/
def readNumber (negative : Bool) (s : List Char) : Outcome (Value × List Char) :=
  let whole := match s with
    | '0' :: _ => ['0']
    | _ => s.takeWhile Char.isDigit
  if whole.isEmpty then .error .badJson
  else
    let tail := readTail (s.drop whole.length)
    if tail.fraction.isEmpty && tail.exponent.isNone then
      if Value.maxDigits < whole.length then .error .badValue
      else
        let n : Int := digitsValue whole
        .ok (.int (if negative then -n else n), tail.rest)
    else
      let digits := digitsValue (whole ++ tail.fraction)
      let e := max (-exponentLimit) (min exponentLimit (tail.exponent.getD 0)) - tail.fraction.length
      .ok (.float (if digits = 0 then .zero negative else .ofDecimal negative digits e), tail.rest)

/-- Drops a word at the start. -/
def dropWord? (word : String) (s : List Char) : Option (List Char) :=
  if word.toList.isPrefixOf s then some (s.drop word.length) else none

/-- Reads one of the words that stand for a value. -/
def readWord (s : List Char) : Outcome (Value × List Char) :=
  let words : List (String × Value) :=
    [("null", .null), ("true", .bool true), ("false", .bool false), ("NaN", .float .nan),
     ("Infinity", .float (.infinity false)), ("-Infinity", .float (.infinity true))]
  match words.findSome? fun (w, v) => (dropWord? w s).map fun rest => (v, rest) with
  | some r => .ok r
  | none => .error .badJson

mutual

/-- Reads a value that starts at once. -/
def readValue : Nat → List Char → Outcome (Value × List Char)
  | 0, _ => .error .badJson
  | fuel + 1, s =>
    match s with
    | '"' :: t =>
      match readText [] t with
      | some (text, rest) => .ok (.text (String.ofList text), rest)
      | none => .error .badJson
    | '[' :: t =>
      match skipBlanks t with
      | ']' :: rest => .ok (.list [], rest)
      | u => do
        let (items, rest) ← readItems fuel u
        .ok (.list items, rest)
    | '\x7b' :: t =>
      match skipBlanks t with
      | '\x7d' :: rest => .ok (.record [], rest)
      | u => do
        let (fields, rest) ← readFields fuel [] u
        .ok (.record fields, rest)
    | '-' :: t => match t with
      | 'I' :: _ => readWord s
      | _ => readNumber true t
    | c :: _ => if c.isDigit then readNumber false s else readWord s
    | [] => .error .badJson

/-- Reads the members of a list up to its bracket. -/
def readItems : Nat → List Char → Outcome (List Value × List Char)
  | 0, _ => .error .badJson
  | fuel + 1, s => do
    let (v, s) ← readValue fuel s
    match skipBlanks s with
    | ',' :: t =>
      let (vs, rest) ← readItems fuel (skipBlanks t)
      .ok (v :: vs, rest)
    | ']' :: rest => .ok ([v], rest)
    | _ => .error .badJson

/-- Reads the fields of a record up to its brace; `acc` holds those before. -/
def readFields : Nat → Fields Value → List Char → Outcome (Fields Value × List Char)
  | 0, _, _ => .error .badJson
  | fuel + 1, acc, s =>
    match s with
    | '"' :: t =>
      match readText [] t with
      | none => .error .badJson
      | some (name, s) =>
        match skipBlanks s with
        | ':' :: t => do
          let (v, s) ← readValue fuel (skipBlanks t)
          let acc := Fields.put (String.ofList name) v acc
          match skipBlanks s with
          | ',' :: t => readFields fuel acc (skipBlanks t)
          | '\x7d' :: rest => .ok (acc, rest)
          | _ => .error .badJson
        | _ => .error .badJson
    | _ => .error .badJson

end

/-- Reads a whole text as one value. -/
def read (s : List Char) : Outcome Value := do
  let (v, rest) ← readValue (s.length + 1) (skipBlanks s)
  if (skipBlanks rest).isEmpty then .ok v else .error .badJson

end Docsmith.Json
