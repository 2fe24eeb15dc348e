import Docsmith.Value.Printer

/-!
# Writing JSON

A value as a JSON text on one line, with a blank after commas and colons.  All but the printable ASCII characters are
escaped; a character beyond the first plane is written as a pair of surrogates.
-/

namespace Docsmith.Json

/-- A 16-bit unit as an escape. -/
def writeUnit (n : Nat) : List Char := '\\' :: 'u' :: Text.hexDigits 4 n

/-- A character inside quotes. -/
def writeChar (c : Char) : List Char :=
  if c = '"' then ['\\', '"']
  else if c = '\\' then ['\\', '\\']
  else if c = '\n' then ['\\', 'n']
  else if c = '\r' then ['\\', 'r']
  else if c = '\t' then ['\\', 't']
  else if c = '\x08' then ['\\', 'b']
  else if c = '\x0c' then ['\\', 'f']
  else if ' ' ≤ c ∧ c ≤ '~' then [c]
  else if c.toNat < 0x10000 then writeUnit c.toNat
  else
    let n := c.toNat - 0x10000
    writeUnit (0xD800 + n / 0x400) ++ writeUnit (0xDC00 + n % 0x400)

/-- A text in quotes. -/
def writeText (s : List Char) : List Char := '"' :: s.flatMap writeChar ++ ['"']

/-- A number. -/
def writeFloat (x : Binary64) : List Char :=
  match x with
  | .nan => "NaN".toList
  | .infinity negative => (if negative then ['-'] else []) ++ "Infinity".toList
  | x => x.text

mutual

/-- A value.  What is no datum is written as null. -/
def write : Value → List Char
  | .bool b => if b then "true".toList else "false".toList
  | .int n => Value.intText n
  | .float x => writeFloat x
  | .text s => writeText s.toList
  | .list items => '[' :: writeItems items ++ [']']
  | .record fields => '\x7b' :: writeFields fields ++ ['\x7d']
  | _ => "null".toList

/-- The members of a list. -/
def writeItems : List Value → List Char
  | [] => []
  | [v] => write v
  | v :: w :: vs => write v ++ ',' :: ' ' :: writeItems (w :: vs)

/-- The fields of a record. -/
def writeFields : List (String × Value) → List Char
  | [] => []
  | [(k, v)] => writeText k.toList ++ ':' :: ' ' :: write v
  | (k, v) :: f :: fs => writeText k.toList ++ ':' :: ' ' :: write v ++ ',' :: ' ' :: writeFields (f :: fs)

end

end Docsmith.Json
