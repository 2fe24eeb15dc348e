/-!
# Reading bytes as UTF-8

A strict reader of UTF-8.  What cannot be read is reported with the place and length of the longest part of a
character that was still right (at least one byte).
-/

namespace Docsmith.Text.Utf8

/-- Why bytes are not UTF-8. -/
inductive Reason where
  | start
  | continuation
  | truncated
  deriving DecidableEq, Repr

/-- Bytes that are not UTF-8: the first bad byte, where it stands, and how many bytes belong to it. -/
structure Failure where
  byte : Nat
  position : Nat
  length : Nat
  reason : Reason
  deriving DecidableEq, Repr

/-- The wording of a reason. -/
def Reason.text : Reason → String
  | .start => "invalid start byte"
  | .continuation => "invalid continuation byte"
  | .truncated => "unexpected end of data"

/-- How many bytes follow a first byte, which values the second may have, and the bits of the first that count. -/
def lead (b : Nat) : Option (Nat × Nat × Nat × Nat) :=
  if b < 0x80 then some (0, 0, 0, b)
  else if b < 0xC2 then none
  else if b < 0xE0 then some (1, 0x80, 0xBF, b - 0xC0)
  else if b < 0xF0 then
    some (2, if b = 0xE0 then 0xA0 else 0x80, if b = 0xED then 0x9F else 0xBF, b - 0xE0)
  else if b < 0xF5 then
    some (3, if b = 0xF0 then 0x90 else 0x80, if b = 0xF4 then 0x8F else 0xBF, b - 0xF0)
  else none

/-- The code point that `count` further bytes complete, if they do; `taken` bytes of it were right so far. -/
def complete (first position : Nat) : Nat → Nat → Nat → Nat → Nat → List Nat → Except Failure Nat
  | 0, _, _, _, acc, _ => .ok acc
  | _ + 1, _, _, taken, _, [] => .error ⟨first, position, taken, .truncated⟩
  | k + 1, lo, hi, taken, acc, b :: bs =>
    if lo ≤ b ∧ b ≤ hi then complete first position k 0x80 0xBF (taken + 1) (acc * 64 + (b - 0x80)) bs
    else .error ⟨first, position, taken, .continuation⟩

/-- Reads the bytes from `position` on; `skip` bytes belong to the character before. -/
def decodeFrom : Nat → Nat → List Nat → Except Failure (List Char)
  | _, _, [] => .ok []
  | position, skip + 1, _ :: bs => decodeFrom (position + 1) skip bs
  | position, 0, b :: bs =>
    match lead b with
    | none => .error ⟨b, position, 1, .start⟩
    | some (count, lo, hi, bits) => do
      let code ← complete b position count lo hi 1 bits bs
      let rest ← decodeFrom (position + 1) count bs
      .ok (Char.ofNat code :: rest)

/-- The text that the bytes encode. -/
def decode (bytes : List Nat) : Except Failure (List Char) :=
  decodeFrom 0 0 bytes

/-- The bytes of a character. -/
def encodeChar (c : Char) : List Nat :=
  let n := c.toNat
  if n < 0x80 then [n]
  else if n < 0x800 then [0xC0 + n / 64, 0x80 + n % 64]
  else if n < 0x10000 then [0xE0 + n / 4096, 0x80 + n / 64 % 64, 0x80 + n % 64]
  else [0xF0 + n / 262144, 0x80 + n / 4096 % 64, 0x80 + n / 64 % 64, 0x80 + n % 64]

/-- The bytes of a text. -/
def encode (s : List Char) : List Nat :=
  s.flatMap encodeChar

end Docsmith.Text.Utf8
