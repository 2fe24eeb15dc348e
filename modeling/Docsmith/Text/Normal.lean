import Docsmith.Text.Decomposition
import Docsmith.Text.Search

/-!
# Normal form of identifiers

Two identifiers are the same if their compatibility normal forms are.  To normalise, all characters are decomposed,
marks are put in the order of their combining classes, and what can be composed is composed again.
-/

namespace Docsmith.Text

/-- The value of hexadecimal digits. -/
def hexNumber (digits : List Char) : Nat :=
  digits.foldl (fun n c => n * 16 + (if c.isDigit then c.toNat - 48 else c.toNat - 55)) 0

/-- The rows of a table that is written as text. -/
def tableRows (lines : List String) : List (List Nat) :=
  (splitOn [';'] (lines.flatMap String.toList)).map fun row => (splitOn [' '] row).map hexNumber

/-- The decompositions as rows. -/
def decompositions : List (List Nat) := tableRows decompositionLines

/-- The compositions as rows. -/
def compositions : List (List Nat) := tableRows compositionLines

/-- The combining classes as rows. -/
def combiningClasses : List (List Nat) := tableRows combiningClassLines

/-! ### Korean syllables

A syllable stands for two or three letters: a leading consonant, a vowel, and perhaps a trailing consonant. -/

/-- How many syllables begin with the same consonant. -/
def syllablesPerLeading : Nat := 588

/-- How many syllables begin with the same consonant and vowel. -/
def syllablesPerVowel : Nat := 28

/-- The letters of a syllable. -/
def syllableLetters? (c : Nat) : Option (List Nat) :=
  if 0xAC00 ≤ c && c ≤ 0xD7A3 then
    let i := c - 0xAC00
    let start := [0x1100 + i / syllablesPerLeading, 0x1161 + i % syllablesPerLeading / syllablesPerVowel]
    some (if i % syllablesPerVowel = 0 then start else start ++ [0x11A7 + i % syllablesPerVowel])
  else none

/-- The syllable of two letters, or of a syllable without a trailing consonant and one. -/
def syllable? (a b : Nat) : Option Nat :=
  if 0x1100 ≤ a && a ≤ 0x1112 && 0x1161 ≤ b && b ≤ 0x1175 then
    some (0xAC00 + (a - 0x1100) * syllablesPerLeading + (b - 0x1161) * syllablesPerVowel)
  else if 0xAC00 ≤ a && a ≤ 0xD7A3 && (a - 0xAC00) % syllablesPerVowel = 0 && 0x11A8 ≤ b && b ≤ 0x11C2 then
    some (a + (b - 0x11A7))
  else none

/-! ### The three steps -/

/-- What a character decomposes to. -/
def decompose (c : Nat) : List Nat :=
  match syllableLetters? c with
  | some letters => letters
  | none =>
    (decompositions.findSome? fun
      | first :: last :: t :: ts => if first ≤ c && c ≤ last then some ((t + (c - first)) :: ts) else none
      | _ => none).getD [c]

/-- The combining class of a character. -/
def combiningClass (c : Nat) : Nat :=
  (combiningClasses.findSome? fun
    | [first, last, k] => if first ≤ c && c ≤ last then some k else none
    | _ => none).getD 0

/-- Puts a character before others, behind the marks of a lower class that follow at once. -/
def insertMark (c : Nat) : List Nat → List Nat
  | [] => [c]
  | d :: ds =>
    if 0 < combiningClass d && combiningClass d < combiningClass c then d :: insertMark c ds else c :: d :: ds

/-- Puts marks in the order of their classes. -/
def orderMarks (cs : List Nat) : List Nat := cs.foldr insertMark []

/-- The character that two compose to. -/
def compose? (a b : Nat) : Option Nat :=
  match syllable? a b with
  | some c => some c
  | none => compositions.findSome? fun
    | [x, y, c] => if x = a && y = b then some c else none
    | _ => none

/-- Composes marks with the last character of class zero, unless a mark of no lower class stands between.  `marks` are
those that stay behind it, in reverse. -/
def composeFrom (start : Nat) (marks : List Nat) : List Nat → List Nat
  | [] => start :: marks.reverse
  | c :: cs =>
    let reaches := match marks with
      | [] => true
      | m :: _ => combiningClass m < combiningClass c
    match if reaches then compose? start c else none with
    | some whole => composeFrom whole marks cs
    | none =>
      if combiningClass c = 0 then start :: marks.reverse ++ composeFrom c [] cs
      else composeFrom start (c :: marks) cs

/-- Composes what can be composed. -/
def composeAll : List Nat → List Nat
  | [] => []
  | c :: cs => if combiningClass c = 0 then composeFrom c [] cs else c :: composeAll cs

/-- The normal form of an identifier.  One of ASCII characters is its own. -/
def normalForm (name : List Char) : List Char :=
  if name.all (·.toNat < 0x80) then name
  else (composeAll (orderMarks (name.flatMap fun c => decompose c.toNat))).map Char.ofNat

end Docsmith.Text
