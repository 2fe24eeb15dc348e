/-!
# Occurrences in a text

Cutting a text at a separator and replacing one text by another.  Occurrences are taken from left to right and
do not overlap; both functions recur on the text itself and count down the characters of an occurrence that
still have to be passed.
-/

namespace Docsmith.Text

/-- `replaceFrom old new k s` passes over `k` characters of `s` and then replaces `old` by `new`. -/
def replaceFrom (old new : List Char) : Nat → List Char → List Char
  | _, [] => []
  | k + 1, _ :: s => replaceFrom old new k s
  | 0, c :: s =>
    if old.isPrefixOf (c :: s) then new ++ replaceFrom old new (old.length - 1) s
    else c :: replaceFrom old new 0 s

/-- Replaces every occurrence of `old` by `new`.  The empty text occurs before each character and at the end. -/
def replaceAll (old new s : List Char) : List Char :=
  if old = [] then new ++ s.flatMap (fun c => c :: new) else replaceFrom old new 0 s

/-- `splitFrom sep k acc s` passes over `k` characters of `s` and then cuts it at `sep`; `acc` holds the current
piece in reverse. -/
def splitFrom (sep : List Char) : Nat → List Char → List Char → List (List Char)
  | _, acc, [] => [acc.reverse]
  | k + 1, acc, _ :: s => splitFrom sep k acc s
  | 0, acc, c :: s =>
    if sep.isPrefixOf (c :: s) then acc.reverse :: splitFrom sep (sep.length - 1) [] s
    else splitFrom sep 0 (c :: acc) s

/-- The pieces of `s` between the occurrences of a non-empty separator. -/
def splitOn (sep s : List Char) : List (List Char) :=
  splitFrom sep 0 [] s

/-- Whether `part` occurs in `s`. -/
def occursIn (part : List Char) : List Char → Bool
  | [] => part.isEmpty
  | c :: s => part.isPrefixOf (c :: s) || occursIn part s

/-- Puts `sep` between the pieces. -/
def join (sep : List Char) : List (List Char) → List Char
  | [] => []
  | [p] => p
  | p :: q :: ps => p ++ sep ++ join sep (q :: ps)

/-- Fills up with `fill` on the left to at least `width` characters. -/
def padLeft (width : Nat) (fill : Char) (s : List Char) : List Char :=
  List.replicate (width - s.length) fill ++ s

/-- Fills up with `fill` on the right to at least `width` characters. -/
def padRight (width : Nat) (fill : Char) (s : List Char) : List Char :=
  s ++ List.replicate (width - s.length) fill

end Docsmith.Text
