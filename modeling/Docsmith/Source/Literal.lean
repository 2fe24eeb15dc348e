import Docsmith.Json.Reader

/-!
# String literals

The letters before the quotes say how the text between them is read: `r` keeps backslashes, `b` makes bytes and `f`
a text with expressions in braces.  A literal that cannot be read gives `none` or `false`.
-/

namespace Docsmith.Source

/-- A string literal: the letters before its quotes and the text between them. -/
structure Literal where
  lead : List Char
  body : List Char
  deriving DecidableEq, Repr

namespace Literal

/-- Whether a letter, in either case, stands before the quotes. -/
def hasLetter (c : Char) (l : Literal) : Bool := (l.lead.map Char.toLower).contains c

/-- Whether backslashes stand for themselves. -/
def isRaw (l : Literal) : Bool := l.hasLetter 'r'

/-- Whether the literal writes bytes. -/
def isBytes (l : Literal) : Bool := l.hasLetter 'b'

/-- Whether the literal has expressions in braces. -/
def isFormat (l : Literal) : Bool := l.hasLetter 'f'

end Literal

/-! ### Escapes -/

/-- The code point of a one-letter escape. -/
def simpleEscape? (c : Char) : Option Nat :=
  match c with
  | '\\' => some 0x5C
  | '\'' => some 0x27
  | '"' => some 0x22
  | 'a' => some 7
  | 'b' => some 8
  | 'f' => some 12
  | 'n' => some 10
  | 'r' => some 13
  | 't' => some 9
  | 'v' => some 11
  | _ => none

/-- The number that hexadecimal digits write. -/
def hexValue? (digits : List Char) : Option Nat :=
  digits.foldlM (fun n c => (Json.hexDigit? c).map (n * 16 + ·)) 0

/-- How many hexadecimal digits follow an escape letter; bytes know only the shortest such escape. -/
def hexLength? (bytes : Bool) (c : Char) : Option Nat :=
  match c with
  | 'x' => some 2
  | 'u' => if bytes then none else some 4
  | 'U' => if bytes then none else some 8
  | _ => none

/-- Whether a character is an octal digit. -/
def isOctal (c : Char) : Bool := '0' ≤ c && c ≤ '7'

/-- The number that octal digits write. -/
def octalValue (digits : List Char) : Nat :=
  digits.foldl (fun n c => n * 8 + (c.toNat - 48)) 0

/-- The code points of one escape after its backslash and how many characters it takes; `none` if it is
malformed.  An escape that has no meaning stands for itself. -/
def escapeAt (bytes : Bool) (named : List Char → Option Nat) (s : List Char) : Option (List Nat × Nat) :=
  match s with
  | [] => some ([0x5C], 0)
  | '\n' :: _ => some ([], 1)
  | c :: t =>
    match simpleEscape? c with
    | some code => some ([code], 1)
    | none =>
      if isOctal c then
        let digits := (s.take 3).takeWhile isOctal
        some ([octalValue digits], digits.length)
      else match hexLength? bytes c with
        | some n =>
          let digits := t.take n
          if digits.length = n then
            match hexValue? digits with
            | some code => if code < 0x110000 then some ([code], n + 1) else none
            | none => none
          else none
        | none =>
          if c == 'N' && !bytes then
            match t with
            | '\x7b' :: u =>
              let name := u.takeWhile (· != '\x7d')
              if name.length < u.length then (named name).map fun code => ([code], name.length + 3) else none
            | _ => none
          else some ([0x5C, c.toNat], 1)

/-- The code points of a text with escapes; `skip` characters belong to the escape before. -/
def unescapeFrom (bytes : Bool) (named : List Char → Option Nat) : Nat → List Char → Option (List Nat)
  | _, [] => some []
  | skip + 1, _ :: s => unescapeFrom bytes named skip s
  | 0, c :: s =>
    if c == '\\' then do
      let (codes, taken) ← escapeAt bytes named s
      let rest ← unescapeFrom bytes named taken s
      return codes ++ rest
    else do
      let rest ← unescapeFrom bytes named 0 s
      return c.toNat :: rest

/-- The code points of a text with escapes. -/
def unescape (bytes : Bool) (named : List Char → Option Nat) (s : List Char) : Option (List Nat) :=
  unescapeFrom bytes named 0 s

/-! ### Texts with expressions in braces -/

/-- What ends the plain part of a text with expressions: its end or a brace, a doubled brace, or a brace that
does not fit. -/
inductive PlainEnd where
  | stop (plain rest : List Char)
  | doubled (plain rest : List Char)
  | bad

/-- Passes over the plain part of a text with expressions.  `inner` is set inside a format, where braces are not
doubled; `named` is set inside the braces of a named character. -/
def plainEnd (raw inner named : Bool) (acc : List Char) : List Char → PlainEnd
  | [] => .stop acc.reverse []
  | c :: s =>
    if named then plainEnd raw inner (c != '\x7d') (c :: acc) s
    else if c == '\\' && !raw then
      match s with
      | 'N' :: '\x7b' :: t => plainEnd raw inner true ('\x7b' :: 'N' :: '\\' :: acc) t
      | d :: t =>
        if d == '\x7b' || d == '\x7d' then braceEnd d ('\\' :: acc) t
        else plainEnd raw inner false (d :: '\\' :: acc) t
      | [] => .stop ('\\' :: acc).reverse []
    else if c == '\x7b' || c == '\x7d' then braceEnd c acc s
    else plainEnd raw inner false (c :: acc) s
where
  /-- A brace ends the plain part unless it is doubled. -/
  braceEnd (c : Char) (acc s : List Char) : PlainEnd :=
    if inner then .stop acc.reverse (c :: s)
    else if s.head? == some c then .doubled (c :: acc).reverse (s.drop 1)
    else if c == '\x7d' then .bad
    else .stop acc.reverse (c :: s)

/-- Whether a closing bracket fits an opening one. -/
def bracketsFit (o c : Char) : Bool :=
  (o == '(' && c == ')') || (o == '[' && c == ']') || (o == '\x7b' && c == '\x7d')

/-- The expression at the start of a text, up to the character that ends it, and the rest from there on.  `skip`
characters are passed over first; `quote` is the quote of the string that the text is in and whether it is tripled,
`opened` holds the open brackets and `acc` the expression so far, in reverse. -/
def expressionEnd (skip : Nat) (quote : Option (Char × Bool)) (opened acc : List Char) :
    List Char → Option (List Char × List Char)
  | [] => none
  | c :: s =>
    match skip, quote with
    | k + 1, _ => expressionEnd k quote opened (c :: acc) s
    | 0, some (q, triple) =>
      if c == '\\' then none
      else if c != q then expressionEnd 0 quote opened (c :: acc) s
      else if !triple then expressionEnd 0 none opened (c :: acc) s
      else if [q, q].isPrefixOf s then expressionEnd 2 none opened (c :: acc) s
      else expressionEnd 0 quote opened (c :: acc) s
    | 0, none =>
      if c == '\\' || c == '#' then none
      else if c == '"' || c == '\'' then
        if [c, c].isPrefixOf s then expressionEnd 2 (some (c, true)) opened (c :: acc) s
        else expressionEnd 0 (some (c, false)) opened (c :: acc) s
      else if c == '(' || c == '[' || c == '\x7b' then
        if opened.length < 200 then expressionEnd 0 none (c :: opened) (c :: acc) s else none
      else if opened.isEmpty && ['!', ':', '\x7d', '=', '>', '<'].contains c then
        if s.head? == some '=' && ['!', '=', '>', '<'].contains c then expressionEnd 1 none opened (c :: acc) s
        else if c == '<' || c == '>' then expressionEnd 0 none opened (c :: acc) s
        else some (acc.reverse, c :: s)
      else if c == ')' || c == ']' || c == '\x7d' then
        match opened with
        | o :: outer => if bracketsFit o c then expressionEnd 0 none outer (c :: acc) s else none
        | [] => none
      else expressionEnd 0 none opened (c :: acc) s

/-- Drops the blanks that may follow the mark of a self-documenting expression. -/
def dropSpaces (s : List Char) : List Char :=
  s.dropWhile fun c => c == ' ' || (9 ≤ c.toNat && c.toNat ≤ 13)

/-- The text after the mark and the conversion that may follow an expression; `none` if the conversion is
malformed. -/
def afterExpression (s : List Char) : Option (List Char) :=
  let s := match s with
    | '=' :: t => dropSpaces t
    | _ => s
  match s with
  | '!' :: c :: t => if c == 's' || c == 'r' || c == 'a' then some t else none
  | ['!'] => none
  | _ => some s

/-- Checks a text with expressions and returns what is left at its end: nothing, or inside a format the closing
brace.  `accepts` judges the text of an expression; the fuel bounds the parts. -/
def formatEnd (accepts : List Char → Bool) (escapesFit : List Char → Bool) (raw : Bool) :
    Nat → Nat → List Char → Option (List Char)
  | 0, _, _ => none
  | fuel + 1, level, s =>
    match plainEnd raw (0 < level) false [] s with
    | .bad => none
    | .doubled plain rest => if raw || escapesFit plain then formatEnd accepts escapesFit raw fuel level rest else none
    | .stop plain rest =>
      if !(raw || escapesFit plain) then none
      else match rest with
        | [] => if level = 0 then some [] else none
        | '\x7b' :: t =>
          if 2 ≤ level then none
          else do
            let (expression, t) ← expressionEnd 0 none [] [] t
            if !accepts expression then none
            else
              let t ← afterExpression t
              let t ← match t with
                | ':' :: u => formatEnd accepts escapesFit raw fuel (level + 1) u
                | _ => some t
              match t with
              | '\x7d' :: u => formatEnd accepts escapesFit raw fuel level u
              | _ => none
        | _ => if level = 0 then none else some rest

/-- Whether a text holds only blanks, and so no expression. -/
def isBlankExpression (s : List Char) : Bool :=
  s.all fun c => c == ' ' || c == '\t' || c == '\n' || c == '\x0c'

namespace Literal

/-- The characters that names in escapes stand for. -/
abbrev Names := List Char → Option Nat

/-- Whether a literal is well formed by itself. -/
def isWellFormed (named : Names) (accepts : List Char → Bool) (l : Literal) : Bool :=
  if l.isBytes then
    l.body.all (·.toNat < 0x80) && (l.isRaw || (unescape true named l.body).isSome)
  else if l.isFormat then
    formatEnd (fun e => !isBlankExpression e && accepts e) (fun s => (unescape false named s).isSome) l.isRaw
      (l.body.length + 2) 0 l.body == some []
  else l.isRaw || (unescape false named l.body).isSome

/-- Whether literals that follow each other may be put together: all write bytes or none does. -/
def fitTogether (ls : List Literal) : Bool :=
  ls.all isBytes || ls.all fun l => !l.isBytes

/-- The text that literals write together, unless one of them writes bytes or has expressions. -/
def text? (named : Names) (ls : List Literal) : Option (List Char) :=
  if ls.any fun l => l.isBytes || l.isFormat then none
  else do
    let parts ← ls.mapM fun l => if l.isRaw then some (l.body.map Char.toNat) else unescape false named l.body
    return Json.joinPairs parts.flatten

end Literal

end Docsmith.Source
