import Docsmith.Source.Token
import Docsmith.Text.Identifier

/-!
# Cutting Python source into tokens

`tokens` cuts a whole text.  The helpers for one token return the rest of the text after it; `none` means that the
token is malformed.
-/

namespace Docsmith.Source

/-- The text with every line end written as one newline, the last line too. -/
def normalizeLines : List Char → List Char
  | [] => ['\n']
  | '\r' :: '\n' :: s => '\n' :: (if s.isEmpty then [] else normalizeLines s)
  | '\r' :: s => '\n' :: (if s.isEmpty then [] else normalizeLines s)
  | '\n' :: s => '\n' :: (if s.isEmpty then [] else normalizeLines s)
  | c :: s => c :: normalizeLines s

/-! ### Numbers -/

/-- Whether a character may stand inside a word. -/
def isWordChar (c : Char) : Bool :=
  c.isAlphanum || c == '_' || 0x80 ≤ c.toNat

/-- Whether the text starts with a word and no character of a longer one follows. -/
def startsWithWord (word : String) (s : List Char) : Bool :=
  word.toList.isPrefixOf s && !(s.drop word.length).head?.any isWordChar

/-- Whether a number may end here: no word follows at once, except one of those that may follow a number. -/
def numberEnds (s : List Char) : Bool :=
  ["and", "else", "for", "or", "not"].any (startsWithWord · s) ||
    ["if", "in", "is"].any (fun w => w.toList.isPrefixOf s) ||
    !s.head?.any isWordChar

/-- Passes over digits of a class that single underscores may divide; the text starts after the first digit. -/
def digitsTail (isDigit : Char → Bool) : List Char → Option (List Char)
  | [] => some []
  | '_' :: c :: s => if isDigit c then digitsTail isDigit s else none
  | ['_'] => none
  | c :: s => if isDigit c then digitsTail isDigit s else some (c :: s)

/-- Passes over the digits after the letter of a base, which an underscore may precede. -/
def basedDigits (isDigit : Char → Bool) (s : List Char) : Option (List Char) :=
  match (if s.head? == some '_' then s.drop 1 else s) with
  | c :: t => if isDigit c then digitsTail isDigit t else none
  | [] => none

/-- Passes over the letter of an imaginary number, if there is one, and checks the end of the number. -/
def numberSuffix (s : List Char) : Option (Bool × List Char) :=
  match s with
  | c :: t =>
    if c == 'j' || c == 'J' then (if numberEnds t then some (true, t) else none)
    else if numberEnds s then some (false, s) else none
  | [] => some (false, [])

/-- Passes over an exponent, if there is one, and what may follow it; also says whether there was one. -/
def numberExponent (s : List Char) : Option (Bool × Bool × List Char) :=
  match s with
  | e :: t =>
    if e == 'e' || e == 'E' then
      match t with
      | c :: d :: u =>
        if c == '+' || c == '-' then
          if d.isDigit then do
            let rest ← digitsTail Char.isDigit u
            let (imaginary, rest) ← numberSuffix rest
            return (true, imaginary, rest)
          else none
        else if c.isDigit then do
          let rest ← digitsTail Char.isDigit (d :: u)
          let (imaginary, rest) ← numberSuffix rest
          return (true, imaginary, rest)
        else if numberEnds s then some (false, false, s) else none
      | [c] => if c.isDigit then some (true, false, []) else if numberEnds s then some (false, false, s) else none
      | [] => none
    else do
      let (imaginary, rest) ← numberSuffix s
      return (false, imaginary, rest)
  | [] => some (false, false, [])

/-- Passes over the digits after a point and what may follow them. -/
def numberFraction (s : List Char) : Option (Bool × List Char) := do
  let rest ← match s with
    | c :: t => if c.isDigit then digitsTail Char.isDigit t else some s
    | [] => some []
  let (_, imaginary, rest) ← numberExponent rest
  return (imaginary, rest)

/-- A number: whether it is an integer in decimal digits, whether it is imaginary, and the rest of the text. -/
structure NumberEnd where
  decimalInteger : Bool
  imaginary : Bool
  rest : List Char

/-- What may follow the digits before the point of a number. -/
def numberAfterDigits (zeros : Bool) (s : List Char) : Option NumberEnd :=
  match s with
  | '.' :: t => do
    let (imaginary, rest) ← numberFraction t
    return ⟨false, imaginary, rest⟩
  | _ => do
    let (hasExponent, imaginary, rest) ← numberExponent s
    if zeros && !hasExponent && !imaginary then none else return ⟨!hasExponent && !imaginary, imaginary, rest⟩

/-- Passes over zeros that single underscores may divide. -/
def zerosTail : List Char → Option (List Char)
  | '_' :: c :: s => if c == '0' then zerosTail s else if c.isDigit then some (c :: s) else none
  | ['_'] => none
  | '0' :: s => zerosTail s
  | s => some s

/-- Whether a character is a digit of the base named by a letter. -/
def basedDigit? (letter : Char) : Option (Char → Bool) :=
  if letter == 'x' || letter == 'X' then some fun c => c.isDigit || ('a' ≤ c && c ≤ 'f') || ('A' ≤ c && c ≤ 'F')
  else if letter == 'o' || letter == 'O' then some fun c => '0' ≤ c && c ≤ '7'
  else if letter == 'b' || letter == 'B' then some fun c => c == '0' || c == '1'
  else none

/-- Passes over a number that starts with a digit.  After a base no further decimal digit may follow. -/
def scanNumber (s : List Char) : Option NumberEnd :=
  match s with
  | '0' :: t =>
    match t.head?.bind basedDigit? with
    | some isDigit => do
      let rest ← basedDigits isDigit (t.drop 1)
      if rest.head?.any Char.isDigit || !numberEnds rest then none else return ⟨false, false, rest⟩
    | none => do
      let rest ← zerosTail t
      if rest.head?.any Char.isDigit then
        let rest ← digitsTail Char.isDigit (rest.drop 1)
        numberAfterDigits true rest
      else numberAfterDigits false rest
  | _ :: t => do
    let rest ← digitsTail Char.isDigit t
    numberAfterDigits false rest
  | [] => none

/-- The most decimal digits of an integer. -/
def maxIntegerDigits : Nat := 4300

/-! ### Strings -/

/-- Whether letters may stand before the quotes of a string. -/
def isStringLead (lead : List Char) : Bool :=
  ["", "r", "u", "b", "f", "br", "rb", "fr", "rf"].contains (String.ofList (lead.map Char.toLower))

/-- The body of a string up to the quote `q`, and the rest after it; the string ends on its line. -/
def scanShort (q : Char) (acc : List Char) : List Char → Option (List Char × List Char)
  | [] => none
  | ['\\'] => none
  | '\\' :: c :: s => scanShort q (c :: '\\' :: acc) s
  | c :: s => if c == q then some (acc.reverse, s) else if c == '\n' then none else scanShort q (c :: acc) s

/-- The body of a string up to three quotes `q`, and the rest after them. -/
def scanLong (q : Char) (acc : List Char) : List Char → Option (List Char × List Char)
  | [] => none
  | ['\\'] => none
  | '\\' :: c :: s => scanLong q (c :: '\\' :: acc) s
  | c :: s => if [q, q, q].isPrefixOf (c :: s) then some (acc.reverse, s.drop 2) else scanLong q (c :: acc) s

/-- A string that starts with its quotes: its body and the rest. -/
def scanString (s : List Char) : Option (List Char × List Char) :=
  match s with
  | q :: t => if [q, q].isPrefixOf t then scanLong q [] (t.drop 2) else scanShort q [] t
  | [] => none

/-- The letters before the quotes of a string that starts here. -/
def stringLead? (s : List Char) : Option (List Char) :=
  [0, 1, 2].findSome? fun n =>
    let lead := s.take n
    if lead.length = n && isStringLead lead && (s.drop n).head?.any (fun c => c == '"' || c == '\'') then some lead
    else none

/-! ### Names and operators -/

/-- Whether a word is an identifier. -/
def isIdentifier (word : List Char) : Bool :=
  match word with
  | c :: cs => Text.isIdentifierStart c && cs.all Text.isIdentifierPart
  | [] => false

/-- The operators, longer ones first. -/
def operators : List String :=
  ["**=", "...", "//=", "<<=", ">>=",
   "!=", "%=", "&=", "**", "*=", "+=", "-=", "->", "//", "/=", ":=", "<<", "<=", "<>", "==", ">=", ">>", "@=", "^=",
   "|=",
   "(", ")", "[", "]", ":", ",", ";", "+", "-", "*", "/", "|", "&", "<", ">", "=", ".", "%", "\x7b", "\x7d", "~",
   "^", "@"]

/-- The most brackets in each other. -/
def maxBrackets : Nat := 200

/-- The brackets that are open after an operator, innermost first; `none` if the operator does not fit. -/
def trackBrackets (operator : List Char) (opened : List Char) : Option (List Char) :=
  match operator with
  | [c] =>
    if c == '(' || c == '[' || c == '\x7b' then (if opened.length < maxBrackets then some (c :: opened) else none)
    else if c == ')' || c == ']' || c == '\x7d' then
      match opened with
      | o :: rest =>
        if (o == '(' && c == ')') || (o == '[' && c == ']') || (o == '\x7b' && c == '\x7d') then some rest else none
      | [] => none
    else some opened
  | _ => some opened

/-! ### Indentation -/

/-- The indentation of a line: its width with tabs to eight columns and with tabs of one column, and where the
text starts. -/
structure Margin where
  width : Nat
  narrow : Nat
  rest : List Char

/-- Measures the indentation of a line.  A line that is continued before its text has the indentation of its first
part, `first`, unless that is none. -/
def margin (width narrow first : Nat) : List Char → Option Margin
  | ' ' :: s => margin (width + 1) (narrow + 1) first s
  | '\t' :: s => margin ((width / 8 + 1) * 8) (narrow + 1) first s
  | '\x0c' :: s => margin 0 0 first s
  | '\\' :: '\n' :: s => if s.isEmpty then none else margin width narrow (if first = 0 then width else first) s
  | '\\' :: _ => none
  | s => some (if first = 0 then ⟨width, narrow, s⟩ else ⟨first, first, s⟩)

/-- The most blocks in each other. -/
def maxIndents : Nat := 100

/-- The tokens for a change of indentation and the indentations of the blocks that are open then, innermost
first. -/
def trackIndent (width narrow : Nat) (indents : List (Nat × Nat)) :
    Except LexFault (List Token × List (Nat × Nat)) :=
  match indents with
  | [] => .error .unindent
  | (w, n) :: outer =>
    if width = w then (if narrow = n then .ok ([], indents) else .error .mixedTabs)
    else if w < width then
      if maxIndents ≤ indents.length then .error .tooDeep
      else if narrow ≤ n then .error .mixedTabs
      else .ok ([⟨.indent, []⟩], (width, narrow) :: indents)
    else
      let closed := indents.takeWhile fun i => width < i.1
      let left := indents.drop closed.length
      match left with
      | (w, n) :: _ =>
        if width ≠ w then .error .unindent
        else if narrow ≠ n then .error .mixedTabs
        else .ok (closed.map fun _ => ⟨.dedent, []⟩, left)
      | [] => .ok ([⟨.dedent, []⟩], outer)

/-! ### The whole text -/

/-- Where the cutting stands: the text left, whether a line starts here, the open blocks and the open brackets. -/
structure Cursor where
  rest : List Char
  atLineStart : Bool
  indents : List (Nat × Nat)
  brackets : List Char

/-- A step of the cutting: tokens, and where to go on unless the text ended or a fault was found. -/
structure Step where
  tokens : List Token
  next : Option Cursor

/-- The step that ends with a fault. -/
def Step.stop (f : LexFault) : Step := ⟨[⟨.fault f, []⟩], none⟩

/-- The step at the start of a line: lines without a token are passed over, and the indentation counts unless
brackets are open. -/
def stepLine (c : Cursor) : Step :=
  match margin 0 0 0 c.rest with
  | none => .stop .unfinished
  | some m =>
    match m.rest with
    | '#' :: s => ⟨[], some { c with rest := (s.dropWhile (· != '\n')).drop 1 }⟩
    | '\n' :: s => ⟨[], some { c with rest := s }⟩
    | s =>
      if !c.brackets.isEmpty then ⟨[], some { c with rest := s, atLineStart := false }⟩
      else match trackIndent m.width m.narrow c.indents with
        | .ok (tokens, indents) => ⟨tokens, some { c with rest := s, atLineStart := false, indents := indents }⟩
        | .error f => .stop f

/-- The step at a word: a string with letters before its quotes, or a name. -/
def stepWord (c : Cursor) : Step :=
  match stringLead? c.rest with
  | some lead =>
    match scanString (c.rest.drop lead.length) with
    | some (body, s) => ⟨[⟨.string body, lead⟩], some { c with rest := s }⟩
    | none => .stop .malformed
  | none =>
    let word := c.rest.takeWhile isWordChar
    if word.all (·.toNat < 0x80) || isIdentifier word then
      ⟨[⟨.name, word⟩], some { c with rest := c.rest.drop word.length }⟩
    else .stop .malformed

/-- The step at a number. -/
def stepNumber (c : Cursor) (number : Option NumberEnd) : Step :=
  match number with
  | some n =>
    let text := c.rest.take (c.rest.length - n.rest.length)
    let tooLong := n.decimalInteger && maxIntegerDigits < (text.filter Char.isDigit).length
    ⟨[⟨.number n.imaginary tooLong, text⟩], some { c with rest := n.rest }⟩
  | none => .stop .malformed

/-- The step at an operator or at a character that starts no token. -/
def stepOperator (c : Cursor) (first : Char) : Step :=
  match operators.find? fun o => o.toList.isPrefixOf c.rest with
  | some o =>
    match trackBrackets o.toList c.brackets with
    | some brackets =>
      ⟨[⟨.op, o.toList⟩], some { c with rest := c.rest.drop o.length, brackets := brackets }⟩
    | none => .stop .malformed
  | none =>
    if first.toNat < 0x20 || first.toNat == 0x7F then .stop .malformed
    else ⟨[⟨.unknown, [first]⟩], some { c with rest := c.rest.drop 1 }⟩

/-- The step inside a line. -/
def stepToken (c : Cursor) : Step :=
  match c.rest with
  | [] => if c.brackets.isEmpty then ⟨[⟨.finish, []⟩], none⟩ else .stop .unfinished
  | first :: s =>
    if first == ' ' || first == '\t' || first == '\x0c' then ⟨[], some { c with rest := s }⟩
    else if first == '#' then ⟨[], some { c with rest := s.dropWhile (· != '\n') }⟩
    else if first == '\n' then
      ⟨if c.brackets.isEmpty then [⟨.newline, []⟩] else [], some { c with rest := s, atLineStart := true }⟩
    else if first == '\\' then
      match s with
      | '\n' :: t => if t.isEmpty then .stop .unfinished else ⟨[], some { c with rest := t }⟩
      | _ => .stop .unfinished
    else if first == '"' || first == '\'' || (isWordChar first && !first.isDigit) then stepWord c
    else if first.isDigit then stepNumber c (scanNumber c.rest)
    else if first == '.' && s.head?.any Char.isDigit then
      stepNumber c ((numberFraction s).map fun (imaginary, rest) => ⟨false, imaginary, rest⟩)
    else stepOperator c first

/-- Cuts from a cursor on; the fuel bounds the steps and `acc` holds the tokens so far, in reverse. -/
def tokensFrom : Nat → Cursor → List Token → List Token
  | 0, _, acc => (⟨.fault .unfinished, []⟩ :: acc).reverse
  | fuel + 1, c, acc =>
    let step := if c.atLineStart then stepLine c else stepToken c
    match step.next with
    | some next => tokensFrom fuel next (step.tokens.reverse ++ acc)
    | none => (step.tokens.reverse ++ acc).reverse

/-- The tokens of a text. -/
def tokens (text : List Char) : List Token :=
  let text := normalizeLines text
  tokensFrom (2 * text.length + 4) ⟨text, true, [(0, 0)], []⟩ []

end Docsmith.Source
