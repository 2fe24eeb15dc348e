import Std.Data.TreeMap
import Docsmith.Fault
import Docsmith.Source.Literal
import Docsmith.Source.Token

/-!
# Parsing expression grammars over tokens

A grammar gives each of its rules a parsing expression; choices are ordered and repetitions take as much as they can.
`parse` runs a rule and remembers what every rule gave at every position, so that its time is linear in the tokens.
Rules that are marked leave a node in the result; the others only pass on the nodes inside them.
-/

namespace Docsmith.Source

/-- A test of one token. -/
inductive Test where
  | keyword (word : String)
  /-- A name that is a keyword in one place only. -/
  | soft (word : String)
  | op (text : String)
  | name
  | number
  | real
  | imaginary
  | newline
  | indent
  | dedent
  | finish
  deriving DecidableEq, Repr

/-- A parsing expression over rules named by `R`. -/
inductive Peg (R : Type) where
  | token (t : Test)
  /-- String literals that follow each other, one at least. -/
  | strings
  | rule (r : R)
  | seq (parts : List (Peg R))
  | choice (options : List (Peg R))
  | opt (p : Peg R)
  | many (p : Peg R)
  | many1 (p : Peg R)
  /-- One or more `p` with `s` between them. -/
  | sep1 (p s : Peg R)
  | ahead (p : Peg R)
  | notAhead (p : Peg R)
  /-- No other option of the choice is tried once this is passed. -/
  | cut
  /-- Tried only when a text that was refused is looked at once more for the reason. -/
  | whenRefused (p : Peg R)
  | complain (f : Fault)

/-- A marked rule and the tokens `start ≤ i < stop` that it took. -/
inductive Tree (R : Type) where
  | node (rule : R) (start stop : Nat) (children : List (Tree R))

/-- A grammar. -/
structure Grammar (R : Type) where
  body : R → Peg R
  marked : R → Bool
  index : R → Nat

/-- The fault that a reader reports when it comes to a token that could not be cut. -/
def LexFault.toFault : LexFault → Fault
  | .malformed => .badSyntax
  | .unfinished => .badSyntax
  | .mixedTabs => .mixedTabs
  | .unindent => .badIndentation
  | .tooDeep => .badIndentation

namespace Peg

variable {R : Type}

/-- What a parsing expression gives at a position. -/
inductive Found (R : Type) where
  | yes (stop : Nat) (trees : List (Tree R))
  | no (cut : Bool)
  /-- The reading ends with a fault: of a token, or a complaint of the grammar. -/
  | halt (fault : Fault) (complaint : Bool)

/-- What was found so far, and the last token that was looked at. -/
structure Memory (R : Type) where
  seen : Std.TreeMap Nat (Option (Nat × List (Tree R)))
  furthest : Nat

/-- What a run reads: the tokens, the judgement on string literals and whether the text was refused before. -/
structure Input where
  tokens : Array Token
  literalsFit : List Literal → Bool
  refused : Bool

/-- Whether a token passes a test. -/
def passes (t : Test) (k : Token) : Bool :=
  match t, k.kind with
  | .keyword w, .name => k.text == w.toList
  | .soft w, .name => k.text == w.toList
  | .op o, .op => k.text == o.toList
  | .name, .name => !keywords.contains (String.ofList k.text)
  | .number, .number _ _ => true
  | .real, .number imaginary _ => !imaginary
  | .imaginary, .number imaginary _ => imaginary
  | .newline, .newline => true
  | .indent, .indent => true
  | .dedent, .dedent => true
  | .finish, .finish => true
  | _, _ => false

/-- Whether a token is an integer that is too long to be read. -/
def isTooLong (k : Token) : Bool :=
  match k.kind with
  | .number _ tooLong => tooLong
  | _ => false

/-- Looks at a token. -/
def look (input : Input) (pos : Nat) (m : Memory R) : Except LexFault (Option Token) × Memory R :=
  let m := { m with furthest := max m.furthest pos }
  match input.tokens[pos]? with
  | some k =>
    match k.kind with
    | .fault f => (.error f, m)
    | _ => (.ok (some k), m)
  | none => (.ok none, m)

/-- Tests the token at a position. -/
def readToken (input : Input) (t : Test) (pos : Nat) (m : Memory R) : Found R × Memory R :=
  match look input pos m with
  | (.error f, m) => (.halt f.toFault false, m)
  | (.ok none, m) => (.no false, m)
  | (.ok (some k), m) =>
    if passes t k then (if isTooLong k then (.halt .badSyntax false, m) else (.yes (pos + 1) [], m))
    else (.no false, m)

/-- The string literals from a position on, and the fault if one follows them; the fuel bounds their number. -/
def literalsFrom (input : Input) : Nat → Nat → Memory R → List Literal × Option LexFault × Memory R
  | 0, _, m => ([], none, m)
  | fuel + 1, pos, m =>
    match look input pos m with
    | (.error f, m) => ([], some f, m)
    | (.ok none, m) => ([], none, m)
    | (.ok (some k), m) =>
      match k.kind with
      | .string body =>
        let (ls, f, m) := literalsFrom input fuel (pos + 1) m
        (⟨k.text, body⟩ :: ls, f, m)
      | _ => ([], none, m)

/-- Reads string literals that follow each other. -/
def readStrings (input : Input) (pos : Nat) (m : Memory R) : Found R × Memory R :=
  let (ls, f, m) := literalsFrom input (input.tokens.size + 1) pos m
  match f with
  | some f => (.halt f.toFault false, m)
  | none =>
    if ls.isEmpty then (.no false, m)
    else if Literal.fitTogether ls && input.literalsFit ls then (.yes (pos + ls.length) [], m)
    else (.halt .badSyntax true, m)

/-- The place of a rule and a position in the memory. -/
def key (g : Grammar R) (r : R) (pos : Nat) : Nat := pos * 256 + g.index r

/-- Remembers what a rule gave at a position. -/
def Memory.store (k : Nat) (entry : Option (Nat × List (Tree R))) (m : Memory R) : Memory R :=
  { m with seen := m.seen.insert k entry }

mutual

/-- Runs a parsing expression at a position.  The fuel bounds the depth of the recursion. -/
def run (g : Grammar R) (input : Input) : Nat → Peg R → Nat → Memory R → Found R × Memory R
  | 0, _, _, m => (.halt .badSyntax false, m)
  | fuel + 1, p, pos, m =>
    match p with
    | .token t => readToken input t pos m
    | .strings => readStrings input pos m
    | .rule r =>
      match m.seen[key g r pos]? with
      | some (some (stop, trees)) => (.yes stop trees, m)
      | some none => (.no false, m)
      | none =>
        match run g input fuel (g.body r) pos m with
        | (.yes stop trees, m) =>
          let trees := if g.marked r then [.node r pos stop trees] else trees
          (.yes stop trees, m.store (key g r pos) (some (stop, trees)))
        | (.no _, m) => (.no false, m.store (key g r pos) none)
        | (.halt f c, m) => (.halt f c, m)
    | .seq parts => runSeq g input fuel parts pos [] false m
    | .choice options => runChoice g input fuel options pos m
    | .opt p =>
      match run g input fuel p pos m with
      | (.no _, m) => (.yes pos [], m)
      | r => r
    | .many p => runMany g input fuel p pos [] m
    | .many1 p => runSeq g input fuel [p, .many p] pos [] false m
    | .sep1 p s => runSeq g input fuel [p, .many (.seq [s, p])] pos [] false m
    | .ahead p =>
      match run g input fuel p pos m with
      | (.yes _ _, m) => (.yes pos [], m)
      | r => r
    | .notAhead p =>
      match run g input fuel p pos m with
      | (.yes _ _, m) => (.no false, m)
      | (.no _, m) => (.yes pos [], m)
      | r => r
    | .cut => (.yes pos [], m)
    | .whenRefused p => if input.refused then run g input fuel p pos m else (.no false, m)
    | .complain f => (.halt f true, m)

/-- Runs parsing expressions one after the other; `acc` holds the nodes so far, in reverse. -/
def runSeq (g : Grammar R) (input : Input) :
    Nat → List (Peg R) → Nat → List (Tree R) → Bool → Memory R → Found R × Memory R
  | 0, _, _, _, _, m => (.halt .badSyntax false, m)
  | _ + 1, [], pos, acc, _, m => (.yes pos acc.reverse, m)
  | fuel + 1, p :: ps, pos, acc, passedCut, m =>
    let passedCut := match p with
      | .cut => true
      | _ => passedCut
    match run g input fuel p pos m with
    | (.yes stop trees, m) => runSeq g input fuel ps stop (trees.reverse ++ acc) passedCut m
    | (.no _, m) => (.no passedCut, m)
    | (.halt f c, m) => (.halt f c, m)

/-- Tries parsing expressions in turn. -/
def runChoice (g : Grammar R) (input : Input) :
    Nat → List (Peg R) → Nat → Memory R → Found R × Memory R
  | 0, _, _, m => (.halt .badSyntax false, m)
  | _ + 1, [], _, m => (.no false, m)
  | fuel + 1, p :: ps, pos, m =>
    match run g input fuel p pos m with
    | (.no false, m) => runChoice g input fuel ps pos m
    | (.no true, m) => (.no false, m)
    | r => r

/-- Runs a parsing expression as often as it goes on. -/
def runMany (g : Grammar R) (input : Input) :
    Nat → Peg R → Nat → List (Tree R) → Memory R → Found R × Memory R
  | 0, _, _, _, m => (.halt .badSyntax false, m)
  | fuel + 1, p, pos, acc, m =>
    match run g input fuel p pos m with
    | (.yes stop trees, m) =>
      if stop = pos then (.yes pos acc.reverse, m) else runMany g input fuel p stop (trees.reverse ++ acc) m
    | (.no _, m) => (.yes pos acc.reverse, m)
    | (.halt f c, m) => (.halt f c, m)

end

/-- Runs a rule from the first token on; also gives the last token that was looked at. -/
def parse (g : Grammar R) (input : Input) (r : R) : Found R × Nat :=
  let (found, m) := run g input (400 * (input.tokens.size + 2)) (.rule r) 0 ⟨∅, 0⟩
  (found, m.furthest)

end Peg

end Docsmith.Source
