import Docsmith.Source.Lexer
import Docsmith.Source.Syntax
import Docsmith.Text.CharName
import Docsmith.Text.Normal

/-!
# The outline of a source

The statements of a source as far as its documentation needs them: definitions with their bodies, statements that are
an expression, and all others.  `outline` reads a text; a text that is not Python fails with a fault of syntax or of
indentation.
-/

namespace Docsmith.Source

/-- A statement. -/
inductive Stmt where
  /-- An expression, with its text if it is nothing but string literals. -/
  | expression (text : Option (List Char))
  | function (isAsync : Bool) (name : List Char) (body : List Stmt)
  | classDef (name : List Char) (body : List Stmt)
  /-- Any other statement with statements inside. -/
  | compound (body : List Stmt)
  | simple
  deriving Repr

/-! ### String literals inside expressions -/

/-- Whether a text in parentheses is an expression, with string literals judged by `literalsFit`. -/
def acceptsExpression (literalsFit : List Literal → Bool) (text : List Char) : Bool :=
  let input : Peg.Input := ⟨(tokens ('(' :: text ++ [')'])).toArray, literalsFit, false⟩
  match (Peg.parse python input .starExpressions).1 with
  | .yes _ _ => true
  | _ => false

/-- Whether all literals are well formed.  The fuel bounds how deep literals stand in the expressions of others. -/
def literalsFit : Nat → List Literal → Bool
  | 0, _ => false
  | depth + 1, ls => ls.all (Literal.isWellFormed Text.namedCode? (acceptsExpression (literalsFit depth)))

/-! ### From the grammar's nodes to statements -/

/-- The literals among tokens. -/
def literalsOf (ts : List Token) : List Literal :=
  ts.filterMap fun t =>
    match t.kind with
    | .string body => some ⟨t.text, body⟩
    | _ => none

/-- The tokens between the parentheses around an expression, as many as open and close it. -/
def insideParentheses (ts : List Token) : List Token :=
  let opening := (ts.takeWhile fun t => t.text == ['('] && t.kind == .op).length
  (ts.drop opening).take (ts.length - 2 * opening)

/-- The text of an expression that is nothing but string literals. -/
def loneText? (ts : List Token) : Option (List Char) :=
  let inside := insideParentheses ts
  let literals := literalsOf inside
  if literals.isEmpty || literals.length != inside.length then none else Literal.text? Text.namedCode? literals

/-- The tokens `start ≤ i < stop`. -/
def tokenRange (ts : Array Token) (start stop : Nat) : List Token :=
  (ts.extract start stop).toList

/-- The name that a token gives. -/
def nameAt (ts : Array Token) (i : Nat) : List Char := Text.normalForm (ts.getD i default).text

mutual

/-- The statement of a node. -/
def stmtOf (ts : Array Token) : Tree Rule → Stmt
  | .node rule start stop children =>
    match rule, children with
    | .expressionStatement, _ => .expression (loneText? (tokenRange ts start stop))
    | .classBody, body => .classDef (nameAt ts (start + 1)) (stmtsOf ts body)
    | .functionBody, body => .function false (nameAt ts (start + 1)) (stmtsOf ts body)
    | .asyncFunctionBody, body => .function true (nameAt ts (start + 2)) (stmtsOf ts body)
    | .simpleStatement, [inner] => stmtOf ts inner
    | .simpleStatement, _ => .simple
    | _, [.node .classBody i j body] => stmtOf ts (.node .classBody i j body)
    | _, [.node .functionBody i j body] => stmtOf ts (.node .functionBody i j body)
    | _, [.node .asyncFunctionBody i j body] => stmtOf ts (.node .asyncFunctionBody i j body)
    | _, body => .compound (stmtsOf ts body)

/-- The statements of nodes. -/
def stmtsOf (ts : Array Token) : List (Tree Rule) → List Stmt
  | [] => []
  | t :: rest => stmtOf ts t :: stmtsOf ts rest

end

/-! ### Reading a text -/

/-- Whether the tokens end with one that is malformed by itself. -/
def endsMalformed (ts : Array Token) : Bool :=
  match ts.back? with
  | some t => t.kind == .fault .malformed
  | none => false

/-- The fault of a text that the grammar refuses.  The grammar is run once more with its complaints; a complaint
about indentation gives way to a malformed token further on, and without a complaint the last token that was looked
at decides. -/
def refusal (input : Peg.Input) (furthest : Nat) : Fault :=
  match (Peg.parse python { input with refused := true } .file).1 with
  | .halt f complaint => if complaint && endsMalformed input.tokens then .badSyntax else f
  | _ =>
    match (input.tokens.getD furthest default).kind with
    | .indent => .badIndentation
    | .dedent => .badIndentation
    | _ => .badSyntax

/-- The statements of a text. -/
def outline (text : List Char) : Outcome (List Stmt) :=
  if text.contains '\x00' then .error .badSyntax
  else
    let ts := (tokens text).toArray
    let input : Peg.Input := ⟨ts, literalsFit (text.length + 1), false⟩
    match Peg.parse python input .file with
    | (.yes _ trees, _) => .ok (stmtsOf ts trees)
    | (.halt f _, _) => .error f
    | (.no _, furthest) => .error (refusal input furthest)

end Docsmith.Source
