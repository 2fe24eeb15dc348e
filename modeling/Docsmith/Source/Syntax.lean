import Docsmith.Source.Peg

/-!
# The grammar of Python 3.11

The published grammar as parsing expressions.  Rules that the reference writes with recursion on the left are written
with repetition here, and type comments are left out.  Of the rules that only look for the reason of a refusal, those
are kept that tell a fault of indentation from other faults.
-/

namespace Docsmith.Source

/-- The rules of the grammar. -/
inductive Rule where
  | file | statements | statement | simpleStatements | simpleStatement | expressionStatement | compoundStatement
  | assignment | annotatedValue | augmentedAssign | returnStatement | raiseStatement | globalStatement
  | nonlocalStatement | delStatement | assertStatement | importStatement | importName | importFrom
  | importTargets | importAsNames | importAsName | dottedAsNames | dottedAsName | dottedName
  | block | decorators | classDefinition | classBody | functionDefinition | functionBody | asyncFunctionBody
  | parameters | slashNoDefault | slashWithDefault | starEtc | doubleStarParameter | parameterNoDefault
  | parameterStarNoDefault | parameterWithDefault | parameterMaybeDefault | parameter | typeNote | default
  | ifStatement | elifStatement | elseBlock | whileStatement | forStatement | withStatement | withItem
  | tryStatement | exceptBlock | exceptStarBlock | finallyBlock
  | matchStatement | subject | caseBlock | guard | patterns | pattern | asPattern | orPattern | closedPattern
  | literalPattern | literalKey | complexNumber | signedNumber | signedReal | captureTarget | wildcard | valuePattern
  | attributePath | namePath | groupPattern | sequencePattern | openSequence | maybeSequence | maybeStarPattern
  | starPattern | mappingPattern | itemsPattern | keyValuePattern | doubleStarPattern | classPattern
  | positionalPatterns | keywordPatterns | keywordPattern
  | expression | yieldExpression | starExpressions | starExpression | starNamedExpressions | starNamedExpression
  | assignmentExpression | namedExpression | disjunction | conjunction | inversion | comparison | comparePair
  | bitwiseOr | bitwiseXor | bitwiseAnd | shift | sum | term | factor | power | awaitPrimary | primary | trailer
  | slices | slice | atom | group | lambda | lambdaParameters | lambdaSlashNoDefault | lambdaSlashWithDefault
  | lambdaStarEtc | lambdaDoubleStar | lambdaNoDefault | lambdaWithDefault | lambdaMaybeDefault
  | list | tuple | set | dict | keyValues | keyValueOrUnpack | keyValue | forIfClauses | forIfClause
  | listComprehension | setComprehension | generator | dictComprehension
  | arguments | args | positionalArgument | kwargs | starred | kwargOrStarred | kwargOrDoubleStarred
  | starTargets | starTargetsList | starTargetsTuple | starTarget | targetWithStar | starAtom
  | singleTarget | singleSubscriptAttribute | targetPrimary | targetLookahead
  | delTargets | delTarget | delAtom
  deriving DecidableEq, Repr

namespace Syntax

/-- A keyword. -/
def kw (word : String) : Peg Rule := .token (.keyword word)

/-- An operator or delimiter. -/
def op (text : String) : Peg Rule := .token (.op text)

/-- A rule. -/
def r (rule : Rule) : Peg Rule := .rule rule

/-- A name that is no keyword. -/
def name : Peg Rule := .token .name

/-- The end of a line. -/
def newline : Peg Rule := .token .newline

/-- One of several operators. -/
def oneOf (texts : List String) : Peg Rule := .choice (texts.map op)

/-- One or more `p` with commas between them. -/
def commas (p : Peg Rule) : Peg Rule := .sep1 p (op ",")

/-- Something with a comma after it, or before the token that ends the list it stands in. -/
def listed (p last : Peg Rule) : Peg Rule := .choice [.seq [p, op ","], .seq [p, .ahead last]]

/-- Operands of a class with operators between them. -/
def chain (operand : Rule) (texts : List String) : Peg Rule :=
  .seq [r operand, .many (.seq [oneOf texts, r operand])]

/-- The complaint that a block is missing. -/
def missingBlock : Peg Rule :=
  .whenRefused (.seq [newline, .notAhead (.token .indent), .complain .badIndentation])

/-- Parameters with a slash after them, before a comma or the token that ends the list. -/
def slashed (p last : Peg Rule) : Peg Rule := .seq [p, op "/", .choice [op ",", .ahead last]]

/-- The parameters of a function or a lambda, from their kinds. -/
def parameterList (slashPlain slashDefault plain withDefault star : Rule) : Peg Rule :=
  .choice
    [.seq [r slashPlain, .many (r plain), .many (r withDefault), .opt (r star)],
     .seq [r slashDefault, .many (r withDefault), .opt (r star)],
     .seq [.many1 (r plain), .many (r withDefault), .opt (r star)],
     .seq [.many1 (r withDefault), .opt (r star)],
     r star]

/-- The last part of a target: an attribute or a subscript. -/
def targetEnd : Peg Rule :=
  .choice
    [.seq [r .targetPrimary, op ".", name, .notAhead (r .targetLookahead)],
     .seq [r .targetPrimary, op "[", r .slices, op "]", .notAhead (r .targetLookahead)]]

/-- A positional argument that is no keyword argument. -/
def plainArgument : Peg Rule :=
  .choice [r .assignmentExpression, .seq [r .expression, .notAhead (op ":=")]]

/-- The statements. -/
def statementBody : Rule → Option (Peg Rule)
  | .file => some <| .seq [.opt (r .statements), .token .finish]
  | .statements => some <| .many1 (r .statement)
  | .statement => some <| .choice [r .compoundStatement, r .simpleStatements]
  | .simpleStatements => some <| .choice
    [.seq [r .simpleStatement, .notAhead (op ";"), newline],
     .seq [.sep1 (r .simpleStatement) (op ";"), .opt (op ";"), newline]]
  | .simpleStatement => some <| .choice
    [r .assignment, r .expressionStatement,
     .seq [.ahead (kw "return"), r .returnStatement],
     .seq [.ahead (.choice [kw "import", kw "from"]), r .importStatement],
     .seq [.ahead (kw "raise"), r .raiseStatement],
     kw "pass",
     .seq [.ahead (kw "del"), r .delStatement],
     .seq [.ahead (kw "yield"), r .yieldExpression],
     .seq [.ahead (kw "assert"), r .assertStatement],
     kw "break", kw "continue",
     .seq [.ahead (kw "global"), r .globalStatement],
     .seq [.ahead (kw "nonlocal"), r .nonlocalStatement]]
  | .expressionStatement => some <| r .starExpressions
  | .compoundStatement => some <| .choice
    [.seq [.ahead (.choice [kw "def", op "@", kw "async"]), r .functionDefinition],
     .seq [.ahead (kw "if"), r .ifStatement],
     .seq [.ahead (.choice [kw "class", op "@"]), r .classDefinition],
     .seq [.ahead (.choice [kw "with", kw "async"]), r .withStatement],
     .seq [.ahead (.choice [kw "for", kw "async"]), r .forStatement],
     .seq [.ahead (kw "try"), r .tryStatement],
     .seq [.ahead (kw "while"), r .whileStatement],
     r .matchStatement]
  | .assignment => some <| .choice
    [.seq [name, op ":", r .expression, .opt (.seq [op "=", r .annotatedValue])],
     .seq [.choice [.seq [op "(", r .singleTarget, op ")"], r .singleSubscriptAttribute], op ":", r .expression,
       .opt (.seq [op "=", r .annotatedValue])],
     .seq [.many1 (.seq [r .starTargets, op "="]), .choice [r .yieldExpression, r .starExpressions],
       .notAhead (op "=")],
     .seq [r .singleTarget, r .augmentedAssign, .cut, .choice [r .yieldExpression, r .starExpressions]]]
  | .annotatedValue => some <| .choice [r .yieldExpression, r .starExpressions]
  | .augmentedAssign => some <|
    oneOf ["+=", "-=", "*=", "@=", "/=", "%=", "&=", "|=", "^=", "<<=", ">>=", "**=", "//="]
  | .returnStatement => some <| .seq [kw "return", .opt (r .starExpressions)]
  | .raiseStatement => some <| .choice
    [.seq [kw "raise", r .expression, .opt (.seq [kw "from", r .expression])], kw "raise"]
  | .globalStatement => some <| .seq [kw "global", commas name]
  | .nonlocalStatement => some <| .seq [kw "nonlocal", commas name]
  | .delStatement => some <| .seq [kw "del", r .delTargets, .ahead (.choice [op ";", newline])]
  | .assertStatement => some <| .seq [kw "assert", r .expression, .opt (.seq [op ",", r .expression])]
  | .importStatement => some <| .choice [r .importName, r .importFrom]
  | .importName => some <| .seq [kw "import", r .dottedAsNames]
  | .importFrom => some <| .choice
    [.seq [kw "from", .many (oneOf [".", "..."]), r .dottedName, kw "import", r .importTargets],
     .seq [kw "from", .many1 (oneOf [".", "..."]), kw "import", r .importTargets]]
  | .importTargets => some <| .choice
    [.seq [op "(", r .importAsNames, .opt (op ","), op ")"],
     .seq [r .importAsNames, .notAhead (op ",")],
     op "*"]
  | .importAsNames => some <| commas (r .importAsName)
  | .importAsName => some <| .seq [name, .opt (.seq [kw "as", name])]
  | .dottedAsNames => some <| commas (r .dottedAsName)
  | .dottedAsName => some <| .seq [r .dottedName, .opt (.seq [kw "as", name])]
  | .dottedName => some <| .sep1 name (op ".")
  | .block => some <| .choice
    [.seq [newline, .token .indent, r .statements, .token .dedent], r .simpleStatements, missingBlock]
  | .decorators => some <| .many1 (.seq [op "@", r .namedExpression, newline])
  | .classDefinition => some <| .choice [.seq [r .decorators, r .classBody], r .classBody]
  | .classBody => some <|
    .seq [kw "class", name, .opt (.seq [op "(", .opt (r .arguments), op ")"]), op ":", r .block]
  | .functionDefinition => some <| .choice
    [.seq [r .decorators, .choice [r .functionBody, r .asyncFunctionBody]], r .functionBody, r .asyncFunctionBody]
  | .functionBody => some <|
    .seq [kw "def", name, op "(", .opt (r .parameters), op ")", .opt (.seq [op "->", r .expression]), op ":",
      r .block]
  | .asyncFunctionBody => some <|
    .seq [kw "async", kw "def", name, op "(", .opt (r .parameters), op ")", .opt (.seq [op "->", r .expression]),
      op ":", r .block]
  | .parameters => some <|
    parameterList .slashNoDefault .slashWithDefault .parameterNoDefault .parameterWithDefault .starEtc
  | .slashNoDefault => some <| slashed (.many1 (r .parameterNoDefault)) (op ")")
  | .slashWithDefault => some <|
    slashed (.seq [.many (r .parameterNoDefault), .many1 (r .parameterWithDefault)]) (op ")")
  | .starEtc => some <| .choice
    [.seq [op "*", r .parameterNoDefault, .many (r .parameterMaybeDefault), .opt (r .doubleStarParameter)],
     .seq [op "*", r .parameterStarNoDefault, .many (r .parameterMaybeDefault), .opt (r .doubleStarParameter)],
     .seq [op "*", op ",", .many1 (r .parameterMaybeDefault), .opt (r .doubleStarParameter)],
     r .doubleStarParameter]
  | .doubleStarParameter => some <| .seq [op "**", r .parameterNoDefault]
  | .parameterNoDefault => some <| listed (r .parameter) (op ")")
  | .parameterStarNoDefault => some <| listed (.seq [name, op ":", r .starExpression]) (op ")")
  | .parameterWithDefault => some <| listed (.seq [r .parameter, r .default]) (op ")")
  | .parameterMaybeDefault => some <| listed (.seq [r .parameter, .opt (r .default)]) (op ")")
  | .parameter => some <| .seq [name, .opt (r .typeNote)]
  | .typeNote => some <| .seq [op ":", r .expression]
  | .default => some <| .seq [op "=", r .expression]
  | .ifStatement => some <| .choice
    [.seq [kw "if", r .namedExpression, op ":", r .block, r .elifStatement],
     .seq [kw "if", r .namedExpression, op ":", r .block, .opt (r .elseBlock)]]
  | .elifStatement => some <| .choice
    [.seq [kw "elif", r .namedExpression, op ":", r .block, r .elifStatement],
     .seq [kw "elif", r .namedExpression, op ":", r .block, .opt (r .elseBlock)]]
  | .elseBlock => some <| .seq [kw "else", op ":", r .block]
  | .whileStatement => some <| .seq [kw "while", r .namedExpression, op ":", r .block, .opt (r .elseBlock)]
  | .forStatement => some <|
    .seq [.opt (kw "async"), kw "for", r .starTargets, kw "in", .cut, r .starExpressions, op ":", r .block,
      .opt (r .elseBlock)]
  | .withStatement => some <| .choice
    [.seq [.opt (kw "async"), kw "with", op "(", commas (r .withItem), .opt (op ","), op ")", op ":", r .block],
     .seq [.opt (kw "async"), kw "with", commas (r .withItem), op ":", r .block]]
  | .withItem => some <| .choice
    [.seq [r .expression, kw "as", r .starTarget, .ahead (oneOf [",", ")", ":"])], r .expression]
  | .tryStatement => some <| .choice
    [.whenRefused (.seq [kw "try", op ":", r .block, .notAhead (.choice [kw "except", kw "finally"]),
       .complain .badSyntax]),
     .seq [kw "try", op ":", r .block, r .finallyBlock],
     .seq [kw "try", op ":", r .block, .many1 (r .exceptBlock), .opt (r .elseBlock), .opt (r .finallyBlock)],
     .seq [kw "try", op ":", r .block, .many1 (r .exceptStarBlock), .opt (r .elseBlock), .opt (r .finallyBlock)]]
  | .exceptBlock => some <| .choice
    [.seq [kw "except", r .expression, .opt (.seq [kw "as", name]), op ":", r .block],
     .seq [kw "except", op ":", r .block]]
  | .exceptStarBlock => some <|
    .seq [kw "except", op "*", r .expression, .opt (.seq [kw "as", name]), op ":", r .block]
  | .finallyBlock => some <| .seq [kw "finally", op ":", r .block]
  | _ => none

/-- The statement that chooses by patterns. -/
def matchBody : Rule → Option (Peg Rule)
  | .matchStatement => some <| .choice
    [.seq [.token (.soft "match"), r .subject, op ":", newline, .token .indent, .many1 (r .caseBlock),
       .token .dedent],
     .whenRefused (.seq [.token (.soft "match"), r .subject, newline, .complain .badSyntax]),
     .whenRefused (.seq [.token (.soft "match"), r .subject, op ":", missingBlock])]
  | .subject => some <| .choice
    [.seq [r .starNamedExpression, op ",", .opt (r .starNamedExpressions)], r .namedExpression]
  | .caseBlock => some <|
    .seq [.token (.soft "case"), r .patterns, .opt (r .guard), op ":", r .block]
  | .guard => some <| .seq [kw "if", r .namedExpression]
  | .patterns => some <| .choice [r .openSequence, r .pattern]
  | .pattern => some <| .choice [r .asPattern, r .orPattern]
  | .asPattern => some <| .seq [r .orPattern, kw "as", r .captureTarget]
  | .orPattern => some <| .sep1 (r .closedPattern) (op "|")
  | .closedPattern => some <| .choice
    [r .literalPattern, r .captureTarget, r .wildcard, r .valuePattern, r .groupPattern, r .sequencePattern,
     r .mappingPattern, r .classPattern]
  | .literalPattern => some <| .choice
    [.seq [r .signedNumber, .notAhead (oneOf ["+", "-"])], r .complexNumber, .strings, kw "None", kw "True",
     kw "False"]
  | .literalKey => some <| .choice
    [.seq [r .signedNumber, .notAhead (oneOf ["+", "-"])], r .complexNumber, .strings, kw "None", kw "True",
     kw "False"]
  | .complexNumber => some <| .seq [r .signedReal, oneOf ["+", "-"], .token .imaginary]
  | .signedNumber => some <| .choice [.token .number, .seq [op "-", .token .number]]
  | .signedReal => some <| .choice [.token .real, .seq [op "-", .token .real]]
  | .captureTarget => some <|
    .seq [.notAhead (.token (.soft "_")), name, .notAhead (oneOf [".", "(", "="])]
  | .wildcard => some <| .token (.soft "_")
  | .valuePattern => some <| .seq [r .attributePath, .notAhead (oneOf [".", "(", "="])]
  | .attributePath => some <| .seq [name, .many1 (.seq [op ".", name])]
  | .namePath => some <| .sep1 name (op ".")
  | .groupPattern => some <| .seq [op "(", r .pattern, op ")"]
  | .sequencePattern => some <| .choice
    [.seq [op "[", .opt (r .maybeSequence), op "]"], .seq [op "(", .opt (r .openSequence), op ")"]]
  | .openSequence => some <| .seq [r .maybeStarPattern, op ",", .opt (r .maybeSequence)]
  | .maybeSequence => some <| .seq [commas (r .maybeStarPattern), .opt (op ",")]
  | .maybeStarPattern => some <| .choice [r .starPattern, r .pattern]
  | .starPattern => some <| .choice [.seq [op "*", r .captureTarget], .seq [op "*", r .wildcard]]
  | .mappingPattern => some <| .choice
    [.seq [op "\x7b", op "\x7d"],
     .seq [op "\x7b", r .doubleStarPattern, .opt (op ","), op "\x7d"],
     .seq [op "\x7b", r .itemsPattern, op ",", r .doubleStarPattern, .opt (op ","), op "\x7d"],
     .seq [op "\x7b", r .itemsPattern, .opt (op ","), op "\x7d"]]
  | .itemsPattern => some <| commas (r .keyValuePattern)
  | .keyValuePattern => some <| .seq [.choice [r .literalKey, r .attributePath], op ":", r .pattern]
  | .doubleStarPattern => some <| .seq [op "**", r .captureTarget]
  | .classPattern => some <| .choice
    [.seq [r .namePath, op "(", op ")"],
     .seq [r .namePath, op "(", r .positionalPatterns, .opt (op ","), op ")"],
     .seq [r .namePath, op "(", r .keywordPatterns, .opt (op ","), op ")"],
     .seq [r .namePath, op "(", r .positionalPatterns, op ",", r .keywordPatterns, .opt (op ","), op ")"]]
  | .positionalPatterns => some <| commas (r .pattern)
  | .keywordPatterns => some <| commas (r .keywordPattern)
  | .keywordPattern => some <| .seq [name, op "=", r .pattern]
  | _ => none

/-- The expressions. -/
def expressionBody : Rule → Option (Peg Rule)
  | .expression => some <| .choice
    [.seq [r .disjunction, kw "if", r .disjunction, kw "else", r .expression], r .disjunction, r .lambda]
  | .yieldExpression => some <| .choice
    [.seq [kw "yield", kw "from", r .expression], .seq [kw "yield", .opt (r .starExpressions)]]
  | .starExpressions => some <| .choice
    [.seq [r .starExpression, .many1 (.seq [op ",", r .starExpression]), .opt (op ",")],
     .seq [r .starExpression, op ","], r .starExpression]
  | .starExpression => some <| .choice [.seq [op "*", r .bitwiseOr], r .expression]
  | .starNamedExpressions => some <| .seq [commas (r .starNamedExpression), .opt (op ",")]
  | .starNamedExpression => some <| .choice [.seq [op "*", r .bitwiseOr], r .namedExpression]
  | .assignmentExpression => some <| .seq [name, op ":=", .cut, r .expression]
  | .namedExpression => some <| .choice [r .assignmentExpression, .seq [r .expression, .notAhead (op ":=")]]
  | .disjunction => some <| .sep1 (r .conjunction) (kw "or")
  | .conjunction => some <| .sep1 (r .inversion) (kw "and")
  | .inversion => some <| .choice [.seq [kw "not", r .inversion], r .comparison]
  | .comparison => some <| .seq [r .bitwiseOr, .many (r .comparePair)]
  | .comparePair => some <| .seq
    [.choice [oneOf ["==", "!=", "<=", "<", ">=", ">"], .seq [kw "not", kw "in"], kw "in",
       .seq [kw "is", kw "not"], kw "is"], r .bitwiseOr]
  | .bitwiseOr => some <| chain .bitwiseXor ["|"]
  | .bitwiseXor => some <| chain .bitwiseAnd ["^"]
  | .bitwiseAnd => some <| chain .shift ["&"]
  | .shift => some <| chain .sum ["<<", ">>"]
  | .sum => some <| chain .term ["+", "-"]
  | .term => some <| chain .factor ["*", "/", "//", "%", "@"]
  | .factor => some <| .choice [.seq [oneOf ["+", "-", "~"], r .factor], r .power]
  | .power => some <| .choice [.seq [r .awaitPrimary, op "**", r .factor], r .awaitPrimary]
  | .awaitPrimary => some <| .choice [.seq [kw "await", r .primary], r .primary]
  | .primary => some <| .seq [r .atom, .many (r .trailer)]
  | .trailer => some <| .choice
    [.seq [op ".", name], r .generator, .seq [op "(", .opt (r .arguments), op ")"],
     .seq [op "[", r .slices, op "]"]]
  | .slices => some <| .choice
    [.seq [r .slice, .notAhead (op ",")],
     .seq [commas (.choice [r .slice, r .starred]), .opt (op ",")]]
  | .slice => some <| .choice
    [.seq [.opt (r .expression), op ":", .opt (r .expression), .opt (.seq [op ":", .opt (r .expression)])],
     r .namedExpression]
  | .atom => some <| .choice
    [name, kw "True", kw "False", kw "None", .strings, .token .number,
     .seq [.ahead (op "("), .choice [r .tuple, r .group, r .generator]],
     .seq [.ahead (op "["), .choice [r .list, r .listComprehension]],
     .seq [.ahead (op "\x7b"), .choice [r .dict, r .set, r .dictComprehension, r .setComprehension]],
     op "..."]
  | .group => some <| .seq [op "(", .choice [r .yieldExpression, r .namedExpression], op ")"]
  | .lambda => some <| .seq [kw "lambda", .opt (r .lambdaParameters), op ":", r .expression]
  | .lambdaParameters => some <|
    parameterList .lambdaSlashNoDefault .lambdaSlashWithDefault .lambdaNoDefault .lambdaWithDefault .lambdaStarEtc
  | .lambdaSlashNoDefault => some <| slashed (.many1 (r .lambdaNoDefault)) (op ":")
  | .lambdaSlashWithDefault => some <|
    slashed (.seq [.many (r .lambdaNoDefault), .many1 (r .lambdaWithDefault)]) (op ":")
  | .lambdaStarEtc => some <| .choice
    [.seq [op "*", r .lambdaNoDefault, .many (r .lambdaMaybeDefault), .opt (r .lambdaDoubleStar)],
     .seq [op "*", op ",", .many1 (r .lambdaMaybeDefault), .opt (r .lambdaDoubleStar)],
     r .lambdaDoubleStar]
  | .lambdaDoubleStar => some <| .seq [op "**", r .lambdaNoDefault]
  | .lambdaNoDefault => some <| listed name (op ":")
  | .lambdaWithDefault => some <| listed (.seq [name, r .default]) (op ":")
  | .lambdaMaybeDefault => some <| listed (.seq [name, .opt (r .default)]) (op ":")
  | .list => some <| .seq [op "[", .opt (r .starNamedExpressions), op "]"]
  | .tuple => some <|
    .seq [op "(", .opt (.seq [r .starNamedExpression, op ",", .opt (r .starNamedExpressions)]), op ")"]
  | .set => some <| .seq [op "\x7b", r .starNamedExpressions, op "\x7d"]
  | .dict => some <| .seq [op "\x7b", .opt (r .keyValues), op "\x7d"]
  | .keyValues => some <| .seq [commas (r .keyValueOrUnpack), .opt (op ",")]
  | .keyValueOrUnpack => some <| .choice [.seq [op "**", r .bitwiseOr], r .keyValue]
  | .keyValue => some <| .seq [r .expression, op ":", r .expression]
  | .forIfClauses => some <| .many1 (r .forIfClause)
  | .forIfClause => some <|
    .seq [.opt (kw "async"), kw "for", r .starTargets, kw "in", .cut, r .disjunction,
      .many (.seq [kw "if", r .disjunction])]
  | .listComprehension => some <| .seq [op "[", r .namedExpression, r .forIfClauses, op "]"]
  | .setComprehension => some <| .seq [op "\x7b", r .namedExpression, r .forIfClauses, op "\x7d"]
  | .generator => some <| .seq [op "(", plainArgument, r .forIfClauses, op ")"]
  | .dictComprehension => some <| .seq [op "\x7b", r .keyValue, r .forIfClauses, op "\x7d"]
  | .arguments => some <| .seq [r .args, .opt (op ","), .ahead (op ")")]
  | .args => some <| .choice
    [.seq [commas (r .positionalArgument), .opt (.seq [op ",", r .kwargs])], r .kwargs]
  | .positionalArgument => some <| .choice [r .starred, .seq [plainArgument, .notAhead (op "=")]]
  | .kwargs => some <| .choice
    [.seq [commas (r .kwargOrStarred), op ",", commas (r .kwargOrDoubleStarred)],
     commas (r .kwargOrStarred), commas (r .kwargOrDoubleStarred)]
  | .starred => some <| .seq [op "*", r .expression]
  | .kwargOrStarred => some <| .choice [.seq [name, op "=", r .expression], r .starred]
  | .kwargOrDoubleStarred => some <| .choice
    [.seq [name, op "=", r .expression], .seq [op "**", r .expression]]
  | _ => none

/-- The targets of assignments and deletions. -/
def targetBody : Rule → Option (Peg Rule)
  | .starTargets => some <| .choice
    [.seq [r .starTarget, .notAhead (op ",")],
     .seq [r .starTarget, .many (.seq [op ",", r .starTarget]), .opt (op ",")]]
  | .starTargetsList => some <| .seq [commas (r .starTarget), .opt (op ",")]
  | .starTargetsTuple => some <| .choice
    [.seq [r .starTarget, .many1 (.seq [op ",", r .starTarget]), .opt (op ",")], .seq [r .starTarget, op ","]]
  | .starTarget => some <| .choice
    [.seq [op "*", .notAhead (op "*"), r .starTarget], r .targetWithStar]
  | .targetWithStar => some <| .choice [targetEnd, r .starAtom]
  | .starAtom => some <| .choice
    [name, .seq [op "(", r .targetWithStar, op ")"], .seq [op "(", .opt (r .starTargetsTuple), op ")"],
     .seq [op "[", .opt (r .starTargetsList), op "]"]]
  | .singleTarget => some <| .choice
    [r .singleSubscriptAttribute, name, .seq [op "(", r .singleTarget, op ")"]]
  | .singleSubscriptAttribute => some targetEnd
  | .targetPrimary => some <|
    .seq [r .atom, .ahead (r .targetLookahead), .many (.seq [r .trailer, .ahead (r .targetLookahead)])]
  | .targetLookahead => some <| oneOf ["(", "[", "."]
  | .delTargets => some <| .seq [commas (r .delTarget), .opt (op ",")]
  | .delTarget => some <| .choice [targetEnd, r .delAtom]
  | .delAtom => some <| .choice
    [name, .seq [op "(", r .delTarget, op ")"], .seq [op "(", .opt (r .delTargets), op ")"],
     .seq [op "[", .opt (r .delTargets), op "]"]]
  | _ => none

/-- The parsing expression of a rule. -/
def body (rule : Rule) : Peg Rule :=
  (statementBody rule <|> matchBody rule <|> expressionBody rule <|> targetBody rule).getD (.choice [])

/-- The rules that a source's outline consists of. -/
def marked : Rule → Bool
  | .expressionStatement => true
  | .classBody => true
  | .functionBody => true
  | .asyncFunctionBody => true
  | .simpleStatement => true
  | .compoundStatement => true
  | _ => false

end Syntax

/-- The grammar of Python 3.11. -/
def python : Grammar Rule where
  body := Syntax.body
  marked := Syntax.marked
  index := Rule.ctorIdx

end Docsmith.Source
