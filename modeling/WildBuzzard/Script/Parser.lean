import WildBuzzard.Lib.Descent
import WildBuzzard.Script.EarlyErrors
import WildBuzzard.Script.Lexer

/-!
# The parser

`parser.rs`: one procedure for each production of the grammar, in a family of mutually recursive
procedures (`Production`) that runs on a stack with room for a given number of frames. `call p x`
stands for the method call `self.parse_p(x)`, and puts a frame on the stack.

The list of tokens never changes, so it is a parameter; the state is the index of the current token
and the two nesting counters. **At the end of the input `advance` does not move and returns the
token before the end once more**, exactly as the source has it. Loops are bounded by the number of
tokens and halt beyond it, and an index outside the list of tokens panics.
-/

namespace WildBuzzard.Script

open Lib

/-- Source: `Parser`, whose tokens never change and are a parameter of its functions. -/
structure Parser where
  current : Nat
  functionDepth : Nat
  loopDepth : Nat
  deriving DecidableEq, Repr

/-- Source: `Parser::new`. -/
def Parser.new : Parser := ⟨0, 0, 0⟩

/-- The recursive methods of the parser: `parse_p` for each name `p`. -/
inductive Production where
  | statementList
  | statementListItem
  | statement
  | block
  | lexicalDeclaration
  | variableDeclaration
  | bindingList
  | functionDeclaration
  | functionAfterKeyword
  | ifStatement
  | whileStatement
  | doWhile
  | forStatement
  | returnStatement
  | throwStatement
  | tryStatement
  | loopControl
  | expressionStatement
  | assignment
  | logicalOr
  | logicalAnd
  | equality
  | relational
  | additive
  | multiplicative
  | unary
  | postfixExpression
  | newAfterKeyword
  | postfixSuffix
  | argumentsAfterLeftParen
  | primary
  | arrayLiteral
  | objectLiteral
  deriving DecidableEq, Repr

namespace Production

/-- What a method takes besides the parser. -/
@[reducible] def Input : Production → Type
  | statementList => Bool
  | bindingList => Bool
  | functionAfterKeyword => SourceSpan × Bool
  | loopControl => Bool
  | newAfterKeyword => SourceSpan
  | postfixSuffix => Expression × Bool
  | arrayLiteral => SourceSpan
  | objectLiteral => SourceSpan
  | _ => Unit

/-- What a method returns. -/
@[reducible] def Output : Production → Type
  | statementList => List Statement
  | bindingList => List BindingDeclaration
  | functionAfterKeyword => Function
  | argumentsAfterLeftParen => List Expression
  | statementListItem => Statement
  | statement => Statement
  | block => Statement
  | lexicalDeclaration => Statement
  | variableDeclaration => Statement
  | functionDeclaration => Statement
  | ifStatement => Statement
  | whileStatement => Statement
  | doWhile => Statement
  | forStatement => Statement
  | returnStatement => Statement
  | throwStatement => Statement
  | tryStatement => Statement
  | loopControl => Statement
  | expressionStatement => Statement
  | _ => Expression

/-- The methods as a family of procedures. -/
@[reducible] def signature : Signature := ⟨Production, Input, Output⟩

end Production

/-- The parser while it runs. -/
abbrev Parsing := Descent Production Parser

/-- A method of the parser. -/
abbrev ParserM := Call Parsing (Stop SyntaxIssue)

/-- The methods a method can call. -/
abbrev Callees := Procedures Production.signature Parser SyntaxIssue

namespace Parser

variable (host : Host) (tokens : List Token) (call : Callees)

/-! ## Tokens -/

/-- Source: the index expression `self.tokens[i]`. -/
def tokenAt (index : Nat) : ParserM Token := fun d =>
  match tokens[index]? with
  | some token => .ok token d
  | none => .halt (.panic "index out of bounds")

/-- Source: `Parser::peek`. -/
def peek : ParserM Token := do
  let d ← Call.read
  tokenAt tokens d.state.current

/-- Source: `Parser::previous`. -/
def previous : ParserM Token := do
  let d ← Call.read
  tokenAt tokens (d.state.current - 1)

/-- Source: `Parser::at`. -/
def isAt (expected : TokenKind) : ParserM Bool := do
  let token ← peek tokens
  pure (sameVariant token.kind expected)

/-- Change the parser's own state. -/
def update (f : Parser → Parser) : ParserM Unit :=
  Call.modify fun d => { d with state := f d.state }

/-- Source: `self.current += 1`. -/
def step : ParserM Unit := update fun self => { self with current := self.current + 1 }

/-- An error of the parser. -/
def issue {α : Type} (message : String) (span : SourceSpan) : ParserM α :=
  Call.fail (.error ⟨message, span⟩)

/-- Source: `Err(self.error_here(message))`. -/
def issueHere {α : Type} (message : String) : ParserM α := do
  let token ← peek tokens
  issue message token.span

/-- The result of a pure function. -/
def require {α : Type} (x : Except SyntaxIssue α) : ParserM α := Call.ofExcept (x.mapError .error)

/-- Source: `Parser::take`. -/
def take (expected : TokenKind) : ParserM (Option Token) := do
  let found ← isAt tokens expected
  if found then do
    step
    let token ← previous tokens
    pure (some token)
  else
    pure none

/-- Source: `Parser::expect`. -/
def expect (expected : TokenKind) (message : String) : ParserM Token := do
  let found ← isAt tokens expected
  if found then do
    step
    previous tokens
  else
    issueHere tokens message

/-- Source: `Parser::advance`. -/
def advance : ParserM Token := do
  let ended ← isAt tokens .eof
  if ended then
    previous tokens
  else do
    step
    previous tokens

/-- The first of several tokens that is the current one. -/
def takeFirst {α : Type} : List (TokenKind × α) → ParserM (Option α)
  | [] => pure none
  | (kind, value) :: rest => do
    let taken ← take tokens kind
    if taken.isSome then pure (some value) else takeFirst rest

/-- Whether the current token is one of several. -/
def isAtAny : List TokenKind → ParserM Bool
  | [] => pure false
  | kind :: rest => do
    let found ← isAt tokens kind
    if found then pure true else isAtAny rest

/-- Source: `Parser::has_line_terminator_after`. -/
def hasLineTerminatorAfter (token : Token) : ParserM Bool := do
  let next ← peek tokens
  pure (token.span.stop.line < next.span.start.line)

/-- Source: `Parser::consume_semicolon`. -/
def consumeSemicolon : ParserM SourceSpan := do
  match ← take tokens .semicolon with
  | some token => pure token.span
  | none => do
    let last ← previous tokens
    let stops ← isAtAny tokens [.eof, .rightBrace]
    let newLine ← hasLineTerminatorAfter tokens last
    if stops ∨ newLine then pure last.span
    else issueHere tokens "expected ';' or a line terminator"

/-- Source: `token_as_property_name`. -/
def tokenAsPropertyName : TokenKind → Option String
  | .identifier name => some name
  | .letKeyword => some "let"
  | .constKeyword => some "const"
  | .varKeyword => some "var"
  | .functionKeyword => some "function"
  | .newKeyword => some "new"
  | .deleteKeyword => some "delete"
  | .typeofKeyword => some "typeof"
  | .returnKeyword => some "return"
  | .ifKeyword => some "if"
  | .elseKeyword => some "else"
  | .whileKeyword => some "while"
  | .doKeyword => some "do"
  | .forKeyword => some "for"
  | .breakKeyword => some "break"
  | .continueKeyword => some "continue"
  | .trueKeyword => some "true"
  | .falseKeyword => some "false"
  | .nullKeyword => some "null"
  | .thisKeyword => some "this"
  | .throwKeyword => some "throw"
  | .tryKeyword => some "try"
  | .catchKeyword => some "catch"
  | .finallyKeyword => some "finally"
  | _ => none

/-- Source: `property_name_from_utf8`. -/
def propertyNameFromUtf8 (value : String) (span : SourceSpan) : ParserM JsString :=
  require ((JsString.fromUtf8 value.toList).mapError fun message => ⟨message, span⟩)

/-- Source: `number_to_property_key`; both zeros compare equal to `0.0`. -/
def numberToPropertyKey (number : Float64) : ParserM JsString :=
  let value := if number = 0 ∨ number = 0x8000000000000000 then ['0'] else host.floatText number
  match JsString.fromUtf8 value with
  | .ok key => pure key
  | .error _ =>
    fun _ => .halt (.panic "runtime-generated string fits the JavaScript length limit")

/-! ## Statements -/

/-- Source: `Parser::parse_statement_list`. -/
def parseStatementList (stopAtBrace : Bool) : ParserM (List Statement) := do
  let statements ← Call.iterate (fun statements => do
    let ended ← isAt tokens .eof
    let closed ← isAt tokens .rightBrace
    if ended ∨ stopAtBrace ∧ closed then
      pure (.done statements)
    else do
      let statement ← call .statementListItem ()
      pure (.next (statements ++ [statement]))) (tokens.length + 1) []
  let ended ← isAt tokens .eof
  if stopAtBrace ∧ ended then
    issueHere tokens "expected '\x7d' before end of input"
  else
    pure statements

/-- Source: `Parser::parse_statement_list_item`. -/
def parseStatementListItem : ParserM Statement := do
  let lexical ← isAtAny tokens [.letKeyword, .constKeyword]
  let function ← isAt tokens .functionKeyword
  if lexical then call .lexicalDeclaration ()
  else if function then call .functionDeclaration ()
  else call .statement ()

/-- The statements that are told by their first token.
Source: the tests of `Parser::parse_statement` after the first. -/
def statementOf (kind : TokenKind) : Option (ParserM Statement) :=
  match kind with
  | .leftBrace => some (call .block ())
  | .ifKeyword => some (call .ifStatement ())
  | .whileKeyword => some (call .whileStatement ())
  | .doKeyword => some (call .doWhile ())
  | .forKeyword => some (call .forStatement ())
  | .varKeyword => some (call .variableDeclaration ())
  | .returnKeyword => some (call .returnStatement ())
  | .throwKeyword => some (call .throwStatement ())
  | .tryKeyword => some (call .tryStatement ())
  | .breakKeyword => some (call .loopControl true)
  | .continueKeyword => some (call .loopControl false)
  | .letKeyword => some (issueHere tokens "lexical declarations require a statement-list block")
  | .constKeyword => some (issueHere tokens "lexical declarations require a statement-list block")
  | .functionKeyword =>
    some (issueHere tokens "function declarations require a statement-list block")
  | _ => none

/-- Source: `Parser::parse_statement`. -/
def parseStatement : ParserM Statement := do
  match ← take tokens .semicolon with
  | some token => pure ⟨.empty, token.span⟩
  | none => do
    let token ← peek tokens
    match statementOf tokens call token.kind with
    | some statement => statement
    | none => call .expressionStatement ()

/-- Source: `Parser::parse_block`. -/
def parseBlock : ParserM Statement := do
  let start ← expect tokens .leftBrace "expected '\x7b'"
  let statements ← call .statementList true
  let stop ← expect tokens .rightBrace "expected '\x7d'"
  pure ⟨.block statements, start.span.join stop.span⟩

/-- The kind of declaration a keyword starts. -/
def declarationKind (keyword : Token) : DeclarationKind :=
  if sameVariant keyword.kind .letKeyword then .letKind else .constKind

/-- Source: `Parser::parse_lexical_declaration`. -/
def parseLexicalDeclaration : ParserM Statement := do
  let keyword ← advance tokens
  let kind := declarationKind keyword
  let bindings ← call .bindingList (kind = .constKind)
  let stop ← consumeSemicolon tokens
  pure ⟨.lexicalDeclaration kind bindings, keyword.span.join stop⟩

/-- Source: `Parser::parse_variable_declaration`. -/
def parseVariableDeclaration : ParserM Statement := do
  let start ← expect tokens .varKeyword "expected 'var'"
  let bindings ← call .bindingList false
  let stop ← consumeSemicolon tokens
  pure ⟨.variableDeclaration bindings, start.span.join stop⟩

/-- The initializer of a binding, if it has one. -/
def parseInitializer : ParserM (Option Expression) := do
  match ← take tokens .assign with
  | some _ => do
    let expression ← call .assignment ()
    pure (some expression)
  | none => pure none

/-- One round of the loop of `Parser::parse_binding_list`. -/
def bindingRound (initializerRequired : Bool) (bindings : List BindingDeclaration) :
    ParserM (Round (List BindingDeclaration) (List BindingDeclaration)) := do
  let nameToken ← advance tokens
  match nameToken.kind with
  | .identifier name => do
    let initializer ← parseInitializer tokens call
    if initializerRequired ∧ initializer.isNone then
      issue "const declarations require an initializer" nameToken.span
    else do
      let stop := initializer.elim nameToken.span (·.span)
      let longer := bindings ++ [⟨name, initializer, nameToken.span.join stop⟩]
      match ← take tokens .comma with
      | some _ => pure (.next longer)
      | none => pure (.done longer)
  | _ => issue "expected a binding identifier" nameToken.span

/-- Source: `Parser::parse_binding_list`. -/
def parseBindingList (initializerRequired : Bool) : ParserM (List BindingDeclaration) :=
  Call.iterate (bindingRound tokens call initializerRequired) (tokens.length + 1) []

/-- Source: `Parser::parse_function_declaration`. -/
def parseFunctionDeclaration : ParserM Statement := do
  let start ← expect tokens .functionKeyword "expected 'function'"
  let function ← call .functionAfterKeyword (start.span, true)
  pure ⟨.functionDeclaration function, function.span⟩

/-- The name of a function, if it has one. -/
def parseFunctionName (nameRequired : Bool) : ParserM (Option String) := do
  let token ← peek tokens
  match token.kind with
  | .identifier name => do
    let _ ← advance tokens
    pure (some name)
  | _ =>
    if nameRequired then issueHere tokens "function declaration requires a name"
    else pure none

/-- One round of the loop over the parameters of a function. -/
def parameterRound (parameters : List String) : ParserM (Round (List String) (List String)) := do
  let token ← advance tokens
  match token.kind with
  | .identifier parameter =>
    if parameter ∈ parameters then
      issue ("duplicate parameter '" ++ parameter ++ "' is not supported") token.span
    else do
      match ← take tokens .comma with
      | some _ => pure (.next (parameters ++ [parameter]))
      | none => pure (.done (parameters ++ [parameter]))
  | _ => issue "expected a parameter name" token.span

/-- The parameters of a function up to the closing parenthesis. -/
def parseParameters : ParserM (List String) := do
  let empty ← isAt tokens .rightParen
  if empty then pure []
  else Call.iterate (parameterRound tokens) (tokens.length + 1) []

/-- Carry out a method and change the parser's state afterwards, whether it failed or not. -/
def afterwards {α : Type} (m : ParserM α) (f : Parser → Parser) : ParserM α := do
  let result ← Call.settle Except.ok Except.error m
  update f
  Call.ofExcept result

/-- Source: `Parser::parse_function_after_keyword`. -/
def parseFunctionAfterKeyword (start : SourceSpan) (nameRequired : Bool) : ParserM Function := do
  let name ← parseFunctionName tokens nameRequired
  let _ ← expect tokens .leftParen "expected '(' after function name"
  let parameters ← parseParameters tokens
  let _ ← expect tokens .rightParen "expected ')' after parameters"
  let _ ← expect tokens .leftBrace "expected '\x7b' before function body"
  let outer ← Call.read
  update fun self => { self with loopDepth := 0, functionDepth := self.functionDepth + 1 }
  let body ← afterwards (call .statementList true) fun self =>
    { self with functionDepth := self.functionDepth - 1, loopDepth := outer.state.loopDepth }
  require (validateVarScope body parameters)
  let stop ← expect tokens .rightBrace "expected '\x7d' after function body"
  pure ⟨name, parameters, body, start.join stop.span⟩

/-- Source: `Parser::parse_if`. -/
def parseIf : ParserM Statement := do
  let start ← expect tokens .ifKeyword "expected 'if'"
  let _ ← expect tokens .leftParen "expected '(' after 'if'"
  let test ← call .assignment ()
  let _ ← expect tokens .rightParen "expected ')' after condition"
  let consequent ← call .statement ()
  match ← take tokens .elseKeyword with
  | some _ => do
    let alternate ← call .statement ()
    pure ⟨.ifStatement test consequent (some alternate), start.span.join alternate.span⟩
  | none => pure ⟨.ifStatement test consequent none, start.span.join consequent.span⟩

/-- The body of a loop, one level deeper. -/
def parseLoopBody : ParserM Statement := do
  update fun self => { self with loopDepth := self.loopDepth + 1 }
  afterwards (call .statement ()) fun self => { self with loopDepth := self.loopDepth - 1 }

/-- Source: `Parser::parse_while`. -/
def parseWhile : ParserM Statement := do
  let start ← expect tokens .whileKeyword "expected 'while'"
  let _ ← expect tokens .leftParen "expected '(' after 'while'"
  let test ← call .assignment ()
  let _ ← expect tokens .rightParen "expected ')' after condition"
  let body ← parseLoopBody call
  pure ⟨.whileStatement test body, start.span.join body.span⟩

/-- Source: `Parser::parse_do_while`. -/
def parseDoWhile : ParserM Statement := do
  let start ← expect tokens .doKeyword "expected 'do'"
  let body ← parseLoopBody call
  let _ ← expect tokens .whileKeyword "expected 'while' after do-while body"
  let _ ← expect tokens .leftParen "expected '(' after 'while'"
  let test ← call .assignment ()
  let stop ← expect tokens .rightParen "expected ')' after condition"
  let semicolon ← take tokens .semicolon
  pure ⟨.doWhile body test, start.span.join (semicolon.elim stop.span (·.span))⟩

/-- Source: `Parser::reject_for_in_or_of`. -/
def rejectForInOrOf : ParserM Unit := do
  let token ← peek tokens
  match token.kind with
  | .identifier name =>
    if name = "in" ∨ name = "of" then issueHere tokens "for-in and for-of are not implemented"
    else pure ()
  | _ => pure ()

/-- The declarations or the expression a `for` head starts with. -/
def parseForDeclarations : ParserM ForInitializer := do
  match ← take tokens .varKeyword with
  | some _ => do
    let bindings ← call .bindingList false
    pure (.variable bindings)
  | none => do
    let lexical ← isAtAny tokens [.letKeyword, .constKeyword]
    if lexical then do
      let keyword ← advance tokens
      let kind := declarationKind keyword
      let bindings ← call .bindingList (kind = .constKind)
      pure (.lexical kind bindings)
    else do
      let expression ← call .assignment ()
      pure (.expression expression)

/-- The first part of a `for` head. -/
def parseForInitializer : ParserM (Option ForInitializer) := do
  match ← take tokens .semicolon with
  | some _ => pure none
  | none => do
    let initializer ← parseForDeclarations tokens call
    rejectForInOrOf tokens
    let _ ← expect tokens .semicolon "expected ';' after for-loop initializer"
    pure (some initializer)

/-- The second part of a `for` head. -/
def parseForTest : ParserM (Option Expression) := do
  match ← take tokens .semicolon with
  | some _ => pure none
  | none => do
    let test ← call .assignment ()
    let _ ← expect tokens .semicolon "expected ';' after for-loop test"
    pure (some test)

/-- The third part of a `for` head. -/
def parseForUpdate : ParserM (Option Expression) := do
  let empty ← isAt tokens .rightParen
  if empty then pure none
  else do
    let update ← call .assignment ()
    pure (some update)

/-- Source: `Parser::parse_for`. -/
def parseFor : ParserM Statement := do
  let start ← expect tokens .forKeyword "expected 'for'"
  let _ ← expect tokens .leftParen "expected '(' after 'for'"
  let initializer ← parseForInitializer tokens call
  let test ← parseForTest tokens call
  let update ← parseForUpdate tokens call
  let _ ← expect tokens .rightParen "expected ')' after for-loop head"
  let body ← parseLoopBody call
  pure ⟨.forStatement ⟨initializer, test, update, body⟩, start.span.join body.span⟩

/-- Source: `Parser::parse_return`. -/
def parseReturn : ParserM Statement := do
  let keyword ← expect tokens .returnKeyword "expected 'return'"
  let d ← Call.read
  if d.state.functionDepth = 0 then
    issue "return is only valid inside a function" keyword.span
  else do
    let newLine ← hasLineTerminatorAfter tokens keyword
    let stops ← isAtAny tokens [.semicolon, .rightBrace, .eof]
    if newLine ∨ stops then do
      let stop ← consumeSemicolon tokens
      pure ⟨.returnStatement none, keyword.span.join stop⟩
    else do
      let expression ← call .assignment ()
      let stop ← consumeSemicolon tokens
      pure ⟨.returnStatement (some expression), keyword.span.join stop⟩

/-- Source: `Parser::parse_throw`. -/
def parseThrow : ParserM Statement := do
  let keyword ← expect tokens .throwKeyword "expected 'throw'"
  let newLine ← hasLineTerminatorAfter tokens keyword
  if newLine then
    issue "a line terminator is not allowed after 'throw'" keyword.span
  else do
    let stops ← isAtAny tokens [.semicolon, .rightBrace, .eof]
    if stops then issueHere tokens "throw requires an expression"
    else do
      let expression ← call .assignment ()
      let stop ← consumeSemicolon tokens
      pure ⟨.throwStatement expression, keyword.span.join stop⟩

/-- A block, or an error where there is none. -/
def parseRequiredBlock (message : String) : ParserM Statement := do
  let found ← isAt tokens .leftBrace
  if found then call .block () else issueHere tokens message

/-- The parameter of a catch clause, if it has one. -/
def parseCatchParameter : ParserM (Option String) := do
  match ← take tokens .leftParen with
  | none => pure none
  | some _ => do
    let token ← advance tokens
    match token.kind with
    | .identifier parameter => do
      let _ ← expect tokens .rightParen "expected ')' after catch parameter"
      pure (some parameter)
    | _ => issue "expected a catch parameter" token.span

/-- The catch clause of a `try`, if it has one. -/
def parseCatch : ParserM (Option CatchClause) := do
  match ← take tokens .catchKeyword with
  | none => pure none
  | some start => do
    let parameter ← parseCatchParameter tokens
    let body ← parseRequiredBlock tokens call "catch body must be a block"
    pure (some ⟨parameter, body, start.span.join body.span⟩)

/-- The finally clause of a `try`, if it has one. -/
def parseFinally : ParserM (Option Statement) := do
  match ← take tokens .finallyKeyword with
  | none => pure none
  | some _ => do
    let body ← parseRequiredBlock tokens call "finally body must be a block"
    pure (some body)

/-- Source: `Parser::parse_try`. -/
def parseTry : ParserM Statement := do
  let start ← expect tokens .tryKeyword "expected 'try'"
  let body ← parseRequiredBlock tokens call "try body must be a block"
  let handler ← parseCatch tokens call
  let finalizer ← parseFinally tokens call
  if handler.isNone ∧ finalizer.isNone then
    issue "try requires catch or finally" (start.span.join body.span)
  else do
    let stop := finalizer.elim (handler.elim body.span (·.span)) (·.span)
    pure ⟨.tryStatement body handler finalizer, start.span.join stop⟩

/-- Whether the current token is an identifier. -/
def isAtIdentifier : ParserM Bool := do
  let token ← peek tokens
  pure (sameVariant token.kind (.identifier ""))

/-- Source: `Parser::parse_loop_control`. -/
def parseLoopControl (isBreak : Bool) : ParserM Statement := do
  let keyword ← advance tokens
  let d ← Call.read
  if d.state.loopDepth = 0 then
    issue (if isBreak then "break is only valid inside a loop"
      else "continue is only valid inside a loop") keyword.span
  else do
    let newLine ← hasLineTerminatorAfter tokens keyword
    let label ← isAtIdentifier tokens
    if newLine = false ∧ label then
      issueHere tokens "labelled loop control is not implemented"
    else do
      let stop ← consumeSemicolon tokens
      pure ⟨if isBreak then .breakStatement else .continueStatement, keyword.span.join stop⟩

/-- Source: `Parser::parse_expression_statement`. -/
def parseExpressionStatement : ParserM Statement := do
  let expression ← call .assignment ()
  let stop ← consumeSemicolon tokens
  pure ⟨.expression expression, expression.span.join stop⟩

/-! ## Expressions -/

/-- What an expression can be assigned to as. -/
def assignmentTarget : ExpressionKind → Option AssignmentTarget
  | .identifier name => some (.identifier name)
  | .member object property => some (.member object property)
  | _ => none

/-- Source: `Parser::parse_assignment`. -/
def parseAssignment : ParserM Expression := do
  let left ← call .logicalOr ()
  match ← take tokens .assign with
  | none => pure left
  | some _ =>
    match assignmentTarget left.kind with
    | none => issue "invalid assignment target" left.span
    | some target => do
      let value ← call .assignment ()
      pure ⟨.assignment target value, left.span.join value.span⟩

/-- Operands joined by left-associative operators. Source: the loops of `parse_logical_or` to
`parse_multiplicative`. -/
def chain {α : Type} (operand : ParserM Expression) (operators : List (TokenKind × α))
    (join : Expression → α → Expression → Expression) : ParserM Expression := do
  let first ← operand
  Call.iterate (fun left => do
    match ← takeFirst tokens operators with
    | none => pure (.done left)
    | some operator => do
      let right ← operand
      pure (.next (join left operator right))) (tokens.length + 1) first

/-- A logical operator between two operands. -/
def logical (left : Expression) (operator : LogicalOperator) (right : Expression) : Expression :=
  ⟨.logical operator left right, left.span.join right.span⟩

/-- Source: `binary`. -/
def binary (left : Expression) (operator : BinaryOperator) (right : Expression) : Expression :=
  ⟨.binary operator left right, left.span.join right.span⟩

/-- Source: `Parser::parse_logical_or`. -/
def parseLogicalOr : ParserM Expression :=
  chain tokens (call .logicalAnd ()) [(.logicalOr, .or)] logical

/-- Source: `Parser::parse_logical_and`. -/
def parseLogicalAnd : ParserM Expression :=
  chain tokens (call .equality ()) [(.logicalAnd, .and)] logical

/-- Source: `Parser::parse_equality`. -/
def parseEquality : ParserM Expression :=
  chain tokens (call .relational ())
    [(.strictEqual, .strictEqual), (.strictNotEqual, .strictNotEqual), (.equal, .equal),
      (.notEqual, .notEqual)] binary

/-- Source: `Parser::parse_relational`. -/
def parseRelational : ParserM Expression :=
  chain tokens (call .additive ())
    [(.lessThan, .lessThan), (.lessThanOrEqual, .lessThanOrEqual), (.greaterThan, .greaterThan),
      (.greaterThanOrEqual, .greaterThanOrEqual)] binary

/-- Source: `Parser::parse_additive`. -/
def parseAdditive : ParserM Expression :=
  chain tokens (call .multiplicative ()) [(.plus, .add), (.minus, .subtract)] binary

/-- Source: `Parser::parse_multiplicative`. -/
def parseMultiplicative : ParserM Expression :=
  chain tokens (call .unary ())
    [(.star, .multiply), (.slash, .divide), (.percent, .remainder)] binary

/-- The operand of `delete`, which must be a property. -/
def deletion (operand : Expression) (span : SourceSpan) : ParserM Expression :=
  match operand.kind with
  | .member object property => pure ⟨.delete object property, span⟩
  | _ => issue "only property deletion is implemented" span

/-- Source: `Parser::parse_unary`. -/
def parseUnary : ParserM Expression := do
  match ← take tokens .deleteKeyword with
  | some start => do
    let operand ← call .unary ()
    deletion operand (start.span.join operand.span)
  | none => do
    match ← takeFirst tokens [(.plus, .plus), (.minus, .minus), (.bang, .not),
        (.typeofKeyword, .typeof)] with
    | some operator => do
      let start ← previous tokens
      let operand ← call .unary ()
      pure ⟨.unary operator operand, start.span.join operand.span⟩
    | none => call .postfixExpression ()

/-- The expression after `new`, or a primary one. -/
def parseCallee : ParserM Expression := do
  match ← take tokens .newKeyword with
  | some start => call .newAfterKeyword start.span
  | none => call .primary ()

/-- Source: `Parser::parse_postfix`. -/
def parsePostfix : ParserM Expression := do
  let expression ← parseCallee tokens call
  call .postfixSuffix (expression, true)

/-- Source: `Parser::parse_new_after_keyword`. -/
def parseNewAfterKeyword (start : SourceSpan) : ParserM Expression := do
  let first ← parseCallee tokens call
  let callee ← call .postfixSuffix (first, false)
  match ← take tokens .leftParen with
  | some _ => do
    let arguments ← call .argumentsAfterLeftParen ()
    let stop ← previous tokens
    pure ⟨.construct callee arguments, start.join stop.span⟩
  | none => pure ⟨.construct callee [], start.join callee.span⟩

/-- The tokens that can follow an expression in `parse_postfix_suffix`. -/
inductive Suffix where
  | member
  | computed
  | call

/-- The suffixes that are looked for, in this order. -/
def suffixes (allowCalls : Bool) : List (TokenKind × Suffix) :=
  if allowCalls then [(.dot, .member), (.leftBracket, .computed), (.leftParen, .call)]
  else [(.dot, .member), (.leftBracket, .computed)]

/-- The rest of a suffix, after its first token. -/
def parseSuffix (expression : Expression) : Suffix → ParserM Expression
  | .member => do
    let token ← advance tokens
    match tokenAsPropertyName token.kind with
    | none => issue "expected a property name after '.'" token.span
    | some text => do
      let name ← propertyNameFromUtf8 text token.span
      pure ⟨.member expression (.named name), expression.span.join token.span⟩
  | .computed => do
    let property ← call .assignment ()
    let stop ← expect tokens .rightBracket "expected ']' after property expression"
    pure ⟨.member expression (.computed property), expression.span.join stop.span⟩
  | .call => do
    let arguments ← call .argumentsAfterLeftParen ()
    let stop ← previous tokens
    pure ⟨.call expression arguments, expression.span.join stop.span⟩

/-- Source: `Parser::parse_postfix_suffix`. -/
def parsePostfixSuffix (expression : Expression) (allowCalls : Bool) : ParserM Expression :=
  Call.iterate (fun expression => do
    match ← takeFirst tokens (suffixes allowCalls) with
    | none => pure (.done expression)
    | some suffix => do
      let longer ← parseSuffix tokens call expression suffix
      pure (.next longer)) (tokens.length + 1) expression

/-- One round of the loop over the arguments of a call. -/
def argumentRound (arguments : List Expression) :
    ParserM (Round (List Expression) (List Expression)) := do
  let argument ← call .assignment ()
  match ← take tokens .comma with
  | some _ => pure (.next (arguments ++ [argument]))
  | none => pure (.done (arguments ++ [argument]))

/-- Source: `Parser::parse_arguments_after_left_paren`. -/
def parseArgumentsAfterLeftParen : ParserM (List Expression) := do
  let empty ← isAt tokens .rightParen
  let arguments ← (if empty then pure []
    else Call.iterate (argumentRound tokens call) (tokens.length + 1) [])
  let _ ← expect tokens .rightParen "expected ')' after arguments"
  pure arguments

/-- The expressions that are one token. -/
def atom : TokenKind → Option ExpressionKind
  | .number value => some (.literal (.number value))
  | .string value => some (.literal (.string value))
  | .trueKeyword => some (.literal (.boolean true))
  | .falseKeyword => some (.literal (.boolean false))
  | .nullKeyword => some (.literal .null)
  | .identifier name => some (.identifier name)
  | .thisKeyword => some .this
  | _ => none

/-- Source: `Parser::parse_primary`. -/
def parsePrimary : ParserM Expression := do
  let token ← advance tokens
  match atom token.kind with
  | some kind => pure ⟨kind, token.span⟩
  | none =>
    match token.kind with
    | .functionKeyword => do
      let function ← call .functionAfterKeyword (token.span, false)
      pure ⟨.function function, function.span⟩
    | .leftBrace => call .objectLiteral token.span
    | .leftBracket => call .arrayLiteral token.span
    | .leftParen => do
      let expression ← call .assignment ()
      let stop ← expect tokens .rightParen "expected ')' after expression"
      pure { expression with span := token.span.join stop.span }
    | _ => issue "expected an expression" token.span

/-- One round of the loop of `Parser::parse_array_literal`. -/
def elementRound (elements : List (Option Expression)) :
    ParserM (Round (List (Option Expression)) (List (Option Expression))) := do
  let closed ← isAt tokens .rightBracket
  if closed then pure (.done elements)
  else do
    match ← take tokens .comma with
    | some _ => pure (.next (elements ++ [none]))
    | none => do
      let element ← call .assignment ()
      match ← take tokens .comma with
      | none => pure (.done (elements ++ [some element]))
      | some _ => do
        let last ← isAt tokens .rightBracket
        if last then pure (.done (elements ++ [some element]))
        else pure (.next (elements ++ [some element]))

/-- Source: `Parser::parse_array_literal`. -/
def parseArrayLiteral (start : SourceSpan) : ParserM Expression := do
  let elements ← Call.iterate (elementRound tokens call) (tokens.length + 1) []
  let stop ← expect tokens .rightBracket "expected ']' after array literal"
  pure ⟨.array elements, start.join stop.span⟩

/-- The key of a property, and the name it stands for if the value may be left out. -/
def parsePropertyKey (token : Token) : ParserM (JsString × Option String) :=
  match token.kind with
  | .identifier name => do
    let key ← propertyNameFromUtf8 name token.span
    pure (key, some name)
  | .string name => pure (name, none)
  | .number number => do
    let key ← numberToPropertyKey host number
    pure (key, none)
  | kind =>
    match tokenAsPropertyName kind with
    | none => issue "expected an object property name" token.span
    | some name => do
      let key ← propertyNameFromUtf8 name token.span
      pure (key, none)

/-- The value of a property: what follows the colon, or the variable its key names. -/
def parsePropertyValue (token : Token) (shorthand : Option String) : ParserM Expression := do
  match ← take tokens .colon with
  | some _ => call .assignment ()
  | none =>
    match shorthand with
    | some name => pure ⟨.identifier name, token.span⟩
    | none => issueHere tokens "expected ':' after object property name"

/-- One round of the loop of `Parser::parse_object_literal`. -/
def propertyRound (properties : List ObjectProperty) :
    ParserM (Round (List ObjectProperty) (List ObjectProperty)) := do
  let token ← advance tokens
  let key ← parsePropertyKey host token
  let value ← parsePropertyValue tokens call token key.2
  match ← take tokens .comma with
  | none => pure (.done (properties ++ [⟨key.1, value⟩]))
  | some _ => do
    let last ← isAt tokens .rightBrace
    if last then pure (.done (properties ++ [⟨key.1, value⟩]))
    else pure (.next (properties ++ [⟨key.1, value⟩]))

/-- Source: `Parser::parse_object_literal`. -/
def parseObjectLiteral (start : SourceSpan) : ParserM Expression := do
  let empty ← isAt tokens .rightBrace
  let properties ← (if empty then pure []
    else Call.iterate (propertyRound host tokens call) (tokens.length + 1) [])
  let stop ← expect tokens .rightBrace "expected '\x7d' after object literal"
  pure ⟨.object properties, start.join stop.span⟩

/-! ## The family -/

/-- The body of each method, with the methods it calls. -/
def bodies : Callees
  | .statementList, stopAtBrace => parseStatementList tokens call stopAtBrace
  | .statementListItem, _ => parseStatementListItem tokens call
  | .statement, _ => parseStatement tokens call
  | .block, _ => parseBlock tokens call
  | .lexicalDeclaration, _ => parseLexicalDeclaration tokens call
  | .variableDeclaration, _ => parseVariableDeclaration tokens call
  | .bindingList, initializerRequired => parseBindingList tokens call initializerRequired
  | .functionDeclaration, _ => parseFunctionDeclaration tokens call
  | .functionAfterKeyword, (start, nameRequired) =>
    parseFunctionAfterKeyword tokens call start nameRequired
  | .ifStatement, _ => parseIf tokens call
  | .whileStatement, _ => parseWhile tokens call
  | .doWhile, _ => parseDoWhile tokens call
  | .forStatement, _ => parseFor tokens call
  | .returnStatement, _ => parseReturn tokens call
  | .throwStatement, _ => parseThrow tokens call
  | .tryStatement, _ => parseTry tokens call
  | .loopControl, isBreak => parseLoopControl tokens isBreak
  | .expressionStatement, _ => parseExpressionStatement tokens call
  | .assignment, _ => parseAssignment tokens call
  | .logicalOr, _ => parseLogicalOr tokens call
  | .logicalAnd, _ => parseLogicalAnd tokens call
  | .equality, _ => parseEquality tokens call
  | .relational, _ => parseRelational tokens call
  | .additive, _ => parseAdditive tokens call
  | .multiplicative, _ => parseMultiplicative tokens call
  | .unary, _ => parseUnary tokens call
  | .postfixExpression, _ => parsePostfix tokens call
  | .newAfterKeyword, start => parseNewAfterKeyword tokens call start
  | .postfixSuffix, (expression, allowCalls) =>
    parsePostfixSuffix tokens call expression allowCalls
  | .argumentsAfterLeftParen, _ => parseArgumentsAfterLeftParen tokens call
  | .primary, _ => parsePrimary tokens call
  | .arrayLiteral, start => parseArrayLiteral tokens call start
  | .objectLiteral, start => parseObjectLiteral host tokens call start

/-- The methods on a stack with room for so many more frames. -/
def methods (room : Nat) : Callees := Procedures.descend (bodies host tokens) room

/-- Source: `Parser::parse_program`. -/
def parseProgram (room : Nat) : ParserM Program := do
  let statements ← methods host tokens room .statementList false
  require (validateVarScope statements [])
  pure ⟨statements⟩

end Parser

/-- What comes of a script text on a stack with room for so many frames.
Source: `parse`. -/
def parse (host : Host) (room : Nat) (source : List Char) :
    Outcome Parsing (Stop SyntaxIssue) Program :=
  match Lexer.tokenize host source .new with
  | .ok tokens _ => Parser.parseProgram host tokens room (.start .new)
  | .err issue _ => .err (.error issue) (.start .new)
  | .halt reason => .halt reason

end WildBuzzard.Script
