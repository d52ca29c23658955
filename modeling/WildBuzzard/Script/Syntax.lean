import Mathlib.Algebra.Ring.Nat
import Mathlib.Data.List.Basic

/-!
# Scripts: source positions, strings, tokens and syntax trees

The data the lexer and the parser of the JavaScript engine (`source.rs`, `string.rs`, `ast.rs` and
the token types of `lexer.rs`) exchange.

* A `JsString` carries the proof that it is no longer than a JavaScript string may be, as
  `JsString` values are only built through functions that check the length.
* A number is kept as the 64 bits of its binary floating-point format; what the lexer and the parser
  do with numbers (reading a literal, one fused multiply-add, printing a property key) is the
  standard library's, and so are the Unicode classes of characters: a `Host` provides them.
-/

namespace WildBuzzard.Script

/-! ## Positions -/

/-- A one-based line and column with a zero-based byte offset. Source: `SourceLocation`. -/
structure SourceLocation where
  line : Nat
  column : Nat
  byteOffset : Nat
  deriving DecidableEq, Repr

/-- A half-open range of the source. Source: `SourceSpan`. -/
structure SourceSpan where
  start : SourceLocation
  stop : SourceLocation
  deriving DecidableEq, Repr

/-- From the start of one span to the end of another. Source: `SourceSpan::join`. -/
def SourceSpan.join (self other : SourceSpan) : SourceSpan := ⟨self.start, other.stop⟩

/-- A diagnostic of the lexer or the parser. Source: `SyntaxIssue`. -/
structure SyntaxIssue where
  message : String
  span : SourceSpan
  deriving DecidableEq, Repr

/-! ## Strings -/

/-- The largest number of code units of a string. Source: `MAX_STRING_LENGTH`. -/
def maxStringLength : Nat := 2 ^ 30 - 2

/-- A sequence of UTF-16 code units, lone surrogates included. Source: `JsString`. -/
structure JsString where
  units : List UInt16
  length_le : units.length ≤ maxStringLength

/-- The text of a length error. Source: `StringLengthError`'s `Display`. -/
def stringLengthError (attempted : Nat) : String :=
  "JavaScript string length " ++ toString attempted ++ " exceeds the maximum of " ++
    toString maxStringLength ++ " UTF-16 code units"

/-- A string of these code units, or the message of its length error.
Source: `JsString::from_code_units`. -/
def JsString.fromCodeUnits (units : List UInt16) : Except String JsString :=
  if h : units.length ≤ maxStringLength then .ok ⟨units, h⟩
  else .error (stringLengthError units.length)

/-- The lead and trail surrogate of a supplementary code point. -/
def surrogates (codePoint : Nat) : List UInt16 :=
  [.ofNat (0xd800 + (codePoint - 0x10000) / 1024), .ofNat (0xdc00 + (codePoint - 0x10000) % 1024)]

/-- The code units of a code point, a lone surrogate being its own unit. -/
def codePointUnits (codePoint : Nat) : List UInt16 :=
  if codePoint < 0x10000 then [.ofNat codePoint] else surrogates codePoint

/-- The code units of a text. Source: `str::encode_utf16`. -/
def encodeUtf16 (text : List Char) : List UInt16 :=
  text.flatMap fun c => codePointUnits c.toNat

/-- Source: `JsString::from_utf8`. -/
def JsString.fromUtf8 (value : List Char) : Except String JsString :=
  JsString.fromCodeUnits (encodeUtf16 value)

/-! ## What the standard library provides -/

/-- The bits of a binary64 number. -/
abbrev Float64 := UInt64

/-- The functions of the standard library that depend on tables or on floating-point arithmetic. -/
structure Host where
  /-- `char::is_alphabetic` -/
  isAlphabetic : Char → Bool
  /-- `char::is_alphanumeric` -/
  isAlphanumeric : Char → Bool
  /-- The `Debug` text of a character. -/
  debugChar : Char → String
  /-- `str::parse::<f64>` -/
  parseFloat : List Char → Option Float64
  /-- `f64::mul_add` -/
  mulAdd : Float64 → Float64 → Float64 → Float64
  /-- `f64::from` of a `u32` -/
  fromNat : Nat → Float64
  /-- `f64::to_string` -/
  floatText : Float64 → List Char
  /-- The text of a number is far shorter than a string may be. -/
  floatText_length : ∀ x, (encodeUtf16 (floatText x)).length ≤ maxStringLength

/-! ## Tokens -/

/-- Source: `TokenKind`. -/
inductive TokenKind where
  | identifier (name : String)
  | number (value : Float64)
  | string (value : JsString)
  | letKeyword
  | constKeyword
  | varKeyword
  | functionKeyword
  | newKeyword
  | deleteKeyword
  | typeofKeyword
  | returnKeyword
  | ifKeyword
  | elseKeyword
  | whileKeyword
  | doKeyword
  | forKeyword
  | breakKeyword
  | continueKeyword
  | trueKeyword
  | falseKeyword
  | nullKeyword
  | thisKeyword
  | throwKeyword
  | tryKeyword
  | catchKeyword
  | finallyKeyword
  | leftBrace
  | rightBrace
  | leftParen
  | rightParen
  | leftBracket
  | rightBracket
  | semicolon
  | comma
  | colon
  | dot
  | plus
  | minus
  | star
  | slash
  | percent
  | bang
  | assign
  | lessThan
  | greaterThan
  | lessThanOrEqual
  | greaterThanOrEqual
  | equal
  | notEqual
  | strictEqual
  | strictNotEqual
  | logicalAnd
  | logicalOr
  | eof

/-- Two tokens of one kind, whatever they carry. Source: `same_variant`. -/
def sameVariant (left right : TokenKind) : Bool := left.ctorIdx == right.ctorIdx

/-- Source: `Token`. -/
structure Token where
  kind : TokenKind
  span : SourceSpan

/-! ## Syntax trees -/

/-- Source: `DeclarationKind`. -/
inductive DeclarationKind where
  | letKind
  | constKind
  deriving DecidableEq, Repr

/-- Source: `UnaryOperator`. -/
inductive UnaryOperator where
  | plus
  | minus
  | not
  | typeof
  deriving DecidableEq, Repr

/-- Source: `BinaryOperator`. -/
inductive BinaryOperator where
  | add
  | subtract
  | multiply
  | divide
  | remainder
  | lessThan
  | lessThanOrEqual
  | greaterThan
  | greaterThanOrEqual
  | equal
  | notEqual
  | strictEqual
  | strictNotEqual
  deriving DecidableEq, Repr

/-- Source: `LogicalOperator`. -/
inductive LogicalOperator where
  | and
  | or
  deriving DecidableEq, Repr

/-- Source: `Literal`. -/
inductive Literal where
  | null
  | boolean (value : Bool)
  | number (value : Float64)
  | string (value : JsString)

mutual

/-- Source: `Expression`. -/
structure Expression where
  kind : ExpressionKind
  span : SourceSpan

/-- Source: `ExpressionKind`. -/
inductive ExpressionKind where
  | literal (value : Literal)
  | identifier (name : String)
  | this
  | unary (operator : UnaryOperator) (operand : Expression)
  | binary (operator : BinaryOperator) (left right : Expression)
  | logical (operator : LogicalOperator) (left right : Expression)
  | assignment (target : AssignmentTarget) (value : Expression)
  | function (function : Function)
  | object (properties : List ObjectProperty)
  | array (elements : List (Option Expression))
  | member (object : Expression) (property : MemberProperty)
  | delete (object : Expression) (property : MemberProperty)
  | call (callee : Expression) (arguments : List Expression)
  | construct (callee : Expression) (arguments : List Expression)

/-- Source: `AssignmentTarget`. -/
inductive AssignmentTarget where
  | identifier (name : String)
  | member (object : Expression) (property : MemberProperty)

/-- Source: `MemberProperty`. -/
inductive MemberProperty where
  | named (name : JsString)
  | computed (expression : Expression)

/-- Source: `ObjectProperty`. -/
structure ObjectProperty where
  key : JsString
  value : Expression

/-- Source: `Function`. -/
structure Function where
  name : Option String
  parameters : List String
  body : List Statement
  span : SourceSpan

/-- Source: `Statement`. -/
structure Statement where
  kind : StatementKind
  span : SourceSpan

/-- Source: `StatementKind`. -/
inductive StatementKind where
  | empty
  | expression (expression : Expression)
  | lexicalDeclaration (kind : DeclarationKind) (bindings : List BindingDeclaration)
  | variableDeclaration (bindings : List BindingDeclaration)
  | block (statements : List Statement)
  | ifStatement (test : Expression) (consequent : Statement) (alternate : Option Statement)
  | whileStatement (test : Expression) (body : Statement)
  | doWhile (body : Statement) (test : Expression)
  | forStatement (statement : ForStatement)
  | breakStatement
  | continueStatement
  | functionDeclaration (function : Function)
  | returnStatement (expression : Option Expression)
  | throwStatement (expression : Expression)
  | tryStatement (body : Statement) (handler : Option CatchClause) (finalizer : Option Statement)

/-- Source: `ForStatement`. -/
structure ForStatement where
  initializer : Option ForInitializer
  test : Option Expression
  update : Option Expression
  body : Statement

/-- Source: `ForInitializer`. -/
inductive ForInitializer where
  | expression (expression : Expression)
  | variable (bindings : List BindingDeclaration)
  | lexical (kind : DeclarationKind) (bindings : List BindingDeclaration)

/-- Source: `BindingDeclaration`. -/
structure BindingDeclaration where
  name : String
  initializer : Option Expression
  span : SourceSpan

/-- Source: `CatchClause`. -/
structure CatchClause where
  parameter : Option String
  body : Statement
  span : SourceSpan

end

/-- Source: `Program`. -/
structure Program where
  statements : List Statement

end WildBuzzard.Script
