import WildBuzzard.Lib.Loop
import WildBuzzard.Lib.Utf8
import WildBuzzard.Script.Syntax

/-!
# The lexer

`lexer.rs`: the state is a byte offset into the source with the line and column it stands on. Every
look at the source is a slice from that offset, **which panics unless the offset is on the boundary
of a character**; every loop is bounded by the length of the source, and halts beyond it.

The functions are the source's, in its order of tests and with its messages. The length of the
source is only used to bound loops.
-/

namespace WildBuzzard.Script

open Lib

/-! ## Characters -/

/-- Source: `char::is_whitespace`. -/
def isWhitespace (c : Char) : Bool :=
  let code := c.toNat
  (0x9 ≤ code && code ≤ 0xd) || code == 0x20 || code == 0x85 || code == 0xa0 || code == 0x1680 ||
    (0x2000 ≤ code && code ≤ 0x200a) || code == 0x2028 || code == 0x2029 || code == 0x202f ||
    code == 0x205f || code == 0x3000

/-- Source: `char::is_ascii_digit`. -/
def isAsciiDigit (c : Char) : Bool := '0' ≤ c && c ≤ '9'

/-- Source: `char::to_digit`. -/
def toDigit (radix : Nat) (c : Char) : Option Nat :=
  let value :=
    if isAsciiDigit c then some (c.toNat - '0'.toNat)
    else if 'a' ≤ c ∧ c ≤ 'z' then some (c.toNat - 'a'.toNat + 10)
    else if 'A' ≤ c ∧ c ≤ 'Z' then some (c.toNat - 'A'.toNat + 10)
    else none
  value.filter (· < radix)

/-- Source: `is_line_terminator`. -/
def isLineTerminator (c : Char) : Bool :=
  c == '\n' || c == '\r' || c == '\u2028' || c == '\u2029'

/-- Source: `is_identifier_start`. -/
def isIdentifierStart (host : Host) (c : Char) : Bool := c == '$' || c == '_' || host.isAlphabetic c

/-- Source: `is_identifier_continue`. -/
def isIdentifierContinue (host : Host) (c : Char) : Bool :=
  isIdentifierStart host c || host.isAlphanumeric c

/-- Source: `parse_radix_number`. -/
def parseRadixNumber (host : Host) (digits : List Char) (radix : Nat) : Option Float64 :=
  digits.foldlM (fun value c =>
    (toDigit radix c).map fun digit => host.mulAdd value (host.fromNat radix) (host.fromNat digit))
    (host.fromNat 0)

/-! ## The lexer's state -/

/-- Source: `Lexer`, whose text never changes and is a parameter of its functions. -/
structure Lexer where
  offset : Nat
  line : Nat
  column : Nat
  previousWasCr : Bool
  deriving DecidableEq, Repr

/-- Source: `Lexer::new`. -/
def Lexer.new : Lexer := ⟨0, 1, 1, false⟩

/-- Source: `u32::saturating_add` with one. -/
def saturatingSucc (n : Nat) : Nat := min (n + 1) (2 ^ 32 - 1)

/-- The state after a character. Source: the second half of `Lexer::bump`. -/
def Lexer.past (self : Lexer) (c : Char) : Lexer :=
  let moved := { self with offset := self.offset + c.utf8Size }
  if c = '\r' then
    { moved with line := saturatingSucc self.line, column := 1, previousWasCr := true }
  else if c = '\n' ∧ self.previousWasCr then
    { moved with previousWasCr := false }
  else if c = '\n' ∨ c = '\u2028' ∨ c = '\u2029' then
    { moved with line := saturatingSucc self.line, column := 1, previousWasCr := false }
  else
    { moved with column := saturatingSucc self.column, previousWasCr := false }

/-- Source: `Lexer::location`. -/
def Lexer.location (self : Lexer) : SourceLocation := ⟨self.line, self.column, self.offset⟩

/-- A method of the lexer. -/
abbrev LexerM := Call Lexer SyntaxIssue

namespace Lexer

variable (host : Host) (source : List Char)

/-- The text from the current offset on. Source: `self.source[self.offset..]`. -/
def remaining : LexerM (List Char) := fun self =>
  match splitText source self.offset with
  | .ok parts => .ok parts.2 self
  | .error reason => .halt reason

/-- The text since an earlier offset. Source: `&self.source[start_offset..self.offset]`. -/
def textSince (start : Nat) : LexerM (List Char) := fun self =>
  match slice source start self.offset with
  | .ok piece => .ok piece self
  | .error reason => .halt reason

/-- Source: `Lexer::peek`. -/
def peek : LexerM (Option Char) := do
  let rest ← remaining source
  pure rest.head?

/-- Source: `Lexer::peek_second`. -/
def peekSecond : LexerM (Option Char) := do
  let rest ← remaining source
  pure rest.tail.head?

/-- Source: `Lexer::bump`. -/
def bump : LexerM (Option Char) := do
  match ← peek source with
  | none => pure none
  | some c => do
    Call.modify fun self => self.past c
    pure (some c)

/-- Source: `Lexer::consume`. -/
def consume (expected : Char) : LexerM Bool := do
  let next ← peek source
  if next = some expected then do
    let _ ← bump source
    pure true
  else
    pure false

/-- An error from an earlier place up to the current one. -/
def issueSince {α : Type} (message : String) (start : SourceLocation) : LexerM α := do
  let self ← Call.read
  Call.fail ⟨message, start, self.location⟩

variable (value : List UInt16) (start : SourceLocation)

/-- Source: `Lexer::token`. -/
def token (kind : TokenKind) : LexerM Token := do
  let self ← Call.read
  pure ⟨kind, start, self.location⟩

/-- One round of `while self.peek().is_some_and(..) { self.bump(); }`. -/
def bumpRound (p : Char → Bool) : LexerM (Round Unit Unit) := do
  let next ← peek source
  if next.any p then do
    let _ ← bump source
    pure (.next ())
  else
    pure (.done ())

/-- Go on over the characters that satisfy a test. -/
def bumpWhile (p : Char → Bool) : LexerM Unit :=
  Call.iterate (fun _ => bumpRound source p) (source.length + 1) ()

/-! ## Trivia -/

/-- One round of the loop that skips a block comment. -/
def blockCommentRound : LexerM (Round Unit Unit) := do
  let first ← peek source
  let second ← peekSecond source
  if first = some '*' ∧ second = some '/' then do
    let _ ← bump source
    let _ ← bump source
    pure (.done ())
  else if first.isSome then do
    let _ ← bump source
    pure (.next ())
  else
    issueSince "unterminated block comment" start

/-- One round of the loop of `skip_trivia`. -/
def triviaRound : LexerM (Round Unit Unit) := do
  bumpWhile source isWhitespace
  let first ← peek source
  if first ≠ some '/' then
    pure (.done ())
  else do
    let second ← peekSecond source
    if second = some '/' then do
      let _ ← bump source
      let _ ← bump source
      bumpWhile source fun c => !isLineTerminator c
      pure (.next ())
    else if second = some '*' then do
      let self ← Call.read
      let _ ← bump source
      let _ ← bump source
      Call.iterate (fun _ => blockCommentRound source self.location) (source.length + 1) ()
      pure (.next ())
    else
      pure (.done ())

/-- Source: `Lexer::skip_trivia`. -/
def skipTrivia : LexerM Unit := Call.iterate (fun _ => triviaRound source) (source.length + 1) ()

/-! ## Identifiers and numbers -/

/-- The token of a name. Source: the `match` of `Lexer::identifier`. -/
def identifierKind (identifier : String) : TokenKind :=
  match identifier with
  | "let" => .letKeyword
  | "const" => .constKeyword
  | "var" => .varKeyword
  | "function" => .functionKeyword
  | "new" => .newKeyword
  | "delete" => .deleteKeyword
  | "typeof" => .typeofKeyword
  | "return" => .returnKeyword
  | "if" => .ifKeyword
  | "else" => .elseKeyword
  | "while" => .whileKeyword
  | "do" => .doKeyword
  | "for" => .forKeyword
  | "break" => .breakKeyword
  | "continue" => .continueKeyword
  | "true" => .trueKeyword
  | "false" => .falseKeyword
  | "null" => .nullKeyword
  | "this" => .thisKeyword
  | "throw" => .throwKeyword
  | "try" => .tryKeyword
  | "catch" => .catchKeyword
  | "finally" => .finallyKeyword
  | _ => .identifier identifier

/-- Source: `Lexer::identifier`. -/
def identifier : LexerM Token := do
  let self ← Call.read
  let _ ← bump source
  bumpWhile source (isIdentifierContinue host)
  let name ← textSince source self.offset
  token start (identifierKind (String.ofList name))

/-- The radix that follows a leading zero. -/
def radixOf (c : Char) : Option Nat :=
  if c = 'x' ∨ c = 'X' then some 16
  else if c = 'b' ∨ c = 'B' then some 2
  else if c = 'o' ∨ c = 'O' then some 8
  else none

/-- The digits after `0x`, `0b` or `0o`. Source: the first branch of `Lexer::number`. -/
def radixNumber (radix : Nat) : LexerM Token := do
  let _ ← bump source
  let _ ← bump source
  let digits ← Call.read
  bumpWhile source fun c => (toDigit radix c).isSome
  let self ← Call.read
  let next ← peek source
  if digits.offset = self.offset ∨ next.any (isIdentifierContinue host) then
    issueSince "invalid numeric literal" start
  else do
    let text ← textSince source digits.offset
    match parseRadixNumber host text radix with
    | none => issueSince "invalid numeric literal" start
    | some value => token start (.number value)

/-- The exponent of a decimal literal, if it has one. -/
def exponent (start : SourceLocation) : LexerM Unit := do
  let next ← peek source
  if next = some 'e' ∨ next = some 'E' then do
    let _ ← bump source
    let sign ← peek source
    if sign = some '+' ∨ sign = some '-' then do
      let _ ← bump source
      exponentDigits
    else
      exponentDigits
  else
    pure ()
where
  exponentDigits : LexerM Unit := do
    let digits ← Call.read
    bumpWhile source isAsciiDigit
    let self ← Call.read
    if digits.offset = self.offset then issueSince "exponent has no digits" start else pure ()

/-- The fraction of a decimal literal, if it has one. -/
def fraction : LexerM Unit := do
  let next ← peek source
  if next = some '.' then do
    let _ ← bump source
    bumpWhile source isAsciiDigit
  else
    pure ()

/-- The digits of a decimal literal before its exponent. -/
def mantissa : LexerM Unit := do
  bumpWhile source isAsciiDigit
  fraction source

/-- A decimal literal. Source: the second part of `Lexer::number`. -/
def decimalNumber : LexerM Token := do
  let first ← Call.read
  mantissa source
  exponent source start
  let next ← peek source
  if next.any (isIdentifierStart host) then
    issueSince "identifier cannot immediately follow a number" start
  else do
    let literal ← textSince source first.offset
    match host.parseFloat literal with
    | none => issueSince "invalid numeric literal" start
    | some value => token start (.number value)

/-- Source: `Lexer::number`. -/
def number : LexerM Token := do
  let first ← peek source
  let second ← peekSecond source
  match if first = some '0' then second.bind radixOf else none with
  | some radix => radixNumber host source start radix
  | none => decimalNumber host source start

/-! ## Strings -/

/-- Source: `Lexer::append_units`. -/
def appendUnits (value units : List UInt16) (start : SourceLocation) : LexerM (List UInt16) :=
  if 2 ^ 64 ≤ value.length + units.length then
    issueSince "JavaScript string length overflow" start
  else if maxStringLength < value.length + units.length then
    issueSince "JavaScript string literal exceeds the supported length" start
  else
    pure (value ++ units)

/-- Source: `Lexer::append_character`, and `Lexer::append_code_point` of its code point. -/
def appendCodePoint (codePoint : Nat) (start : SourceLocation) : LexerM (List UInt16) :=
  appendUnits value (codePointUnits codePoint) start

/-- Source: `Lexer::fixed_hex_escape`; four digits always fit in sixteen bits. -/
def fixedHexEscape (start : SourceLocation) : Nat → Nat → LexerM Nat
  | 0, value => pure value
  | digits + 1, value => do
    match ← bump source with
    | none => issueSince "unterminated hexadecimal escape" start
    | some c =>
      match toDigit 16 c with
      | none => issueSince "invalid hexadecimal escape" start
      | some digit => fixedHexEscape start digits (value * 16 + digit)

/-- The variables of the loop of `braced_unicode_escape`. -/
structure BracedEscape where
  value : Nat
  sawDigit : Bool
  overflowed : Bool

/-- One more digit; a value beyond the last code point stays as it was and is marked. -/
def BracedEscape.push (escape : BracedEscape) (digit : Nat) : BracedEscape :=
  if escape.overflowed then { escape with sawDigit := true }
  else if 0x10ffff < escape.value * 16 + digit then
    { escape with sawDigit := true, overflowed := true }
  else ⟨escape.value * 16 + digit, true, false⟩

/-- Source: `Lexer::braced_unicode_escape`. -/
def bracedUnicodeEscape : LexerM Nat := do
  let escape ← Call.iterate (fun escape => do
    let next ← peek source
    match next.bind (toDigit 16) with
    | none => pure (.done escape)
    | some digit => do
      let _ ← bump source
      pure (.next (BracedEscape.push escape digit))) (source.length + 1) ⟨0, false, false⟩
  if escape.sawDigit = false ∨ escape.overflowed then
    issueSince "invalid braced Unicode escape" start
  else do
    let closed ← consume source '}'
    if closed then pure escape.value else issueSince "invalid braced Unicode escape" start

/-- The code point of a one-character escape. -/
def simpleEscape (c : Char) : Option Nat :=
  match c with
  | '\'' => some 0x27
  | '"' => some 0x22
  | '\\' => some 0x5c
  | 'n' => some 0x0a
  | 'r' => some 0x0d
  | 't' => some 0x09
  | 'b' => some 0x08
  | 'f' => some 0x0c
  | 'v' => some 0x0b
  | _ => none

/-- The rest of an escape after the backslash. Source: the inner `match` of `Lexer::string`. -/
def escapeSequence (escaped : Char) : LexerM (List UInt16) := do
  match simpleEscape escaped with
  | some unit => appendCodePoint value unit start
  | none =>
    let next ← peek source
    if escaped = '0' ∧ next.any isAsciiDigit = false then
      appendCodePoint value 0 start
    else if escaped = 'x' then do
      let unit ← fixedHexEscape source start 2 0
      appendCodePoint value unit start
    else if escaped = 'u' then do
      let braced ← consume source '{'
      let codePoint ← (if braced then bracedUnicodeEscape source start
        else fixedHexEscape source start 4 0)
      appendCodePoint value codePoint start
    else if escaped = '\n' ∨ escaped = '\u2028' ∨ escaped = '\u2029' then
      pure value
    else if escaped = '\r' then do
      if next = some '\n' then do
        let _ ← bump source
        pure value
      else
        pure value
    else if isAsciiDigit escaped then
      issueSince "legacy decimal and octal string escapes are not implemented" start
    else
      appendCodePoint value escaped.toNat start

/-- One round of the loop of `Lexer::string`. -/
def stringRound (quote : Char) (value : List UInt16) : LexerM (Round (List UInt16) Token) := do
  match ← peek source with
  | none => issueSince "unterminated string literal" start
  | some c =>
    if c = quote then do
      let _ ← bump source
      match JsString.fromCodeUnits value with
      | .error message => issueSince message start
      | .ok text => do
        let result ← token start (.string text)
        pure (.done result)
    else if isLineTerminator c ∧ c ≠ '\u2028' ∧ c ≠ '\u2029' then
      issueSince "line terminator in string literal" start
    else do
      let _ ← bump source
      if c ≠ '\\' then do
        let longer ← appendCodePoint value c.toNat start
        pure (.next longer)
      else do
        let self ← Call.read
        match ← bump source with
        | none => issueSince "unterminated string escape" self.location
        | some escaped => do
          let longer ← escapeSequence source value self.location escaped
          pure (.next longer)

/-- Source: `Lexer::string`. -/
def string (start : SourceLocation) : LexerM Token := do
  match ← bump source with
  | none => issueSince "expected a string quote" start
  | some quote => Call.iterate (stringRound source start quote) (source.length + 1) []

/-! ## Tokens -/

/-- One token or another, depending on whether the next character is an equals sign. -/
def withEquals (longer shorter : LexerM TokenKind) : LexerM TokenKind := do
  let taken ← consume source '='
  if taken then longer else shorter

/-- The token of an operator or a bracket whose first character has been taken.
Source: the last `match` of `Lexer::next_token`. -/
def punctuator (c : Char) : LexerM TokenKind :=
  match c with
  | '{' => pure .leftBrace
  | '}' => pure .rightBrace
  | '(' => pure .leftParen
  | ')' => pure .rightParen
  | '[' => pure .leftBracket
  | ']' => pure .rightBracket
  | ';' => pure .semicolon
  | ',' => pure .comma
  | ':' => pure .colon
  | '.' => pure .dot
  | '+' => pure .plus
  | '-' => pure .minus
  | '*' => pure .star
  | '/' => pure .slash
  | '%' => pure .percent
  | '!' =>
    withEquals source (withEquals source (pure .strictNotEqual) (pure .notEqual)) (pure .bang)
  | '=' =>
    withEquals source (withEquals source (pure .strictEqual) (pure .equal)) (pure .assign)
  | '<' => withEquals source (pure .lessThanOrEqual) (pure .lessThan)
  | '>' => withEquals source (pure .greaterThanOrEqual) (pure .greaterThan)
  | '&' => doubled '&' .logicalAnd
  | '|' => doubled '|' .logicalOr
  | other => issueSince ("unexpected character " ++ host.debugChar other) start
where
  doubled (expected : Char) (kind : TokenKind) : LexerM TokenKind := do
    let taken ← consume source expected
    if taken then pure kind else issueSince "bitwise operators are not implemented" start

/-- Source: `Lexer::next_token`. -/
def nextToken : LexerM Token := do
  let self ← Call.read
  match ← peek source with
  | none => token self.location .eof
  | some c =>
    let second ← peekSecond source
    if isIdentifierStart host c then
      identifier host source self.location
    else if isAsciiDigit c ∨ c = '.' ∧ second.any isAsciiDigit then
      number host source self.location
    else if c = '\'' ∨ c = '"' then
      string source self.location
    else do
      let _ ← bump source
      let kind ← punctuator host source self.location c
      token self.location kind

/-- One round of the loop of `Lexer::tokenize`. -/
def tokenizeRound (tokens : List Token) : LexerM (Round (List Token) (List Token)) := do
  skipTrivia source
  let next ← nextToken host source
  if sameVariant next.kind .eof then pure (.done (tokens ++ [next]))
  else pure (.next (tokens ++ [next]))

/-- Source: `Lexer::tokenize`. -/
def tokenize : LexerM (List Token) :=
  Call.iterate (tokenizeRound host source) (source.length + 1) []

end Lexer

end WildBuzzard.Script
