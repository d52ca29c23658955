import WildBuzzard.Net.Wire

/-!
# Parsing response heads

The lines of a response head are read under a budget that all heads of a response share, the
informational ones and the trailers of the body included: so many bytes, and so many fields.
`HeaderBudget` carries the two counters of the source and, as history variables that nothing reads,
the lines and the fields that were accepted.
-/

namespace WildBuzzard.Net

open Lib

/-! ## Lines -/

/-- The part of a line that starts at an index, as a number. -/
def digitValue (byte : UInt8) : Nat := byte.toNat - 48

/-- Source: `parse_status_line`. -/
def parseStatusLine (line : List UInt8) : Except Error (HttpVersion × StatusCode × List UInt8) := do
  if line.length < 13 then throw .malformedStatusLine
  let version ←
    if line.take 9 = ascii "HTTP/1.0 " then pure HttpVersion.http10
    else if line.take 9 = ascii "HTTP/1.1 " then pure HttpVersion.http11
    else throw .malformedStatusLine
  let statusBytes := (line.drop 9).take 3
  if ¬statusBytes.all isAsciiDigit ∨ (line)[12]? ≠ some 32 then throw .malformedStatusLine
  let numeric := statusBytes.foldl (fun value digit => value * 10 + digitValue digit) 0
  let status ← StatusCode.fromWire numeric
  match HeaderValue.fromBytes (line.drop 13) with
  | .ok _ => pure (version, status, line.drop 13)
  | .error _ => throw .malformedStatusLine

/-- Source: `parse_header_line`. -/
def parseHeaderLine (line : List UInt8) : Except Error (HeaderName × HeaderValue) := do
  if line.head? = some 32 ∨ line.head? = some 9 then throw .obsoleteLineFolding
  let colon ← (line.idxOf? 58).elim (throw .malformedHeader) pure
  let nameBytes := line.take colon
  if nameBytes.isEmpty || !nameBytes.all isTokenByte then throw .malformedHeader
  match HeaderName.new nameBytes, HeaderValue.fromBytes
      (trimOptionalWhitespace (line.drop (colon + 1))) with
  | .ok name, .ok value => pure (name, value)
  | _, _ => throw .malformedHeader

/-! ## What the fields say about the body -/

/-- A decimal number that fits in a `u64`. Source: the inner loop of `parse_content_length`. -/
def decimalValue : List UInt8 → Nat → Except Error Nat
  | [], number => .ok number
  | digit :: rest, number =>
    if number * 10 < 2 ^ 64 ∧ number * 10 + digitValue digit < 2 ^ 64 then
      decimalValue rest (number * 10 + digitValue digit)
    else .error .invalidContentLength

/-- One member of a `Content-Length` list. -/
def contentLengthMember (parsed : Option Nat) (member : List UInt8) : Except Error (Option Nat) := do
  let member := trimOptionalWhitespace member
  if member.isEmpty || !member.all isAsciiDigit then throw .invalidContentLength
  let number ← decimalValue member 0
  match parsed with
  | some previous => if previous ≠ number then throw .conflictingContentLength else pure parsed
  | none => pure (some number)

/-- Source: `parse_content_length`. -/
def parseContentLength (headers : Headers) : Except Error (Option Nat) :=
  ((headers.values "content-length").flatMap (splitAtByte 44)).foldlM contentLengthMember none

/-- Source: `parse_transfer_encoding`. -/
def parseTransferEncoding (headers : Headers) : Except Error Bool :=
  let codings := ((headers.values "transfer-encoding").flatMap (splitAtByte 44)).map
    trimOptionalWhitespace
  match codings with
  | [] => .ok false
  | [coding] =>
    if eqIgnoreAsciiCase coding (ascii "chunked") then .ok true
    else .error (.unsupportedTransferCoding coding)
  | _ => .error (.unsupportedTransferCoding codings.flatten)

/-- Source: `validate_content_coding`. -/
def validateContentCoding (headers : Headers) : Except Error Unit :=
  ((headers.values "content-encoding").flatMap (splitAtByte 44)).forM fun coding =>
    let coding := trimOptionalWhitespace coding
    if coding.isEmpty || !eqIgnoreAsciiCase coding (ascii "identity") then
      throw (.unsupportedContentCoding coding)
    else pure ()

/-- Source: `body_limit_error`. -/
def bodyLimitError (limit : UInt64) : Error := .limitExceeded .bodyBytes limit

/-- Source: `determine_body_framing`. -/
def determineBodyFraming (method : Method) (status : StatusCode) (contentLength : Option Nat)
    (transferEncoding : Bool) (maxBodyBytes : UInt64) : Except Error BodyFraming :=
  if method.isHead ∨ status.value ∈ [204, 205, 304] then .ok .none
  else if transferEncoding then .ok .chunked
  else
    match contentLength with
    | some length =>
      if length > maxBodyBytes.toNat then .error (bodyLimitError maxBodyBytes)
      else .ok (.contentLength length)
    | none => .ok .connectionClose

/-- What the fields of a head say about what follows. -/
inductive HeadKind where
  /-- Another head follows. -/
  | informational
  /-- The head is the last one. -/
  | final (framing : BodyFraming)
  deriving DecidableEq, Repr

/-- The checks that follow a head. Source: the loop of `parse_response_head`, without the counter of
informational heads. -/
def classifyHead (method : Method) (config : ClientConfig) (status : StatusCode)
    (headers : Headers) : Except Error HeadKind := do
  validateContentCoding headers
  let contentLength ← parseContentLength headers
  let transferEncoding ← parseTransferEncoding headers
  if contentLength.isSome ∧ transferEncoding then throw .ambiguousBodyFraming
  if status.value = 101 then throw .protocolSwitchUnsupported
  if status.isInformational then
    if contentLength.isSome ∨ transferEncoding then throw .malformedHeader
    return .informational
  if status.value = 204 ∧ (contentLength.isSome ∨ transferEncoding) then throw .malformedHeader
  let framing ←
    determineBodyFraming method status contentLength transferEncoding config.maxBodyBytes
  return .final framing

/-! ## Reading heads -/

/-- The two counters for response metadata, and what they count. -/
structure HeaderBudget where
  bytes : Nat
  count : Nat
  /-- History: the lines that were accepted, without their line endings. -/
  lines : List (List UInt8)
  /-- History: the fields that were accepted. -/
  fields : List (HeaderName × HeaderValue)
  deriving DecidableEq, Repr

/-- Nothing was read. -/
def HeaderBudget.new : HeaderBudget := { bytes := 0, count := 0, lines := [], fields := [] }

/-- A reader with the budget for the metadata it reads. -/
structure Metered where
  reader : WireReader
  budget : HeaderBudget
  deriving DecidableEq, Repr

namespace Metered

/-- Use the reader. -/
def onReader {α : Type} (m : Call WireReader Error α) : Call Metered Error α :=
  Call.focus Metered.reader (fun r s => { s with reader := r }) id m

/-- Source: `read_metadata_line`. -/
def readMetadataLine (limit : UInt64) (operation : Operation) :
    Call Metered Error (List UInt8) := do
  let s ← Call.read
  Call.check (s.budget.bytes ≤ limit.toNat) (.limitExceeded .headerBytes limit)
  Call.check (2 ≤ limit.toNat - s.budget.bytes) (.limitExceeded .headerBytes limit)
  let (line, wireBytes) ← onReader
    (WireReader.readCrlfLine (limit.toNat - s.budget.bytes - 2) (.limitExceeded .headerBytes limit)
      operation)
  Call.check (s.budget.bytes + wireBytes < 2 ^ 64) (.limitExceeded .headerBytes limit)
  Call.modify fun s =>
    { s with
      budget :=
        { s.budget with
          bytes := s.budget.bytes + wireBytes
          lines := s.budget.lines ++ [line] } }
  pure line

/-- Count one more field. Source: `parse_one_response_head` and `read_trailers`. -/
def countField (limit : UInt64) : Call Metered Error Unit := do
  let s ← Call.read
  Call.check (s.budget.count + 1 < 2 ^ 64) (.limitExceeded .headerCount limit)
  Call.modify fun s => { s with budget := { s.budget with count := s.budget.count + 1 } }
  Call.check (s.budget.count + 1 ≤ limit.toNat) (.limitExceeded .headerCount limit)

/-- Note an accepted field in the history. -/
def acceptField (field : HeaderName × HeaderValue) : Call Metered Error Unit :=
  Call.modify fun s => { s with budget := { s.budget with fields := s.budget.fields ++ [field] } }

/-- The loop of `parse_one_response_head`; every round takes a line. -/
def readFields (config : ClientConfig) : Nat → Headers → Call Metered Error Headers
  | 0, _ => fun _ => .halt .loop
  | fuel + 1, headers => do
    let line ← readMetadataLine config.maxHeaderBytes .readHead
    if line = [] then pure headers
    else do
      countField config.maxHeaderCount
      let field ← Call.ofExcept (parseHeaderLine line)
      acceptField field
      readFields config fuel (headers.append field)

/-- How many bytes there are still to read. -/
def available (s : Metered) : Nat := s.reader.pending.length + s.reader.unread.length

/-- Source: `parse_one_response_head`. -/
def parseOneResponseHead (config : ClientConfig) :
    Call Metered Error (HttpVersion × StatusCode × List UInt8 × Headers) := do
  let statusLine ← readMetadataLine config.maxHeaderBytes .readHead
  let (version, status, reasonPhrase) ← Call.ofExcept (parseStatusLine statusLine)
  let s ← Call.read
  let headers ← readFields config (s.available + 1) .new
  pure (version, status, reasonPhrase, headers)

/-- One more informational head. Source: `parse_response_head`. -/
def countInformational (config : ClientConfig) (count : Nat) : Call Metered Error Nat := do
  Call.check (count + 1 < 2 ^ 64)
    (.limitExceeded .informationalResponses config.maxInformationalResponses)
  Call.check (count + 1 ≤ config.maxInformationalResponses.toNat)
    (.limitExceeded .informationalResponses config.maxInformationalResponses)
  pure (count + 1)

/-- The loop of `parse_response_head`; every round takes a head. -/
def readHeads (method : Method) (config : ClientConfig) :
    Nat → Nat → Call Metered Error ResponseHead
  | 0, _ => fun _ => .halt .loop
  | fuel + 1, informational => do
    let (version, status, reasonPhrase, headers) ← parseOneResponseHead config
    match ← Call.ofExcept (classifyHead method config status headers) with
    | .informational => do
      let informational ← countInformational config informational
      readHeads method config fuel informational
    | .final framing =>
      pure { version, status, reasonPhrase, headers, framing
             informationalResponses := informational }

/-- Source: `parse_response_head`. -/
def parseResponseHead (method : Method) (config : ClientConfig) :
    Call Metered Error ResponseHead := do
  let s ← Call.read
  readHeads method config (s.available + 1) 0

end Metered

end WildBuzzard.Net
