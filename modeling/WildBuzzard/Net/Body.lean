import WildBuzzard.Net.Head

/-!
# Response bodies

`Body` decodes the body of a response as it is read, under one of four framings, and keeps enough in
its `BodyState` to go on with the next read. A terminal error is latched: it drops the reader and is
returned by every later read.

Each subtraction of the source that could underflow is modelled with the panic it would raise.
-/

namespace WildBuzzard.Net

open Lib

/-! ## Chunk sizes -/

/-- Source: `u8::is_ascii_hexdigit`. -/
def isAsciiHexdigit (byte : UInt8) : Bool :=
  (48 ≤ byte && byte ≤ 57) || (65 ≤ byte && byte ≤ 70) || (97 ≤ byte && byte ≤ 102)

/-- Source: `hex_value`. -/
def hexValue (byte : UInt8) : Nat :=
  if 48 ≤ byte && byte ≤ 57 then byte.toNat - 48
  else if 97 ≤ byte && byte ≤ 102 then byte.toNat - 97 + 10
  else if 65 ≤ byte && byte ≤ 70 then byte.toNat - 65 + 10
  else 0

/-- Source: `is_quoted_text_byte`. -/
def isQuotedTextByte (byte : UInt8) : Bool :=
  byte = 9 || byte = 32 || byte = 33 || (35 ≤ byte && byte ≤ 91) || (93 ≤ byte && byte ≤ 126) ||
    128 ≤ byte

/-- Source: `is_quoted_pair_byte`. -/
def isQuotedPairByte (byte : UInt8) : Bool :=
  byte = 9 || byte = 32 || (33 ≤ byte && byte ≤ 126) || 128 ≤ byte

/-- What follows a quoted string, from behind its opening quote. Source: `consume_quoted_string`. -/
def consumeQuotedString : List UInt8 → Except Error (List UInt8)
  | [] => .error .malformedChunkSize
  | 34 :: rest => .ok rest
  | 92 :: rest =>
    match rest with
    | [] => .error .malformedChunkSize
    | escaped :: rest =>
      if isQuotedPairByte escaped then consumeQuotedString rest
      else .error .malformedChunkSize
  | byte :: rest =>
    if isQuotedTextByte byte then consumeQuotedString rest else .error .malformedChunkSize

/-- One extension, from behind its semicolon: what follows it. Source: `validate_chunk_extensions`. -/
def consumeChunkExtension (input : List UInt8) : Except Error (List UInt8) :=
  if (input.takeWhile isTokenByte).isEmpty then .error .malformedChunkSize
  else
    match input.dropWhile isTokenByte with
    | 61 :: 34 :: rest => consumeQuotedString rest
    | 61 :: rest =>
      if (rest.takeWhile isTokenByte).isEmpty then .error .malformedChunkSize
      else .ok (rest.dropWhile isTokenByte)
    | rest => .ok rest

/-- The loop of `validate_chunk_extensions`; every round takes a byte. -/
def validateChunkExtensionsLoop : Nat → List UInt8 → Except Error Unit
  | _, [] => .ok ()
  | 0, _ => .error .malformedChunkSize
  | fuel + 1, byte :: rest =>
    if byte ≠ 59 then .error .malformedChunkSize
    else do
      let left ← consumeChunkExtension rest
      validateChunkExtensionsLoop fuel left

/-- Source: `validate_chunk_extensions`. -/
def validateChunkExtensions (input : List UInt8) : Except Error Unit :=
  validateChunkExtensionsLoop input.length input

/-- A hexadecimal number that fits in a `u64`. Source: the loop of `parse_chunk_size`. -/
def hexadecimalValue : List UInt8 → Nat → Except Error Nat
  | [], size => .ok size
  | digit :: rest, size =>
    if size * 16 < 2 ^ 64 ∧ size * 16 + hexValue digit < 2 ^ 64 then
      hexadecimalValue rest (size * 16 + hexValue digit)
    else .error .malformedChunkSize

/-- Source: `parse_chunk_size`. -/
def parseChunkSize (line : List UInt8) : Except Error Nat := do
  let sizeBytes := line.takeWhile (· ≠ 59)
  if sizeBytes.isEmpty || !sizeBytes.all isAsciiHexdigit then throw .malformedChunkSize
  let size ← hexadecimalValue sizeBytes 0
  validateChunkExtensions (line.dropWhile (· ≠ 59))
  return size

/-- Source: `is_prohibited_trailer`. -/
def isProhibitedTrailer (name : HeaderName) : Bool :=
  ["transfer-encoding", "content-length", "host", "trailer", "connection", "upgrade",
    "content-encoding"].any name.is

/-! ## The body -/

/-- Source: `BodyState`. -/
inductive BodyState where
  | empty
  | contentLength (remaining : Nat)
  | chunked (chunkRemaining : Nat) (needsDataCrlf : Bool)
  | connectionClose
  deriving DecidableEq, Repr

/-- Source: `Body`. -/
structure Body where
  reader : Option WireReader
  state : BodyState
  terminalError : Option Error
  decodedBytes : Nat
  maxBodyBytes : UInt64
  maxHeaderBytes : UInt64
  maxHeaderCount : UInt64
  budget : HeaderBudget
  maxChunkLineBytes : UInt64
  trailers : Headers
  deriving DecidableEq, Repr

namespace Body

/-- The state a framing starts in. Source: `Body::new`. -/
def initialState : BodyFraming → BodyState
  | .none => .empty
  | .contentLength 0 => .empty
  | .contentLength remaining => .contentLength remaining
  | .chunked => .chunked 0 false
  | .connectionClose => .connectionClose

/-- Source: `Body::new`. -/
def new (reader : WireReader) (framing : BodyFraming) (config : ClientConfig)
    (budget : HeaderBudget) : Body :=
  { reader := if initialState framing = .empty then none else some reader
    state := initialState framing
    terminalError := none
    decodedBytes := 0
    maxBodyBytes := config.maxBodyBytes
    maxHeaderBytes := config.maxHeaderBytes
    maxHeaderCount := config.maxHeaderCount
    budget := budget
    maxChunkLineBytes := config.maxChunkLineBytes
    trailers := .new }

/-- Use the reader and the budget. Source: `reader_mut`. -/
def onMetered {α : Type} (m : Call Metered Error α) : Call Body Error α := fun body =>
  match body.reader with
  | none => .err .prematureEof body
  | some reader =>
    (m { reader := reader, budget := body.budget }).trimap id id fun s =>
      { body with reader := some s.reader, budget := s.budget }

/-- Use the reader. Source: `reader_mut`. -/
def onReader {α : Type} (m : Call WireReader Error α) : Call Body Error α :=
  onMetered (Metered.onReader m)

/-- `a - b` on unsigned integers. -/
def subtract (a b : Nat) : Call Body Error Nat := do
  Call.assert (b ≤ a) "attempt to subtract with overflow"
  pure (a - b)

/-- `self.decoded_bytes += count`. -/
def countDecoded (count : Nat) : Call Body Error Unit := do
  let body ← Call.read
  Call.assert (body.decodedBytes + count < 2 ^ 64) "attempt to add with overflow"
  Call.modify fun body => { body with decodedBytes := body.decodedBytes + count }

/-- The body has ended. -/
def close (body : Body) : Body := { body with state := .empty, reader := none }

/-- Source: `bounded_read_len`. -/
def boundedReadLen (outputLen wireRemaining decodedBytes : Nat) (maxBodyBytes : UInt64) :
    Except Error Nat :=
  if decodedBytes ≥ maxBodyBytes.toNat then .error (bodyLimitError maxBodyBytes)
  else .ok (min outputLen (min wireRemaining (maxBodyBytes.toNat - decodedBytes)))

/-- Take part of a delimited piece of the body. Source: the common part of `read_content_length` and
the first branch of `read_chunked`. -/
def readDelimited (outputLen remaining : Nat) : Call Body Error (List UInt8 × Nat) := do
  let body ← Call.read
  let permitted ← Call.ofExcept
    (boundedReadLen outputLen remaining body.decodedBytes body.maxBodyBytes)
  let bytes ← onReader (WireReader.readSome permitted .readBody)
  Call.check (bytes ≠ []) .prematureEof
  let remaining ← subtract remaining bytes.length
  countDecoded bytes.length
  pure (bytes, remaining)

/-- Source: `Body::read_content_length`. -/
def readContentLength (outputLen remaining : Nat) : Call Body Error (List UInt8) := do
  let (bytes, remaining) ← readDelimited outputLen remaining
  Call.modify fun body =>
    if remaining = 0 then body.close else { body with state := .contentLength remaining }
  pure bytes

/-- The end of a body that ends with the connection, or a part of it. -/
def deliverUntilClose (bytes : List UInt8) : Call Body Error (List UInt8) :=
  if bytes = [] then do
    Call.modify close
    pure []
  else do
    countDecoded bytes.length
    pure bytes

/-- Source: `Body::read_connection_close`. -/
def readConnectionClose (outputLen : Nat) : Call Body Error (List UInt8) := do
  let body ← Call.read
  if body.decodedBytes = body.maxBodyBytes.toNat then do
    let probe ← onReader (WireReader.readSome 1 .readBody)
    Call.check (probe = []) (bodyLimitError body.maxBodyBytes)
    Call.modify close
    pure []
  else do
    let available ← subtract body.maxBodyBytes.toNat body.decodedBytes
    let bytes ← onReader (WireReader.readSome (min outputLen available) .readBody)
    deliverUntilClose bytes

/-- Source: the first branch of `Body::read_chunked`. -/
def readChunkData (outputLen chunkRemaining : Nat) : Call Body Error (List UInt8) := do
  let (bytes, remaining) ← readDelimited outputLen chunkRemaining
  Call.modify fun body => { body with state := .chunked remaining (remaining = 0) }
  pure bytes

/-- Source: the second branch of `Body::read_chunked`. -/
def readDataCrlf : Call Body Error Unit := do
  let ending ← onReader (WireReader.readExactWire 2 .readBody)
  Call.check (ending = [13, 10]) .invalidLineEnding
  Call.modify fun body => { body with state := .chunked 0 false }

/-- The loop of `read_trailers`; every round takes a line. -/
def readTrailersLoop : Nat → Call Body Error Unit
  | 0 => fun _ => .halt .loop
  | fuel + 1 => do
    let body ← Call.read
    let line ← onMetered (Metered.readMetadataLine body.maxHeaderBytes .readBody)
    if line = [] then pure ()
    else do
      onMetered (Metered.countField body.maxHeaderCount)
      let field ← Call.ofExcept (parseHeaderLine line)
      Call.check (¬isProhibitedTrailer field.1) (.prohibitedTrailer field.1.bytes)
      onMetered (Metered.acceptField field)
      Call.modify fun body => { body with trailers := body.trailers.append field }
      readTrailersLoop fuel

/-- How many bytes there are still to read. -/
def available (body : Body) : Nat :=
  match body.reader with
  | none => 0
  | some reader => reader.pending.length + reader.unread.length

/-- Source: `read_trailers`. -/
def readTrailers : Call Body Error Unit := fun body => readTrailersLoop (body.available + 1) body

/-- Source: the size line in `Body::read_chunked`. -/
def readSizeLine : Call Body Error Nat := do
  let body ← Call.read
  let (line, _) ← onReader
    (WireReader.readCrlfLine body.maxChunkLineBytes.toNat
      (.limitExceeded .chunkLineBytes body.maxChunkLineBytes) .readBody)
  Call.ofExcept (parseChunkSize line)

/-- A chunk of a given size follows. Source: `Body::read_chunked`, after a size line. -/
def startChunk (size : Nat) : Call Body Error Unit := do
  let body ← Call.read
  let available ← subtract body.maxBodyBytes.toNat body.decodedBytes
  Call.check (size ≤ available) (bodyLimitError body.maxBodyBytes)
  Call.modify fun body => { body with state := .chunked size false }

/-- From a size line on: the trailers, or the first data of a chunk. Source: `Body::read_chunked`,
whose loop comes back to its first branch with a chunk that is not empty. -/
def readNextChunk (outputLen : Nat) : Call Body Error (List UInt8) := do
  let size ← readSizeLine
  if size = 0 then do
    readTrailers
    Call.modify close
    pure []
  else do
    startChunk size
    readChunkData outputLen size

/-- Source: `Body::read_chunked`. -/
def readChunked (outputLen chunkRemaining : Nat) (needsDataCrlf : Bool) :
    Call Body Error (List UInt8) :=
  if chunkRemaining > 0 then readChunkData outputLen chunkRemaining
  else if needsDataCrlf then do
    readDataCrlf
    readNextChunk outputLen
  else readNextChunk outputLen

/-- Source: the check at the start of `Body::read_chunk_unlatched`. -/
def checkReader : Call Body Error Unit := fun body =>
  match body.reader with
  | none => .ok () body
  | some _ => onReader (WireReader.checkControl .readBody) body

/-- Source: `Body::read_chunk_unlatched`. -/
def readChunkUnlatched (outputLen : Nat) : Call Body Error (List UInt8) := do
  checkReader
  let body ← Call.read
  match body.state with
  | .empty => pure []
  | .contentLength remaining => readContentLength outputLen remaining
  | .connectionClose => readConnectionClose outputLen
  | .chunked chunkRemaining needsDataCrlf => readChunked outputLen chunkRemaining needsDataCrlf

/-- Source: `is_terminal_body_error`. -/
def isTerminalBodyError : Error → Bool
  | .cancelled => false
  | .timeout _ => false
  | _ => true

/-- Latch a terminal error. Source: `Body::read_chunk`. -/
def poison (error : Error) (body : Body) : Body :=
  { body with terminalError := some error, reader := none, state := .empty, trailers := .new }

/-- The bytes that a read into room for `outputLen` bytes delivers. Source: `Body::read_chunk`. -/
def readChunk (outputLen : Nat) : Call Body Error (List UInt8) := fun body =>
  if outputLen = 0 then .ok [] body
  else
    match body.terminalError with
    | some error => .err error body
    | none =>
      match readChunkUnlatched outputLen body with
      | .ok bytes body' => .ok bytes body'
      | .err error body' =>
        .err error (if isTerminalBodyError error then poison error body' else body')
      | .halt reason => .halt reason

end Body

/-! ## Responses -/

/-- Source: `Response`. -/
structure Response where
  head : ResponseHead
  body : Body
  deriving DecidableEq, Repr

/-- The head of the response and its body, after the request was written (`written` is what came of
that). Source: `execute_prepared`. -/
def executePrepared (method : Method) (policy : RedirectPolicy) (config : ClientConfig)
    (written : Except Error Unit) : Call Metered Error Response := do
  Call.ofExcept written
  let head ← Metered.parseResponseHead method config
  Call.check (¬(policy = .reject ∧ head.status.isRedirect)) (.redirectRejected head.status.value)
  let s ← Call.read
  pure { head := head, body := Body.new s.reader head.framing config s.budget }

end WildBuzzard.Net
