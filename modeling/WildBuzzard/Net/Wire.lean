import WildBuzzard.Lib.Call
import WildBuzzard.Net.Message

/-!
# Reading from the socket

`WireReader` buffers what it read from the socket beyond the line it was asked for. The socket is a
`script`: what its reads return, one after another, and then the end of the stream. A read takes at
most as many bytes as it has room for, and the rest of the segment is left for the next one. The
polls with which the source waits for a segment are one event.

Cancellation and the absolute deadline are found by `check_control`; `checks` lists what the
consultations will find, and nothing is found once the list is used up.
-/

namespace WildBuzzard.Net

open Lib

/-- What one read of the socket returns. -/
inductive SocketEvent where
  /-- A segment of at least one byte. -/
  | data (first : UInt8) (rest : List UInt8)
  /-- No byte came within the inactivity timeout. -/
  | timeout
  /-- The socket failed. -/
  | fail (failure : IoFailure)
  deriving DecidableEq, Repr

/-- What a look at the cancellation token and the deadline finds. -/
inductive Control where
  | proceed
  | cancelled
  | deadline
  deriving DecidableEq, Repr

/-- Source: `WireReader`. -/
structure WireReader where
  script : List SocketEvent
  checks : List Control
  buffer : List UInt8
  cursor : Nat
  deriving DecidableEq, Repr

/-- The bytes an event carries. -/
def SocketEvent.bytes : SocketEvent → List UInt8
  | .data first rest => first :: rest
  | .timeout => []
  | .fail _ => []

namespace WireReader

/-- Source: `WireReader::new`. -/
def new (script : List SocketEvent) (checks : List Control) : WireReader :=
  { script, checks, buffer := [], cursor := 0 }

/-- What was read from the socket and not consumed. -/
def pending (r : WireReader) : List UInt8 := r.buffer.drop r.cursor

/-- What the socket still holds. -/
def unread (r : WireReader) : List UInt8 := r.script.flatMap SocketEvent.bytes

/-- Source: `check_control`. -/
def checkControl (operation : Operation) : Call WireReader Error Unit := fun r =>
  match r.checks with
  | [] => .ok () r
  | .proceed :: rest => .ok () { r with checks := rest }
  | .cancelled :: rest => .err .cancelled { r with checks := rest }
  | .deadline :: rest => .err (.timeout operation) { r with checks := rest }

/-- Take up to `n` bytes of the next segment. -/
def takeSegment (n : Nat) (operation : Operation) : Call WireReader Error (List UInt8) := fun r =>
  match r.script with
  | [] => .ok [] r
  | .timeout :: rest => .err (.timeout operation) { r with script := rest }
  | .fail failure :: rest => .err (.ofIo operation failure) { r with script := rest }
  | .data first bytes :: rest =>
    match (first :: bytes).drop n with
    | [] => .ok (first :: bytes) { r with script := rest }
    | next :: left => .ok ((first :: bytes).take n) { r with script := .data next left :: rest }

/-- Source: `WireReader::read_socket`, into room for `n` bytes. -/
def readSocket (n : Nat) (operation : Operation) : Call WireReader Error (List UInt8) := do
  checkControl operation
  takeSegment n operation

/-- Source: `WireReader::compact_if_consumed`. -/
def compactIfConsumed (r : WireReader) : WireReader :=
  if r.cursor = r.buffer.length then { r with buffer := [], cursor := 0 } else r

/-- Consume `n` bytes of the buffer. -/
def advance (n : Nat) (r : WireReader) : WireReader :=
  compactIfConsumed { r with cursor := r.cursor + n }

/-- Source: `WireReader::read_some`, into room for `n` bytes. -/
def readSome (n : Nat) (operation : Operation) : Call WireReader Error (List UInt8) :=
  if n = 0 then pure []
  else do
    checkControl operation
    let r ← Call.read
    if r.cursor < r.buffer.length then
      let count := min n (r.buffer.length - r.cursor)
      Call.modify (advance count)
      pure (r.pending.take count)
    else readSocket n operation

/-- The loop of `read_exact_wire` while `n` bytes are missing; every round brings one. -/
def readExactLoop (operation : Operation) : Nat → Nat → Call WireReader Error (List UInt8)
  | _, 0 => pure []
  | 0, _ => fun _ => .halt .loop
  | fuel + 1, n + 1 => do
    let bytes ← readSome (n + 1) operation
    Call.check (bytes ≠ []) .prematureEof
    let rest ← readExactLoop operation fuel (n + 1 - bytes.length)
    pure (bytes ++ rest)

/-- Source: `WireReader::read_exact_wire`. -/
def readExactWire (n : Nat) (operation : Operation) : Call WireReader Error (List UInt8) :=
  readExactLoop operation n n

/-- Source: `WireReader::fill`. -/
def fill (operation : Operation) : Call WireReader Error Nat := do
  Call.modify compactIfConsumed
  let incoming ← readSocket (8 * 1024) operation
  Call.modify fun r => { r with buffer := r.buffer ++ incoming }
  pure incoming.length

/-- Look for the end of the line from an offset on: the offset of its LF, or that the line is
malformed. Source: the `for` loop of `WireReader::read_crlf_line`. -/
def scanLine (pending : List UInt8) : Nat → List UInt8 → Option (Except Error Nat)
  | _, [] => none
  | offset, byte :: rest =>
    if byte = 10 then
      if offset = 0 ∨ pending[offset - 1]? ≠ some 13 then some (.error .invalidLineEnding)
      else some (.ok offset)
    else if byte = 13 ∧ rest ≠ [] ∧ rest.head? ≠ some 10 then some (.error .invalidLineEnding)
    else scanLine pending (offset + 1) rest

/-- A complete line whose LF is at the offset. Source: `WireReader::read_crlf_line`. -/
def completeLine (offset maxPayloadBytes : Nat) (limitError : Error) :
    Call WireReader Error (List UInt8 × Nat) := do
  let r ← Call.read
  let payload := r.pending.take (offset - 1)
  Call.check (offset - 1 ≤ maxPayloadBytes) limitError
  Call.check (13 ∉ payload ∧ 10 ∉ payload) .invalidLineEnding
  Call.modify (advance (offset + 1))
  pure (payload, offset + 1)

/-- The loop of `read_crlf_line`; every round but the last reads a byte from the socket. A buffer is
never so long that the saturating sum of the source is not the sum. -/
def readCrlfLineLoop (maxPayloadBytes : Nat) (limitError : Error) (operation : Operation) :
    Nat → Call WireReader Error (List UInt8 × Nat)
  | 0 => fun _ => .halt .loop
  | fuel + 1 => do
    checkControl operation
    let r ← Call.read
    Call.assert (r.cursor ≤ r.buffer.length) "range start index out of range for slice"
    match scanLine r.pending 0 r.pending with
    | some (.error e) => Call.fail e
    | some (.ok offset) => completeLine offset maxPayloadBytes limitError
    | none => do
      Call.check (r.pending.length ≤ maxPayloadBytes + 1) limitError
      let count ← fill operation
      Call.check (count ≠ 0) .prematureEof
      readCrlfLineLoop maxPayloadBytes limitError operation fuel

/-- Source: `WireReader::read_crlf_line`. -/
def readCrlfLine (maxPayloadBytes : Nat) (limitError : Error) (operation : Operation) :
    Call WireReader Error (List UInt8 × Nat) := fun r =>
  readCrlfLineLoop maxPayloadBytes limitError operation (r.unread.length + 1) r

end WireReader

end WildBuzzard.Net
