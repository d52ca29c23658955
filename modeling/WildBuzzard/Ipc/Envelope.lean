import WildBuzzard.Ipc.Payload

/-!
# The typed IPC envelope codec

Source: `ipc/rust/wild_buzzard_ipc/src/lib.rs`, `EnvelopeCodec`; the service identity is
`xpcom/rust/wild_buzzard_services/src/lib.rs`, `WireServiceIdentity`, over
`memory/rust/wild_buzzard_handles/src/lib.rs`, `RawHandle`.

The wire image is a header of 96 bytes in front of the payload:

    0 magic   4 header length   6 major   8 minor   10 flags   12 protocol   16 kind
    20 payload length   24 correlation   32 source   64 destination   96 payload

`encode` writes it front to back, `decode` reads each field at its own offset. Types whose values
the crate validates on construction carry the validation as a field: flags, correlation ids,
identities, codecs. `decode` builds its `ProtocolVersion` unchecked, so that one is a plain record.
-/

namespace WildBuzzard.Ipc

open Lib

/-! ## Header data -/

/-- Source: `MAGIC` -/
def magic : List UInt8 := [0x57, 0x42, 0x49, 0x50]

/-- Source: `HEADER_LEN` -/
def headerLen : ℕ := 96

/-- Source: `HARD_MAX_PAYLOAD_LEN` -/
def hardMaxPayloadLen : ℕ := 16 * 1024 * 1024

/-- Source: `ProtocolVersion` -/
structure ProtocolVersion where
  major : UInt16
  minor : UInt16
  deriving DecidableEq

/-- Source: `InvalidFlags` -/
inductive InvalidFlags where
  | unknownBits (bits : UInt16)
  | requestAndResponse
  deriving DecidableEq

/-- Source: `EnvelopeFlags::REQUEST`, `RESPONSE`, `CONTROL` and `KNOWN_FLAGS` -/
def requestBit : UInt16 := (1 : UInt16) <<< 0

@[inherit_doc requestBit] def responseBit : UInt16 := (1 : UInt16) <<< 1

@[inherit_doc requestBit] def controlBit : UInt16 := (1 : UInt16) <<< 2

@[inherit_doc requestBit] def knownFlags : UInt16 := requestBit ||| responseBit ||| controlBit

/-- The bits `EnvelopeFlags::from_bits` lets through. -/
def ValidFlagBits (bits : UInt16) : Prop :=
  bits &&& ~~~knownFlags = 0 ∧ ¬(bits &&& requestBit ≠ 0 ∧ bits &&& responseBit ≠ 0)

/-- Validated routing flags.
Source: `EnvelopeFlags` -/
@[ext] structure EnvelopeFlags where
  bits : UInt16
  valid : ValidFlagBits bits

/-- Source: `EnvelopeFlags::from_bits` -/
def EnvelopeFlags.fromBits (bits : UInt16) : Except InvalidFlags EnvelopeFlags :=
  if h₁ : bits &&& ~~~knownFlags ≠ 0 then .error (.unknownBits (bits &&& ~~~knownFlags))
  else if h₂ : bits &&& requestBit ≠ 0 ∧ bits &&& responseBit ≠ 0 then .error .requestAndResponse
  else .ok ⟨bits, not_not.mp h₁, h₂⟩

/-- A non-zero request/response correlation identity.
Source: `CorrelationId` -/
@[ext] structure CorrelationId where
  get : UInt64
  ne_zero : get ≠ 0

/-- Source: `CorrelationId::new` -/
def CorrelationId.new (value : UInt64) : Option CorrelationId :=
  if h : value = 0 then none else some ⟨value, h⟩

/-- Source: `IdentityDecodeError`, the variants of `WireServiceIdentity::from_parts` -/
inductive IdentityDecodeError where
  | zeroKind
  | zeroNamespace
  | zeroGeneration
  deriving DecidableEq

/-- A validated, transport-safe service identity.
Source: `WireServiceIdentity`, `ServiceKind`, `ServiceNamespace`, `RawHandle` -/
@[ext] structure WireServiceIdentity where
  kind : BitVec 128
  serviceNamespace : UInt64
  slot : UInt32
  generation : UInt32
  kind_ne : kind ≠ 0
  namespace_ne : serviceNamespace ≠ 0
  generation_ne : generation ≠ 0

/-- Source: `WireServiceIdentity::from_parts` -/
def WireServiceIdentity.fromParts (kind : BitVec 128) (ns : UInt64) (slot generation : UInt32) :
    Except IdentityDecodeError WireServiceIdentity :=
  if h₁ : kind = 0 then .error .zeroKind
  else if h₂ : ns = 0 then .error .zeroNamespace
  else if h₃ : generation = 0 then .error .zeroGeneration
  else .ok ⟨kind, ns, slot, generation, h₁, h₂, h₃⟩

/-- One typed message and its routing metadata.
Source: `Envelope` -/
@[ext] structure Envelope (M : Type) where
  message : M
  source : WireServiceIdentity
  destination : WireServiceIdentity
  correlation : Option CorrelationId
  flags : EnvelopeFlags

/-! ## The codec -/

/-- A configured version and size policy. The last two fields are what `new` checks.
Source: `EnvelopeCodec`, `EnvelopeCodec::new` -/
structure EnvelopeCodec where
  protocol : ProtocolId
  current : ProtocolVersion
  minimumMinor : UInt16
  maxPayloadLen : ℕ
  minor_le : minimumMinor ≤ current.minor
  limit_le : maxPayloadLen ≤ hardMaxPayloadLen

/-- Source: `EncodeError` -/
inductive EncodeError where
  | protocolMismatch (codec message : ProtocolId)
  | payload (error : PayloadCodecError)
  | payloadTooLarge (actual limit : ℕ)
  deriving DecidableEq

/-- Source: `Endpoint` -/
inductive Endpoint where
  | source
  | destination
  deriving DecidableEq

/-- Source: `DecodeError` -/
inductive DecodeError where
  | truncatedHeader (actual required : ℕ)
  | invalidMagic (actual : List UInt8)
  | unsupportedHeaderLength (actual expected : ℕ)
  | majorVersionMismatch (expected actual : UInt16)
  | unsupportedMinorVersion (minimum maximum actual : UInt16)
  | invalidFlags (error : InvalidFlags)
  | zeroProtocolId
  | unexpectedProtocol (expected : ProtocolId) (actual : UInt32)
  | typedMessageProtocolMismatch (codec message : ProtocolId)
  | zeroMessageKind
  | unexpectedMessageKind (expected : MessageKind) (actual : UInt32)
  | payloadTooLarge (declared limit : ℕ)
  | lengthOverflow (declaredPayloadLen : ℕ)
  | truncatedPayload (declared available : ℕ)
  | trailingEnvelopeBytes (expectedTotal actualTotal : ℕ)
  | invalidIdentity (endpoint : Endpoint) (error : IdentityDecodeError)
  | payload (error : PayloadCodecError)
  deriving DecidableEq

/-- Source: `put_u16` -/
def putU16 (value : UInt16) : List UInt8 := leBytes 2 value.toNat

/-- Source: `put_u32` -/
def putU32 (value : UInt32) : List UInt8 := leBytes 4 value.toNat

/-- Source: `put_u64` -/
def putU64 (value : UInt64) : List UInt8 := leBytes 8 value.toNat

/-- Source: `put_u128` -/
def putU128 (value : BitVec 128) : List UInt8 := leBytes 16 value.toNat

/-- Source: `put_identity` -/
def putIdentity (identity : WireServiceIdentity) : List UInt8 :=
  putU128 identity.kind ++ (putU64 identity.serviceNamespace ++
    (putU32 identity.slot ++ putU32 identity.generation))

variable (bytes : List UInt8) (offset : ℕ)

/-- Source: `read_u16`; the callers have checked that the slice is inside the buffer -/
def readU16 : UInt16 :=
  UInt16.ofNat (leValue (field bytes offset 2))

/-- Source: `read_u32` -/
def readU32 : UInt32 :=
  UInt32.ofNat (leValue (field bytes offset 4))

/-- Source: `read_u64` -/
def readU64 : UInt64 :=
  UInt64.ofNat (leValue (field bytes offset 8))

/-- Source: `read_u128` -/
def readU128 : BitVec 128 :=
  BitVec.ofNat 128 (leValue (field bytes offset 16))

/-- Source: `read_identity` -/
def readIdentity : Except IdentityDecodeError WireServiceIdentity :=
  WireServiceIdentity.fromParts (readU128 bytes offset) (readU64 bytes (offset + 16))
    (readU32 bytes (offset + 24)) (readU32 bytes (offset + 28))

namespace EnvelopeCodec

variable {M : Type} [IpcMessage M]

variable (codec : EnvelopeCodec)

/-- The limit that binds a payload: the codec's or the message type's, whichever is smaller. -/
def activeLimit (M : Type) [IpcMessage M] : ℕ :=
  min codec.maxPayloadLen (IpcMessage.maxPayloadLen M)

/-- The fixed header `encode` writes in front of a payload of the given length. -/
def header (envelope : Envelope M) (payloadLen : UInt32) : List UInt8 :=
  magic ++ (putU16 (UInt16.ofNat headerLen) ++ (putU16 codec.current.major ++
    (putU16 codec.current.minor ++ (putU16 envelope.flags.bits ++ (putU32 codec.protocol.get ++
      (putU32 (IpcMessage.kind M).get ++ (putU32 payloadLen ++
        (putU64 ((envelope.correlation.map CorrelationId.get).getD 0) ++
          (putIdentity envelope.source ++ putIdentity envelope.destination)))))))))

/-- Source: `EnvelopeCodec::encode` -/
def encode (envelope : Envelope M) : Except EncodeError (List UInt8) :=
  if IpcMessage.protocol M ≠ codec.protocol then
    .error (.protocolMismatch codec.protocol (IpcMessage.protocol M))
  else
    let limit := codec.activeLimit M
    match IpcMessage.encodePayload envelope.message (PayloadEncoder.new limit) with
    | .error e => .error (.payload e)
    | .ok payload =>
      if 2 ^ 32 ≤ payload.bytes.length then
        .error (.payloadTooLarge payload.bytes.length limit)
      else
        .ok (codec.header envelope (UInt32.ofNat payload.bytes.length) ++ payload.bytes)

/-- Source: `EnvelopeCodec::validate_version` -/
def validateVersion (actual : ProtocolVersion) : Except DecodeError Unit :=
  if actual.major ≠ codec.current.major then
    .error (.majorVersionMismatch codec.current.major actual.major)
  else if actual.minor < codec.minimumMinor ∨ codec.current.minor < actual.minor then
    .error (.unsupportedMinorVersion codec.minimumMinor codec.current.minor actual.minor)
  else .ok ()

/-- The last part of `decode`: the fields behind the length checks and the payload slice. -/
def decodeBody (M : Type) [IpcMessage M] (bytes : List UInt8) (flags : EnvelopeFlags)
    (declared : ℕ) : Except DecodeError (Envelope M) :=
  match readIdentity bytes 32 with
  | .error e => .error (.invalidIdentity .source e)
  | .ok source =>
    match readIdentity bytes 64 with
    | .error e => .error (.invalidIdentity .destination e)
    | .ok destination =>
      match IpcMessage.decodePayload (PayloadDecoder.new (field bytes headerLen declared)) with
      | .error e => .error (.payload e)
      | .ok (message, decoder) =>
        match decoder.finish with
        | .error e => .error (.payload e)
        | .ok () =>
          .ok ⟨message, source, destination, CorrelationId.new (readU64 bytes 24), flags⟩

/-- The length checks of `decode`, from the declared payload length on. -/
def decodeLengths (M : Type) [IpcMessage M] (bytes : List UInt8)
    (flags : EnvelopeFlags) : Except DecodeError (Envelope M) :=
  let declared := (readU32 bytes 20).toNat
  let limit := codec.activeLimit M
  if limit < declared then .error (.payloadTooLarge declared limit)
  else if usizeMax < headerLen + declared then .error (.lengthOverflow declared)
  else if bytes.length < headerLen + declared then
    .error (.truncatedPayload declared (bytes.length - headerLen))
  else if headerLen + declared < bytes.length then
    .error (.trailingEnvelopeBytes (headerLen + declared) bytes.length)
  else decodeBody M bytes flags declared

/-- Source: `EnvelopeCodec::decode` -/
def decode (M : Type) [IpcMessage M] (bytes : List UInt8) :
    Except DecodeError (Envelope M) :=
  if bytes.length < headerLen then .error (.truncatedHeader bytes.length headerLen)
  else if field bytes 0 4 ≠ magic then .error (.invalidMagic (field bytes 0 4))
  else if (readU16 bytes 4).toNat ≠ headerLen then
    .error (.unsupportedHeaderLength (readU16 bytes 4).toNat headerLen)
  else
    match codec.validateVersion ⟨readU16 bytes 6, readU16 bytes 8⟩ with
    | .error e => .error e
    | .ok () =>
      match EnvelopeFlags.fromBits (readU16 bytes 10) with
      | .error e => .error (.invalidFlags e)
      | .ok flags =>
        if readU32 bytes 12 = 0 then .error .zeroProtocolId
        else if readU32 bytes 12 ≠ codec.protocol.get then
          .error (.unexpectedProtocol codec.protocol (readU32 bytes 12))
        else if IpcMessage.protocol M ≠ codec.protocol then
          .error (.typedMessageProtocolMismatch codec.protocol (IpcMessage.protocol M))
        else if readU32 bytes 16 = 0 then .error .zeroMessageKind
        else if readU32 bytes 16 ≠ (IpcMessage.kind M).get then
          .error (.unexpectedMessageKind (IpcMessage.kind M) (readU32 bytes 16))
        else codec.decodeLengths M bytes flags

end EnvelopeCodec

end WildBuzzard.Ipc
