import WildBuzzard.Lib.LittleEndian

/-!
# The bounded payload writer and the payload cursor

Source: `ipc/rust/wild_buzzard_ipc/src/lib.rs`, `PayloadEncoder`, `PayloadDecoder`, `IpcMessage`.

Both carry their bound as a field. A `PayloadEncoder` never holds more bytes than its limit, a
`PayloadDecoder` never stands behind the end of its slice; so the writer's limit check is the only
place where the bound is decided, and `remaining` never underflows.

`IpcMessage` is the trait with one law added. An implementation gets the writer by `&mut`, and the
law says that it uses it as a writer: what comes back still has the limit that was handed in
(`encode_limit`). `RoundTrips` and `Canonical` are the two properties of a payload codec that the
envelope results are relative to.
-/

namespace WildBuzzard.Ipc

open Lib

/-- `usize::MAX` on the supported 64-bit target. -/
def usizeMax : ℕ := 2 ^ 64 - 1

/-- A bounded payload serialization or parsing failure.
Source: `PayloadCodecError` -/
inductive PayloadCodecError where
  | limitExceeded (attempted limit : ℕ)
  | lengthNotRepresentable (length : ℕ)
  | unexpectedEnd (needed remaining : ℕ)
  | invalidValue (field reason : String)
  | trailingBytes (remaining : ℕ)
  deriving DecidableEq, Repr

/-! ## Writing -/

/-- A growable payload writer that enforces its bound before each write.
Source: `PayloadEncoder` -/
structure PayloadEncoder where
  bytes : List UInt8
  limit : ℕ
  /-- No write gets past the bound. -/
  within : bytes.length ≤ limit

namespace PayloadEncoder

/-- Source: `PayloadEncoder::new` -/
def new (limit : ℕ) : PayloadEncoder := ⟨[], limit, Nat.zero_le _⟩

/-- Source: `PayloadEncoder::write_bytes` -/
def writeBytes (e : PayloadEncoder) (value : List UInt8) :
    Except PayloadCodecError PayloadEncoder :=
  let attempted := e.bytes.length + value.length
  if usizeMax < attempted then .error (.limitExceeded usizeMax e.limit)
  else if h : attempted ≤ e.limit then
    .ok ⟨e.bytes ++ value, e.limit, by simpa [attempted] using h⟩
  else .error (.limitExceeded attempted e.limit)

/-- Source: `PayloadEncoder::write_u64` -/
def writeU64 (e : PayloadEncoder) (value : UInt64) : Except PayloadCodecError PayloadEncoder :=
  e.writeBytes (leBytes 8 value.toNat)

/-- Source: `PayloadEncoder::write_length_prefixed_bytes` -/
def writeLengthPrefixedBytes (e : PayloadEncoder) (value : List UInt8) :
    Except PayloadCodecError PayloadEncoder :=
  if 2 ^ 32 ≤ value.length then .error (.lengthNotRepresentable value.length)
  else
    let attempted := e.bytes.length + 4 + value.length
    if usizeMax < attempted then .error (.limitExceeded usizeMax e.limit)
    else if h : attempted ≤ e.limit then
      .ok ⟨e.bytes ++ leBytes 4 value.length ++ value, e.limit, by
        simp only [List.length_append, leBytes_length]; exact h⟩
    else .error (.limitExceeded attempted e.limit)

variable {e e' : PayloadEncoder}

/-- A successful write appends exactly its argument and keeps the limit. -/
lemma writeBytes_ok {value : List UInt8} (h : e.writeBytes value = .ok e') :
    e'.bytes = e.bytes ++ value ∧ e'.limit = e.limit := by
  unfold writeBytes at h
  simp only at h
  split_ifs at h with h₁ h₂
  cases h
  exact ⟨rfl, rfl⟩

/-- A write that fits succeeds. -/
lemma writeBytes_of_le {e : PayloadEncoder} (value : List UInt8)
    (hfit : e.bytes.length + value.length ≤ e.limit)
    (hsize : e.bytes.length + value.length ≤ usizeMax) : ∃ e', e.writeBytes value = .ok e' := by
  unfold writeBytes
  rw [if_neg (by omega), dif_pos hfit]
  exact ⟨_, rfl⟩

/-- A length-prefixed write that fits succeeds. -/
lemma writeLengthPrefixedBytes_of_le {e : PayloadEncoder} (value : List UInt8)
    (hlen : value.length < 2 ^ 32) (hfit : e.bytes.length + 4 + value.length ≤ e.limit)
    (hsize : e.bytes.length + 4 + value.length ≤ usizeMax) :
    ∃ e', e.writeLengthPrefixedBytes value = .ok e' := by
  unfold writeLengthPrefixedBytes
  rw [if_neg (by omega), if_neg (by omega), dif_pos hfit]
  exact ⟨_, rfl⟩

lemma writeLengthPrefixedBytes_ok {value : List UInt8}
    (h : e.writeLengthPrefixedBytes value = .ok e') :
    value.length < 2 ^ 32 ∧ e'.bytes = e.bytes ++ leBytes 4 value.length ++ value ∧
      e'.limit = e.limit := by
  unfold writeLengthPrefixedBytes at h
  simp only at h
  split_ifs at h with h₁ h₂ h₃
  cases h
  exact ⟨by omega, rfl, rfl⟩

end PayloadEncoder

/-! ## Reading -/

/-- A cursor restricted to one already size-validated payload slice.
Source: `PayloadDecoder` -/
structure PayloadDecoder where
  bytes : List UInt8
  position : ℕ
  /-- The cursor stays inside its slice. -/
  position_le : position ≤ bytes.length

namespace PayloadDecoder

variable {d d' : PayloadDecoder}

/-- Source: `PayloadDecoder::new` -/
def new (bytes : List UInt8) : PayloadDecoder := ⟨bytes, 0, Nat.zero_le _⟩

/-- Source: `PayloadDecoder::remaining` -/
def remaining (d : PayloadDecoder) : ℕ := d.bytes.length - d.position

/-- Source: `PayloadDecoder::read_exact` -/
def readExact (d : PayloadDecoder) (length : ℕ) :
    Except PayloadCodecError (List UInt8 × PayloadDecoder) :=
  if h : length ≤ d.remaining then
    .ok (field d.bytes d.position length,
      ⟨d.bytes, d.position + length, by have := d.position_le; unfold remaining at h; omega⟩)
  else .error (.unexpectedEnd length d.remaining)

/-- Source: `PayloadDecoder::read_u32` -/
def readU32 (d : PayloadDecoder) : Except PayloadCodecError (UInt32 × PayloadDecoder) :=
  (d.readExact 4).map fun r => (UInt32.ofNat (leValue r.1), r.2)

/-- Source: `PayloadDecoder::read_u64` -/
def readU64 (d : PayloadDecoder) : Except PayloadCodecError (UInt64 × PayloadDecoder) :=
  (d.readExact 8).map fun r => (UInt64.ofNat (leValue r.1), r.2)

/-- Source: `PayloadDecoder::read_length_prefixed_bytes` -/
def readLengthPrefixedBytes (d : PayloadDecoder) :
    Except PayloadCodecError (List UInt8 × PayloadDecoder) :=
  match d.readU32 with
  | .error e => .error e
  | .ok (length, d') => d'.readExact length.toNat

/-- Source: `PayloadDecoder::finish` -/
def finish (d : PayloadDecoder) : Except PayloadCodecError Unit :=
  if d.remaining = 0 then .ok () else .error (.trailingBytes d.remaining)

lemma finish_ok_iff {d : PayloadDecoder} : d.finish = .ok () ↔ d.remaining = 0 := by
  unfold finish
  split_ifs with h <;> simp [h]

/-- Reading the next piece of a slice that is split at the cursor. -/
lemma readExact_of_split {d : PayloadDecoder} {a b c : List UInt8}
    (hb : d.bytes = a ++ b ++ c) (hp : d.position = a.length) :
    ∃ d', d.readExact b.length = .ok (b, d') ∧ d'.bytes = d.bytes ∧
      d'.position = (a ++ b).length := by
  have hlen : b.length ≤ d.remaining := by
    unfold remaining
    rw [hb, hp]
    simp only [List.length_append]
    omega
  unfold readExact
  rw [dif_pos hlen]
  refine ⟨_, congrArg Except.ok (Prod.ext ?_ rfl), rfl, by simp [hp]⟩
  simp only [hb, hp]
  rw [List.append_assoc, field_append_right le_rfl, Nat.sub_self, field_append_self rfl]

lemma readExact_ok {n : ℕ} {b : List UInt8} (h : d.readExact n = .ok (b, d')) :
    d.position + n ≤ d.bytes.length ∧ b = field d.bytes d.position n ∧ d'.bytes = d.bytes ∧
      d'.position = d.position + n := by
  have hp := d.position_le
  unfold readExact at h
  split_ifs at h with hn
  cases h
  unfold remaining at hn
  exact ⟨by omega, rfl, rfl, rfl⟩

lemma readU32_ok {v : UInt32} (h : d.readU32 = .ok (v, d')) :
    d.position + 4 ≤ d.bytes.length ∧ leBytes 4 v.toNat = field d.bytes d.position 4 ∧
      d'.bytes = d.bytes ∧ d'.position = d.position + 4 := by
  unfold readU32 at h
  rcases hr : d.readExact 4 with e | ⟨b, d₁⟩ <;> rw [hr] at h <;> cases h
  obtain ⟨hle, rfl, hb, hp⟩ := readExact_ok hr
  have hlt : leValue (field d.bytes d.position 4) < 2 ^ 32 := by
    have := leValue_lt (field d.bytes d.position 4)
    rwa [field_length hle] at this
  refine ⟨hle, ?_, hb, hp⟩
  rw [UInt32.toNat_ofNat_of_lt' hlt, leBytes_leValue (field_length hle)]

lemma readU64_ok {v : UInt64} (h : d.readU64 = .ok (v, d')) :
    d.position + 8 ≤ d.bytes.length ∧ leBytes 8 v.toNat = field d.bytes d.position 8 ∧
      d'.bytes = d.bytes ∧ d'.position = d.position + 8 := by
  unfold readU64 at h
  rcases hr : d.readExact 8 with e | ⟨b, d₁⟩ <;> rw [hr] at h <;> cases h
  obtain ⟨hle, rfl, hb, hp⟩ := readExact_ok hr
  have hlt : leValue (field d.bytes d.position 8) < 2 ^ 64 := by
    have := leValue_lt (field d.bytes d.position 8)
    rwa [field_length hle] at this
  refine ⟨hle, ?_, hb, hp⟩
  rw [UInt64.toNat_ofNat_of_lt' hlt, leBytes_leValue (field_length hle)]

/-- Reading a length-prefixed piece: the prefix is the length of the bytes that follow it. -/
lemma readLengthPrefixedBytes_ok {b : List UInt8} (h : d.readLengthPrefixedBytes = .ok (b, d')) :
    b.length < 2 ^ 32 ∧ d.position + 4 + b.length ≤ d.bytes.length ∧
      leBytes 4 b.length = field d.bytes d.position 4 ∧
      b = field d.bytes (d.position + 4) b.length ∧ d'.bytes = d.bytes ∧
      d'.position = d.position + 4 + b.length := by
  unfold readLengthPrefixedBytes at h
  split at h
  · cases h
  · rename_i n d₁ h₁
    obtain ⟨hle₁, hn, hb₁, hp₁⟩ := readU32_ok h₁
    obtain ⟨hle, hb, hb', hp'⟩ := readExact_ok h
    rw [hb₁, hp₁] at hle hb
    have hlen : b.length = n.toNat := by rw [hb, field_length hle]
    refine ⟨?_, ?_, ?_, ?_, hb'.trans hb₁, ?_⟩
    · rw [hlen]; exact n.toNat_lt
    · rw [hlen]; exact hle
    · rw [hlen]; exact hn
    · rw [hlen]; exact hb
    · rw [hlen, hp', hp₁]

end PayloadDecoder

/-! ## Typed messages -/

/-- A stable non-zero protocol discriminator.
Source: `ProtocolId` -/
structure ProtocolId where
  get : UInt32
  ne_zero : get ≠ 0
  deriving DecidableEq

/-- A non-zero application message discriminator.
Source: `MessageKind` -/
structure MessageKind where
  get : UInt32
  ne_zero : get ≠ 0
  deriving DecidableEq

/-- A typed message with a bounded, deterministic binary payload codec.
Source: `IpcMessage` -/
class IpcMessage (M : Type) where
  protocol : ProtocolId
  kind : MessageKind
  maxPayloadLen : ℕ
  encodePayload : M → PayloadEncoder → Except PayloadCodecError PayloadEncoder
  decodePayload : PayloadDecoder → Except PayloadCodecError (M × PayloadDecoder)
  /-- The writer is only written to: its limit is still the one handed in. -/
  encode_limit : ∀ {m e e'}, encodePayload m e = .ok e' → e'.limit = e.limit

/-- The payload decoder consumes exactly the bytes the encoder wrote and returns the message. -/
def RoundTrips (M : Type) [IpcMessage M] : Prop :=
  ∀ (m : M) (limit : ℕ) (e : PayloadEncoder),
    IpcMessage.encodePayload m (PayloadEncoder.new limit) = .ok e →
      ∃ d, IpcMessage.decodePayload (PayloadDecoder.new e.bytes) = .ok (m, d) ∧ d.remaining = 0

/-- Every payload that is accepted whole is the one the encoder writes for its message. -/
def Canonical (M : Type) [IpcMessage M] : Prop :=
  ∀ (bytes : List UInt8) (m : M) (d : PayloadDecoder) (limit : ℕ),
    IpcMessage.decodePayload (PayloadDecoder.new bytes) = .ok (m, d) → d.remaining = 0 →
      bytes.length ≤ limit →
      ∃ e, IpcMessage.encodePayload m (PayloadEncoder.new limit) = .ok e ∧ e.bytes = bytes

end WildBuzzard.Ipc
