import Mathlib.Data.Set.Function
import WildBuzzard.Ipc.Envelope
import WildBuzzard.Lib.Require

/-!
# Envelope round trip

`encode` and `decode` are two hand-written layouts of one header. Everything here goes through one
characterisation, `decode_ok_iff`: a buffer decodes to `e` exactly when it `Accepts` it, a
conjunction of one equation for each header field.

* **Forward** (`decode_of_encode`): the buffer `encode` writes satisfies each equation, because
  reading behind a prefix is reading the rest at a smaller offset (`readU16_skip` and its
  siblings).
* **Backward** (`encode_of_decode`): the equations turn each field `encode` writes into the slice
  it was read from (`putU16_readU16` and its siblings), and the slices concatenate to the buffer
  (`drop_eq_field_append`).
* **Framing** (`frames_delimit_themselves`): length, protocol and kind are read off the header.
-/

namespace WildBuzzard.Ipc

open Lib PayloadDecoder List WireServiceIdentity

/-! ## Reading what was written -/

section fields

variable (a b : List UInt8) {o : ℕ} (i : WireServiceIdentity)

@[simp] lemma putU16_length (v : UInt16) : (putU16 v).length = 2 := leBytes_length _ _

@[simp] lemma putU32_length (v : UInt32) : (putU32 v).length = 4 := leBytes_length _ _

@[simp] lemma putU64_length (v : UInt64) : (putU64 v).length = 8 := leBytes_length _ _

@[simp] lemma putU128_length (v : BitVec 128) : (putU128 v).length = 16 := leBytes_length _ _

@[simp] lemma magic_length : magic.length = 4 := rfl

@[simp] lemma putIdentity_length : (putIdentity i).length = 32 := by
  simp [putIdentity]

section

variable (h : a.length ≤ o)
include h

lemma readU16_skip : readU16 (a ++ b) o = readU16 b (o - a.length) := by
  rw [readU16, readU16, field_append_right h]

lemma readU32_skip : readU32 (a ++ b) o = readU32 b (o - a.length) := by
  rw [readU32, readU32, field_append_right h]

lemma readU64_skip : readU64 (a ++ b) o = readU64 b (o - a.length) := by
  rw [readU64, readU64, field_append_right h]

lemma readU128_skip : readU128 (a ++ b) o = readU128 b (o - a.length) := by
  rw [readU128, readU128, field_append_right h]

lemma readIdentity_skip : readIdentity (a ++ b) o = readIdentity b (o - a.length) := by
  have hadd : ∀ k, o + k - a.length = o - a.length + k := fun k => by omega
  rw [readIdentity, readIdentity, readU128_skip a b h, readU64_skip a b (by omega),
    readU32_skip a b (by omega), readU32_skip a b (by omega), hadd, hadd, hadd]

end

lemma readU16_putU16 (v : UInt16) : readU16 (putU16 v ++ b) 0 = v := by
  rw [readU16, field_append_self (putU16_length v), putU16, leValue_leBytes v.toNat_lt,
    UInt16.ofNat_toNat]

lemma readU32_putU32 (v : UInt32) : readU32 (putU32 v ++ b) 0 = v := by
  rw [readU32, field_append_self (putU32_length v), putU32, leValue_leBytes v.toNat_lt,
    UInt32.ofNat_toNat]

lemma readU64_putU64 (v : UInt64) : readU64 (putU64 v ++ b) 0 = v := by
  rw [readU64, field_append_self (putU64_length v), putU64, leValue_leBytes v.toNat_lt,
    UInt64.ofNat_toNat]

lemma readU128_putU128 (v : BitVec 128) : readU128 (putU128 v ++ b) 0 = v := by
  rw [readU128, field_append_self (putU128_length v), putU128, leValue_leBytes v.isLt,
    BitVec.ofNat_toNat, BitVec.setWidth_eq]

lemma fromParts_self : fromParts i.kind i.serviceNamespace i.slot i.generation = .ok i := by
  unfold fromParts
  rw [dif_neg i.kind_ne, dif_neg i.namespace_ne, dif_neg i.generation_ne]

lemma readIdentity_putIdentity : readIdentity (putIdentity i ++ b) 0 = .ok i := by
  have hkind : readU128 (putIdentity i ++ b) 0 = i.kind := by
    rw [putIdentity, append_assoc, readU128_putU128]
  have hns : readU64 (putIdentity i ++ b) (0 + 16) = i.serviceNamespace := by
    rw [putIdentity, append_assoc, readU64_skip _ _ (by simp)]
    simpa using readU64_putU64 _ i.serviceNamespace
  have hslot : readU32 (putIdentity i ++ b) (0 + 24) = i.slot := by
    simp only [putIdentity, append_assoc]
    rw [readU32_skip _ _ (by simp), readU32_skip _ _ (by simp)]
    simpa using readU32_putU32 _ i.slot
  have hgen : readU32 (putIdentity i ++ b) (0 + 28) = i.generation := by
    simp only [putIdentity, append_assoc]
    rw [readU32_skip _ _ (by simp), readU32_skip _ _ (by simp), readU32_skip _ _ (by simp)]
    simpa using readU32_putU32 _ i.generation
  rw [readIdentity, hkind, hns, hslot, hgen, fromParts_self]

end fields

/-! ## Writing what was read -/

section slices

variable {bytes : List UInt8} {o : ℕ}

/-- A slice of `w` bytes holds a number below `256 ^ w`. -/
lemma leValue_field_lt {w : ℕ} (h : o + w ≤ bytes.length) :
    leValue (field bytes o w) < 256 ^ w := by
  have := leValue_lt (field bytes o w)
  rwa [field_length h] at this

lemma putU16_readU16 (h : o + 2 ≤ bytes.length) : putU16 (readU16 bytes o) = field bytes o 2 := by
  rw [putU16, readU16, UInt16.toNat_ofNat_of_lt' (leValue_field_lt h),
    leBytes_leValue (field_length h)]

lemma putU32_readU32 (h : o + 4 ≤ bytes.length) : putU32 (readU32 bytes o) = field bytes o 4 := by
  rw [putU32, readU32, UInt32.toNat_ofNat_of_lt' (leValue_field_lt h),
    leBytes_leValue (field_length h)]

lemma putU64_readU64 (h : o + 8 ≤ bytes.length) : putU64 (readU64 bytes o) = field bytes o 8 := by
  rw [putU64, readU64, UInt64.toNat_ofNat_of_lt' (leValue_field_lt h),
    leBytes_leValue (field_length h)]

lemma putU128_readU128 (h : o + 16 ≤ bytes.length) :
    putU128 (readU128 bytes o) = field bytes o 16 := by
  have hlt : leValue (field bytes o 16) < 2 ^ 128 := leValue_field_lt h
  rw [putU128, readU128, BitVec.toNat_ofNat, Nat.mod_eq_of_lt hlt, leBytes_leValue (field_length h)]

variable {i : WireServiceIdentity}

/-- `from_parts` only packs its arguments. -/
lemma fromParts_ok {kind : BitVec 128} {ns : UInt64} {slot generation : UInt32}
    (h : fromParts kind ns slot generation = .ok i) :
    i.kind = kind ∧ i.serviceNamespace = ns ∧ i.slot = slot ∧ i.generation = generation := by
  unfold fromParts at h
  split_ifs at h
  cases h
  exact ⟨rfl, rfl, rfl, rfl⟩

lemma putIdentity_readIdentity (hlen : o + 32 ≤ bytes.length) (h : readIdentity bytes o = .ok i) :
    putIdentity i = field bytes o 32 := by
  obtain ⟨hkind, hns, hslot, hgen⟩ := fromParts_ok h
  have hsplit : bytes.drop o = putIdentity i ++ bytes.drop (o + 32) := by
    rw [putIdentity, hkind, hns, hslot, hgen, putU128_readU128 (by omega),
      putU64_readU64 (by omega), putU32_readU32 (by omega), putU32_readU32 (by omega),
      drop_eq_field_append bytes o 16, drop_eq_field_append bytes (o + 16) 8,
      drop_eq_field_append bytes (o + 24) 4, drop_eq_field_append bytes (o + 28) 4]
    simp only [append_assoc]
  rw [field, hsplit, take_left' (putIdentity_length i)]

end slices

lemma fromBits_ok_iff {bits : UInt16} {flags : EnvelopeFlags} :
    EnvelopeFlags.fromBits bits = .ok flags ↔ bits = flags.bits := by
  unfold EnvelopeFlags.fromBits
  constructor
  · intro h
    split_ifs at h
    cases h
    rfl
  · rintro rfl
    rw [dif_neg (not_not.mpr flags.valid.1), dif_neg flags.valid.2]

/-- The wire value of a correlation, zero for none, determines it. -/
lemma correlation_new_iff {value : UInt64} {c : Option CorrelationId} :
    CorrelationId.new value = c ↔ value = (c.map CorrelationId.get).getD 0 := by
  unfold CorrelationId.new
  constructor
  · rintro rfl
    split_ifs with h <;> simp [h]
  · rintro rfl
    cases c with
    | none => simp
    | some c => simp [c.ne_zero]

namespace EnvelopeCodec

variable {M : Type} [IpcMessage M] {codec : EnvelopeCodec}

/-! ## What an accepted buffer looks like -/

variable {e : Envelope M}

/-- The buffer is well formed for the codec and carries the envelope: one equation for each header
field, in wire order, and the payload. -/
structure Accepts (codec : EnvelopeCodec) (bytes : List UInt8) (e : Envelope M) : Prop where
  magic : field bytes 0 4 = magic
  headerLen : (readU16 bytes 4).toNat = headerLen
  major : readU16 bytes 6 = codec.current.major
  minor_ge : codec.minimumMinor ≤ readU16 bytes 8
  minor_le : readU16 bytes 8 ≤ codec.current.minor
  flags : readU16 bytes 10 = e.flags.bits
  protocol : readU32 bytes 12 = codec.protocol.get
  typed : IpcMessage.protocol M = codec.protocol
  kind : readU32 bytes 16 = (IpcMessage.kind M).get
  limit : (readU32 bytes 20).toNat ≤ codec.activeLimit M
  length : bytes.length = Ipc.headerLen + (readU32 bytes 20).toNat
  correlation : readU64 bytes 24 = (e.correlation.map CorrelationId.get).getD 0
  source : readIdentity bytes 32 = .ok e.source
  destination : readIdentity bytes 64 = .ok e.destination
  payload : ∃ d, IpcMessage.decodePayload
      (PayloadDecoder.new (field bytes Ipc.headerLen (readU32 bytes 20).toNat)) =
        .ok (e.message, d) ∧ d.remaining = 0

lemma validateVersion_ok_iff {v : ProtocolVersion} :
    codec.validateVersion v = .ok () ↔
      v.major = codec.current.major ∧ codec.minimumMinor ≤ v.minor ∧
        v.minor ≤ codec.current.minor := by
  unfold validateVersion
  split_ifs with h₁ h₂
  · simp [h₁]
  · simp only [false_iff, not_and]
    intro _ hge hle
    rcases h₂ with h | h
    · exact absurd h (UInt16.not_lt.mpr hge)
    · exact absurd h (UInt16.not_lt.mpr hle)
  · rw [not_or] at h₂
    simp only [true_iff]
    exact ⟨not_not.mp h₁, UInt16.not_lt.mp h₂.1, UInt16.not_lt.mp h₂.2⟩

variable {bytes : List UInt8}

lemma decodeBody_ok_iff {flags : EnvelopeFlags} {declared : ℕ} :
    decodeBody M bytes flags declared = .ok e ↔
      e.flags = flags ∧ CorrelationId.new (readU64 bytes 24) = e.correlation ∧
        readIdentity bytes 32 = .ok e.source ∧ readIdentity bytes 64 = .ok e.destination ∧
        ∃ d, IpcMessage.decodePayload (PayloadDecoder.new (field bytes Ipc.headerLen declared)) =
          .ok (e.message, d) ∧ d.remaining = 0 := by
  unfold decodeBody
  constructor
  · intro h
    split at h
    · cases h
    · rename_i source hs
      split at h
      · cases h
      · rename_i destination hd
        split at h
        · cases h
        · rename_i message decoder hp
          split at h
          · cases h
          · rename_i hf
            cases h
            exact ⟨rfl, rfl, hs, hd, decoder, hp, finish_ok_iff.mp hf⟩
  · rintro ⟨rfl, hc, hs, hd, d, hp, hrem⟩
    rw [hs, hd, hp]
    simp only [finish_ok_iff.mpr hrem, hc]

/-- The declared length never comes near `usize::MAX`: the active limit is at most 16 MiB. -/
lemma activeLimit_le (codec : EnvelopeCodec) (M : Type) [IpcMessage M] :
    codec.activeLimit M ≤ hardMaxPayloadLen :=
  (min_le_left _ _).trans codec.limit_le

/-- **A buffer decodes to `e` exactly when it is accepted for `e`.** -/
theorem decode_ok_iff : codec.decode M bytes = .ok e ↔ codec.Accepts bytes e := by
  constructor
  · intro h
    unfold decode at h
    simp only [ite_error_eq_ok] at h
    obtain ⟨hlen, hmagic, hhdr, h⟩ := h
    rcases hver : codec.validateVersion ⟨readU16 bytes 6, readU16 bytes 8⟩ with _ | _
    · simp [hver] at h
    rcases hflags : EnvelopeFlags.fromBits (readU16 bytes 10) with _ | flags
    · simp [hver, hflags] at h
    simp only [hver, hflags, decodeLengths, ite_error_eq_ok] at h
    obtain ⟨hp0, hp, hty, hk0, hk, hlim, hov, htr, htl, h⟩ := h
    obtain ⟨hmaj, hge, hle⟩ := validateVersion_ok_iff.mp hver
    obtain ⟨rfl, hcor, hs, hd, hpay⟩ := decodeBody_ok_iff.mp h
    exact
      { magic := not_not.mp hmagic
        headerLen := not_not.mp hhdr
        major := hmaj
        minor_ge := hge
        minor_le := hle
        flags := fromBits_ok_iff.mp hflags
        protocol := not_not.mp hp
        typed := not_not.mp hty
        kind := not_not.mp hk
        limit := not_lt.mp hlim
        length := le_antisymm (not_lt.mp htl) (not_lt.mp htr)
        correlation := correlation_new_iff.mp hcor
        source := hs
        destination := hd
        payload := hpay }
  · intro h
    have hsmall : Ipc.headerLen + (readU32 bytes 20).toNat ≤ usizeMax := by
      have h₁ := h.limit.trans (activeLimit_le codec M)
      have h₂ : Ipc.headerLen + hardMaxPayloadLen ≤ usizeMax := by decide
      omega
    have hlen := h.length
    have hver : codec.validateVersion ⟨readU16 bytes 6, readU16 bytes 8⟩ = .ok () :=
      validateVersion_ok_iff.mpr ⟨h.major, h.minor_ge, h.minor_le⟩
    have hp0 : readU32 bytes 12 ≠ 0 := by rw [h.protocol]; exact codec.protocol.ne_zero
    have hk0 : readU32 bytes 16 ≠ 0 := by rw [h.kind]; exact (IpcMessage.kind M).ne_zero
    unfold decode
    rw [if_neg (by omega), if_neg (not_not.mpr h.magic), if_neg (not_not.mpr h.headerLen), hver]
    simp only [fromBits_ok_iff.mpr h.flags]
    rw [if_neg hp0, if_neg (not_not.mpr h.protocol), if_neg (not_not.mpr h.typed), if_neg hk0,
      if_neg (not_not.mpr h.kind)]
    unfold decodeLengths
    rw [if_neg (not_lt.mpr h.limit), if_neg (by omega), if_neg (by omega), if_neg (by omega)]
    exact decodeBody_ok_iff.mpr
      ⟨rfl, correlation_new_iff.mpr h.correlation, h.source, h.destination, h.payload⟩

/-! ## The two directions -/

/-- What a successful `encode` did: the payload codec wrote `payload` inside the active limit, and
the buffer is the header in front of it. -/
lemma encode_ok_iff :
    codec.encode e = .ok bytes ↔
      IpcMessage.protocol M = codec.protocol ∧ ∃ payload, IpcMessage.encodePayload e.message
            (PayloadEncoder.new (codec.activeLimit M)) = .ok payload ∧
          payload.bytes.length < 2 ^ 32 ∧
          bytes = codec.header e (UInt32.ofNat payload.bytes.length) ++ payload.bytes := by
  unfold encode
  constructor
  · intro h
    split_ifs at h with hp
    simp only at h
    split at h
    · cases h
    · rename_i payload hpay
      split_ifs at h with hlen
      cases h
      exact ⟨not_not.mp hp, payload, hpay, not_le.mp hlen, rfl⟩
  · rintro ⟨hp, payload, hpay, hlen, rfl⟩
    rw [if_neg (not_not.mpr hp)]
    simp only [hpay]
    rw [if_neg (not_le.mpr hlen)]

lemma header_length (codec : EnvelopeCodec) (e : Envelope M) (n : UInt32) :
    (codec.header e n).length = Ipc.headerLen := by
  simp [header, Ipc.headerLen]

/-- The twelve header fields read back from the front of a buffer: each stands at the offset
`decode` reads it from. -/
lemma header_fields (codec : EnvelopeCodec) (e : Envelope M) (n : UInt32) (rest : List UInt8) :
    let bytes := codec.header e n ++ rest
    (field bytes 0 4 = magic ∧ readU16 bytes 4 = UInt16.ofNat Ipc.headerLen ∧
      readU16 bytes 6 = codec.current.major ∧ readU16 bytes 8 = codec.current.minor) ∧
    (readU16 bytes 10 = e.flags.bits ∧ readU32 bytes 12 = codec.protocol.get ∧
      readU32 bytes 16 = (IpcMessage.kind M).get ∧ readU32 bytes 20 = n) ∧
    readU64 bytes 24 = (e.correlation.map CorrelationId.get).getD 0 ∧
      readIdentity bytes 32 = .ok e.source ∧ readIdentity bytes 64 = .ok e.destination := by
  simp only [header, append_assoc]
  refine ⟨⟨field_append_self magic_length, ?_, ?_, ?_⟩, ⟨?_, ?_, ?_, ?_⟩, ?_, ?_, ?_⟩
  all_goals
    simp (disch := first | decide | simp) only [readU16_skip, readU32_skip, readU64_skip,
      readIdentity_skip, magic_length, putU16_length, putU32_length, putU64_length,
      putIdentity_length, Nat.reduceSub, readU16_putU16, readU32_putU32, readU64_putU64,
      readIdentity_putIdentity]

/-- The buffer `encode` writes is accepted, if the payload codec takes its own bytes back. -/
lemma accepts_header {payload : List UInt8} (htyped : IpcMessage.protocol M = codec.protocol)
    (hlimit : payload.length ≤ codec.activeLimit M)
    (hpay : ∃ d, IpcMessage.decodePayload (PayloadDecoder.new payload) = .ok (e.message, d) ∧
      d.remaining = 0) :
    codec.Accepts (codec.header e (UInt32.ofNat payload.length) ++ payload) e := by
  have hsmall : payload.length < 2 ^ 32 := by
    have h₁ := hlimit.trans (activeLimit_le codec M)
    have h₂ : hardMaxPayloadLen < 2 ^ 32 := by decide
    omega
  have hn : (UInt32.ofNat payload.length).toNat = payload.length :=
    UInt32.toNat_ofNat_of_lt' hsmall
  generalize UInt32.ofNat payload.length = n at hn
  have hslice : field (codec.header e n ++ payload) Ipc.headerLen n.toNat = payload := by
    rw [field_append_right (header_length codec e n).le, header_length, Nat.sub_self, field,
      drop_zero, hn, take_length]
  obtain ⟨⟨hmagic, hhdr, hmaj, hmin⟩, ⟨hflags, hprot, hkind, hlen⟩, hcor, hs, hd⟩ :=
    header_fields codec e n payload
  exact
    { magic := hmagic
      headerLen := by rw [hhdr]; rfl
      major := hmaj
      minor_ge := by rw [hmin]; exact codec.minor_le
      minor_le := by rw [hmin]; exact UInt16.le_refl _
      flags := hflags
      protocol := hprot
      typed := htyped
      kind := hkind
      limit := by rw [hlen, hn]; exact hlimit
      length := by rw [hlen, hn, length_append, header_length]
      correlation := hcor
      source := hs
      destination := hd
      payload := by rw [hlen, hslice]; exact hpay }

lemma decode_of_encode (hrt : RoundTrips M) (h : codec.encode e = .ok bytes) :
    codec.decode M bytes = .ok e := by
  obtain ⟨htyped, payload, hpay, -, rfl⟩ := encode_ok_iff.mp h
  have hlimit : payload.bytes.length ≤ codec.activeLimit M := by
    have h₁ := payload.within
    rwa [IpcMessage.encode_limit hpay] at h₁
  exact decode_ok_iff.mpr (accepts_header htyped hlimit (hrt _ _ _ hpay))

/-- An accepted buffer is its own header in front of its own payload slice. -/
lemma Accepts.eq_header_append (h : codec.Accepts bytes e)
    (hminor : readU16 bytes 8 = codec.current.minor) :
    bytes = codec.header e (readU32 bytes 20) ++
      field bytes Ipc.headerLen (readU32 bytes 20).toNat := by
  have hlen := h.length
  simp only [Ipc.headerLen] at hlen
  have hhdr : UInt16.ofNat Ipc.headerLen = readU16 bytes 4 := by
    rw [← h.headerLen, UInt16.ofNat_toNat]
  have hrest : field bytes Ipc.headerLen (readU32 bytes 20).toNat = bytes.drop 96 := by
    rw [field, Ipc.headerLen, take_of_length_le (by rw [length_drop]; omega)]
  rw [header, hrest, hhdr, ← h.magic, ← h.major, ← hminor, ← h.flags, ← h.protocol, ← h.kind,
    ← h.correlation, putIdentity_readIdentity (by omega) h.source,
    putIdentity_readIdentity (by omega) h.destination]
  rw [putU16_readU16 (by omega), putU16_readU16 (by omega), putU16_readU16 (by omega),
    putU16_readU16 (by omega), putU32_readU32 (by omega), putU32_readU32 (by omega),
    putU32_readU32 (by omega), putU64_readU64 (by omega)]
  simp only [append_assoc]
  calc bytes = bytes.drop 0 := drop_zero.symm
    _ = _ := by
      rw [drop_eq_field_append bytes 0 4, drop_eq_field_append bytes 4 2,
        drop_eq_field_append bytes 6 2, drop_eq_field_append bytes 8 2,
        drop_eq_field_append bytes 10 2, drop_eq_field_append bytes 12 4,
        drop_eq_field_append bytes 16 4, drop_eq_field_append bytes 20 4,
        drop_eq_field_append bytes 24 8, drop_eq_field_append bytes 32 32,
        drop_eq_field_append bytes 64 32]

lemma encode_of_decode (hcan : Canonical M) (h : codec.decode M bytes = .ok e)
    (hminor : readU16 bytes 8 = codec.current.minor) : codec.encode e = .ok bytes := by
  have hacc := decode_ok_iff.mp h
  obtain ⟨d, hpay, hrem⟩ := hacc.payload
  have hlen : (field bytes Ipc.headerLen (readU32 bytes 20).toNat).length =
      (readU32 bytes 20).toNat := field_length hacc.length.ge
  obtain ⟨payload, henc, hbytes⟩ := hcan _ _ d (codec.activeLimit M) hpay hrem
    (by rw [hlen]; exact hacc.limit)
  have hdecl : UInt32.ofNat payload.bytes.length = readU32 bytes 20 := by
    rw [hbytes, hlen, UInt32.ofNat_toNat]
  refine encode_ok_iff.mpr ⟨hacc.typed, payload, henc, ?_, ?_⟩
  · rw [hbytes, hlen]
    exact (readU32 bytes 20).toNat_lt
  · rw [hdecl, hbytes]
    exact hacc.eq_header_append hminor

/-! ## The bijection -/

/-- The buffers that decode and carry the codec's own minor version. -/
def acceptedBytes (codec : EnvelopeCodec) (M : Type) [IpcMessage M] : Set (List UInt8) :=
  {bytes | readU16 bytes 8 = codec.current.minor ∧ ∃ e, codec.decode M bytes = .ok e}

/-- The envelopes the codec can send. -/
def encodableEnvelopes (codec : EnvelopeCodec) (M : Type) [IpcMessage M] : Set (Envelope M) :=
  {e | ∃ bytes, codec.encode e = .ok bytes}

/-- `encode` emits the current minor. -/
lemma minor_of_encode (h : codec.encode e = .ok bytes) :
    readU16 bytes 8 = codec.current.minor := by
  obtain ⟨-, payload, -, -, rfl⟩ := encode_ok_iff.mp h
  exact (header_fields codec e _ payload.bytes).1.2.2.2

/-- **The envelope round trip.** What `encode` writes, `decode` reads back as the same envelope;
with a canonical payload codec every accepted buffer of the current minor is what `encode` writes
for its envelope, so `decode` is a bijection between those buffers and the encodable envelopes. -/
theorem envelope_round_trip (codec : EnvelopeCodec) (M : Type) [IpcMessage M]
    (hrt : RoundTrips M) :
    (∀ (e : Envelope M) (bytes : List UInt8),
      codec.encode e = .ok bytes → codec.decode M bytes = .ok e) ∧
    (Canonical M →
      (∀ (bytes : List UInt8) (e : Envelope M), codec.decode M bytes = .ok e →
        readU16 bytes 8 = codec.current.minor → codec.encode e = .ok bytes) ∧
      Set.BijOn (codec.decode M) (codec.acceptedBytes M)
        (Except.ok '' codec.encodableEnvelopes M)) := by
  refine ⟨fun e bytes h => decode_of_encode hrt h, fun hcan => ⟨?_, ?_, ?_, ?_⟩⟩
  · intro bytes e h hminor
    exact encode_of_decode hcan h hminor
  · rintro bytes ⟨hminor, e, he⟩
    exact ⟨e, ⟨bytes, encode_of_decode hcan he hminor⟩, he.symm⟩
  · -- two buffers with one envelope are both what `encode` writes for it
    rintro b₁ ⟨hm₁, e, he₁⟩ b₂ ⟨hm₂, -⟩ heq
    have h₁ := encode_of_decode hcan he₁ hm₁
    have h₂ := encode_of_decode hcan (heq.symm.trans he₁) hm₂
    exact Except.ok.inj (h₁.symm.trans h₂)
  · rintro _ ⟨e, ⟨bytes, hbytes⟩, rfl⟩
    have hdec := decode_of_encode hrt hbytes
    exact ⟨bytes, ⟨minor_of_encode hbytes, e, hdec⟩, hdec⟩

/-! ## Frames -/

lemma field_append_left {a : List UInt8} {o w : ℕ} (h : o + w ≤ a.length) (b : List UInt8) :
    field (a ++ b) o w = field a o w := by
  rw [field, field, drop_append_of_le_length (by omega),
    take_append_of_le_length (by rw [length_drop]; omega)]

lemma protocol_get_injective : Function.Injective ProtocolId.get := by
  rintro ⟨_, _⟩ ⟨_, _⟩ rfl
  rfl

lemma kind_get_injective : Function.Injective MessageKind.get := by
  rintro ⟨_, _⟩ ⟨_, _⟩ rfl
  rfl

/-- **A frame says where it ends and what it holds**: no accepted buffer is the beginning of another
one, and none is accepted as a message of another protocol or kind. -/
theorem frames_delimit_themselves {codec codec' : EnvelopeCodec} {M M' : Type} [IpcMessage M]
    [IpcMessage M'] {bytes bytes' : List UInt8} {e : Envelope M} {e' : Envelope M'}
    (h : codec.decode M bytes = .ok e) (h' : codec'.decode M' bytes' = .ok e')
    (hp : bytes <+: bytes') :
    bytes = bytes' ∧ IpcMessage.protocol M = IpcMessage.protocol M' ∧
      IpcMessage.kind M = IpcMessage.kind M' := by
  obtain ⟨rest, rfl⟩ := hp
  have ha := decode_ok_iff.mp h
  have ha' := decode_ok_iff.mp h'
  have hlen : headerLen ≤ bytes.length := ha.length ▸ Nat.le_add_right _ _
  have hread {o : ℕ} (ho : o + 4 ≤ headerLen) : readU32 (bytes ++ rest) o = readU32 bytes o := by
    rw [readU32, readU32, field_append_left (ho.trans hlen)]
  have hlength := ha'.length
  rw [hread (by decide), ← ha.length, length_append] at hlength
  have hprotocol := ha'.protocol
  have hkind := ha'.kind
  rw [hread (by decide)] at hprotocol hkind
  refine ⟨by simpa using hlength, ?_, ?_⟩
  · rw [ha.typed, ha'.typed]
    exact protocol_get_injective (ha.protocol.symm.trans hprotocol)
  · exact kind_get_injective (ha.kind.symm.trans hkind)

end EnvelopeCodec

/-! ## A message type: the crate's own test message -/

/-- Source: `tests::Ping` -/
@[ext] structure Ping where
  sequence : UInt64
  label : String
  deriving DecidableEq

namespace Ping

/-- The bytes of a Rust `&str`. -/
def labelBytes (s : String) : List UInt8 := s.toUTF8.data.toList

/-- Source: `Ping::encode_payload` -/
def encodePayload (m : Ping) (encoder : PayloadEncoder) : Except PayloadCodecError PayloadEncoder :=
  match encoder.writeU64 m.sequence with
  | .error e => .error e
  | .ok encoder' => encoder'.writeLengthPrefixedBytes (labelBytes m.label)

/-- Source: `Ping::decode_payload` -/
def decodePayload (decoder : PayloadDecoder) : Except PayloadCodecError (Ping × PayloadDecoder) :=
  match decoder.readU64 with
  | .error e => .error e
  | .ok (sequence, decoder') =>
    match decoder'.readLengthPrefixedBytes with
    | .error e => .error e
    | .ok (bytes, decoder'') =>
      match String.fromUTF8? ⟨bytes.toArray⟩ with
      | none => .error (.invalidValue "label" "not UTF-8")
      | some label => .ok (⟨sequence, label⟩, decoder'')

/-- The payload of a message: the sequence number, the label's length, the label. -/
lemma encodePayload_ok {m : Ping} {e e' : PayloadEncoder} (h : encodePayload m e = .ok e') :
    (labelBytes m.label).length < 2 ^ 32 ∧
      e'.bytes = e.bytes ++ leBytes 8 m.sequence.toNat ++
        leBytes 4 (labelBytes m.label).length ++ labelBytes m.label ∧ e'.limit = e.limit := by
  unfold encodePayload PayloadEncoder.writeU64 at h
  split at h
  · cases h
  · rename_i e₁ h₁
    obtain ⟨hb₁, hl₁⟩ := PayloadEncoder.writeBytes_ok h₁
    obtain ⟨hlt, hb, hl⟩ := PayloadEncoder.writeLengthPrefixedBytes_ok h
    exact ⟨hlt, by rw [hb, hb₁], hl.trans hl₁⟩

instance : IpcMessage Ping where
  protocol := ⟨0x10, by decide⟩
  kind := ⟨0x1001, by decide⟩
  maxPayloadLen := 64
  encodePayload := encodePayload
  decodePayload := decodePayload
  encode_limit h := (encodePayload_ok h).2.2

lemma fromUTF8?_labelBytes (s : String) : String.fromUTF8? ⟨(labelBytes s).toArray⟩ = some s := by
  have hbytes : (⟨(labelBytes s).toArray⟩ : ByteArray) = s.toByteArray := rfl
  rw [hbytes, String.fromUTF8?, dif_pos s.isValidUTF8]
  rfl

lemma labelBytes_of_fromUTF8? {bytes : List UInt8} {s : String}
    (h : String.fromUTF8? ⟨bytes.toArray⟩ = some s) : labelBytes s = bytes := by
  unfold String.fromUTF8? at h
  split_ifs at h
  cases h
  rfl

lemma roundTrips : RoundTrips Ping := by
  intro m limit e h
  obtain ⟨hlt, hb, -⟩ := encodePayload_ok h
  have hseq : leValue (leBytes 8 m.sequence.toNat) = m.sequence.toNat :=
    leValue_leBytes m.sequence.toNat_lt
  have hlen : leValue (leBytes 4 (labelBytes m.label).length) = (labelBytes m.label).length :=
    leValue_leBytes hlt
  simp only [PayloadEncoder.new, nil_append] at hb
  -- the three reads, each at the place where the one before it stopped
  obtain ⟨d₁, hr₁, hb₁, hp₁⟩ := readExact_of_split (d := PayloadDecoder.new e.bytes)
    (a := []) (b := leBytes 8 m.sequence.toNat)
    (c := leBytes 4 (labelBytes m.label).length ++ labelBytes m.label)
    (by simp [PayloadDecoder.new, hb]) rfl
  obtain ⟨d₂, hr₂, hb₂, hp₂⟩ := readExact_of_split (d := d₁)
    (a := leBytes 8 m.sequence.toNat) (b := leBytes 4 (labelBytes m.label).length)
    (c := labelBytes m.label) (by rw [hb₁]; exact hb) (by simpa using hp₁)
  obtain ⟨d₃, hr₃, hb₃, hp₃⟩ := readExact_of_split (d := d₂)
    (a := leBytes 8 m.sequence.toNat ++ leBytes 4 (labelBytes m.label).length)
    (b := labelBytes m.label) (c := []) (by rw [hb₂, hb₁, append_nil]; exact hb) hp₂
  rw [leBytes_length] at hr₁ hr₂
  refine ⟨d₃, ?_, ?_⟩
  · show decodePayload (PayloadDecoder.new e.bytes) = .ok (m, d₃)
    simp only [decodePayload, PayloadDecoder.readU64, hr₁, Except.map, hseq, UInt64.ofNat_toNat,
      readLengthPrefixedBytes, PayloadDecoder.readU32, hr₂, hlen,
      UInt32.toNat_ofNat_of_lt' hlt, hr₃, fromUTF8?_labelBytes]
  · have hend : e.bytes = leBytes 8 m.sequence.toNat ++
        leBytes 4 (labelBytes m.label).length ++ labelBytes m.label := hb
    simp [remaining, hb₃, hb₂, hb₁, hp₃, PayloadDecoder.new, hend]

lemma canonical : Canonical Ping := by
  intro bytes m d limit h hrem hlimit
  change decodePayload (PayloadDecoder.new bytes) = .ok (m, d) at h
  unfold decodePayload at h
  split at h
  · cases h
  rename_i sequence d₁ h₁
  split at h
  · cases h
  rename_i label d₂ h₂
  split at h
  · cases h
  rename_i text htext
  cases h
  obtain ⟨-, hseq, hb₁, hp₁⟩ := readU64_ok h₁
  obtain ⟨hlt, hle, hpre, hlab, hb₂, hp₂⟩ := readLengthPrefixedBytes_ok h₂
  have htxt := labelBytes_of_fromUTF8? htext
  simp only [PayloadDecoder.new] at hseq hb₁ hp₁
  rw [hb₁, hp₁] at hle hpre hlab
  rw [hb₁] at hb₂
  -- nothing is left behind the label
  have hend : bytes.length = 12 + label.length := by
    unfold remaining at hrem
    rw [hb₂, hp₂] at hrem
    omega
  have hall : leBytes 8 sequence.toNat ++ leBytes 4 label.length ++ label = bytes := by
    rw [hseq, hpre]
    calc field bytes 0 8 ++ field bytes (0 + 8) 4 ++ label
        = field bytes 0 8 ++ (field bytes (0 + 8) 4 ++ bytes.drop 12) := by
          rw [append_assoc]
          congr 2
          rw [hlab, field, take_of_length_le (by rw [length_drop]; omega)]
      _ = bytes := by
          rw [← drop_eq_field_append bytes (0 + 8) 4, ← drop_eq_field_append bytes 0 8, drop_zero]
  have hsize : 12 + label.length ≤ usizeMax := by
    have : (2 : ℕ) ^ 32 + 12 ≤ usizeMax := by decide
    omega
  obtain ⟨e₁, he₁⟩ := PayloadEncoder.writeBytes_of_le (e := PayloadEncoder.new limit)
    (leBytes 8 sequence.toNat)
    (by simp only [PayloadEncoder.new, length_nil, leBytes_length]; omega)
    (by simp only [PayloadEncoder.new, length_nil, leBytes_length]; omega)
  obtain ⟨hbe, hlim⟩ := PayloadEncoder.writeBytes_ok he₁
  have hlen₁ : e₁.bytes.length = 8 := by simp [hbe, PayloadEncoder.new]
  obtain ⟨e₂, he₂⟩ := PayloadEncoder.writeLengthPrefixedBytes_of_le (e := e₁) label hlt
    (by rw [hlen₁, hlim]; simp only [PayloadEncoder.new]; omega) (by rw [hlen₁]; omega)
  obtain ⟨-, hbe₂, -⟩ := PayloadEncoder.writeLengthPrefixedBytes_ok he₂
  refine ⟨e₂, ?_, ?_⟩
  · show encodePayload ⟨sequence, text⟩ (PayloadEncoder.new limit) = .ok e₂
    simp only [encodePayload, PayloadEncoder.writeU64, he₁, htxt, he₂]
  · rw [hbe₂, hbe]
    simpa [PayloadEncoder.new] using hall

/-- Source: `tests::codec` -/
def codec : EnvelopeCodec :=
  ⟨⟨0x10, by decide⟩, ⟨1, 2⟩, 1, 1024, by decide, by decide⟩

/-- Source: `tests::envelope` -/
def envelope : Envelope Ping where
  message := ⟨42, "hello"⟩
  source := ⟨11, 21, 3, 9, by decide, by decide, by decide⟩
  destination := ⟨12, 22, 3, 9, by decide, by decide, by decide⟩
  correlation := CorrelationId.new 99
  flags := ⟨requestBit, by unfold ValidFlagBits; decide⟩

end Ping

/-- The round trip at the crate's own test: the envelope encodes to 113 bytes, and both directions
hold at them. -/
theorem envelope_round_trip_ping :
    ∃ bytes, Ping.codec.encode Ping.envelope = .ok bytes ∧ bytes.length = 113 ∧
      Ping.codec.decode Ping bytes = .ok Ping.envelope ∧
      readU16 bytes 8 = Ping.codec.current.minor ∧
      bytes ∈ Ping.codec.acceptedBytes Ping := by
  obtain ⟨bytes, hbytes, hlen⟩ :
      ∃ bytes, Ping.codec.encode Ping.envelope = .ok bytes ∧ bytes.length = 113 :=
    ⟨_, rfl, rfl⟩
  obtain ⟨hfwd, hback⟩ := EnvelopeCodec.envelope_round_trip Ping.codec Ping Ping.roundTrips
  have hdec := hfwd _ _ hbytes
  have hminor := EnvelopeCodec.minor_of_encode hbytes
  exact ⟨bytes, (hback Ping.canonical).1 bytes _ hdec hminor, hlen, hdec, hminor, hminor, _, hdec⟩

/-- Nothing may follow the crate's own test envelope. -/
theorem frames_delimit_themselves_ping :
    ∃ bytes, Ping.codec.decode Ping bytes = .ok Ping.envelope ∧
      ∀ rest e, Ping.codec.decode Ping (bytes ++ rest) = .ok e → rest = [] := by
  obtain ⟨bytes, hbytes⟩ : ∃ bytes, Ping.codec.encode Ping.envelope = .ok bytes := ⟨_, rfl⟩
  have hdecode := EnvelopeCodec.decode_of_encode Ping.roundTrips hbytes
  refine ⟨bytes, hdecode, fun rest e h => ?_⟩
  obtain ⟨heq, -⟩ := EnvelopeCodec.frames_delimit_themselves hdecode h (prefix_append _ _)
  exact self_eq_append_right.mp heq

end WildBuzzard.Ipc
