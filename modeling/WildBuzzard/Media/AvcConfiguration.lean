import Mathlib.Algebra.Ring.Int.Defs
import Mathlib.Data.UInt
import WildBuzzard.Lib.Require

/-!
# AVC decoder configurations

Source: `media/rust/wild_buzzard_mp4/src/lib.rs`, `validate_avc_configuration`.

A position in the configuration is the list of the bytes behind it here: what is read is taken off
it, and the end is reached when nothing is left. The indices of the source are in bounds where it
uses them, and its sums stay far below `2 ^ 64`.

* `validateAvcConfiguration_ok_iff`: **a configuration is accepted exactly if it is the
  serialization of a valid record** (`AvcRecord.Valid`) and not too long.
-/

namespace WildBuzzard.Media

open Lib

/-- Source: `AdmissionError`, the errors of this check -/
inductive AdmissionError where
  | codecConfigurationTooLarge
  | malformedCodecConfiguration
  deriving DecidableEq

/-- Source: `MAX_CODEC_CONFIG_BYTES` -/
def maxCodecConfigBytes : ℕ := 1024 * 1024

/-- Source: `MAX_AVC_PARAMETER_SETS` -/
def maxAvcParameterSets : ℕ := 64

/-- Source: `MAX_AVC_PARAMETER_SET_BYTES` -/
def maxAvcParameterSetBytes : ℕ := 64 * 1024

/-- The profiles that may have the extension. -/
def highProfiles : List UInt8 := [44, 83, 86, 100, 110, 118, 122, 128, 134, 135, 138, 139, 144]

/-- A byte and what is behind it. Source: `read_config_u8` -/
def readConfigU8 : List UInt8 → Except AdmissionError (UInt8 × List UInt8)
  | [] => .error .malformedCodecConfiguration
  | value :: rest => .ok (value, rest)

/-- The loop of `read_avc_parameter_sets`, with the bytes behind the sets. -/
def readUnits (expectedNalType : UInt8) : ℕ → List UInt8 → Except AdmissionError (List UInt8)
  | 0, rest => .ok rest
  | count + 1, rest => do
    let (high, rest) ← readConfigU8 rest
    let (low, rest) ← readConfigU8 rest
    let length := high.toNat * 256 + low.toNat
    require (length ≠ 0 ∧ length ≤ maxAvcParameterSetBytes ∧ length ≤ rest.length)
      .malformedCodecConfiguration
    require (rest.head?.map (· &&& 0x1f) = some expectedNalType) .malformedCodecConfiguration
    readUnits expectedNalType count (rest.drop length)

/-- The bytes behind the sets; `totalCount` sets were read before.
Source: `read_avc_parameter_sets` -/
def readAvcParameterSets (rest : List UInt8) (count : ℕ) (expectedNalType : UInt8)
    (totalCount : ℕ) : Except AdmissionError (List UInt8) := do
  require (totalCount + count ≤ maxAvcParameterSets) .malformedCodecConfiguration
  readUnits expectedNalType count rest

/-- What `validate_avc_configuration` does behind the picture parameter sets. -/
def readExtension (profile : UInt8) (totalCount : ℕ) : List UInt8 → Except AdmissionError Unit
  | [] => .ok ()
  | chroma :: luma :: chromaDepth :: count :: rest => do
    require (profile ∈ highProfiles ∧ chroma &&& 0xfc = 0xfc ∧ luma &&& 0xf8 = 0xf8 ∧
      chromaDepth &&& 0xf8 = 0xf8) .malformedCodecConfiguration
    let rest ← readAvcParameterSets rest count.toNat 13 totalCount
    require (rest = []) .malformedCodecConfiguration
  | _ => .error .malformedCodecConfiguration

/-- Source: `validate_avc_configuration` -/
def validateAvcConfiguration (config : List UInt8) : Except AdmissionError Unit := do
  require (config.length ≤ maxCodecConfigBytes) .codecConfigurationTooLarge
  match config with
  | version :: profile :: _ :: _ :: lengthSize :: sequences :: rest => do
    require (rest ≠ [] ∧ version = 1 ∧ lengthSize &&& 0xfc = 0xfc ∧ lengthSize &&& 0x03 ≠ 2 ∧
      sequences &&& 0xe0 = 0xe0) .malformedCodecConfiguration
    let sequenceCount := (sequences &&& 0x1f).toNat
    require (sequenceCount ≠ 0) .malformedCodecConfiguration
    let rest ← readAvcParameterSets rest sequenceCount 7 0
    let (pictureCount, rest) ← readConfigU8 rest
    require (pictureCount.toNat ≠ 0) .malformedCodecConfiguration
    let rest ← readAvcParameterSets rest pictureCount.toNat 8 sequenceCount
    readExtension profile (sequenceCount + pictureCount.toNat) rest
  | _ => .error .malformedCodecConfiguration

/-! ## Records -/

/-- A parameter set of a NAL type, which is in its first byte. -/
def IsUnit (nalType : UInt8) (unit : List UInt8) : Prop :=
  unit.length < 2 ^ 16 ∧ unit.head?.map (· &&& 0x1f) = some nalType

/-- Parameter sets, each behind its length in two bytes. -/
def framed : List (List UInt8) → List UInt8
  | [] => []
  | unit :: units =>
    .ofNat (unit.length / 256) :: .ofNat (unit.length % 256) :: (unit ++ framed units)

/-- What the high profiles may add. -/
structure AvcExtension where
  chroma : UInt8
  luma : UInt8
  chromaDepth : UInt8
  units : List (List UInt8)

/-- A decoder configuration record. -/
structure AvcRecord where
  profile : UInt8
  compatibility : UInt8
  level : UInt8
  lengthSize : UInt8
  sequenceSets : List (List UInt8)
  pictureSets : List (List UInt8)
  extension : Option AvcExtension

/-- The bytes of an extension. -/
def AvcExtension.serialize (x : AvcExtension) : List UInt8 :=
  x.chroma :: x.luma :: x.chromaDepth :: .ofNat x.units.length :: framed x.units

/-- The bytes of a record of version 1. -/
def AvcRecord.serialize (r : AvcRecord) : List UInt8 :=
  1 :: r.profile :: r.compatibility :: r.level :: r.lengthSize ::
    (0xe0 ||| .ofNat r.sequenceSets.length) :: (framed r.sequenceSets ++
      .ofNat r.pictureSets.length :: (framed r.pictureSets ++
        r.extension.elim [] AvcExtension.serialize))

/-- What an extension must satisfy in a record of a profile. -/
structure AvcExtension.Valid (profile : UInt8) (x : AvcExtension) : Prop where
  profile : profile ∈ highProfiles
  reserved : x.chroma &&& 0xfc = 0xfc ∧ x.luma &&& 0xf8 = 0xf8 ∧ x.chromaDepth &&& 0xf8 = 0xf8
  units : ∀ unit ∈ x.units, IsUnit 13 unit

/-- The records that are accepted. -/
structure AvcRecord.Valid (r : AvcRecord) : Prop where
  reserved : r.lengthSize &&& 0xfc = 0xfc
  /-- A NAL length has 1, 2 or 4 bytes; the field holds one less. -/
  lengthSize : r.lengthSize &&& 0x03 ≠ 2
  sequenceCount : r.sequenceSets.length ≠ 0 ∧ r.sequenceSets.length ≤ 31
  sequenceSets : ∀ unit ∈ r.sequenceSets, IsUnit 7 unit
  pictureCount : r.pictureSets.length ≠ 0
  pictureSets : ∀ unit ∈ r.pictureSets, IsUnit 8 unit
  extension : ∀ x ∈ r.extension, x.Valid r.profile
  total : r.sequenceSets.length + r.pictureSets.length + r.extension.elim 0 (·.units.length) ≤
    maxAvcParameterSets

/-! ## Reading -/

variable {nalType : UInt8} {count total : ℕ} {rest after : List UInt8}

lemma readConfigU8_eq_ok {b : UInt8} : readConfigU8 rest = .ok (b, after) ↔ rest = b :: after := by
  cases rest <;> simp [readConfigU8]

/-- A length is the two bytes it is written in. -/
lemma length_bytes {high low : UInt8} {n : ℕ} (hn : n < 2 ^ 16) :
    high.toNat * 256 + low.toNat = n ↔ high = .ofNat (n / 256) ∧ low = .ofNat (n % 256) := by
  have hlow := low.toNat_lt
  rw [← UInt8.toNat_inj, ← UInt8.toNat_inj, UInt8.toNat_ofNat_of_lt' (by simp [UInt8.size]; omega),
    UInt8.toNat_ofNat_of_lt' (by simp [UInt8.size]; omega)]
  omega

/-- **The loop accepts exactly the framed parameter sets of its type.** -/
theorem readUnits_eq_ok :
    readUnits nalType count rest = .ok after ↔
      ∃ units, units.length = count ∧ (∀ unit ∈ units, IsUnit nalType unit) ∧
        rest = framed units ++ after := by
  induction count generalizing rest with
  | zero => simp [readUnits, framed]
  | succ count ih =>
    constructor
    · intro h
      simp only [readUnits, bind_eq_ok, Prod.exists, readConfigU8_eq_ok, require_eq_ok, ih] at h
      obtain ⟨high, _, rfl, low, rest, rfl, _, ⟨hzero, -, hfits⟩, _, htype, units, rfl, hunits,
        hdrop⟩ := h
      obtain ⟨n, hn⟩ : ∃ n, high.toNat * 256 + low.toNat = n := ⟨_, rfl⟩
      rw [hn] at hzero hfits hdrop
      have hlt : n < 2 ^ 16 := by
        have := high.toNat_lt
        have := low.toNat_lt
        omega
      have hlen : (rest.take n).length = n := List.length_take_of_le hfits
      obtain ⟨rfl, rfl⟩ := (length_bytes hlt).mp hn
      refine ⟨rest.take n :: units, rfl, List.forall_mem_cons.mpr ⟨⟨?_, ?_⟩, hunits⟩, ?_⟩
      · exact hlen.trans_lt hlt
      · rwa [List.head?_take, if_neg hzero]
      · simp [framed, hlen, ← hdrop]
    · rintro ⟨_ | ⟨unit, units⟩, hlen, hunits, rfl⟩
      · cases hlen
      obtain ⟨⟨hlt, htype⟩, htail⟩ := List.forall_mem_cons.mp hunits
      obtain ⟨b, unit, rfl⟩ : ∃ b u, unit = b :: u := by
        cases unit with
        | nil => cases htype
        | cons b u => exact ⟨b, u, rfl⟩
      have hrest := ih.mpr ⟨units, Nat.succ.inj hlen, htail, rfl⟩
      simp only [readUnits, bind_eq_ok, Prod.exists, readConfigU8_eq_ok, require_eq_ok]
      refine ⟨_, _, rfl, _, _, rfl, (), ?_, (), htype, ?_⟩
      · rw [(length_bytes hlt).mpr ⟨rfl, rfl⟩]
        exact ⟨Nat.succ_ne_zero _, hlt.le, by simp⟩
      · rw [(length_bytes hlt).mpr ⟨rfl, rfl⟩]
        simpa using hrest

lemma readAvcParameterSets_eq_ok :
    readAvcParameterSets rest count nalType total = .ok after ↔
      total + count ≤ maxAvcParameterSets ∧ ∃ units, units.length = count ∧
        (∀ unit ∈ units, IsUnit nalType unit) ∧ rest = framed units ++ after := by
  simp [readAvcParameterSets, bind_eq_ok, readUnits_eq_ok]

/-- A count is the byte it is written in. -/
lemma count_byte {n : ℕ} (hn : n ≤ maxAvcParameterSets) : (UInt8.ofNat n).toNat = n :=
  UInt8.toNat_ofNat_of_lt' (hn.trans_lt (by decide))

/-- The byte with the reserved bits and the count of the sequence parameter sets. -/
lemma sequences_byte (b : UInt8) (h : b &&& 0xe0 = 0xe0) :
    (b &&& 0x1f).toNat ≤ 31 ∧ b = 0xe0 ||| .ofNat (b &&& 0x1f).toNat := by
  have hbytes : ∀ i : Fin 256, UInt8.ofNat i &&& 0xe0 = 0xe0 →
      (UInt8.ofNat i &&& 0x1f).toNat ≤ 31 ∧
        UInt8.ofNat i = 0xe0 ||| .ofNat (UInt8.ofNat i &&& 0x1f).toNat := by
    decide +kernel
  have hb := hbytes ⟨b.toNat, b.toNat_lt⟩
  rw [UInt8.ofNat_toNat] at hb
  exact hb h

lemma sequences_of_count {n : ℕ} (hn : n ≤ 31) :
    (0xe0 ||| UInt8.ofNat n) &&& 0xe0 = 0xe0 ∧ ((0xe0 ||| UInt8.ofNat n) &&& 0x1f).toNat = n := by
  have hcounts : ∀ i : Fin 32, (0xe0 ||| UInt8.ofNat i) &&& 0xe0 = 0xe0 ∧
      ((0xe0 ||| UInt8.ofNat i) &&& 0x1f).toNat = i.val := by
    decide +kernel
  exact hcounts ⟨n, Nat.lt_succ_of_le hn⟩

lemma readExtension_eq_ok {profile : UInt8} (htotal : total ≤ maxAvcParameterSets) :
    readExtension profile total rest = .ok () ↔
      ∃ x : Option AvcExtension, rest = x.elim [] AvcExtension.serialize ∧
        (∀ e ∈ x, e.Valid profile) ∧ total + x.elim 0 (·.units.length) ≤ maxAvcParameterSets := by
  constructor
  · intro h
    rcases rest with _ | ⟨chroma, _ | ⟨luma, _ | ⟨depth, _ | ⟨n, rest⟩⟩⟩⟩
    · exact ⟨none, rfl, by simp, htotal⟩
    · cases h
    · cases h
    · cases h
    simp only [readExtension, bind_eq_ok, require_eq_ok, readAvcParameterSets_eq_ok] at h
    obtain ⟨_, ⟨hprofile, hreserved⟩, _, ⟨hsum, units, hlen, hunits, rfl⟩, rfl⟩ := h
    refine ⟨some ⟨chroma, luma, depth, units⟩, ?_, ?_, ?_⟩
    · simp [AvcExtension.serialize, hlen]
    · rintro _ ⟨⟩
      exact ⟨hprofile, hreserved, hunits⟩
    · rwa [← hlen] at hsum
  · rintro ⟨_ | x, rfl, hvalid, hsum⟩
    · rfl
    have hx := hvalid x rfl
    have hcount := count_byte (n := x.units.length) (le_trans (Nat.le_add_left _ _) hsum)
    simp only [Option.elim, AvcExtension.serialize, readExtension, bind_eq_ok, require_eq_ok,
      readAvcParameterSets_eq_ok, hcount]
    exact ⟨(), ⟨hx.profile, hx.reserved⟩, [], ⟨hsum, x.units, rfl, hx.units, by simp⟩, rfl⟩

/-- **What is accepted is exactly the valid records, in their serialization.** -/
theorem validateAvcConfiguration_ok_iff (config : List UInt8) :
    validateAvcConfiguration config = .ok () ↔
      config.length ≤ maxCodecConfigBytes ∧ ∃ r : AvcRecord, r.Valid ∧ config = r.serialize := by
  unfold validateAvcConfiguration
  simp only [bind_eq_ok (f := fun _ => _), require_eq_ok, exists_const]
  refine and_congr_right fun _ => ⟨fun h => ?_, ?_⟩
  · rcases config with _ | ⟨version, _ | ⟨profile, _ | ⟨compatibility, _ | ⟨level, _ |
      ⟨lengthSize, _ | ⟨sequences, rest⟩⟩⟩⟩⟩⟩
    iterate 6 cases h
    simp only [bind_eq_ok, Prod.exists, readConfigU8_eq_ok, require_eq_ok,
      readAvcParameterSets_eq_ok] at h
    obtain ⟨_, ⟨-, rfl, hreserved, hsize, hbits⟩, _, hsequences, _, ⟨-, sps, hsps, hseven, rfl⟩,
      pictures, _, rfl, _, hpictures, _, ⟨htotal, pps, hpps, height, rfl⟩, h⟩ := h
    obtain ⟨x, rfl, hx, hsum⟩ := (readExtension_eq_ok htotal).mp h
    obtain ⟨hle, hbyte⟩ := sequences_byte sequences hbits
    rw [← hsps] at hsequences hle hbyte hsum
    rw [← hpps] at hpictures hsum
    refine ⟨⟨profile, compatibility, level, lengthSize, sps, pps, x⟩, ⟨hreserved, hsize,
      ⟨hsequences, hle⟩, hseven, hpictures, height, hx, hsum⟩, ?_⟩
    simp only [AvcRecord.serialize, ← hbyte, hpps, UInt8.ofNat_toNat]
  · rintro ⟨r, hr, rfl⟩
    have htotal := le_trans (Nat.le_add_right _ _) hr.total
    obtain ⟨hbits, hsequences⟩ := sequences_of_count hr.sequenceCount.2
    have hpictures := count_byte (le_trans (Nat.le_add_left _ _) htotal)
    simp only [AvcRecord.serialize, bind_eq_ok, Prod.exists, readConfigU8_eq_ok, require_eq_ok,
      readAvcParameterSets_eq_ok, hsequences]
    refine ⟨(), ⟨by simp, trivial, hr.reserved, hr.lengthSize, hbits⟩, (), hr.sequenceCount.1, _,
      ⟨?_, r.sequenceSets, rfl, hr.sequenceSets, rfl⟩, _, _, rfl, (), ?_⟩
    · rw [Nat.zero_add]
      exact le_trans (Nat.le_add_right _ _) htotal
    rw [hpictures]
    exact ⟨hr.pictureCount, _, ⟨htotal, r.pictureSets, rfl, hr.pictureSets, rfl⟩,
      (readExtension_eq_ok htotal).mpr ⟨r.extension, rfl, hr.extension, hr.total⟩⟩

example : validateAvcConfiguration [1, 66, 0, 30, 255, 225, 0, 1, 103, 1, 0, 1, 104] = .ok () := by
  decide

end WildBuzzard.Media
