import Mathlib.Data.List.DropRight
import WildBuzzard.Net.Error

/-!
# HTTP messages

Methods, fields and response heads, as bytes. A `Method`, a `HeaderName`, a `HeaderValue` and a
`StatusCode` can only be built from what the grammar admits: the check of the source's constructor
is a field of the structure.
-/

namespace WildBuzzard.Net

/-! ## Bytes -/

/-- Source: `is_token_byte`. -/
def isTokenByte (byte : UInt8) : Bool :=
  -- ! # $ % & ' * + - . ^ _ ` | ~
  byte ∈ [33, 35, 36, 37, 38, 39, 42, 43, 45, 46, 94, 95, 96, 124, 126] ||
    (48 ≤ byte && byte ≤ 57) || (65 ≤ byte && byte ≤ 90) || (97 ≤ byte && byte ≤ 122)

/-- Source: `is_prohibited_field_value_byte`. -/
def isProhibitedFieldValueByte (byte : UInt8) : Bool := (byte < 32 && byte ≠ 9) || byte = 127

/-- A space or a tab. -/
def isOptionalWhitespace (byte : UInt8) : Bool := byte = 32 || byte = 9

/-- Source: `trim_optional_whitespace`. -/
def trimOptionalWhitespace (value : List UInt8) : List UInt8 :=
  (value.dropWhile isOptionalWhitespace).rdropWhile isOptionalWhitespace

/-- Source: `u8::is_ascii_digit`. -/
def isAsciiDigit (byte : UInt8) : Bool := 48 ≤ byte && byte ≤ 57

/-- Source: `u8::to_ascii_lowercase`. -/
def toAsciiLowercase (byte : UInt8) : UInt8 := if 65 ≤ byte && byte ≤ 90 then byte + 32 else byte

/-- Source: `eq_ignore_ascii_case`. -/
def eqIgnoreAsciiCase (a b : List UInt8) : Bool := a.map toAsciiLowercase = b.map toAsciiLowercase

/-- The bytes of a text of the source. -/
def ascii (text : String) : List UInt8 := text.toList.map fun c => UInt8.ofNat c.toNat

/-- Source: `<[u8]>::split` at a byte. -/
def splitAtByte (separator : UInt8) : List UInt8 → List (List UInt8)
  | [] => [[]]
  | byte :: rest =>
    if byte = separator then [] :: splitAtByte separator rest
    else
      match splitAtByte separator rest with
      | [] => [[byte]]
      | part :: parts => (byte :: part) :: parts

/-! ## Methods and fields -/

/-- Source: `Method`. -/
structure Method where
  bytes : List UInt8
  ne_nil : bytes ≠ []
  tokens : bytes.all isTokenByte = true
  deriving DecidableEq, Repr

/-- Source: `Method::is_head`. -/
def Method.isHead (method : Method) : Bool := method.bytes = ascii "HEAD"

/-- Source: `Method::get`. -/
def Method.get : Method := ⟨ascii "GET", by decide, by decide⟩

/-- The name is lower case. Source: `HeaderName`. -/
structure HeaderName where
  bytes : List UInt8
  lower : bytes.map toAsciiLowercase = bytes
  deriving DecidableEq, Repr

lemma toAsciiLowercase_idem (byte : UInt8) :
    toAsciiLowercase (toAsciiLowercase byte) = toAsciiLowercase byte := by
  unfold toAsciiLowercase
  by_cases h : (65 ≤ byte && byte ≤ 90) = true
  · rw [if_pos h]
    have hne : ¬(65 ≤ byte + 32 && byte + 32 ≤ 90) = true := by
      simp only [Bool.and_eq_true, decide_eq_true_eq, UInt8.le_iff_toNat_le, UInt8.toNat_add,
        UInt8.reduceToNat] at h ⊢
      omega
    rw [if_neg hne]
  · rw [if_neg h, if_neg h]

/-- Source: `HeaderName::new`. -/
def HeaderName.new (value : List UInt8) : Except Error HeaderName :=
  if value.isEmpty || !value.all isTokenByte then .error .invalidHeaderName
  else .ok ⟨value.map toAsciiLowercase, by simp [Function.comp_def, toAsciiLowercase_idem]⟩

/-- Source: `HeaderName::is`. -/
def HeaderName.is (name : HeaderName) (expected : String) : Bool := name.bytes = ascii expected

/-- Source: `HeaderValue`. -/
structure HeaderValue where
  bytes : List UInt8
  valid : bytes.any isProhibitedFieldValueByte = false
  deriving DecidableEq, Repr

/-- Source: `HeaderValue::from_bytes`. -/
def HeaderValue.fromBytes (value : List UInt8) : Except Error HeaderValue :=
  if h : value.any isProhibitedFieldValueByte = true then .error .invalidHeaderValue
  else .ok ⟨value, by simpa using h⟩

/-- Source: `Headers`. -/
structure Headers where
  fields : List (HeaderName × HeaderValue)
  deriving DecidableEq, Repr

namespace Headers

/-- Source: `Headers::new`. -/
def new : Headers := ⟨[]⟩

/-- Source: `Headers::append`. -/
def append (headers : Headers) (field : HeaderName × HeaderValue) : Headers :=
  ⟨headers.fields ++ [field]⟩

/-- Source: `Headers::values`. -/
def values (headers : Headers) (name : String) : List (List UInt8) :=
  headers.fields.filterMap fun field =>
    if eqIgnoreAsciiCase field.1.bytes (ascii name) then some field.2.bytes else none

end Headers

/-! ## Heads -/

/-- Source: `RedirectPolicy`. -/
inductive RedirectPolicy where
  | manual
  | reject
  deriving DecidableEq, Repr

/-- Source: `HttpVersion`. -/
inductive HttpVersion where
  | http10
  | http11
  deriving DecidableEq, Repr

/-- Source: `StatusCode`. -/
structure StatusCode where
  value : Nat
  range : 100 ≤ value ∧ value ≤ 599
  deriving DecidableEq, Repr

namespace StatusCode

/-- Source: `StatusCode::from_wire`. -/
def fromWire (value : Nat) : Except Error StatusCode :=
  if h : 100 ≤ value ∧ value ≤ 599 then .ok ⟨value, h⟩ else .error .malformedStatusLine

/-- Source: `StatusCode::is_informational`. -/
def isInformational (status : StatusCode) : Bool := 100 ≤ status.value && status.value < 200

/-- Source: `StatusCode::is_redirect`. -/
def isRedirect (status : StatusCode) : Bool := status.value ∈ [301, 302, 303, 307, 308]

end StatusCode

/-- Source: `BodyFraming`. -/
inductive BodyFraming where
  | none
  | contentLength (length : Nat)
  | chunked
  | connectionClose
  deriving DecidableEq, Repr

/-- The connection disposition, which has one value, is left out. Source: `ResponseHead`. -/
structure ResponseHead where
  version : HttpVersion
  status : StatusCode
  reasonPhrase : List UInt8
  headers : Headers
  framing : BodyFraming
  informationalResponses : Nat
  deriving DecidableEq, Repr

/-- The limits of the response parser. Source: `ClientConfig`. -/
structure ClientConfig where
  maxHeaderBytes : UInt64
  maxHeaderCount : UInt64
  maxBodyBytes : UInt64
  maxChunkLineBytes : UInt64
  maxInformationalResponses : UInt64
  deriving DecidableEq, Repr

/-- Source: `ClientConfig::default`. -/
def ClientConfig.default : ClientConfig :=
  { maxHeaderBytes := 64 * 1024
    maxHeaderCount := 256
    maxBodyBytes := 8 * 1024 * 1024
    maxChunkLineBytes := 8 * 1024
    maxInformationalResponses := 8 }

end WildBuzzard.Net
