import WildBuzzard.Lib.Report
import WildBuzzard.Parser.Source

/-!
# Text content: newlines, nulls and character references

Source: `parser/src/tokenizer.rs`, from `replace_nulls_and_normalize` to `consume_reference` and the
free functions they use.

A function of the source that reports errors through `self.errors` is a `Report`: its value with the
errors it adds, in order. Where it would panic, it halts.
-/

namespace WildBuzzard.Parser

open Lib IsBoundary

/-! ## Bytes -/

variable {b : UInt8} (source : List Char)

/-- A byte literal: `b == b'c'`. -/
def byteIs (c : Char) (b : UInt8) : Bool := b.toNat = c.toNat

/-- Source: `u8::is_ascii_whitespace` -/
def isAsciiWhitespace (b : UInt8) : Bool :=
  b.toNat = 0x20 ∨ b.toNat = 0x09 ∨ b.toNat = 0x0a ∨ b.toNat = 0x0c ∨ b.toNat = 0x0d

/-- Source: `u8::is_ascii_digit` -/
def isAsciiDigit (b : UInt8) : Bool := 0x30 ≤ b.toNat ∧ b.toNat ≤ 0x39

/-- Source: `u8::is_ascii_hexdigit` -/
def isAsciiHexdigit (b : UInt8) : Bool :=
  0x30 ≤ b.toNat ∧ b.toNat ≤ 0x39 ∨ 0x41 ≤ b.toNat ∧ b.toNat ≤ 0x46 ∨
    0x61 ≤ b.toNat ∧ b.toNat ≤ 0x66

/-- Source: `u8::is_ascii_alphanumeric` -/
def isAsciiAlphanumeric (b : UInt8) : Bool :=
  0x30 ≤ b.toNat ∧ b.toNat ≤ 0x39 ∨ 0x41 ≤ b.toNat ∧ b.toNat ≤ 0x5a ∨
    0x61 ≤ b.toNat ∧ b.toNat ≤ 0x7a

/-- Source: `u8::to_ascii_lowercase` -/
def lowerByte (b : UInt8) : UInt8 := if 0x41 ≤ b.toNat ∧ b.toNat ≤ 0x5a then b + 0x20 else b

/-- Source: `str::to_ascii_lowercase` -/
def lowerText (s : List Char) : List Char := s.map Char.toLower

/-- Source: `str::eq_ignore_ascii_case` -/
def eqIgnoreAsciiCase (s t : List Char) : Bool := lowerText s = lowerText t

/-! ## Newlines -/

/-- Source: `normalize_newlines` -/
def normalizeNewlines : List Char → List Char
  | [] => []
  | c :: rest =>
    if c = '\r' then
      match rest with
      | '\n' :: rest => '\n' :: normalizeNewlines rest
      | rest => '\n' :: normalizeNewlines rest
    else c :: normalizeNewlines rest

/-! ## Character references -/

/-- Source: `named_reference` -/
def namedReferences : List (String × Char) :=
  [("amp", '&'), ("AMP", '&'), ("lt", '<'), ("LT", '<'), ("gt", '>'), ("GT", '>'),
    ("quot", '"'), ("QUOT", '"'), ("apos", '\x27'), ("nbsp", '\u00a0'), ("copy", '\u00a9'),
    ("COPY", '\u00a9'), ("reg", '\u00ae'), ("REG", '\u00ae'), ("hellip", '\u2026'),
    ("ndash", '\u2013'), ("mdash", '\u2014')]

@[inherit_doc namedReferences]
def namedReference (name : List Char) : Option Char :=
  (namedReferences.find? fun entry => entry.1 = String.ofList name).map (·.2)

/-- Source: `windows_1252_replacement` -/
def windows1252Replacements : List (ℕ × Char) :=
  [(0x80, '\u20ac'), (0x82, '\u201a'), (0x83, '\u0192'), (0x84, '\u201e'), (0x85, '\u2026'),
    (0x86, '\u2020'), (0x87, '\u2021'), (0x88, '\u02c6'), (0x89, '\u2030'), (0x8a, '\u0160'),
    (0x8b, '\u2039'), (0x8c, '\u0152'), (0x8e, '\u017d'), (0x91, '\u2018'), (0x92, '\u2019'),
    (0x93, '\u201c'), (0x94, '\u201d'), (0x95, '\u2022'), (0x96, '\u2013'), (0x97, '\u2014'),
    (0x98, '\u02dc'), (0x99, '\u2122'), (0x9a, '\u0161'), (0x9b, '\u203a'), (0x9c, '\u0153'),
    (0x9e, '\u017e'), (0x9f, '\u0178')]

@[inherit_doc windows1252Replacements]
def windows1252Replacement (value : ℕ) : Option Char :=
  (windows1252Replacements.find? fun entry => entry.1 = value).map (·.2)

/-- The character of a numeric reference, and the error it reports.
Source: `sanitize_numeric_reference` -/
def sanitizeNumericReference (value : ℕ) : Char × List ParseErrorCode :=
  if value = 0 then ('\ufffd', [.nullCharacterReference])
  else if 0x10ffff < value then ('\ufffd', [.characterReferenceOutsideUnicodeRange])
  else if 0xd800 ≤ value ∧ value ≤ 0xdfff then ('\ufffd', [.surrogateCharacterReference])
  else
    match windows1252Replacement value with
    | some replacement => (replacement, [.controlCharacterReference])
    | none => (Char.ofNat value, [])

/-- The value of a hexadecimal digit. -/
def digitValue (c : Char) : ℕ :=
  if c.toNat ≤ 0x39 then c.toNat - 0x30
  else if c.toNat ≤ 0x46 then c.toNat - 0x41 + 10
  else c.toNat - 0x61 + 10

/-- The largest `u32`. -/
def u32Max : ℕ := 2 ^ 32 - 1

/-- `u32::from_str_radix(digits, radix).unwrap_or(u32::MAX)`, on digits of the radix -/
def fromStrRadix (digits : List Char) (radix : ℕ) : ℕ :=
  min (digits.foldl (fun value c => value * radix + digitValue c) 0) u32Max

/-- The branch of `consume_reference` for `&#`. -/
def numericReference (source : List Char) (position : SourcePosition) :
    Report ParseError (Option (List Char × ℕ)) :=
  let bytes := utf8 source
  let hexadecimal := (bytes[2]?).any fun b => byteIs 'x' b || byteIs 'X' b
  let digitsStart := if hexadecimal then 3 else 2
  let cursor := skipWhile (if hexadecimal then isAsciiHexdigit else isAsciiDigit) bytes
    digitsStart bytes.length
  if cursor = digitsStart then do
    .log (tokenizerError .absenceOfDigitsInNumericCharacterReference position)
    pure none
  else do
    let hasSemicolon := (bytes[cursor]?).any (byteIs ';')
    .logIf (!hasSemicolon) (tokenizerError .missingSemicolonAfterCharacterReference position)
    let digits ← .silent (slice source digitsStart cursor)
    let sanitized := sanitizeNumericReference
      (fromStrRadix digits (if hexadecimal then 16 else 10))
    .done (some ([sanitized.1], if hasSemicolon then cursor + 1 else cursor))
      (sanitized.2.map (tokenizerError · position))

/-- The branch of `consume_reference` for a name. -/
def nameReference (source : List Char) (position : SourcePosition) (inAttribute : Bool) :
    Report ParseError (Option (List Char × ℕ)) :=
  let bytes := utf8 source
  let cursor := skipWhile isAsciiAlphanumeric bytes 1 bytes.length
  if cursor = 1 then pure none
  else do
    let hasSemicolon := (bytes[cursor]?).any (byteIs ';')
    let name ← .silent (slice source 1 cursor)
    match namedReference name with
    | none => do
      .logIf hasSemicolon (tokenizerError .unknownNamedCharacterReference position)
      pure none
    | some replacement =>
      if !hasSemicolon && inAttribute &&
          (bytes[cursor]?).any fun b => isAsciiAlphanumeric b || byteIs '=' b then
        pure none
      else do
        .logIf (!hasSemicolon) (tokenizerError .missingSemicolonAfterCharacterReference position)
        pure (some ([replacement], if hasSemicolon then cursor + 1 else cursor))

/-- The replacement of a reference at the start of `source` and the bytes it takes, or `none`.
Source: `Tokenizer::consume_reference` -/
def consumeReference (source : List Char) (position : SourcePosition) (inAttribute : Bool) :
    Report ParseError (Option (List Char × ℕ)) :=
  if ((utf8 source)[1]?).any (byteIs '#') then numericReference source position
  else nameReference source position inAttribute

/-! ## The text loop -/

/-- The loop of `decode_references` and of `replace_nulls_and_normalize`, with the text before and
after its cursor: the second is the first without references. What stands at a `&` is decided by
`reference`: its replacement and the bytes it takes, or `none` for a plain `&`. Every round takes at
least one character, so a fuel of the length of the text is enough. -/
def textFrom (reference : List Char → SourcePosition → Report ParseError (Option (List Char × ℕ)))
    (start : SourcePosition) : ℕ → List Char → List Char → Report ParseError (List Char)
  | _, _, [] => pure []
  | 0, _, _ :: _ => .halted .loop
  | fuel + 1, done, c :: rest =>
    if c = '&' then do
      match ← reference (c :: rest) (start.advancedBy done) with
      | none => do
        let output ← textFrom reference start fuel (done ++ [c]) rest
        pure ('&' :: output)
      | some (replacement, consumed) => do
        let parts ← .silent (splitText (c :: rest) consumed)
        let output ← textFrom reference start fuel (done ++ parts.1) parts.2
        pure (replacement ++ output)
    else if c = '\x00' then do
      .log (tokenizerError .unexpectedNullCharacter (start.advancedBy done))
      let output ← textFrom reference start fuel (done ++ [c]) rest
      pure ('\ufffd' :: output)
    else if c = '\r' then
      match rest with
      | '\n' :: rest => do
        let output ← textFrom reference start fuel (done ++ ['\r', '\n']) rest
        pure ('\n' :: output)
      | rest => do
        let output ← textFrom reference start fuel (done ++ ['\r']) rest
        pure ('\n' :: output)
    else do
      let output ← textFrom reference start fuel (done ++ [c]) rest
      pure (c :: output)

/-- Source: `Tokenizer::replace_nulls_and_normalize` -/
def replaceNullsAndNormalize (source : List Char) (start : SourcePosition) :
    Report ParseError (List Char) :=
  textFrom (fun _ _ => pure none) start source.length [] source

/-- Source: `Tokenizer::decode_references` -/
def decodeReferences (source : List Char) (start : SourcePosition) (inAttribute : Bool) :
    Report ParseError (List Char) :=
  textFrom (consumeReference · · inAttribute) start source.length [] source

example : decodeReferences "a&amp;b\r\nc&#x80;&lt".toList {} false =
    .done "a&b\nc€<".toList [
      tokenizerError .controlCharacterReference ⟨10, 2, 2⟩,
      tokenizerError .missingSemicolonAfterCharacterReference ⟨16, 2, 8⟩] := by
  decide +kernel

/-! ## Byte tests -/

lemma byteIs_lt {c : Char} (hc : c.toNat < 0x80) (h : byteIs c b = true) : b.toNat < 0x80 := by
  have : b.toNat = c.toNat := of_decide_eq_true h
  omega

lemma byteIs_ascii {c : Char} (hc : c.toNat < 0x80) : AsciiTest (byteIs c) :=
  .of_lt fun _ => byteIs_lt hc

lemma isAsciiWhitespace_lt (h : isAsciiWhitespace b = true) : b.toNat < 0x80 := by
  have := of_decide_eq_true h
  omega

lemma isAsciiWhitespace_ascii : AsciiTest isAsciiWhitespace := .of_lt fun _ => isAsciiWhitespace_lt

lemma isAsciiDigit_ascii : AsciiTest isAsciiDigit := by
  refine .of_lt fun b h => ?_
  have := of_decide_eq_true h
  omega

lemma isAsciiHexdigit_ascii : AsciiTest isAsciiHexdigit := by
  refine .of_lt fun b h => ?_
  have := of_decide_eq_true h
  omega

lemma isAsciiAlphanumeric_lt (h : isAsciiAlphanumeric b = true) : b.toNat < 0x80 := by
  have := of_decide_eq_true h
  omega

lemma isAsciiAlphanumeric_ascii : AsciiTest isAsciiAlphanumeric :=
  .of_lt fun _ => isAsciiAlphanumeric_lt

/-! ## References end at boundaries -/

/-- What `consume_reference` may return: a nonempty replacement for a nonempty prefix of the
source. -/
def IsReference (source : List Char) (r : Option (List Char × ℕ)) : Prop :=
  ∀ replacement consumed, r = some (replacement, consumed) →
    replacement ≠ [] ∧ 0 < consumed ∧ IsBoundary source consumed

lemma IsReference.none : IsReference source none :=
  fun _ _ h => by cases h

/-- The end of a reference, with its semicolon if it has one. -/
lemma IsReference.of_cursor {source : List Char} {cursor : ℕ} (h : IsBoundary source cursor)
    (hpos : 0 < cursor) (replacement : Char) :
    IsReference source (some ([replacement],
      if ((utf8 source)[cursor]?).any (byteIs ';') then cursor + 1 else cursor)) := by
  intro r consumed heq
  cases heq
  refine ⟨by simp, by split_ifs <;> omega, ?_⟩
  split_ifs with hsemi
  · obtain ⟨b, hb, hsemi⟩ := (Option.any_eq_true _ _).mp hsemi
    exact (of_ascii hb (byteIs_lt (by decide) hsemi)).2
  · exact h

variable (position : SourcePosition) (start : SourcePosition)

lemma numericReference_safe {source : List Char} (h2 : IsBoundary source 2) :
    (numericReference source position).Safe (IsReference source) := by
  unfold numericReference
  obtain ⟨hex, hhex⟩ : ∃ hex, ((utf8 source)[2]?).any (fun b => byteIs 'x' b || byteIs 'X' b) = hex :=
    ⟨_, rfl⟩
  obtain ⟨start, hstart⟩ : ∃ start, (if hex then 3 else 2) = start := ⟨_, rfl⟩
  obtain ⟨isDigit, hisDigit⟩ : ∃ f, (if hex then isAsciiHexdigit else isAsciiDigit) = f := ⟨_, rfl⟩
  simp only [hhex, hstart, hisDigit]
  -- the digits start after `#`, or after the `x`
  have hbound : IsBoundary source start := by
    subst hstart
    split_ifs with h
    · subst h
      obtain ⟨b, hb, hx⟩ := (Option.any_eq_true _ _).mp hhex
      have hlt : b.toNat < 0x80 := by
        rcases Bool.or_eq_true_iff.mp hx with hx | hx <;> exact byteIs_lt (by decide) hx
      exact (of_ascii hb hlt).2
    · exact h2
  have hascii : AsciiTest isDigit := by
    subst hisDigit
    split_ifs
    · exact isAsciiHexdigit_ascii
    · exact isAsciiDigit_ascii
  obtain ⟨hcursor, -⟩ := hbound.skipWhile hascii (.atEnd source) hbound.le_byteLen
  have hle := le_skipWhile isDigit (utf8 source) start (utf8 source).length
  rw [byteLen] at hcursor
  obtain ⟨cursor, hc⟩ : ∃ k, skipWhile isDigit (utf8 source) start (utf8 source).length = k :=
    ⟨_, rfl⟩
  simp only [hc] at hcursor hle ⊢
  by_cases hnone : cursor = start
  · rw [if_pos hnone]
    exact .bind (.log _) fun _ _ => .pure (.none source)
  · rw [if_neg hnone]
    obtain ⟨_, digits, _, hslice, -⟩ := exists_slice hbound hcursor hle
    refine .bind (.logIf _ _) fun _ _ => .silent_bind hslice ?_
    exact ⟨_, _, rfl, .of_cursor hcursor (by omega) _⟩

lemma nameReference_safe {source : List Char} (inAttribute : Bool) (h1 : IsBoundary source 1) :
    (nameReference source position inAttribute).Safe (IsReference source) := by
  unfold nameReference
  obtain ⟨hcursor, -⟩ := h1.skipWhile isAsciiAlphanumeric_ascii (.atEnd source) h1.le_byteLen
  have hle := le_skipWhile isAsciiAlphanumeric (utf8 source) 1 (utf8 source).length
  rw [byteLen] at hcursor
  obtain ⟨cursor, hc⟩ :
      ∃ k, skipWhile isAsciiAlphanumeric (utf8 source) 1 (utf8 source).length = k := ⟨_, rfl⟩
  simp only [hc] at hcursor hle ⊢
  by_cases hnone : cursor = 1
  · rw [if_pos hnone]
    exact .pure (.none source)
  · rw [if_neg hnone]
    obtain ⟨_, name, _, hslice, -⟩ := exists_slice h1 hcursor hle
    refine .silent_bind hslice ?_
    rcases namedReference name with _ | replacement
    · exact .bind (.logIf _ _) fun _ _ => .pure (.none source)
    · dsimp only
      refine .ite ?_ ?_
      · exact .pure (.none source)
      · exact .bind (.logIf _ _) fun _ _ => .pure (.of_cursor hcursor (by omega) _)

/-- **A reference ends at a character boundary**, so `consume_reference` does not panic. -/
theorem consumeReference_safe (rest : List Char) (position : SourcePosition) (inAttribute : Bool) :
    (consumeReference ('&' :: rest) position inAttribute).Safe (IsReference ('&' :: rest)) := by
  unfold consumeReference
  have hamp : (utf8 ('&' :: rest))[0]? = some 38 := rfl
  split_ifs with hnum
  · obtain ⟨b, hb, hnum⟩ := (Option.any_eq_true _ _).mp hnum
    exact numericReference_safe position (of_ascii hb (byteIs_lt (by decide) hnum)).2
  · exact nameReference_safe position inAttribute (of_ascii hamp (by decide)).2

/-- The text loop does not halt, and it loses no text. -/
lemma textFrom_safe
    {reference : List Char → SourcePosition → Report ParseError (Option (List Char × ℕ))}
    (href : ∀ rest position, (reference ('&' :: rest) position).Safe (IsReference ('&' :: rest)))
    (start : SourcePosition) {fuel : ℕ} {done rest : List Char} (hfuel : rest.length ≤ fuel) :
    (textFrom reference start fuel done rest).Safe fun output => rest ≠ [] → output ≠ [] := by
  induction fuel generalizing done rest with
  | zero =>
    rw [List.eq_nil_of_length_eq_zero (Nat.le_zero.mp hfuel), textFrom]
    exact .pure fun h => absurd rfl h
  | succ fuel ih =>
    match rest with
    | [] =>
      exact .pure fun h => absurd rfl h
    | c :: rest =>
      have hrest : rest.length ≤ fuel := by simpa using hfuel
      -- what every round but that of a reference does: one character, then the rest
      have hnext : ∀ {done' rest' : List Char} (d : Char), rest'.length ≤ fuel →
          (textFrom reference start fuel done' rest' >>= fun output =>
            pure (d :: output)).Safe fun output => c :: rest ≠ [] → output ≠ [] :=
        fun d hle => .bind (ih hle) fun output _ => .pure fun _ => by simp
      rw [textFrom.eq_def]
      dsimp only
      split_ifs with hamp hnull hcr
      · subst hamp
        refine .bind (href rest _) fun r hr => ?_
        rcases r with _ | ⟨replacement, consumed⟩
        · exact hnext '&' hrest
        · obtain ⟨hne, hpos, hbound⟩ := hr _ _ rfl
          obtain ⟨a, b, hsplit, happ, hlen⟩ := exists_splitText hbound
          have hb : b.length ≤ fuel := by
            have ha : a ≠ [] := by
              rintro rfl
              simp only [byteLen_nil] at hlen
              omega
            have := congrArg List.length happ
            have := List.length_pos_iff.mpr ha
            simp only [List.length_cons, List.length_append] at *
            omega
          exact .silent_bind hsplit (.bind (ih hb) fun output _ => .pure fun _ => by simp [hne])
      · exact .bind (.log _) fun _ _ => hnext _ hrest
      · split
        · exact hnext _ (by simp only [List.length_cons] at hrest; omega)
        · exact hnext _ hrest
      · exact hnext _ hrest

lemma replaceNullsAndNormalize_safe :
    (replaceNullsAndNormalize source start).Safe fun data => source ≠ [] → data ≠ [] :=
  textFrom_safe (fun rest _ => .pure (.none ('&' :: rest))) start le_rfl

lemma decodeReferences_safe (inAttribute : Bool) :
    (decodeReferences source start inAttribute).Safe fun data => source ≠ [] → data ≠ [] :=
  textFrom_safe (fun rest position => consumeReference_safe rest position inAttribute) start
    le_rfl

end WildBuzzard.Parser
