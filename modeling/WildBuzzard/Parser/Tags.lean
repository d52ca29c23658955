import WildBuzzard.Parser.References

/-!
# Doctypes and tags

Source: `parser/src/tokenizer.rs`, `parse_doctype`, the bodies of `consume_end_tag` and
`consume_start_tag`, and the free functions they use.

Each function here reads the complete source of one doctype or tag, from its `<` to its `>`. The
cursors are byte offsets into that source, moved by scans over its bytes; the slices between them
panic if a cursor is not at a character boundary.

**They never are anywhere else**: all scans look for ASCII bytes, so no parser here halts
(`parseDoctype_safe`, `parseEndTag_safe`, `parseStartTag_safe`).
-/

namespace WildBuzzard.Parser

open Lib IsBoundary

/-- `cursor < bytes.len() && p(bytes[cursor])` -/
def byteAt (p : UInt8 → Bool) (bytes : List UInt8) (cursor : ℕ) : Bool := (bytes[cursor]?).any p

/-- Source: `skip_ascii_whitespace` -/
def skipAsciiWhitespace (bytes : List UInt8) (cursor stop : ℕ) : ℕ :=
  skipWhile isAsciiWhitespace bytes cursor stop

variable (code : ParseErrorCode) (limits : TokenizerLimits) (position : SourcePosition)
  (source : List Char)

/-- Where the content of a tag or doctype ends. -/
def contentEnd : ℕ := (rfindChar '>' source).getD (byteLen source)

/-- Source: `Tokenizer::push_relative_error` -/
def pushRelativeError (offset : ℕ) : Report ParseError Unit := do
  let parts ← .silent (splitText source (min offset (byteLen source)))
  .log (tokenizerError code (position.advancedBy parts.1))

/-- A relative error, if a condition holds. -/
def pushRelativeErrorIf (c : Bool) (code : ParseErrorCode) (position : SourcePosition)
    (source : List Char) (offset : ℕ) : Report ParseError Unit :=
  if c then pushRelativeError code position source offset else pure ()

/-- Source: `starts_ascii_case_insensitive` -/
def startsAsciiCaseInsensitive (source expected : List Char) : Bool :=
  match splitAtByte source (byteLen expected) with
  | some (candidate, _) => eqIgnoreAsciiCase candidate expected
  | none => false

/-! ## Doctypes -/

/-- The fields of a doctype token. -/
structure DoctypeFields where
  name : List Char
  publicId : List Char
  systemId : List Char
  forceQuirks : Bool
  deriving DecidableEq, Repr

/-- The identifier in quotes, if there is one, and the cursor after it.
Source: `parse_quoted_identifier` -/
def parseQuotedIdentifier (cursor stop : ℕ) : Report ParseError (Option (List Char) × ℕ) :=
  let bytes := utf8 source
  let cursor := skipAsciiWhitespace bytes cursor stop
  match bytes[cursor]? with
  | none => pure (none, cursor)
  | some quote =>
    if !(byteIs '\x27' quote || byteIs '"' quote) then pure (none, cursor)
    else
      let start := cursor + 1
      let cursor := skipWhile (· ≠ quote) bytes start stop
      if stop ≤ cursor then pure (none, cursor)
      else do
        let value ← .silent (slice source start cursor)
        pure (some (normalizeNewlines value), cursor + 1)

/-- What `parse_doctype` does after an identifier it requires and, with `PUBLIC`, one it does not:
errors for a missing identifier and for what is left. -/
def finishDoctype (stop cursor : ℕ)
    (required : Option (List Char)) (forceQuirks : Bool) : Report ParseError Bool := do
  pushRelativeErrorIf required.isNone .invalidDoctype position source cursor
  let cursor := skipAsciiWhitespace (utf8 source) cursor stop
  pushRelativeErrorIf (cursor ≠ stop) .unexpectedCharacterAfterDoctypeName position source cursor
  pure (forceQuirks || required.isNone || cursor ≠ stop)

/-- Source: `Tokenizer::parse_doctype` -/
def parseDoctype : Report ParseError DoctypeFields := do
  let stop := contentEnd source
  let bytes := utf8 source
  let cursor := min (byteLen "<!doctype".toList) stop
  pushRelativeErrorIf (cursor < stop && !byteAt isAsciiWhitespace bytes cursor) .invalidDoctype
    position source cursor
  let nameStart := skipAsciiWhitespace bytes cursor stop
  let cursor := skipWhile (fun b => !isAsciiWhitespace b) bytes nameStart stop
  let rawName ← .silent (slice source nameStart cursor)
  let name := lowerText rawName
  if name = [] then do
    pushRelativeError .missingDoctypeName position source cursor
    pure ⟨name, [], [], true⟩
  else
    let forceQuirks := !eqIgnoreAsciiCase name "html".toList
    let cursor := skipAsciiWhitespace bytes cursor stop
    if cursor = stop then pure ⟨name, [], [], forceQuirks⟩
    else do
      let remainder ← .silent (slice source cursor stop)
      if startsAsciiCaseInsensitive remainder "public".toList then do
        let publicId ← parseQuotedIdentifier source (cursor + byteLen "public".toList) stop
        let systemId ← parseQuotedIdentifier source publicId.2 stop
        let forceQuirks ←
          finishDoctype position source stop systemId.2 publicId.1 forceQuirks
        pure ⟨name, publicId.1.getD [], systemId.1.getD [], forceQuirks⟩
      else if startsAsciiCaseInsensitive remainder "system".toList then do
        let systemId ← parseQuotedIdentifier source (cursor + byteLen "system".toList) stop
        let forceQuirks ←
          finishDoctype position source stop systemId.2 systemId.1 forceQuirks
        pure ⟨name, [], systemId.1.getD [], forceQuirks⟩
      else do
        pushRelativeError .unexpectedCharacterAfterDoctypeName position source cursor
        pure ⟨name, [], [], true⟩

/-! ## End tags -/

/-- The end of a tag name. -/
def isTagNameByte (b : UInt8) : Bool := !isAsciiWhitespace b && !byteIs '/' b

/-- The name of an end tag.
Source: `Tokenizer::consume_end_tag`, from `content_end` on -/
def parseEndTag : Report ParseError (List Char) := do
  let stop := contentEnd source
  let bytes := utf8 source
  let nameStart := skipAsciiWhitespace bytes 2 stop
  let cursor := skipWhile isTagNameByte bytes nameStart stop
  let rawName ← .silent (slice source nameStart cursor)
  let name := lowerText rawName
  pushRelativeErrorIf (name = []) .missingEndTagName position source cursor
  let cursor := skipAsciiWhitespace bytes cursor stop
  if cursor < stop then do
    pushRelativeError
      (if byteAt (byteIs '/') bytes cursor then .endTagWithTrailingSolidus
        else .endTagWithAttributes) position source cursor
    pushRelativeError .unexpectedCharacterAfterEndTagName position source cursor
    pure name
  else pure name

/-! ## Start tags -/

/-- A byte of an attribute name. -/
def isAttributeNameByte (b : UInt8) : Bool :=
  !isAsciiWhitespace b && !(byteIs '=' b || byteIs '/' b)

/-- The bytes an unquoted attribute value should not have. -/
def isUnquotedError (b : UInt8) : Bool :=
  byteIs '"' b || byteIs '\x27' b || byteIs '<' b || byteIs '=' b || byteIs '\x60' b

/-- One error for each of the given offsets. -/
def pushRelativeErrors (code : ParseErrorCode) (position : SourcePosition) (source : List Char) :
    List ℕ → Report ParseError Unit
  | [] => pure ()
  | offset :: rest => do
    pushRelativeError code position source offset
    pushRelativeErrors code position source rest

/-- The decoded value between two cursors. -/
def decodeValue (valueStart cursor : ℕ) : Report ParseError (List Char) := do
  let raw ← .silent (slice source valueStart cursor)
  let before ← .silent (splitText source valueStart)
  decodeReferences raw (position.advancedBy before.1) true

/-- The value after an attribute name, and the cursor after it. -/
def parseAttributeValue (stop cursor : ℕ) : Report ParseError (List Char × ℕ) :=
  let bytes := utf8 source
  if cursor < stop && byteAt (byteIs '=') bytes cursor then
    let cursor := skipAsciiWhitespace bytes (cursor + 1) stop
    if stop ≤ cursor then do
      pushRelativeError .missingAttributeValue position source cursor
      pure ([], cursor)
    else if byteAt (fun b => byteIs '\x27' b || byteIs '"' b) bytes cursor then do
      let valueStart := cursor + 1
      let quote := bytes[cursor]?
      let cursor := skipWhile (fun b => some b ≠ quote) bytes valueStart stop
      let value ← decodeValue position source valueStart cursor
      if cursor < stop then pure (value, cursor + 1)
      else do
        pushRelativeError .eofInTag position source cursor
        pure (value, cursor)
    else do
      let valueStart := cursor
      let cursor := skipWhile (fun b => !isAsciiWhitespace b) bytes valueStart stop
      pushRelativeErrors .unexpectedCharacterInUnquotedAttributeValue position source
        ((List.range' valueStart (cursor - valueStart)).filter (byteAt isUnquotedError bytes))
      let value ← decodeValue position source valueStart cursor
      pure (value, cursor)
  else pure ([], cursor)

/-- What `consume_start_tag` does with an attribute it has read: keep it, or report and drop it. -/
def addAttribute
    (attributes : List SpannedAttribute) (attributeStart cursor : ℕ) (name value : List Char) :
    Report ParseError (List SpannedAttribute) :=
  if attributes.any fun attr => eqIgnoreAsciiCase attr.name.toList name then do
    pushRelativeError .duplicateAttribute position source attributeStart
    pure attributes
  else if limits.maxAttributesPerTag ≤ attributes.length then do
    pushRelativeError .attributeLimitExceeded position source attributeStart
    pure attributes
  else do
    let beforeStart ← .silent (splitText source attributeStart)
    let beforeEnd ← .silent (splitText source cursor)
    pure (attributes ++ [⟨String.ofList name, String.ofList value,
      ⟨position.advancedBy beforeStart.1, position.advancedBy beforeEnd.1⟩⟩])

/-- The loop of `consume_start_tag` over the attributes, with whether the tag is self-closing. Every
round moves the cursor, so a fuel of the length of the source is enough. -/
def parseAttributes (limits : TokenizerLimits) (position : SourcePosition) (source : List Char)
    (stop : ℕ) : ℕ → ℕ → List SpannedAttribute → Report ParseError (List SpannedAttribute × Bool)
  | fuel, cursor, attributes =>
    let bytes := utf8 source
    if stop ≤ cursor then pure (attributes, false)
    else
      let cursor := skipAsciiWhitespace bytes cursor stop
      if stop ≤ cursor then pure (attributes, false)
      else if byteAt (byteIs '/') bytes cursor then do
        let cursor := skipAsciiWhitespace bytes (cursor + 1) stop
        pushRelativeErrorIf (cursor < stop) .unexpectedCharacterInUnquotedAttributeValue
          position source cursor
        pure (attributes, true)
      else do
        pushRelativeErrorIf (byteAt (byteIs '=') bytes cursor)
          .unexpectedEqualsSignBeforeAttributeName position source cursor
        let attributeStart := cursor
        let cursor := skipWhile isAttributeNameByte bytes attributeStart stop
        let rawName ← .silent (slice source attributeStart cursor)
        let name := lowerText rawName
        match fuel with
        | 0 => .halted .loop
        | fuel + 1 =>
          if name = [] then
            parseAttributes limits position source stop fuel (cursor + 1) attributes
          else do
            let cursor := skipAsciiWhitespace bytes cursor stop
            let value ← parseAttributeValue position source stop cursor
            let attributes ← addAttribute limits position source attributes attributeStart
              value.2 name value.1
            parseAttributes limits position source stop fuel value.2 attributes

/-- The name, the attributes and whether the tag is self-closing.
Source: `Tokenizer::consume_start_tag`, from `content_end` on -/
def parseStartTag : Report ParseError (List Char × List SpannedAttribute × Bool) := do
  let stop := contentEnd source
  let cursor := skipWhile isTagNameByte (utf8 source) 1 stop
  let rawName ← .silent (slice source 1 cursor)
  let parsed ← parseAttributes limits position source stop (byteLen source) cursor []
  pure (lowerText rawName, parsed.1, parsed.2)

example : parseStartTag .default {} "<Input a=1 b='x&amp;y' A=2 / >".toList =
    .done ("input".toList, [
        ⟨"a", "1", ⟨⟨7, 1, 8⟩, ⟨10, 1, 11⟩⟩⟩, ⟨"b", "x&y", ⟨⟨11, 1, 12⟩, ⟨22, 1, 23⟩⟩⟩], true)
      [tokenizerError .duplicateAttribute ⟨23, 1, 24⟩] := by
  decide +kernel

/-! ## Cursors stay at boundaries -/

section

variable {source : List Char} {cursor stop : ℕ}

lemma boundary_of_byteAt {p : UInt8 → Bool} (hp : ∀ b, p b = true → b.toNat < 0x80)
    (h : byteAt p (utf8 source) cursor = true) : IsBoundary source (cursor + 1) := by
  obtain ⟨b, hb, hpb⟩ := (Option.any_eq_true _ _).mp h
  exact (IsBoundary.of_ascii hb (hp b hpb)).2

variable (code : ParseErrorCode) (position : SourcePosition) (limits : TokenizerLimits)

lemma pushRelativeError_safe (position : SourcePosition) (h : IsBoundary source cursor) :
    (pushRelativeError code position source cursor).Safe fun _ => True := by
  obtain ⟨a, b, hsplit, -⟩ := exists_splitText h
  rw [pushRelativeError, Nat.min_eq_left h.le_byteLen]
  exact .silent_bind hsplit (.log _)

lemma pushRelativeErrorIf_safe (c : Bool) (code : ParseErrorCode) (position : SourcePosition)
    (h : IsBoundary source cursor) :
    (pushRelativeErrorIf c code position source cursor).Safe fun _ => True :=
  .ite (pushRelativeError_safe code position h) (.pure trivial)

lemma pushRelativeErrors_safe (position : SourcePosition) {offsets : List ℕ}
    (h : ∀ i ∈ offsets, IsBoundary source i) :
    (pushRelativeErrors code position source offsets).Safe fun _ => True := by
  induction offsets with
  | nil => exact .pure trivial
  | cons i offsets ih =>
    refine .bind (pushRelativeError_safe code position (h i (by simp))) fun _ _ => ih ?_
    intro j hj
    exact h j (by simp [hj])

lemma skipAsciiWhitespace_boundary (hc : IsBoundary source cursor) (hs : IsBoundary source stop)
    (hle : cursor ≤ stop) :
    IsBoundary source (skipAsciiWhitespace (utf8 source) cursor stop) ∧
      skipAsciiWhitespace (utf8 source) cursor stop ≤ stop :=
  hc.skipWhile isAsciiWhitespace_ascii hs hle

lemma notWhitespace_ascii : AsciiTest fun b => !isAsciiWhitespace b := isAsciiWhitespace_ascii.not

lemma isTagNameByte_ascii : AsciiTest isTagNameByte :=
  isAsciiWhitespace_ascii.not.and (byteIs_ascii (by decide)).not

lemma isAttributeNameByte_ascii : AsciiTest isAttributeNameByte :=
  isAsciiWhitespace_ascii.not.and ((byteIs_ascii (by decide)).or (byteIs_ascii (by decide))).not

/-- A tag or doctype ends with its `>`, where its content ends. -/
lemma contentEnd_append (a : List Char) : contentEnd (a ++ ['>']) = byteLen a := by
  have h : rfindChar '>' (a ++ ['>']) = some (byteLen a) := by
    induction a with
    | nil => rfl
    | cons c a ih => rw [List.cons_append, rfindChar, ih, byteLen_cons]
  rw [contentEnd, h]
  rfl

/-- A matched keyword ends at a boundary. -/
lemma startsAsciiCaseInsensitive_boundary {remainder keyword : List Char}
    (h : startsAsciiCaseInsensitive remainder keyword = true) :
    IsBoundary remainder (byteLen keyword) := by
  unfold startsAsciiCaseInsensitive at h
  split at h
  · rename_i a b hsplit
    obtain ⟨happ, hlen⟩ := splitAtByte_eq_some.mp hsplit
    exact ⟨a, b, happ, hlen⟩
  · cases h

/-! ### Doctypes -/

/-- The byte where the content ends is no quote. -/
def EndsUnquoted (source : List Char) (stop : ℕ) : Prop :=
  ∀ b, (utf8 source)[stop]? = some b → (byteIs '\x27' b || byteIs '"' b) = false

lemma parseQuotedIdentifier_safe (hc : IsBoundary source cursor) (hs : IsBoundary source stop)
    (hle : cursor ≤ stop) (hend : EndsUnquoted source stop) :
    (parseQuotedIdentifier source cursor stop).Safe fun r =>
      IsBoundary source r.2 ∧ r.2 ≤ stop := by
  unfold parseQuotedIdentifier
  obtain ⟨hc₁, hle₁⟩ := skipAsciiWhitespace_boundary hc hs hle
  obtain ⟨k, hk⟩ : ∃ k, skipAsciiWhitespace (utf8 source) cursor stop = k := ⟨_, rfl⟩
  simp only [hk] at hc₁ hle₁ ⊢
  split
  · exact .pure ⟨hc₁, hle₁⟩
  · rename_i quote hquote
    split
    · exact .pure ⟨hc₁, hle₁⟩
    · rename_i hq
      have hq' : (byteIs '\x27' quote || byteIs '"' quote) = true := by
        rwa [Bool.not_eq_true', Bool.not_eq_false] at hq
      have hascii : quote.toNat < 0x80 := by
        rcases Bool.or_eq_true_iff.mp hq' with h | h <;> exact byteIs_lt (by decide) h
      have hlt : k < stop := by
        refine lt_of_le_of_ne hle₁ ?_
        rintro rfl
        rw [hend quote hquote] at hq'
        cases hq'
      have hstart := (IsBoundary.of_ascii hquote hascii).2
      obtain ⟨hc₂, hle₂⟩ := hstart.skipWhile (.ne hascii) hs hlt
      have hge := le_skipWhile (fun x => decide (x ≠ quote)) (utf8 source) (k + 1) stop
      have hstop := @exists_of_skipWhile_lt (fun x => decide (x ≠ quote)) (utf8 source) (k + 1) stop
      split
      · exact .pure ⟨hc₂, hle₂⟩
      · rename_i hnot
        obtain ⟨b, hb, hbq⟩ := hstop (by omega) hs.le_byteLen
        have hbq : b = quote := by simpa using hbq
        rw [hbq] at hb
        obtain ⟨_, value, _, hslice, -⟩ := exists_slice hstart hc₂ hge
        refine .silent_bind hslice (.pure ⟨(IsBoundary.of_ascii hb hascii).2, by omega⟩)

lemma finishDoctype_safe (required : Option (List Char)) (forceQuirks : Bool)
    (hc : IsBoundary source cursor) (hs : IsBoundary source stop) (hle : cursor ≤ stop) :
    (finishDoctype position source stop cursor required forceQuirks).Safe fun _ => True := by
  have hc₁ := (skipAsciiWhitespace_boundary hc hs hle).1
  exact .bind (pushRelativeErrorIf_safe _ _ _ hc) fun _ _ =>
    .bind (pushRelativeErrorIf_safe _ _ _ hc₁) fun _ _ => .pure trivial

/-- **`parse_doctype` does not panic** on a source that starts with the keyword. -/
theorem parseDoctype_safe {a : List Char}
    (hstart : IsBoundary (a ++ ['>']) (min (byteLen "<!doctype".toList) (byteLen a))) :
    (parseDoctype position (a ++ ['>'])).Safe fun _ => True := by
  have hs : IsBoundary (a ++ ['>']) (byteLen a) := ⟨a, ['>'], rfl, rfl⟩
  have hend : EndsUnquoted (a ++ ['>']) (byteLen a) := by
    intro b hb
    rw [utf8_append, byteLen, List.getElem?_append_right le_rfl, Nat.sub_self] at hb
    cases hb
    rfl
  unfold parseDoctype
  simp only [contentEnd_append]
  have hle : min (byteLen "<!doctype".toList) (byteLen a) ≤ byteLen a := Nat.min_le_right _ _
  obtain ⟨start, hstart'⟩ : ∃ k, min (byteLen "<!doctype".toList) (byteLen a) = k := ⟨_, rfl⟩
  simp only [hstart'] at hstart hle ⊢
  refine .bind (pushRelativeErrorIf_safe _ _ _ hstart) fun _ _ => ?_
  obtain ⟨hc₁, hle₁⟩ := skipAsciiWhitespace_boundary hstart hs hle
  obtain ⟨nameStart, h₁⟩ :
      ∃ k, skipAsciiWhitespace (utf8 (a ++ ['>'])) start (byteLen a) = k := ⟨_, rfl⟩
  simp only [h₁] at hc₁ hle₁ ⊢
  obtain ⟨hc₂, hle₂⟩ := hc₁.skipWhile notWhitespace_ascii hs hle₁
  have hge₂ := le_skipWhile (fun b => !isAsciiWhitespace b) (utf8 (a ++ ['>'])) nameStart (byteLen a)
  obtain ⟨nameEnd, h₂⟩ : ∃ k, skipWhile (fun b => !isAsciiWhitespace b) (utf8 (a ++ ['>'])) nameStart
      (byteLen a) = k := ⟨_, rfl⟩
  simp only [h₂] at hc₂ hle₂ hge₂ ⊢
  obtain ⟨_, rawName, _, hslice, -⟩ := exists_slice hc₁ hc₂ hge₂
  refine .silent_bind hslice (.ite ?_ ?_)
  · exact .bind (pushRelativeError_safe _ _ hc₂) fun _ _ => .pure trivial
  · obtain ⟨hc₃, hle₃⟩ := skipAsciiWhitespace_boundary hc₂ hs hle₂
    obtain ⟨k, h₃⟩ :
        ∃ k, skipAsciiWhitespace (utf8 (a ++ ['>'])) nameEnd (byteLen a) = k := ⟨_, rfl⟩
    simp only [h₃] at hc₃ hle₃ ⊢
    refine .ite (.pure trivial) ?_
    obtain ⟨b, m, b', hslice', happ, hb, hbm⟩ := exists_slice hc₃ hs hle₃
    refine .silent_bind hslice' ?_
    -- a keyword at `k` ends at a boundary before the end of the content
    have hkey : ∀ {keyword : List Char}, startsAsciiCaseInsensitive m keyword = true →
        IsBoundary (a ++ ['>']) (k + byteLen keyword) ∧ k + byteLen keyword ≤ byteLen a := by
      intro keyword h
      obtain ⟨x, y, rfl, hx⟩ := startsAsciiCaseInsensitive_boundary h
      refine ⟨⟨b ++ x, y ++ b', by rw [happ]; simp, by rw [byteLen_append, hb, hx]⟩, ?_⟩
      rw [← hbm, byteLen_append, byteLen_append, hb, hx]
      omega
    split
    · rename_i hpublic
      obtain ⟨hcp, hlep⟩ := hkey hpublic
      refine .bind (parseQuotedIdentifier_safe hcp hs hlep hend) fun publicId hp => ?_
      refine .bind (parseQuotedIdentifier_safe hp.1 hs hp.2 hend) fun systemId hsys => ?_
      exact .bind (finishDoctype_safe _ _ _ hsys.1 hs hsys.2) fun _ _ => .pure trivial
    · split
      · rename_i hsystem
        obtain ⟨hcs, hles⟩ := hkey hsystem
        refine .bind (parseQuotedIdentifier_safe hcs hs hles hend) fun systemId hsys => ?_
        exact .bind (finishDoctype_safe _ _ _ hsys.1 hs hsys.2) fun _ _ => .pure trivial
      · exact .bind (pushRelativeError_safe _ _ hc₃) fun _ _ => .pure trivial

/-! ### End tags -/

/-- **The parser of end tags does not panic.** -/
theorem parseEndTag_safe (a : List Char) :
    (parseEndTag position ('<' :: '/' :: a ++ ['>'])).Safe fun _ => True := by
  obtain ⟨source, hsource⟩ : ∃ s, '<' :: '/' :: a ++ ['>'] = s := ⟨_, rfl⟩
  obtain ⟨stop, hstop⟩ : ∃ k, byteLen ('<' :: '/' :: a) = k := ⟨_, rfl⟩
  have hs : IsBoundary source stop := ⟨_, _, hsource.symm, hstop⟩
  have h2 : IsBoundary source 2 := ⟨['<', '/'], a ++ ['>'], by rw [← hsource]; rfl, rfl⟩
  have hle : 2 ≤ stop := by
    have hless : '<'.utf8Size = 1 := rfl
    have hslash : '/'.utf8Size = 1 := rfl
    rw [← hstop, byteLen_cons, byteLen_cons]
    omega
  unfold parseEndTag
  simp only [contentEnd_append, hstop]
  simp only [hsource]
  obtain ⟨hc₁, hle₁⟩ := skipAsciiWhitespace_boundary h2 hs hle
  obtain ⟨nameStart, h₁⟩ : ∃ k, skipAsciiWhitespace (utf8 source) 2 stop = k := ⟨_, rfl⟩
  simp only [h₁] at hc₁ hle₁ ⊢
  obtain ⟨hc₂, hle₂⟩ := hc₁.skipWhile isTagNameByte_ascii hs hle₁
  have hge₂ := le_skipWhile isTagNameByte (utf8 source) nameStart stop
  obtain ⟨_, rawName, _, hslice, -⟩ := exists_slice hc₁ hc₂ hge₂
  have hc₃ := (skipAsciiWhitespace_boundary hc₂ hs hle₂).1
  refine .silent_bind hslice (.bind (pushRelativeErrorIf_safe _ _ _ hc₂) fun _ _ => .ite ?_ ?_)
  · exact .bind (pushRelativeError_safe _ _ hc₃) fun _ _ =>
      .bind (pushRelativeError_safe _ _ hc₃) fun _ _ => .pure trivial
  · exact .pure trivial

/-! ### Start tags -/

lemma decodeValue_safe {valueStart : ℕ} (hv : IsBoundary source valueStart)
    (hc : IsBoundary source cursor) (hle : valueStart ≤ cursor) :
    (decodeValue position source valueStart cursor).Safe fun _ => True := by
  obtain ⟨_, raw, _, hslice, -⟩ := exists_slice hv hc hle
  obtain ⟨before, rest, hsplit, -⟩ := exists_splitText hv
  exact .silent_bind hslice (.silent_bind hsplit
    ((decodeReferences_safe _ _ _).mono fun _ _ => trivial))

lemma isUnquotedError_lt {b : UInt8} (h : isUnquotedError b = true) : b.toNat < 0x80 := by
  unfold isUnquotedError at h
  simp only [Bool.or_eq_true] at h
  rcases h with (((h | h) | h) | h) | h <;> exact byteIs_lt (by decide) h

lemma parseAttributeValue_safe (hc : IsBoundary source cursor) (hs : IsBoundary source stop)
    (hle : cursor ≤ stop) :
    (parseAttributeValue position source stop cursor).Safe fun r =>
      IsBoundary source r.2 ∧ cursor ≤ r.2 ∧ r.2 ≤ stop := by
  unfold parseAttributeValue
  dsimp only
  split
  case isFalse => exact .pure ⟨hc, le_rfl, hle⟩
  case isTrue hequals =>
    obtain ⟨hlt, hequals⟩ := Bool.and_eq_true_iff.mp hequals
    have hlt : cursor < stop := of_decide_eq_true hlt
    have hc₁ := boundary_of_byteAt (fun _ => byteIs_lt (by decide)) hequals
    obtain ⟨hc₂, hle₂⟩ := skipAsciiWhitespace_boundary hc₁ hs hlt
    have hge₂ := le_skipWhile isAsciiWhitespace (utf8 source) (cursor + 1) stop
    obtain ⟨k, hk⟩ : ∃ k, skipAsciiWhitespace (utf8 source) (cursor + 1) stop = k := ⟨_, rfl⟩
    rw [← skipAsciiWhitespace] at hge₂
    simp only [hk] at hc₂ hle₂ hge₂ ⊢
    split
    · exact .bind (pushRelativeError_safe _ _ hc₂) fun _ _ => .pure ⟨hc₂, by omega, hle₂⟩
    · rename_i hnot
      split
      · -- a quoted value
        rename_i hquote
        obtain ⟨quote, hb, hq⟩ := (Option.any_eq_true _ _).mp hquote
        have hascii : quote.toNat < 0x80 := by
          rcases Bool.or_eq_true_iff.mp hq with h | h <;> exact byteIs_lt (by decide) h
        have hc₃ := (of_ascii hb hascii).2
        have htest : (fun b => decide (some b ≠ (utf8 source)[k]?)) =
            fun b => decide (b ≠ quote) := by
          funext b
          rw [hb]
          simp
        rw [htest]
        obtain ⟨hc₄, hle₄⟩ := hc₃.skipWhile (.ne hascii) hs (by omega)
        have hge₄ := le_skipWhile (fun x => decide (x ≠ quote)) (utf8 source) (k + 1) stop
        have hstop :=
          @exists_of_skipWhile_lt (fun x => decide (x ≠ quote)) (utf8 source) (k + 1) stop
        refine .bind (decodeValue_safe position hc₃ hc₄ hge₄) fun value _ => ?_
        split
        · rename_i hj'
          obtain ⟨b, hb', hbq⟩ := hstop hj' hs.le_byteLen
          have hbq : b = quote := by simpa using hbq
          rw [hbq] at hb'
          exact .pure ⟨(of_ascii hb' hascii).2, by simp only; omega, hj'⟩
        · exact .bind (pushRelativeError_safe _ _ hc₄) fun _ _ =>
            .pure ⟨hc₄, by simp only; omega, hle₄⟩
      · -- an unquoted value
        obtain ⟨hc₄, hle₄⟩ := hc₂.skipWhile notWhitespace_ascii hs hle₂
        have hge₄ := le_skipWhile (fun b => !isAsciiWhitespace b) (utf8 source) k stop
        refine .bind (pushRelativeErrors_safe _ _ ?_) fun _ _ =>
          .bind (decodeValue_safe position hc₂ hc₄ hge₄) fun value _ =>
            .pure ⟨hc₄, by simp only; omega, hle₄⟩
        intro i hi
        obtain ⟨b, hb, herr⟩ := (Option.any_eq_true _ _).mp (List.mem_filter.mp hi).2
        exact (of_ascii hb (isUnquotedError_lt herr)).1

variable (position : SourcePosition)

lemma addAttribute_safe (attributes : List SpannedAttribute) {attributeStart : ℕ}
    (name value : List Char) (ha : IsBoundary source attributeStart)
    (hc : IsBoundary source cursor) :
    (addAttribute limits position source attributes attributeStart cursor name value).Safe
      fun _ => True := by
  obtain ⟨_, _, hsplit, -⟩ := exists_splitText ha
  obtain ⟨_, _, hsplit', -⟩ := exists_splitText hc
  refine .ite ?_ (.ite ?_ ?_)
  · exact .bind (pushRelativeError_safe _ _ ha) fun _ _ => .pure trivial
  · exact .bind (pushRelativeError_safe _ _ ha) fun _ _ => .pure trivial
  · exact .silent_bind hsplit (.silent_bind hsplit' (.pure trivial))

/-- The loop over the attributes: every round starts at a boundary and ends at a later one. -/
lemma parseAttributes_safe {fuel : ℕ} (attributes : List SpannedAttribute)
    (hc : IsBoundary source cursor) (hs : IsBoundary source stop) (hle : cursor ≤ stop)
    (hfuel : stop ≤ cursor + fuel) :
    (parseAttributes limits position source stop fuel cursor attributes).Safe fun _ => True := by
  induction fuel generalizing cursor attributes with
  | zero =>
    rw [parseAttributes, if_pos (by omega)]
    exact .pure trivial
  | succ fuel ih =>
    refine .ite (.pure trivial) ?_
    obtain ⟨hc₁, hle₁⟩ := skipAsciiWhitespace_boundary hc hs hle
    have hge₁ := le_skipWhile isAsciiWhitespace (utf8 source) cursor stop
    have hstop₁ := @exists_of_skipWhile_lt isAsciiWhitespace (utf8 source) cursor stop
    rw [← skipAsciiWhitespace] at hge₁ hstop₁
    obtain ⟨k, hk⟩ : ∃ k, skipAsciiWhitespace (utf8 source) cursor stop = k := ⟨_, rfl⟩
    simp only [hk] at hc₁ hle₁ hge₁ hstop₁ ⊢
    split
    · exact .pure trivial
    · rename_i hlt
      split
      · -- a solidus ends the loop
        rename_i hslash
        have hc₂ := boundary_of_byteAt (fun _ => byteIs_lt (by decide)) hslash
        have hc₃ := (skipAsciiWhitespace_boundary hc₂ hs (by omega)).1
        exact .bind (pushRelativeErrorIf_safe _ _ _ hc₃) fun _ _ => .pure trivial
      · rename_i hslash
        refine .bind (pushRelativeErrorIf_safe _ _ _ hc₁) fun _ _ => ?_
        obtain ⟨hc₂, hle₂⟩ := hc₁.skipWhile isAttributeNameByte_ascii hs hle₁
        have hge₂ := le_skipWhile isAttributeNameByte (utf8 source) k stop
        have hstop₂ := @exists_of_skipWhile_lt isAttributeNameByte (utf8 source) k stop
        obtain ⟨j, hj⟩ : ∃ j, skipWhile isAttributeNameByte (utf8 source) k stop = j := ⟨_, rfl⟩
        simp only [hj] at hc₂ hle₂ hge₂ hstop₂ ⊢
        obtain ⟨b, name, b', hslice, happ, hb, hbn⟩ := exists_slice hc₁ hc₂ hge₂
        refine .silent_bind hslice ?_
        split
        · -- no name: the byte is an equals sign, which is skipped
          rename_i hname
          have hname : name = [] := List.map_eq_nil_iff.mp hname
          have hjk : j = k := by
            rw [← hbn, hname, List.append_nil, hb]
          subst hjk
          obtain ⟨x, hx, hfail⟩ := hstop₂ (by omega) hs.le_byteLen
          obtain ⟨y, hy, hspace⟩ := hstop₁ (by omega) hs.le_byteLen
          obtain rfl : x = y := Option.some.inj (hx.symm.trans hy)
          have hascii : x.toNat < 0x80 := by
            have : (byteIs '=' x || byteIs '/' x) = true := by
              rwa [isAttributeNameByte, hspace, Bool.not_false, Bool.true_and,
                Bool.not_eq_false'] at hfail
            rcases Bool.or_eq_true_iff.mp this with h | h <;> exact byteIs_lt (by decide) h
          exact ih _ (of_ascii hx hascii).2 (by omega) (by omega)
        · rename_i hname
          have hlt₂ : k < j := by
            refine lt_of_le_of_ne hge₂ ?_
            rintro rfl
            rw [byteLen_append, hb] at hbn
            exact hname (List.map_eq_nil_iff.mpr (byteLen_eq_zero.mp (by omega)))
          obtain ⟨hc₃, hle₃⟩ := skipAsciiWhitespace_boundary hc₂ hs hle₂
          have hge₃ := le_skipWhile isAsciiWhitespace (utf8 source) j stop
          rw [← skipAsciiWhitespace] at hge₃
          refine .bind (parseAttributeValue_safe position hc₃ hs hle₃) ?_
          rintro value ⟨hc₄, hge₄, hle₄⟩
          refine .bind (addAttribute_safe limits position attributes _ _ hc₁ hc₄) ?_
          intro attributes' _
          exact ih _ hc₄ hle₄ (by omega)

/-- **The parser of start tags does not panic.** -/
theorem parseStartTag_safe (a : List Char) :
    (parseStartTag limits position ('<' :: a ++ ['>'])).Safe fun _ => True := by
  obtain ⟨source, hsource⟩ : ∃ s, '<' :: a ++ ['>'] = s := ⟨_, rfl⟩
  obtain ⟨stop, hstop⟩ : ∃ k, byteLen ('<' :: a) = k := ⟨_, rfl⟩
  have hs : IsBoundary source stop := ⟨_, _, hsource.symm, hstop⟩
  have h1 : IsBoundary source 1 := ⟨['<'], a ++ ['>'], by rw [← hsource]; rfl, rfl⟩
  have hle : 1 ≤ stop := by
    have hless : '<'.utf8Size = 1 := rfl
    rw [← hstop, byteLen_cons]
    omega
  unfold parseStartTag
  simp only [contentEnd_append, hstop]
  simp only [hsource]
  obtain ⟨hc, hle'⟩ := h1.skipWhile isTagNameByte_ascii hs hle
  have hge := le_skipWhile isTagNameByte (utf8 source) 1 stop
  obtain ⟨_, rawName, _, hslice, -⟩ := exists_slice h1 hc hge
  refine .silent_bind hslice (.bind (parseAttributes_safe limits position [] hc hs hle' ?_)
    fun _ _ => .pure trivial)
  have := hs.le_byteLen
  omega

end

end WildBuzzard.Parser
