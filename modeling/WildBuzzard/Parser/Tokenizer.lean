import WildBuzzard.Lib.Incremental
import WildBuzzard.Parser.Tags

/-!
# The tokenizer

Source: `parser/src/tokenizer.rs`, `Tokenizer` and its methods.

One round of the loop of `drain` depends on the limits, on whether the input has ended, on the
position and text mode, and on the pending text. It is written as a function of these
(`consumeTextMode`, `consumeData`) that returns what it changes: the `Cursor` after it, the text left
and the tokens pushed, or `none` where the source returns `false`. The errors it pushes are the
messages of its `Report`.

`tokenizerMachine` is the incremental machine with these rounds, and `Tokenizer.feed` and
`Tokenizer.finish` drain it. **Every round that returns `true` consumes text or leaves a text mode**
(`consume_progress`), so the loop ends.
-/

namespace WildBuzzard.Parser

open Lib

/-- Source: `TextMode` -/
inductive TextMode where
  | rawText (endTag : List Char)
  | rcData (endTag : List Char)
  | plainText
  deriving DecidableEq, Repr

/-- What a round reads of the tokenizer, apart from the pending text. -/
structure Cursor where
  position : SourcePosition := {}
  textMode : Option TextMode := none
  deriving DecidableEq, Repr

/-- What a round leaves: the cursor, the pending text and the tokens it pushes; `none` if it made no
progress. -/
abbrev Round := Option (Cursor × List Char × List SpannedToken)

variable (limits : TokenizerLimits) (eof : Bool) (c : Cursor) (pending : List Char)

/-- Push tokens and consume the first of two parts of the pending text.
Source: `Tokenizer::consume_prefix` -/
def Cursor.consumePrefix (parts : List Char × List Char) (tokens : List SpannedToken) : Round :=
  some (⟨c.position.advancedBy parts.1, c.textMode⟩, parts.2, tokens)

/-! ## Text -/

/-- The text of a character token, decoded or only normalized. -/
def textData (decodeEntities : Bool) (source : List Char) (position : SourcePosition) :
    Report ParseError (List Char) :=
  if decodeEntities then decodeReferences source position false
  else replaceNullsAndNormalize source position

/-- A character token, unless its text is empty. -/
def characterTokens (data : List Char) (span : SourceSpan) : List SpannedToken :=
  if data = [] then [] else [⟨.character (String.ofList data), span⟩]

/-- Source: `Tokenizer::emit_characters` -/
def emitCharacters (length : ℕ) (decodeEntities : Bool) : Report ParseError Round := do
  let parts ← .silent (splitText pending length)
  let data ← textData decodeEntities parts.1 c.position
  pure (c.consumePrefix parts (characterTokens data (.new c.position parts.1)))

/-- Source: `Tokenizer::emit_character_literal` -/
def emitCharacterLiteral (length : ℕ) : Report ParseError Round := do
  let parts ← .silent (splitText pending length)
  pure (c.consumePrefix parts [⟨.character (String.ofList parts.1), .new c.position parts.1⟩])

/-- A byte that may belong to a character reference that is not complete. -/
def isReferenceByte (b : UInt8) : Bool :=
  isAsciiAlphanumeric b || byteIs '#' b || byteIs 'x' b || byteIs 'X' b

/-- Source: `safe_stream_text_prefix` -/
def safeStreamTextPrefix (source : List Char) (entities preserveCr : Bool) : Except Halt ℕ :=
  let length :=
    if preserveCr && source.getLast? = some '\r' then byteLen source - 1 else byteLen source
  if entities then do
    let head ← splitText source length
    match rfindChar '&' head.1 with
    | none => .ok length
    | some ampersand => do
      let tail ← slice source (ampersand + 1) length
      .ok (if (utf8 tail).all isReferenceByte then ampersand else length)
  else .ok length

/-- Source: `floor_char_boundary` -/
def floorCharBoundary (source : List Char) : ℕ → ℕ
  | 0 => 0
  | index + 1 =>
    if (splitAtByte source (index + 1)).isSome then index + 1 else floorCharBoundary source index

/-- A byte that may follow the name in an end tag. -/
def endsTagName (b : UInt8) : Bool := isAsciiWhitespace b || byteIs '/' b || byteIs '>' b

/-- The loop of `find_appropriate_end_tag`. Every round moves the cursor, so a fuel of the length of
the text is enough. -/
def findEndTagFrom (source endTag : List Char) : ℕ → ℕ → Except Halt (Option ℕ)
  | fuel, cursor =>
    if byteLen source < cursor + 2 + byteLen endTag then .ok none
    else do
      let parts ← splitText source cursor
      match findText "</".toList parts.2 with
      | none => .ok none
      | some relative =>
        let index := cursor + relative
        let nameStart := index + 2
        let nameEnd := nameStart + byteLen endTag
        if byteLen source < nameEnd then .ok none
        else do
          let name ← slice source nameStart nameEnd
          if eqIgnoreAsciiCase name endTag && byteAt endsTagName (utf8 source) nameEnd then
            .ok (some index)
          else
            match fuel with
            | 0 => .error .loop
            | fuel + 1 => findEndTagFrom source endTag fuel (index + 2)

/-- Source: `find_appropriate_end_tag` -/
def findAppropriateEndTag (source endTag : List Char) : Except Halt (Option ℕ) :=
  findEndTagFrom source endTag source.length 0

/-- How much of the text of a text mode can be emitted before more input is known, if `retain` bytes
are held back for an end tag. -/
def streamedTextLength (retain : ℕ) (decodeEntities : Bool) : Except Halt ℕ := do
  let floor := floorCharBoundary pending (byteLen pending - retain)
  let length ← (if decodeEntities then do
      let parts ← splitText pending floor
      let safe ← safeStreamTextPrefix parts.1 true true
      .ok (min floor safe)
    else .ok floor : Except Halt ℕ)
  let parts ← splitText pending length
  .ok (if parts.1.getLast? = some '\r' then length - 1 else length)

/-- The part of `consume_text_mode` for the modes that an end tag ends. -/
def consumeUntilEndTag (endTag : List Char) (decodeEntities : Bool)
    (pending : List Char) : Report ParseError Round := do
  match ← .silent (findAppropriateEndTag pending endTag) with
  | some index =>
    if index = 0 then pure (some (⟨c.position, none⟩, pending, []))
    else emitCharacters c pending index decodeEntities
  | none =>
    if eof then emitCharacters c pending (byteLen pending) decodeEntities
    else
      let retain := byteLen endTag + 4
      if byteLen pending ≤ retain then pure none
      else do
        let length ← .silent (streamedTextLength pending retain decodeEntities)
        if length = 0 then pure none else emitCharacters c pending length decodeEntities

/-- Source: `Tokenizer::consume_text_mode` -/
def consumeTextMode (mode : TextMode) (pending : List Char) : Report ParseError Round :=
  match mode with
  | .plainText => do
    let length ← (if eof then pure (byteLen pending)
      else .silent (safeStreamTextPrefix pending false true) : Report ParseError ℕ)
    if length = 0 then pure none else emitCharacters c pending length false
  | .rawText endTag => consumeUntilEndTag eof c endTag false pending
  | .rcData endTag => consumeUntilEndTag eof c endTag true pending

/-! ## Markup -/

/-- `bytes` scanned for the end of a tag, from an index, with the quote it is in.
Source: `find_tag_end` -/
def findTagEndFrom : Option UInt8 → ℕ → List UInt8 → Option ℕ
  | _, _, [] => none
  | some expected, index, b :: rest =>
    findTagEndFrom (if expected = b then none else some expected) (index + 1) rest
  | none, index, b :: rest =>
    if byteIs '\x27' b || byteIs '"' b then findTagEndFrom (some b) (index + 1) rest
    else if byteIs '>' b then some index
    else findTagEndFrom none (index + 1) rest

/-- Source: `find_tag_end` -/
def findTagEnd (source : List Char) : Option ℕ := findTagEndFrom none 1 ((utf8 source).drop 1)

/-- Source: `is_prefix_ascii_case_insensitive` -/
def isPrefixAsciiCaseInsensitive (source target : List Char) : Bool :=
  byteLen source ≤ byteLen target &&
    ((utf8 source).zip (utf8 target)).all fun pair => lowerByte pair.1 = lowerByte pair.2

/-- Source: `char::is_ascii_alphabetic` -/
def isAsciiAlphabetic (c : Char) : Bool :=
  0x41 ≤ c.toNat ∧ c.toNat ≤ 0x5a ∨ 0x61 ≤ c.toNat ∧ c.toNat ≤ 0x7a

/-- Source: `Tokenizer::enter_text_mode_for` -/
def enterTextModeFor (name : List Char) : Option TextMode :=
  if String.ofList name ∈ ["script", "style", "xmp", "iframe", "noembed", "noframes"] then
    some (.rawText name)
  else if String.ofList name ∈ ["title", "textarea"] then some (.rcData name)
  else if String.ofList name = "plaintext" then some .plainText
  else none

/-- The recovery from a comment that is over the limit. -/
def overLimit : Report ParseError Round := do
  .log (tokenizerError .tokenLimitExceeded c.position)
  emitCharacterLiteral c pending 1

/-- The end of `consume_comment`: the token of the comment. -/
def commentToken (contentEnd consumed : ℕ) : Report ParseError Round := do
  let parts ← .silent (splitText pending consumed)
  let content ← .silent (slice pending 4 contentEnd)
  pure (c.consumePrefix parts
    [⟨.comment (String.ofList (normalizeNewlines content)), .new c.position parts.1⟩])

/-- Source: `Tokenizer::consume_comment` -/
def consumeComment : Report ParseError Round := do
  let parts ← .silent (splitText pending 4)
  match findText "-->".toList parts.2 with
  | some index => commentToken c pending (index + 4) (index + 4 + 3)
  | none =>
    if eof then do
      .log (tokenizerError .eofInComment c.position)
      commentToken c pending (byteLen pending) (byteLen pending)
    else if byteLen pending ≤ limits.maxTokenBytes then pure none
    else overLimit c pending

/-- The end of `consume_bogus_comment`: the error and the token of the comment. -/
def bogusCommentToken (consumed : ℕ) : Report ParseError Round := do
  .log (tokenizerError .incorrectlyOpenedComment c.position)
  let parts ← .silent (splitText pending consumed)
  let contentEnd := consumed - (if parts.1.getLast? = some '>' then 1 else 0)
  let content ← .silent (slice parts.1 (min 2 consumed) contentEnd)
  pure (c.consumePrefix parts
    [⟨.comment (String.ofList (normalizeNewlines content)), .new c.position parts.1⟩])

/-- Source: `Tokenizer::consume_bogus_comment` -/
def consumeBogusComment : Report ParseError Round :=
  match findChar '>' pending with
  | some index => bogusCommentToken c pending (index + 1)
  | none =>
    if eof then bogusCommentToken c pending (byteLen pending)
    else if byteLen pending ≤ limits.maxTokenBytes then pure none
    else overLimit c pending

/-- Parse a tag or doctype once its end is known. Without an end, wait for more input, or drop the
whole rest at the end of input and one byte over the limit.
Source: `Tokenizer::complete_tag_length`, and what its callers do with its result -/
def completeTag
    (parse : List Char × List Char → Report ParseError Round) : Report ParseError Round :=
  match findTagEnd pending with
  | some stop => do
    let parts ← .silent (splitText pending (stop + 1))
    parse parts
  | none =>
    if !eof && byteLen pending ≤ limits.maxTokenBytes then pure none
    else do
      .log (tokenizerError (if eof then .eofInTag else .tokenLimitExceeded) c.position)
      let parts ← .silent (splitText pending (if eof then byteLen pending else 1))
      pure (c.consumePrefix parts [])

/-- Source: `Tokenizer::consume_doctype` -/
def consumeDoctype : Report ParseError Round :=
  completeTag limits eof c pending fun parts => do
    let doctype ← parseDoctype c.position parts.1
    pure (c.consumePrefix parts
      [⟨.doctype (String.ofList doctype.name) (String.ofList doctype.publicId)
        (String.ofList doctype.systemId) doctype.forceQuirks, .new c.position parts.1⟩])

/-- Source: `Tokenizer::consume_end_tag` -/
def consumeEndTag : Report ParseError Round :=
  completeTag limits eof c pending fun parts => do
    let name ← parseEndTag c.position parts.1
    pure (c.consumePrefix parts
      (if name = [] then [] else [⟨.endTag (String.ofList name), .new c.position parts.1⟩]))

/-- Source: `Tokenizer::consume_start_tag` -/
def consumeStartTag : Report ParseError Round :=
  completeTag limits eof c pending fun parts => do
    let (name, attributes, selfClosing) ← parseStartTag limits c.position parts.1
    let textMode := if selfClosing then c.textMode else enterTextModeFor name
    pure (some (⟨c.position.advancedBy parts.1, textMode⟩, parts.2,
      [⟨.startTag (String.ofList name) attributes selfClosing, .new c.position parts.1⟩]))

/-- The length of the text before the next `<`, or of what is safe to emit without one. -/
def textLength : Report ParseError ℕ :=
  match findChar '<' pending with
  | some index => pure index
  | none =>
    if eof then pure (byteLen pending) else .silent (safeStreamTextPrefix pending true true)

/-- Text up to the next `<`. -/
def consumeText : Report ParseError Round := do
  let length ← textLength eof pending
  if length = 0 then pure none else emitCharacters c pending length true

/-- A `<` that opens nothing. -/
def consumeLessThan : Report ParseError Round := do
  .log (tokenizerError .invalidFirstCharacterOfTagName c.position)
  emitCharacters c pending 1 false

/-- The end of `consume_data`: a start tag, or a `<` that opens nothing. -/
def consumeTagOpen : Report ParseError Round := do
  let parts ← .silent (splitText pending 1)
  match parts.2.head? with
  | some afterLessThan =>
    if isAsciiAlphabetic afterLessThan then consumeStartTag limits eof c pending
    else consumeLessThan c pending
  | none => if eof then consumeLessThan c pending else pure none

/-- Source: `Tokenizer::consume_data` -/
def consumeData : Report ParseError Round :=
  if !"<".toList.isPrefixOf pending then consumeText eof c pending
  else if byteLen pending = 1 && !eof then pure none
  else if isPrefixAsciiCaseInsensitive pending "<!--".toList && byteLen pending < 4 && !eof then
    pure none
  else if "<!--".toList.isPrefixOf pending then consumeComment limits eof c pending
  else if isPrefixAsciiCaseInsensitive pending "<!doctype".toList &&
      byteLen pending < byteLen "<!doctype".toList && !eof then
    pure none
  else if startsAsciiCaseInsensitive pending "<!doctype".toList then
    consumeDoctype limits eof c pending
  else if "<!".toList.isPrefixOf pending || "<?".toList.isPrefixOf pending then
    consumeBogusComment limits eof c pending
  else if "</".toList.isPrefixOf pending then consumeEndTag limits eof c pending
  else consumeTagOpen limits eof c pending

/-- The body of the loop of `drain`. -/
def consume : Report ParseError Round :=
  match c.textMode with
  | some mode => consumeTextMode eof c mode pending
  | none => consumeData limits eof c pending

/-! ## Progress -/

/-- What a round that makes progress does to the pending text: it consumes a prefix of it, and an
empty one only to leave a text mode. -/
def Advances (r : Round) : Prop :=
  ∀ c' rest tokens, r = some (c', rest, tokens) →
    ∃ a, pending = a ++ rest ∧ c'.position = c.position.advancedBy a ∧
      (a ≠ [] ∨ c.textMode.isSome ∧ c'.textMode = none)

lemma Advances.none (c : Cursor) (pending : List Char) : Advances c pending none :=
  fun _ _ _ h => by cases h

/-- A round that consumes a cut of positive length, whatever its tokens and text mode. -/
lemma Advances.of_split {c : Cursor} {pending : List Char} {length : ℕ} (hl : 0 < length)
    {parts : List Char × List Char} (h : splitText pending length = .ok parts)
    (mode : Option TextMode) (tokens : List SpannedToken) :
    Advances c pending (some (⟨c.position.advancedBy parts.1, mode⟩, parts.2, tokens)) := by
  intro c' rest tokens' heq
  cases heq
  obtain ⟨happ, hlen⟩ := splitText_eq_ok.mp h
  refine ⟨parts.1, happ, rfl, .inl ?_⟩
  intro hnil
  rw [hnil, byteLen_nil] at hlen
  omega

section

variable {c : Cursor} {pending : List Char} {length : ℕ}

lemma emitCharacters_advances (hl : 0 < length) (decodeEntities : Bool) :
    (emitCharacters c pending length decodeEntities).Gives (Advances c pending) := by
  refine .bind (.silent fun _ h => h) fun parts hparts => .seq fun data => .pure ?_
  exact .of_split hl hparts _ _

lemma overLimit_advances : (overLimit c pending).Gives (Advances c pending) := by
  refine .seq fun _ => .bind (.silent fun _ h => h) fun parts hparts => .pure ?_
  exact .of_split Nat.one_pos hparts _ _

lemma consumeUntilEndTag_advances (hp : pending ≠ []) (hc : c.textMode.isSome) (eof : Bool)
    (endTag : List Char) (decodeEntities : Bool) :
    (consumeUntilEndTag eof c endTag decodeEntities pending).Gives (Advances c pending) := by
  refine .seq fun found => ?_
  rcases found with _ | index
  · dsimp only
    split_ifs with heof hretain
    · exact emitCharacters_advances (Nat.pos_of_ne_zero (byteLen_eq_zero.not.mpr hp)) _
    · exact .pure (.none c pending)
    · refine .seq fun length => ?_
      split_ifs with hl
      · exact .pure (.none c pending)
      · exact emitCharacters_advances (Nat.pos_of_ne_zero hl) _
  · dsimp only
    split_ifs with hi
    · -- the end tag is at the start: the text mode ends and nothing is consumed
      refine .pure ?_
      intro c' rest tokens heq
      cases heq
      exact ⟨[], rfl, by simp, .inr ⟨hc, rfl⟩⟩
    · exact emitCharacters_advances (Nat.pos_of_ne_zero hi) _

lemma consumeTextMode_advances (hp : pending ≠ []) (hc : c.textMode.isSome) (eof : Bool)
    (mode : TextMode) : (consumeTextMode eof c mode pending).Gives (Advances c pending) := by
  cases mode with
  | rawText endTag => exact consumeUntilEndTag_advances hp hc eof endTag _
  | rcData endTag => exact consumeUntilEndTag_advances hp hc eof endTag _
  | plainText =>
    refine .seq fun length => ?_
    split_ifs with hl
    · exact .pure (.none c pending)
    · exact emitCharacters_advances (Nat.pos_of_ne_zero hl) _

lemma consumeText_advances (eof : Bool) :
    (consumeText eof c pending).Gives (Advances c pending) := by
  refine .seq fun length => ?_
  split_ifs with hl
  · exact .pure (.none c pending)
  · exact emitCharacters_advances (Nat.pos_of_ne_zero hl) _

lemma commentToken_advances (hl : 0 < length) (contentEnd : ℕ) :
    (commentToken c pending contentEnd length).Gives (Advances c pending) := by
  refine .bind (.silent fun _ h => h) fun parts hparts => .seq fun content => .pure ?_
  exact .of_split hl hparts _ _

variable (hp : pending ≠ []) (limits : TokenizerLimits) (eof : Bool)
include hp

lemma consumeComment_advances :
    (consumeComment limits eof c pending).Gives (Advances c pending) := by
  refine .seq fun parts => ?_
  split
  · exact commentToken_advances (by omega) _
  · split_ifs
    · exact .seq fun _ =>
        commentToken_advances (Nat.pos_of_ne_zero (byteLen_eq_zero.not.mpr hp)) _
    · exact .pure (.none c pending)
    · exact overLimit_advances

omit hp in
lemma bogusCommentToken_advances (hl : 0 < length) :
    (bogusCommentToken c pending length).Gives (Advances c pending) := by
  refine .seq fun _ => .bind (.silent fun _ h => h) fun parts hparts =>
    .seq fun content => .pure ?_
  exact .of_split hl hparts _ _

lemma consumeBogusComment_advances :
    (consumeBogusComment limits eof c pending).Gives (Advances c pending) := by
  unfold consumeBogusComment
  split
  · exact bogusCommentToken_advances (by omega)
  · split_ifs
    · exact bogusCommentToken_advances (Nat.pos_of_ne_zero (byteLen_eq_zero.not.mpr hp))
    · exact .pure (.none c pending)
    · exact overLimit_advances

lemma completeTag_advances {parse : List Char × List Char → Report ParseError Round}
    (hparse : ∀ {length parts}, 0 < length → splitText pending length = .ok parts →
      (parse parts).Gives (Advances c pending)) :
    (completeTag limits eof c pending parse).Gives (Advances c pending) := by
  unfold completeTag
  split
  · exact .bind (.silent fun _ h => h) fun parts hparts => hparse (Nat.succ_pos _) hparts
  · split_ifs with hwait heof
    · exact .pure (.none c pending)
    · refine .seq fun _ => .bind (.silent fun _ h => h) fun parts hparts => .pure ?_
      exact .of_split (Nat.pos_of_ne_zero (byteLen_eq_zero.not.mpr hp)) hparts _ _
    · refine .seq fun _ => .bind (.silent fun _ h => h) fun parts hparts => .pure ?_
      exact .of_split Nat.one_pos hparts _ _

lemma consumeTagOpen_advances :
    (consumeTagOpen limits eof c pending).Gives (Advances c pending) := by
  have hless : (consumeLessThan c pending).Gives (Advances c pending) :=
    .seq fun _ => emitCharacters_advances Nat.one_pos _
  refine .seq fun parts => ?_
  split
  · split_ifs
    · exact completeTag_advances hp limits eof fun hl hparts =>
        .seq fun _ => .pure (.of_split hl hparts _ _)
    · exact hless
  · split_ifs
    · exact hless
    · exact .pure (.none c pending)

lemma consumeData_advances : (consumeData limits eof c pending).Gives (Advances c pending) := by
  unfold consumeData
  split_ifs
  · exact consumeText_advances eof
  · exact .pure (.none c pending)
  · exact .pure (.none c pending)
  · exact consumeComment_advances hp limits eof
  · exact .pure (.none c pending)
  · exact completeTag_advances hp limits eof fun hl hparts =>
      .seq fun _ => .pure (.of_split hl hparts _ _)
  · exact consumeBogusComment_advances hp limits eof
  · exact completeTag_advances hp limits eof fun hl hparts =>
      .seq fun _ => .pure (.of_split hl hparts _ _)
  · exact consumeTagOpen_advances hp limits eof

/-- **Every round that returns `true` consumes text or leaves a text mode.** -/
theorem consume_progress : (consume limits eof c pending).Gives (Advances c pending) := by
  unfold consume
  split
  · rename_i mode hmode
    exact consumeTextMode_advances hp (by rw [hmode]; rfl) eof mode
  · exact consumeData_advances hp limits eof

end

/-! ## The tokenizer -/

/-- The rounds of `drain`. A round consumes text or leaves a text mode, which bounds their number. -/
def tokenizerMachine : Machine Cursor Char SpannedToken ParseError where
  round := consume limits
  size c pending := 2 * pending.length + if c.textMode.isSome then 1 else 0
  size_lt := by
    intro eof c pending c' rest tokens m hp hr
    obtain ⟨a, rfl, -, h⟩ := consume_progress hp limits eof _ m hr c' rest tokens rfl
    rw [List.length_append]
    rcases h with ha | ⟨hmode, hnone⟩
    · have := List.length_pos_iff.mpr ha
      split_ifs <;> omega
    · rw [hmode, hnone, if_pos rfl, if_neg (by simp)]
      omega

/-- Source: `TokenizerStateError` -/
inductive TokenizerStateError where
  | alreadyFinished
  deriving DecidableEq, Repr

/-- Source: `Tokenizer` -/
structure Tokenizer where
  pending : List Char
  position : SourcePosition
  errors : List ParseError
  limits : TokenizerLimits
  textMode : Option TextMode
  finished : Bool
  deriving DecidableEq, Repr

namespace Tokenizer

/-- Source: `Tokenizer::new` -/
def new (limits : TokenizerLimits) : Tokenizer := ⟨[], {}, [], limits, none, false⟩

/-- Source: `Tokenizer::drain` -/
def drain (eof : Bool) : Call Tokenizer TokenizerStateError (List SpannedToken) := fun t =>
  match (tokenizerMachine t.limits).drain eof ⟨t.position, t.textMode⟩ t.pending with
  | .done (c, pending, output) errors =>
    .ok output ⟨pending, c.position, t.errors ++ errors, t.limits, c.textMode, t.finished⟩
  | .halted h => .halt h

/-- Source: `Tokenizer::feed` -/
def feed (input : List Char) : Call Tokenizer TokenizerStateError (List SpannedToken) := fun t =>
  if t.finished then .err .alreadyFinished t
  else drain false ⟨t.pending ++ input, t.position, t.errors, t.limits, t.textMode, t.finished⟩

/-- Source: `Tokenizer::finish` -/
def finish : Call Tokenizer TokenizerStateError (List SpannedToken) := fun t =>
  if t.finished then .err .alreadyFinished t
  else drain true ⟨t.pending, t.position, t.errors, t.limits, t.textMode, true⟩

/-- Feed the chunks in order and finish, with all tokens pushed. -/
def feedAll : List (List Char) → Call Tokenizer TokenizerStateError (List SpannedToken)
  | [] => finish
  | chunk :: chunks => do
    let tokens ← feed chunk
    let more ← feedAll chunks
    pure (tokens ++ more)

end Tokenizer

end WildBuzzard.Parser
