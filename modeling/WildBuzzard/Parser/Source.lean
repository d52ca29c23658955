import WildBuzzard.Lib.Utf8

/-!
# Source positions, tokens and errors

Source: `parser/src/source.rs` and the data types of `parser/src/tokenizer.rs`.

Source text is a list of characters, cut at byte offsets (`WildBuzzard.Lib.Utf8`); the texts of
tokens are strings. Offsets, lines and columns are naturals: a `usize` cannot overflow on a text
that fits into memory.

`advancedBy_append`: **positions compose at every cut that does not part a CR from its LF**
(`SafeCut`).
-/

namespace WildBuzzard.Parser

open Lib List

/-! ## Positions -/

/-- One-based line and column and zero-based byte offset.
Source: `SourcePosition` -/
structure SourcePosition where
  byte : ℕ := 0
  line : ℕ := 1
  column : ℕ := 1
  deriving DecidableEq, Repr

namespace SourcePosition

/-- Advances using HTML newline rules: CRLF is one newline and a lone CR is also a newline.
Source: `SourcePosition::advanced_by` -/
def advancedBy : SourcePosition → List Char → SourcePosition
  | p, [] => p
  | p, c :: rest =>
    if c = '\r' then
      match rest with
      | '\n' :: rest => advancedBy ⟨p.byte + 2, p.line + 1, 1⟩ rest
      | rest => advancedBy ⟨p.byte + 1, p.line + 1, 1⟩ rest
    else if c = '\n' then advancedBy ⟨p.byte + 1, p.line + 1, 1⟩ rest
    else advancedBy ⟨p.byte + c.utf8Size, p.line, p.column + 1⟩ rest

end SourcePosition

/-- Half-open source range.
Source: `SourceSpan` -/
structure SourceSpan where
  start : SourcePosition
  stop : SourcePosition
  deriving DecidableEq, Repr

/-- Source: `SourceSpan::new` -/
def SourceSpan.new (start : SourcePosition) (source : List Char) : SourceSpan :=
  ⟨start, start.advancedBy source⟩

/-- A cut that does not part a CR from the LF after it. -/
def SafeCut (a b : List Char) : Prop := a.getLast? = some '\r' → b.head? ≠ some '\n'

lemma SafeCut.nil_right (a : List Char) : SafeCut a [] := fun _ h => by cases h

lemma SafeCut.of_cons {c : Char} {a b : List Char} (h : SafeCut (c :: a) b) (ha : a ≠ []) :
    SafeCut a b := by
  intro hlast
  refine h ?_
  rwa [getLast?_cons_of_ne_nil ha]

/-- The end of a text can be cut where the text can. -/
lemma SafeCut.of_append_left {p a b : List Char} (h : SafeCut (p ++ a) b) : SafeCut a b := by
  intro hlast
  refine h ?_
  rw [getLast?_append, hlast]
  rfl

/-- Only the first character after a cut matters. -/
lemma SafeCut.of_append_right {a b c : List Char} (h : SafeCut a (b ++ c)) : SafeCut a b := by
  rcases b with _ | ⟨d, b⟩
  · exact .nil_right a
  · exact h

namespace SourcePosition

variable (p : SourcePosition)

lemma advancedBy_crlf (rest : List Char) :
    p.advancedBy ('\r' :: '\n' :: rest) = advancedBy ⟨p.byte + 2, p.line + 1, 1⟩ rest := by
  rfl

lemma advancedBy_cr {rest : List Char} (h : rest.head? ≠ some '\n') :
    p.advancedBy ('\r' :: rest) = advancedBy ⟨p.byte + 1, p.line + 1, 1⟩ rest := by
  rw [advancedBy]
  · rfl
  · rintro rest rfl
    exact h rfl

/-- The position after a character that is no CR. -/
def next (p : SourcePosition) (c : Char) : SourcePosition :=
  if c = '\n' then ⟨p.byte + 1, p.line + 1, 1⟩ else ⟨p.byte + c.utf8Size, p.line, p.column + 1⟩

lemma advancedBy_cons {c : Char} (hc : c ≠ '\r') (rest : List Char) :
    p.advancedBy (c :: rest) = (p.next c).advancedBy rest := by
  rw [advancedBy.eq_def]
  simp only [if_neg hc, next]
  split_ifs <;> rfl

@[simp] lemma advancedBy_nil : p.advancedBy [] = p := by rw [advancedBy]

/-- **Positions compose at safe cuts.** -/
theorem advancedBy_append {a b : List Char} (h : SafeCut a b) :
    p.advancedBy (a ++ b) = (p.advancedBy a).advancedBy b := by
  induction ha : a.length using Nat.strong_induction_on generalizing a p with
  | _ n ih =>
    subst ha
    match a with
    | [] => simp
    | c :: a =>
      by_cases hc : c = '\r'
      · subst hc
        match a with
        | [] =>
          have hb : b.head? ≠ some '\n' := h rfl
          rw [singleton_append, advancedBy_cr p hb, advancedBy_cr p (by simp)]
          simp
        | '\n' :: a =>
          rw [cons_append, cons_append, advancedBy_crlf, advancedBy_crlf]
          exact ih a.length (by simp only [length_cons]; omega) _
            (SafeCut.of_append_left (p := ['\r', '\n']) h) rfl
        | d :: a =>
          by_cases hd : d = '\n'
          · subst hd
            rw [cons_append, cons_append, advancedBy_crlf, advancedBy_crlf]
            exact ih a.length (by simp only [length_cons]; omega) _
              (SafeCut.of_append_left (p := ['\r', '\n']) h) rfl
          · rw [cons_append, advancedBy_cr p (by simpa using hd),
              advancedBy_cr p (by simpa using hd)]
            exact ih (d :: a).length (by simp) _ (h.of_cons (by simp)) rfl
      · rw [cons_append, advancedBy_cons p hc, advancedBy_cons p hc]
        by_cases hnil : a = []
        · subst hnil
          simp
        · exact ih a.length (by simp) _ (h.of_cons hnil) rfl

end SourcePosition

/-! ## Errors and tokens -/

/-- Source: `ParsePhase` -/
inductive ParsePhase where
  | tokenizer
  deriving DecidableEq, Repr

/-- Source: `ParseErrorCode`, the codes that the tokenizer raises -/
inductive ParseErrorCode where
  | unexpectedNullCharacter
  | invalidFirstCharacterOfTagName
  | eofInTag
  | eofInComment
  | incorrectlyOpenedComment
  | missingDoctypeName
  | invalidDoctype
  | unexpectedCharacterAfterDoctypeName
  | missingEndTagName
  | unexpectedCharacterAfterEndTagName
  | unexpectedEqualsSignBeforeAttributeName
  | missingAttributeValue
  | unexpectedCharacterInUnquotedAttributeValue
  | duplicateAttribute
  | endTagWithAttributes
  | endTagWithTrailingSolidus
  | unknownNamedCharacterReference
  | absenceOfDigitsInNumericCharacterReference
  | missingSemicolonAfterCharacterReference
  | nullCharacterReference
  | characterReferenceOutsideUnicodeRange
  | surrogateCharacterReference
  | controlCharacterReference
  | tokenLimitExceeded
  | attributeLimitExceeded
  deriving DecidableEq, Repr

/-- Source: `ParseError` -/
structure ParseError where
  phase : ParsePhase
  code : ParseErrorCode
  position : SourcePosition
  deriving DecidableEq, Repr

/-- An error of the tokenizer.
Source: `Tokenizer::push_error` -/
def tokenizerError (code : ParseErrorCode) (position : SourcePosition) : ParseError :=
  ⟨.tokenizer, code, position⟩

/-- Source: `SpannedAttribute` -/
structure SpannedAttribute where
  name : String
  value : String
  span : SourceSpan
  deriving DecidableEq, Repr

/-- Source: `Token` -/
inductive Token where
  | doctype (name publicId systemId : String) (forceQuirks : Bool)
  | startTag (name : String) (attributes : List SpannedAttribute) (selfClosing : Bool)
  | endTag (name : String)
  | comment (data : String)
  | character (data : String)
  deriving DecidableEq, Repr

/-- Source: `SpannedToken` -/
structure SpannedToken where
  token : Token
  span : SourceSpan
  deriving DecidableEq, Repr

/-- Source: `TokenizerLimits` -/
structure TokenizerLimits where
  maxTokenBytes : ℕ
  maxAttributesPerTag : ℕ
  deriving DecidableEq, Repr

/-- Source: `impl Default for TokenizerLimits` -/
def TokenizerLimits.default : TokenizerLimits := ⟨1024 * 1024, 4096⟩

end WildBuzzard.Parser
