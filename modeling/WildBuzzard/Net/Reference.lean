import WildBuzzard.Net.Grammar
import WildBuzzard.Net.Lines

/-!
# The reference decoder

A response as a function of the whole stream: no reader, no buffer, no state between reads and no
limit, and lines that say what the grammar says. It is the abstract decoder that the incremental one
is compared with.

* `heads`: status line and header lines, of the informational heads and of the final one;
* `content`: what the framing says about the rest of the stream: **nothing, exactly so many bytes,
  the payloads of the chunks, or everything**;
* `decode`: the response, with what its limits are measured against in `Usage`.
-/

namespace WildBuzzard.Net

/-- What a response amounts to. -/
structure Decoded where
  head : ResponseHead
  body : List UInt8
  trailers : Headers
  deriving DecidableEq, Repr

namespace Reference

/-! ## Sections of fields -/

variable {method : Method} {informational : Nat} {bytes : List UInt8}

/-- A line is shorter than what it is taken from. -/
lemma length_of_splitLine {bytes line rest : List UInt8}
    (h : splitLine bytes = some (line, rest)) : bytes.length = line.length + 2 + rest.length := by
  rw [(splitLine_eq_some h).1]
  simp only [List.length_append, List.length_cons]
  omega

/-- The fields up to the first empty line, and what follows it. -/
def fieldSection (bytes : List UInt8) : Option (List Field × List UInt8) :=
  match _h : splitLine bytes with
  | none => none
  | some (line, rest) =>
    if line = [] then some ([], rest)
    else
      (fieldLine line).bind fun field =>
        (fieldSection rest).map fun p => (field :: p.1, p.2)
  termination_by bytes.length
  decreasing_by
    have := length_of_splitLine _h
    omega

lemma fieldSection_of_none (h : splitLine bytes = none) : fieldSection bytes = none := by
  rw [fieldSection]
  split
  · rfl
  · rename_i heq
    rw [h] at heq
    simp at heq

lemma fieldSection_of_line {bytes line rest : List UInt8}
    (h : splitLine bytes = some (line, rest)) :
    fieldSection bytes = if line = [] then some ([], rest) else
        (fieldLine line).bind fun field =>
          (fieldSection rest).map fun p => (field :: p.1, p.2) := by
  rw [fieldSection]
  split
  · rename_i heq
    rw [h] at heq
    simp at heq
  · rename_i heq
    rw [h] at heq
    obtain ⟨rfl, rfl⟩ : line = _ ∧ rest = _ := by simpa using heq
    rfl

/-! ## Heads -/

/-- How the body of a response is delimited. -/
def framing (method : Method) (status : StatusCode) (contentLength : Option Nat)
    (chunked : Bool) : BodyFraming :=
  if method.isHead ∨ status.value ∈ [204, 205, 304] then .none
  else if chunked then .chunked
  else contentLength.elim .connectionClose .contentLength

/-- What a head says about what follows, if its fields are acceptable. -/
def headKind (method : Method) (status : StatusCode) (headers : Headers) : Option HeadKind := do
  guard (identityCoded headers)
  let contentLength ← contentLength headers
  let chunked ← isChunked headers
  guard (¬(contentLength.isSome ∧ chunked))
  guard (status.value ≠ 101)
  if status.isInformational then do
    guard (¬(contentLength.isSome ∨ chunked))
    pure .informational
  else do
    guard (¬(status.value = 204 ∧ (contentLength.isSome ∨ chunked)))
    pure (.final (framing method status contentLength chunked))

/-- A status line and a section of fields. -/
def oneHead (bytes : List UInt8) :
    Option ((HttpVersion × StatusCode × List UInt8 × Headers) × List UInt8) := do
  let (line, rest) ← splitLine bytes
  let (version, status, reasonPhrase) ← statusLine line
  let (fields, after) ← fieldSection rest
  pure ((version, status, reasonPhrase, ⟨fields⟩), after)

/-- The final head, how many fields all heads have, and what follows the heads. -/
structure Heads where
  head : ResponseHead
  fieldCount : Nat
  rest : List UInt8

lemma length_of_fieldSection {bytes after : List UInt8} {fields : List Field}
    (h : fieldSection bytes = some (fields, after)) : after.length < bytes.length := by
  induction hn : bytes.length using Nat.strong_induction_on generalizing bytes fields with
  | _ n ih =>
    cases hline : splitLine bytes with
    | none =>
      rw [fieldSection_of_none hline] at h
      simp at h
    | some p =>
      have hlen := length_of_splitLine hline
      rw [fieldSection_of_line hline] at h
      split_ifs at h with hnil
      · obtain ⟨_, rfl⟩ : [] = fields ∧ p.2 = after := by simpa using h
        omega
      · simp only [Option.bind_eq_some_iff, Option.map_eq_some_iff] at h
        obtain ⟨field, _, ⟨fields', after'⟩, hrec, heq⟩ := h
        obtain ⟨_, rfl⟩ : field :: fields' = fields ∧ after' = after := by simpa using heq
        have := ih p.2.length (by omega) hrec rfl
        omega

/-- A section ends behind its first line. -/
lemma fieldSection_rest_le {bytes line rest after : List UInt8} {fields : List Field}
    (hline : splitLine bytes = some (line, rest))
    (h : fieldSection bytes = some (fields, after)) : after.length ≤ rest.length := by
  rw [fieldSection_of_line hline] at h
  split_ifs at h with hnil
  · obtain ⟨_, rfl⟩ : [] = fields ∧ rest = after := by simpa using h
    exact le_rfl
  · simp only [Option.bind_eq_some_iff, Option.map_eq_some_iff] at h
    obtain ⟨field, _, ⟨fields', after'⟩, hrec, heq⟩ := h
    obtain ⟨_, rfl⟩ : field :: fields' = fields ∧ after' = after := by simpa using heq
    exact (length_of_fieldSection hrec).le

/-- A head is not empty. -/
lemma length_of_oneHead {bytes after : List UInt8}
    {head : HttpVersion × StatusCode × List UInt8 × Headers}
    (h : oneHead bytes = some (head, after)) : after.length < bytes.length := by
  unfold oneHead at h
  simp only [Option.bind_eq_bind, Option.bind_eq_some_iff] at h
  obtain ⟨⟨line, rest⟩, hline, _, _, ⟨fields, after'⟩, hfields, heq⟩ := h
  obtain ⟨_, rfl⟩ : _ ∧ after' = after := by simpa using heq
  have hlen := length_of_splitLine hline
  have hless : after'.length < rest.length := length_of_fieldSection hfields
  omega

/-- The heads of a response, `informational` of which were read before. -/
def heads (method : Method) (informational : Nat) (bytes : List UInt8) : Option Heads :=
  match _h : oneHead bytes with
  | none => none
  | some ((version, status, reasonPhrase, headers), rest) =>
    match headKind method status headers with
    | none => none
    | some .informational =>
      (heads method (informational + 1) rest).map fun final =>
        { final with fieldCount := headers.fields.length + final.fieldCount }
    | some (.final framing) =>
      some
        { head :=
            { version, status, reasonPhrase, headers, framing
              informationalResponses := informational }
          fieldCount := headers.fields.length
          rest := rest }
  termination_by bytes.length
  decreasing_by exact length_of_oneHead _h

lemma heads_of_none (h : oneHead bytes = none) : heads method informational bytes = none := by
  rw [heads]
  split
  · rfl
  · rename_i heq
    rw [h] at heq
    simp at heq

lemma heads_of_head (method : Method) (informational : Nat) {bytes rest : List UInt8}
    {version : HttpVersion} {status : StatusCode} {reasonPhrase : List UInt8} {headers : Headers}
    (h : oneHead bytes = some ((version, status, reasonPhrase, headers), rest)) :
    heads method informational bytes = match headKind method status headers with
      | none => none
      | some .informational =>
        (heads method (informational + 1) rest).map fun final =>
          { final with fieldCount := headers.fields.length + final.fieldCount }
      | some (.final framing) =>
        some
          { head :=
              { version, status, reasonPhrase, headers, framing
                informationalResponses := informational }
            fieldCount := headers.fields.length
            rest := rest } := by
  rw [heads]
  split
  · rename_i heq
    rw [h] at heq
    simp at heq
  · rename_i heq
    rw [h] at heq
    obtain ⟨⟨rfl, rfl, rfl, rfl⟩, rfl⟩ := heq
    rfl

/-- Heads are one head, and heads again if that is an informational one. -/
lemma heads_cases {h : Heads} (hsome : heads method informational bytes = some h) :
    ∃ version status reasonPhrase headers rest,
      oneHead bytes = some ((version, status, reasonPhrase, headers), rest) ∧
        ((headKind method status headers = some .informational ∧
            ∃ h', heads method (informational + 1) rest = some h' ∧
              h = { h' with fieldCount := headers.fields.length + h'.fieldCount }) ∨
          ∃ framing, headKind method status headers = some (.final framing) ∧
            h = { head :=
                    { version, status, reasonPhrase, headers, framing
                      informationalResponses := informational }
                  fieldCount := headers.fields.length
                  rest := rest }) := by
  cases hone : oneHead bytes with
  | none =>
    rw [heads_of_none hone] at hsome
    simp at hsome
  | some p =>
    obtain ⟨⟨version, status, reasonPhrase, headers⟩, rest⟩ := p
    refine ⟨version, status, reasonPhrase, headers, rest, rfl, ?_⟩
    rw [heads_of_head method informational hone] at hsome
    split at hsome
    · simp at hsome
    · rename_i hkind
      obtain ⟨h', hrec, rfl⟩ := Option.map_eq_some_iff.mp hsome
      exact .inl ⟨hkind, h', hrec, rfl⟩
    · rename_i framing hkind
      exact .inr ⟨framing, hkind, (Option.some.inj hsome).symm⟩

/-- The heads that were read before are counted, and what follows the heads is at the end. -/
lemma heads_bounds {h : Heads} (hsome : heads method informational bytes = some h) :
    informational ≤ h.head.informationalResponses ∧ h.rest.length < bytes.length := by
  induction hn : bytes.length using Nat.strong_induction_on generalizing bytes informational h with
  | _ n ih =>
    obtain ⟨_, _, _, _, rest, hone, ⟨_, h', hrec, rfl⟩ | ⟨_, _, rfl⟩⟩ := heads_cases hsome
    · have hless := length_of_oneHead hone
      have := ih rest.length (by omega) hrec rfl
      exact ⟨by dsimp only; omega, by dsimp only; omega⟩
    · have hless := length_of_oneHead hone
      exact ⟨le_rfl, by dsimp only; omega⟩

/-! ## Bodies -/

/-- A body, its trailers, and what the limits of a chunked body are measured against. -/
structure Content where
  payload : List UInt8
  trailers : List Field
  trailerBytes : Nat
  longestSizeLine : Nat

namespace Content

/-- A body that is not chunked. -/
def plain (payload : List UInt8) : Content :=
  { payload, trailers := [], trailerBytes := 0, longestSizeLine := 0 }

/-- More bytes before a body. -/
def prepend (bytes : List UInt8) (content : Content) : Content :=
  { content with payload := bytes ++ content.payload }

/-- A size line before the rest of a chunked body. -/
def underLine (line : List UInt8) (content : Content) : Content :=
  { content with longestSizeLine := max line.length content.longestSizeLine }

end Content

/-- The end of a chunked body, from behind the size line of its last chunk. -/
def lastChunk (bytes : List UInt8) : Option Content := do
  let (trailers, after) ← fieldSection bytes
  guard (∀ field ∈ trailers, mayTrail field.1)
  pure
    { payload := []
      trailers := trailers
      trailerBytes := bytes.length - after.length
      longestSizeLine := 0 }

/-- The chunks of a body and its trailers. -/
def chunks (bytes : List UInt8) : Option Content :=
  match _h : splitLine bytes with
  | none => none
  | some (line, rest) =>
    match chunkSize line with
    | none => none
    | some 0 => (lastChunk rest).map (Content.underLine line)
    | some (size + 1) =>
      if (rest.drop (size + 1)).take 2 = [13, 10] then
        (chunks (rest.drop (size + 1 + 2))).map fun content =>
          (content.prepend (rest.take (size + 1))).underLine line
      else none
  termination_by bytes.length
  decreasing_by
    have := length_of_splitLine _h
    rw [List.length_drop]
    omega

lemma chunks_of_none {bytes : List UInt8} (h : splitLine bytes = none) : chunks bytes = none := by
  rw [chunks]
  split
  · rfl
  · rename_i heq
    rw [h] at heq
    simp at heq

lemma chunks_of_line {bytes line rest : List UInt8} (h : splitLine bytes = some (line, rest)) :
    chunks bytes = match chunkSize line with
      | none => none
      | some 0 => (lastChunk rest).map (Content.underLine line)
      | some (size + 1) =>
        if (rest.drop (size + 1)).take 2 = [13, 10] then
          (chunks (rest.drop (size + 1 + 2))).map fun content =>
            (content.prepend (rest.take (size + 1))).underLine line else none := by
  rw [chunks]
  split
  · rename_i heq
    rw [h] at heq
    simp at heq
  · rename_i heq
    rw [h] at heq
    obtain ⟨rfl, rfl⟩ : line = _ ∧ rest = _ := by simpa using heq
    rfl

/-- What a framing says about the rest of the stream. -/
def content : BodyFraming → List UInt8 → Option Content
  | .none, _ => some (.plain [])
  | .contentLength length, bytes =>
    if length ≤ bytes.length then some (.plain (bytes.take length)) else none
  | .chunked, bytes => chunks bytes
  | .connectionClose, bytes => some (.plain bytes)

/-! ## Responses -/

/-- What the limits of a response are measured against. -/
structure Usage where
  metadataBytes : Nat
  fieldCount : Nat
  longestSizeLine : Nat

/-- The response, and what its limits are measured against. -/
def response (method : Method) (stream : List UInt8) : Option (Decoded × Usage) := do
  let heads ← heads method 0 stream
  let content ← content heads.head.framing heads.rest
  pure
    ( { head := heads.head
        body := content.payload
        trailers := ⟨content.trailers⟩ },
      { metadataBytes := stream.length - heads.rest.length + content.trailerBytes
        fieldCount := heads.fieldCount + content.trailers.length
        longestSizeLine := content.longestSizeLine } )

/-- **The response that a stream holds.** -/
def decode (method : Method) (stream : List UInt8) : Option Decoded :=
  (response method stream).map Prod.fst

end Reference

end WildBuzzard.Net
