import WildBuzzard.Net.Metadata

/-!
# What reading a body does

The specifications of the calls that read a body, for every script of the socket and in every state
of the body. `Reference.remaining` is what the reference decoder makes of a body that is partly
read; `Body.Yields` adds the limits.

* `Advances` is what every call does, whether it returns or fails: the limits are kept and **the
  bytes counted are the bytes delivered**;
* `Leaves`: what a body yields is what a call delivers and what the body yields after it;
* a call that fails without an interruption fails on a body that yields nothing.
-/

namespace WildBuzzard.Net

open Lib Reference Call List Content Metered WireReader

namespace Reference

/-! ## Bodies that are partly read -/

variable {bytes : List UInt8}

/-- From behind the data of a chunk: a line ending and the chunks that follow. -/
def afterData (bytes : List UInt8) : Option Content :=
  if bytes.take 2 = [13, 10] then chunks (bytes.drop 2) else none

/-- From inside a chunk of which `n` bytes are left. -/
def inChunk (n : Nat) (bytes : List UInt8) : Option Content :=
  (afterData (bytes.drop n)).map (Content.prepend (bytes.take n))

/-- What a body that is partly read still holds. -/
def remaining : BodyState → List UInt8 → Option Content
  | .empty, _ => some (.plain [])
  | .contentLength n, bytes => content (.contentLength n) bytes
  | .chunked n needsDataCrlf, bytes =>
    if 0 < n then inChunk n bytes
    else if needsDataCrlf then afterData bytes
    else chunks bytes
  | .connectionClose, bytes => content .connectionClose bytes

/-- A body that was not read holds what its framing says. -/
lemma remaining_initialState (framing : BodyFraming) (bytes : List UInt8) :
    remaining (Body.initialState framing) bytes = content framing bytes := by
  cases framing with
  | contentLength n => cases n <;> simp [Body.initialState, remaining, content]
  | none => rfl
  | chunked => rfl
  | connectionClose => rfl

lemma chunks_of_size {bytes line rest : List UInt8} {size : Nat}
    (h : splitLine bytes = some (line, rest)) (hsize : chunkSize line = some (size + 1)) :
    chunks bytes = (inChunk (size + 1) rest).map (underLine line) := by
  rw [chunks_of_line h, hsize]
  simp only [inChunk, afterData, drop_drop]
  split_ifs with hcrlf
  · simp [Option.map_map, Function.comp_def]
  · rfl

lemma Content.prepend_prepend (a b : List UInt8) (k : Content) :
    (k.prepend b).prepend a = k.prepend (a ++ b) := by
  simp [prepend]

lemma inChunk_append {n : Nat} (h : bytes.length ≤ n) (rest : List UInt8) :
    inChunk n (bytes ++ rest) =
      (remaining (.chunked (n - bytes.length) (n - bytes.length = 0)) rest).map
        (prepend bytes) := by
  have hdrop : (bytes ++ rest).drop n = rest.drop (n - bytes.length) := by
    rw [drop_append, drop_eq_nil_iff.mpr h, nil_append]
  have htake : (bytes ++ rest).take n = bytes ++ rest.take (n - bytes.length) := by
    rw [take_append, take_of_length_le h]
  unfold inChunk remaining
  rw [hdrop, htake]
  by_cases hleft : 0 < n - bytes.length
  · simp only [hleft, if_true, inChunk, Option.map_map, Function.comp_def, prepend_prepend]
  · have hzero : n - bytes.length = 0 := by omega
    simp [hzero]

lemma contentLength_append {n : Nat} (h : bytes.length ≤ n) (rest : List UInt8) :
    content (.contentLength n) (bytes ++ rest) =
      (content (.contentLength (n - bytes.length)) rest).map (prepend bytes) := by
  unfold content
  have hle : n ≤ (bytes ++ rest).length ↔ n - bytes.length ≤ rest.length := by
    rw [length_append]
    omega
  simp only [hle]
  split_ifs with hlen
  · rw [take_append, take_of_length_le h]
    rfl
  · rfl

lemma afterData_nil : afterData [] = none := rfl

/-- The bytes of a chunk are part of the payload. -/
lemma length_of_inChunk {n : Nat} {k : Content}
    (h : inChunk n bytes = some k) : n ≤ k.payload.length := by
  obtain ⟨k', hafter, rfl⟩ := Option.map_eq_some_iff.mp h
  have hlen : n ≤ bytes.length := by
    by_contra hshort
    rw [drop_eq_nil_iff.mpr (by omega), afterData_nil] at hafter
    simp at hafter
  simp only [prepend, length_append, length_take]
  omega

/-- The first size line is one of the size lines. -/
lemma length_of_chunks {bytes line rest : List UInt8} {k : Content}
    (hline : splitLine bytes = some (line, rest)) (h : chunks bytes = some k) :
    line.length ≤ k.longestSizeLine := by
  rw [chunks_of_line hline] at h
  split at h
  · simp at h
  · obtain ⟨k', -, rfl⟩ := Option.map_eq_some_iff.mp h
    exact le_max_left _ _
  · split_ifs at h
    obtain ⟨k', -, rfl⟩ := Option.map_eq_some_iff.mp h
    exact le_max_left _ _

end Reference

namespace Body

/-! ## What a body yields -/

/-- What is left of the stream. -/
def rest (body : Body) : List UInt8 :=
  match body.reader with
  | none => []
  | some r => r.rest

lemma rest_of_reader {body : Body} {r : WireReader} (hr : body.reader = some r) :
    body.rest = r.rest := by simp only [rest, hr]

/-- No interruption is to come. -/
def Undisturbed (body : Body) : Prop := ∀ r, body.reader = some r → r.Undisturbed

/-- The limits are kept and the state is one that reading a response leads to. -/
structure Sound (body : Body) : Prop where
  reader : ∀ r, body.reader = some r → r.Wf
  decoded : body.decodedBytes ≤ body.maxBodyBytes.toNat
  budget : body.budget.Sound body.maxHeaderBytes body.maxHeaderCount
  closed : body.reader = none ↔ body.state = .empty
  remaining : ∀ n, body.state = .contentLength n → 0 < n

/-- The limits of the body admit the content. -/
structure Admits (body : Body) (c : Content) : Prop where
  payload : body.decodedBytes + c.payload.length ≤ body.maxBodyBytes.toNat
  trailerBytes : body.budget.bytes + c.trailerBytes ≤ body.maxHeaderBytes.toNat
  trailers : body.budget.count + c.trailers.length ≤ body.maxHeaderCount.toNat
  sizeLines : c.longestSizeLine ≤ body.maxChunkLineBytes.toNat

/-- With this content to come, the body yields these bytes and in the end has these trailers. -/
def Yields (body : Body) (c : Option Content) (payload : List UInt8) (trailers : List Field) :
    Prop :=
  ∃ k, c = some k ∧ body.Admits k ∧ payload = k.payload ∧
    trailers = body.trailers.fields ++ k.trailers

/-- What a body yields with this content to come is what was delivered, and what the body after it
yields. -/
def Leaves (body : Body) (c : Option Content) (delivered : List UInt8) (body' : Body) : Prop :=
  ∀ payload trailers, body.Yields c payload trailers ↔
    ∃ payload', payload = delivered ++ payload' ∧
      body'.Yields (remaining body'.state body'.rest) payload' trailers

/-- The bounds a body was created with. -/
def limits (body : Body) : List UInt64 :=
  [body.maxBodyBytes, body.maxHeaderBytes, body.maxHeaderCount, body.maxChunkLineBytes]

/-- What a call on a body does, whether it returns or fails. -/
structure Advances (body : Body) (delivered : List UInt8) (body' : Body) : Prop where
  sound : body'.Sound
  decoded_eq : body'.decodedBytes = body.decodedBytes + delivered.length
  limits_eq : body'.limits = body.limits
  terminalError_eq : body'.terminalError = body.terminalError
  undisturbed : body.Undisturbed → body'.Undisturbed
  records : Records body.budget.lines body.rest body'.budget.lines body'.rest
  rest_le : body'.rest.length + delivered.length ≤ body.rest.length

variable {body body' body'' : Body} {c : Option Content}

lemma Advances.refl (h : body.Sound) : body.Advances [] body :=
  ⟨h, rfl, rfl, rfl, fun hu => hu, .refl, le_rfl⟩

lemma Advances.trans {a b : List UInt8} (h : body.Advances a body')
    (h' : body'.Advances b body'') : body.Advances (a ++ b) body'' := by
  have hle := h.rest_le
  have hle' := h'.rest_le
  refine ⟨h'.sound, ?_, h'.limits_eq.trans h.limits_eq,
    h'.terminalError_eq.trans h.terminalError_eq, fun hu => h'.undisturbed (h.undisturbed hu),
    h.records.trans h'.records, ?_⟩
  · rw [h'.decoded_eq, h.decoded_eq, length_append, Nat.add_assoc]
  · rw [length_append]
    omega

/-- Bytes before the content are delivered before it. -/
lemma yields_prepend {bytes : List UInt8}
    (hdecoded : body'.decodedBytes = body.decodedBytes + bytes.length)
    (hlimits : body'.limits = body.limits) (hbudget : body'.budget = body.budget)
    (htrailers : body'.trailers = body.trailers) (payload : List UInt8) (trailers : List Field) :
    body.Yields (c.map (prepend bytes)) payload trailers ↔
      ∃ payload', payload = bytes ++ payload' ∧ body'.Yields c payload' trailers := by
  simp only [limits, cons.injEq] at hlimits
  obtain ⟨hbody, hbytes, hcount, hline, -⟩ := hlimits
  have hadmits : ∀ k : Content, body.Admits (k.prepend bytes) ↔ body'.Admits k := by
    intro k
    constructor
    · rintro ⟨hp, htb, ht, hs⟩
      refine ⟨?_, by rw [hbudget, hbytes]; exact htb, by rw [hbudget, hcount]; exact ht,
        by rw [hline]; exact hs⟩
      simp only [prepend, length_append] at hp
      rw [hdecoded, hbody]
      omega
    · rintro ⟨hp, htb, ht, hs⟩
      rw [hbudget] at htb ht
      rw [hbytes] at htb
      rw [hcount] at ht
      rw [hline] at hs
      rw [hdecoded, hbody] at hp
      refine ⟨?_, htb, ht, hs⟩
      simp only [prepend, length_append]
      omega
  constructor
  · rintro ⟨_, hc, hk, rfl, rfl⟩
    obtain ⟨k, rfl, rfl⟩ := Option.map_eq_some_iff.mp hc
    exact ⟨k.payload, rfl, k, rfl, (hadmits k).mp hk, rfl, by rw [htrailers]; rfl⟩
  · rintro ⟨_, rfl, k, rfl, hk, rfl, rfl⟩
    exact ⟨k.prepend bytes, rfl, (hadmits k).mpr hk, rfl, by rw [htrailers]; rfl⟩

/-- Where the body stands in the stream does not matter. -/
lemma yields_congr (hdecoded : body'.decodedBytes = body.decodedBytes)
    (hlimits : body'.limits = body.limits) (hbudget : body'.budget = body.budget)
    (htrailers : body'.trailers = body.trailers) (payload : List UInt8) (trailers : List Field) :
    body.Yields c payload trailers ↔ body'.Yields c payload trailers := by
  have hnothing : c.map (prepend []) = c := by cases c <;> rfl
  have h : body.Yields (c.map (prepend [])) payload trailers ↔ _ :=
    yields_prepend hdecoded hlimits hbudget htrailers payload trailers
  rw [hnothing] at h
  simpa using h

/-- A size line that is not too long does not matter. -/
lemma yields_underLine {line : List UInt8}
    (hline : line.length ≤ body.maxChunkLineBytes.toNat) (payload : List UInt8)
    (trailers : List Field) :
    body.Yields (c.map (underLine line)) payload trailers ↔ body.Yields c payload trailers := by
  constructor
  · rintro ⟨_, hc, hk, rfl, rfl⟩
    obtain ⟨k, rfl, rfl⟩ := Option.map_eq_some_iff.mp hc
    exact ⟨k, rfl, ⟨hk.payload, hk.trailerBytes, hk.trailers,
      le_trans (le_max_right _ _) hk.sizeLines⟩, rfl, rfl⟩
  · rintro ⟨k, rfl, hk, rfl, rfl⟩
    exact ⟨k.underLine line, rfl, ⟨hk.payload, hk.trailerBytes, hk.trailers,
      max_le hline hk.sizeLines⟩, rfl, rfl⟩

/-! ## Pieces of a body -/

section pieces

variable {α : Type} {r : WireReader} {Q : α → Body → Prop} {E : Error → Body → Prop}
  {H : Halt → Prop}

lemma sat_onMetered {m : Call Metered Error α} (hr : body.reader = some r) :
    (onMetered m body).Sat Q E H ↔ (m { reader := r, budget := body.budget }).Sat
        (fun a s => Q a { body with reader := some s.reader, budget := s.budget })
        (fun e s => E e { body with reader := some s.reader, budget := s.budget }) H := by
  simp only [onMetered, hr]
  cases m { reader := r, budget := body.budget } <;> rfl

lemma sat_onReader {m : Call WireReader Error α} (hr : body.reader = some r) :
    (onReader m body).Sat Q E H ↔ (m r).Sat (fun a r' => Q a { body with reader := some r' })
        (fun e r' => E e { body with reader := some r' }) H := by
  unfold onReader Metered.onReader
  rw [sat_onMetered hr, sat_focus]
  rfl

end pieces

variable {outputLen n : Nat} {bytes : List UInt8} {E : Error → Body → Prop} {r : WireReader}

lemma subtract_sat {a b : Nat} (h : b ≤ a) {H : Halt → Prop} :
    (subtract a b body).Sat (fun c t => c = a - b ∧ body = t) E H :=
  sat_assert_bind.mpr ⟨fun _ => ⟨rfl, rfl⟩, fun hn => absurd h hn⟩

/-- The limit is a `usize`, so the sum of the source does not overflow. -/
lemma countDecoded_sat {n : Nat} (h : body.decodedBytes + n ≤ body.maxBodyBytes.toNat)
    {H : Halt → Prop} :
    (countDecoded n body).Sat
      (fun _ t => t = { body with decodedBytes := body.decodedBytes + n }) E H := by
  refine sat_read_bind.mpr (sat_assert_bind.mpr ⟨fun _ => rfl, fun hn => absurd ?_ hn⟩)
  exact lt_of_le_of_lt h body.maxBodyBytes.toNat_lt

section

variable (h : body.Sound) {r r' : WireReader} (hr : body.reader = some r) (htook : r.Took r' bytes)
include h hr htook

/-- Part of the stream was taken and nothing else changed. -/
lemma advances_reader : body.Advances [] { body with reader := some r' } := by
  have hrest := (rest_of_reader hr).trans htook.rest_eq
  refine ⟨⟨?_, h.decoded, h.budget, ?_, h.remaining⟩, rfl, rfl, rfl, fun hu => ?_, .skip hrest, ?_⟩
  · intro _ heq
    cases heq
    exact htook.wf
  · have hstate : ¬body.state = .empty := fun he => by simp [h.closed.mpr he] at hr
    simpa using hstate
  · intro _ heq
    cases heq
    exact htook.undisturbed (hu r hr)
  · rw [hrest, length_append]
    exact Nat.le_add_left _ _

/-- Part of the stream was taken and delivered. -/
lemma advances_delivered (hfits : body.decodedBytes + bytes.length ≤ body.maxBodyBytes.toNat) :
    body.Advances bytes
      { body with reader := some r', decodedBytes := body.decodedBytes + bytes.length } := by
  have hadv := advances_reader h hr htook
  refine ⟨⟨hadv.sound.reader, hfits, h.budget, hadv.sound.closed, h.remaining⟩, rfl, rfl, rfl,
    hadv.undisturbed, hadv.records, ?_⟩
  simp only [rest, hr, htook.rest_eq, length_append]
  omega

end

lemma advances_close (h : body.Sound) : body.Advances [] body.close := by
  refine ⟨⟨?_, h.decoded, h.budget, by simp [close], ?_⟩, rfl, rfl, rfl, ?_,
    .skip (append_nil _).symm, ?_⟩
  · intro _ heq
    simp [close] at heq
  · intro _ heq
    simp [close] at heq
  · intro _ _ heq
    simp [close] at heq
  · simp [rest, close]

/-- Another state in which the body is read. -/
lemma advances_state (h : body.Sound) (state : BodyState) (hopen : body.state ≠ .empty)
    (hne : state ≠ .empty) (hpos : ∀ n, state = .contentLength n → 0 < n) :
    body.Advances [] { body with state := state } := by
  refine ⟨⟨h.reader, h.decoded, h.budget, ?_, hpos⟩, rfl, rfl, rfl, fun hu => hu, .refl, le_rfl⟩
  have hreader : body.reader ≠ none := fun hnone => hopen (h.closed.mp hnone)
  simp [hreader, hne]

/-- **Part of a delimited piece is the next part of the stream.** -/
theorem readDelimited_sat (h : body.Sound) (hr : body.reader = some r) (hout : 0 < outputLen)
    (hn : 0 < n) :
    (readDelimited outputLen n body).Ends
      (fun p t => p.1 ≠ [] ∧ p.1.length ≤ n ∧ p.2 = n - p.1.length ∧
        body.decodedBytes + p.1.length ≤ body.maxBodyBytes.toNat ∧ ∃ r', r.Took r' p.1 ∧ t =
          { body with reader := some r', decodedBytes := body.decodedBytes + p.1.length })
      (fun _ t => body.Advances [] t ∧
        (r.Undisturbed → r.rest = [] ∨ body.maxBodyBytes.toNat ≤ body.decodedBytes)) := by
  have hwf := h.reader r hr
  refine sat_read_bind.mpr (sat_ofExcept_bind.mpr ⟨fun permitted hpermitted => ?_,
    fun e hbad => ?_⟩)
  · unfold boundedReadLen at hpermitted
    split_ifs at hpermitted with hfull
    obtain rfl := Except.ok.inj hpermitted
    have hpos : 0 < min outputLen (min n (body.maxBodyBytes.toNat - body.decodedBytes)) := by omega
    refine sat_bind.mpr ((sat_onReader hr).mpr
      ((readSome_sat hwf hpos .readBody).imp₂ ?_ ?_))
    · rintro bytes r' ⟨htook, hlen, hend⟩
      refine sat_check_bind.mpr ⟨fun hne => ?_, fun hnil => ?_⟩
      · have hle : bytes.length ≤ n := by omega
        have hfits : body.decodedBytes + bytes.length ≤ body.maxBodyBytes.toNat := by omega
        refine sat_bind.mpr ((subtract_sat hle).imp ?_)
        rintro _ _ ⟨rfl, rfl⟩
        refine sat_bind.mpr (Outcome.Sat.imp (countDecoded_sat (by exact hfits)) ?_)
        rintro _ _ rfl
        exact ⟨hne, hle, rfl, hfits, r', htook, rfl⟩
      · rw [not_not] at hnil
        exact ⟨advances_reader h hr htook, fun _ => .inl (hend hnil)⟩
    · intro e r' hspared
      exact ⟨advances_reader h hr hspared.took, fun hu => absurd hu hspared.disturbed⟩
  · refine ⟨.refl h, fun _ => .inr ?_⟩
    unfold boundedReadLen at hbad
    split_ifs at hbad with hfull
    exact hfull

/-! ## Reads -/

/-- What a read of a body does that has this content to come. -/
def Reads (body : Body) (c : Option Content) (o : Outcome Body Error (List UInt8)) : Prop :=
  o.Ends
    (fun bytes t => body.Advances bytes t ∧ (bytes = [] → t.state = .empty) ∧
      (body.budget.count ≤ body.maxHeaderCount.toNat →
        t.budget.count ≤ body.maxHeaderCount.toNat ∧ body.Leaves c bytes t))
    (fun _ t => body.Advances [] t ∧
      (body.Undisturbed → ∀ payload trailers, ¬body.Yields c payload trailers))

/-- A body that is open has a reader. -/
lemma exists_reader (h : body.Sound) (hopen : body.state ≠ .empty) : ∃ r, body.reader = some r :=
  Option.ne_none_iff_exists'.mp fun hnone => hopen (h.closed.mp hnone)

/-- There is no content without bytes, or the limit is used up. -/
lemma not_yields_contentLength {n : Nat} (hn : 0 < n)
    (h : bytes = [] ∨ body.maxBodyBytes.toNat ≤ body.decodedBytes) (payload : List UInt8)
    (trailers : List Field) : ¬body.Yields (content (.contentLength n) bytes) payload trailers := by
  rintro ⟨k, hk, hadmits, -, -⟩
  simp only [content] at hk
  split_ifs at hk with hle
  obtain rfl := Option.some.inj hk
  have hpayload := hadmits.payload
  simp only [plain, length_take] at hpayload
  rcases h with rfl | hfull
  · simp only [length_nil] at hle
    omega
  · omega

lemma readContentLength_reads (h : body.Sound) (hout : 0 < outputLen)
    (hstate : body.state = .contentLength n) :
    body.Reads (remaining body.state body.rest) (readContentLength outputLen n body) := by
  have hn := h.remaining n hstate
  have hopen : body.state ≠ .empty := by simp [hstate]
  obtain ⟨r, hr⟩ := exists_reader h hopen
  have hcontent : remaining body.state body.rest = content (.contentLength n) r.rest := by
    simp only [hstate, remaining, rest, hr]
  rw [hcontent]
  refine sat_seq (readDelimited_sat h hr hout hn) ?_ ?_
  · rintro ⟨bytes, left⟩ t ⟨hne, hle, hleft, hfits, r', htook, rfl⟩
    dsimp only at hne hle hleft hfits htook
    subst hleft
    have hadv := advances_delivered h hr htook hfits
    have hsplit := contentLength_append hle r'.rest
    rw [← htook.rest_eq] at hsplit
    rw [hsplit]
    refine sat_modify_bind.mpr ?_
    split_ifs with hzero
    · refine ⟨by simpa using hadv.trans (advances_close hadv.sound), fun hnil => absurd hnil hne,
        fun hcount => ⟨hcount, fun payload trailers => ?_⟩⟩
      have hnothing : content (.contentLength 0) r'.rest = some (.plain []) := by simp [content]
      rw [hzero, hnothing]
      exact yields_prepend (by rfl) (by rfl) (by rfl) (by rfl) _ _
    · have hmoved := advances_state hadv.sound (.contentLength (n - bytes.length)) hopen
        (by simp) (fun m hm => by cases hm; omega)
      refine ⟨by simpa using hadv.trans hmoved, fun hnil => absurd hnil hne,
        fun hcount => ⟨hcount, fun payload trailers => ?_⟩⟩
      exact yields_prepend (by rfl) (by rfl) (by rfl) (by rfl) _ _
  · rintro e t ⟨hadv, hfail⟩
    exact ⟨hadv, fun hu => not_yields_contentLength hn (hfail (hu r hr))⟩

/-- The end of a body that ends with the stream. -/
lemma reads_close (h : body.Sound) {r r' : WireReader} {c : Option Content}
    (hr : body.reader = some r) (htook : r.Took r' []) (hc : c = some (.plain [])) :
    body.Reads c (.ok [] (close { body with reader := some r' })) := by
  have hadv := advances_reader h hr htook
  refine ⟨by simpa using hadv.trans (advances_close hadv.sound), fun _ => rfl,
    fun hcount => ⟨hcount, fun payload trailers => ?_⟩⟩
  rw [hc]
  show body.Yields ((some (.plain [])).map (prepend [])) payload trailers ↔ _
  exact yields_prepend (by rfl) (by rfl) (by rfl) (by rfl) _ _

lemma readConnectionClose_reads (h : body.Sound) {outputLen : Nat} (hout : 0 < outputLen)
    (hstate : body.state = .connectionClose) :
    body.Reads (remaining body.state body.rest) (readConnectionClose outputLen body) := by
  obtain ⟨r, hr⟩ := exists_reader h (by simp [hstate])
  have hcontent : remaining body.state body.rest = some (.plain r.rest) := by
    simp only [hstate, remaining, rest, hr, content]
  have hdecoded := h.decoded
  have hwf := h.reader r hr
  rw [hcontent]
  refine sat_read_bind.mpr ?_
  split_ifs with hfull
  · refine sat_bind.mpr ((sat_onReader hr).mpr
      ((readSome_sat hwf Nat.one_pos .readBody).imp₂ ?_ ?_))
    · rintro probe r' ⟨htook, -, hend⟩
      refine sat_check_bind.mpr ⟨?_, fun hmore => ?_⟩
      · rintro rfl
        exact reads_close h hr htook (by rw [hend rfl])
      · refine ⟨advances_reader h hr htook, fun _ payload trailers => ?_⟩
        rintro ⟨k, hk, hadmits, -, -⟩
        obtain rfl := Option.some.inj hk
        have hpayload := hadmits.payload
        have hpos := length_pos_iff.mpr hmore
        simp only [plain, htook.rest_eq, length_append] at hpayload
        omega
    · intro e r' hspared
      exact ⟨advances_reader h hr hspared.took, fun hu => absurd (hu r hr) hspared.disturbed⟩
  · refine sat_bind.mpr ((subtract_sat hdecoded).imp ?_)
    rintro _ _ ⟨rfl, rfl⟩
    have hpos : 0 < min outputLen (body.maxBodyBytes.toNat - body.decodedBytes) := by omega
    refine sat_bind.mpr ((sat_onReader hr).mpr
      ((readSome_sat hwf hpos .readBody).imp₂ ?_ ?_))
    · rintro bytes r' ⟨htook, hlen, hend⟩
      unfold deliverUntilClose
      split_ifs with hnil
      · subst hnil
        exact reads_close h hr htook (by rw [hend rfl])
      · have hfits : body.decodedBytes + bytes.length ≤ body.maxBodyBytes.toNat := by omega
        refine sat_bind.mpr (Outcome.Sat.imp (countDecoded_sat (by exact hfits)) ?_)
        rintro _ _ rfl
        refine ⟨advances_delivered h hr htook hfits, fun hn => absurd hn hnil,
          fun hcount => ⟨hcount, fun payload trailers => ?_⟩⟩
        rw [htook.rest_eq]
        show body.Yields ((some (.plain r'.rest)).map (prepend bytes)) payload trailers ↔ _
        have hleft : ∀ n, remaining body.state (rest { body with
            reader := some r', decodedBytes := body.decodedBytes + n }) = some (.plain r'.rest) := by
          intro n
          simp only [hstate, remaining, rest, content]
        rw [hleft]
        exact yields_prepend (by rfl) (by rfl) (by rfl) (by rfl) _ _
    · intro e r' hspared
      exact ⟨advances_reader h hr hspared.took, fun hu => absurd (hu r hr) hspared.disturbed⟩

/-! ## Chunks -/

/-- A step that delivers nothing before a read. -/
lemma Reads.of_silent {c c' : Option Content} {o : Outcome Body Error (List UInt8)}
    (hadv : body.Advances [] body') (hbudget : body'.budget = body.budget)
    (hyields : ∀ payload trailers,
      body.Yields c payload trailers ↔ body'.Yields c' payload trailers)
    (h : body'.Reads c' o) : body.Reads c o := by
  have hcount : body'.maxHeaderCount = body.maxHeaderCount := by
    have := hadv.limits_eq
    simp only [limits, cons.injEq] at this
    exact this.2.2.1
  refine h.imp₂ ?_ ?_
  · rintro bytes t ⟨hread, hend, hleaves⟩
    refine ⟨by simpa using hadv.trans hread, hend, fun hle => ?_⟩
    rw [hbudget, hcount] at hleaves
    exact ⟨(hleaves hle).1, fun payload trailers =>
      (hyields payload trailers).trans ((hleaves hle).2 payload trailers)⟩
  · rintro e t ⟨hread, hfail⟩
    refine ⟨by simpa using hadv.trans hread, fun hu payload trailers => ?_⟩
    rw [hyields]
    exact hfail (hadv.undisturbed hu) payload trailers

lemma readChunkData_reads (h : body.Sound) (hout : 0 < outputLen)
    (hn : 0 < n) (hopen : body.state ≠ .empty) :
    body.Reads (inChunk n body.rest) (readChunkData outputLen n body) := by
  obtain ⟨r, hr⟩ := exists_reader h hopen
  rw [rest_of_reader hr]
  refine sat_seq (readDelimited_sat h hr hout hn) ?_ ?_
  · rintro ⟨bytes, left⟩ t ⟨hne, hle, hleft, hfits, r', htook, rfl⟩
    dsimp only at hne hle hleft hfits htook
    subst hleft
    have hadv := advances_delivered h hr htook hfits
    have hmoved := advances_state hadv.sound
      (.chunked (n - bytes.length) (n - bytes.length = 0)) hopen (by simp) (by simp)
    refine ⟨by simpa using hadv.trans hmoved, fun hnil => absurd hnil hne,
      fun hcount => ⟨hcount, fun payload trailers => ?_⟩⟩
    rw [htook.rest_eq, inChunk_append hle]
    exact yields_prepend (by rfl) (by rfl) (by rfl) (by rfl) _ _
  · rintro e t ⟨hadv, hfail⟩
    refine ⟨hadv, fun hu payload trailers => ?_⟩
    rintro ⟨k, hk, hadmits, -, -⟩
    have hlen := length_of_inChunk hk
    have hpayload := hadmits.payload
    rcases hfail (hu r hr) with hnil | hfull
    · rw [hnil, inChunk, drop_nil, afterData_nil] at hk
      simp at hk
    · omega

lemma readDataCrlf_sat (h : body.Sound) (hr : body.reader = some r) (hopen : body.state ≠ .empty) :
    (readDataCrlf body).Ends (fun _ t => body.Advances [] t ∧ ∃ r', t =
        { body with reader := some r', state := .chunked 0 false } ∧
          afterData r.rest = chunks r'.rest)
      (fun _ t => body.Advances [] t ∧ (r.Undisturbed → afterData r.rest = none)) := by
  refine sat_bind.mpr ((sat_onReader hr).mpr
    ((readExactWire_sat (h.reader r hr) .readBody).imp₂ ?_ ?_))
  · rintro ending r' ⟨htook, hlen⟩
    have hadv := advances_reader h hr htook
    have htake : r.rest.take 2 = ending := by
      rw [htook.rest_eq, ← hlen, take_left']
      rfl
    have hdrop : r.rest.drop 2 = r'.rest := by
      rw [htook.rest_eq, ← hlen, drop_left']
      rfl
    refine sat_check_bind.mpr ⟨fun hcrlf => ?_, fun hbad => ?_⟩
    · have hmoved := advances_state hadv.sound (.chunked 0 false) hopen (by simp) (by simp)
      refine ⟨by simpa using hadv.trans hmoved, r', rfl, ?_⟩
      rw [afterData, htake, hdrop, if_pos hcrlf]
    · refine ⟨hadv, fun _ => ?_⟩
      rw [afterData, htake, if_neg hbad]
  · rintro e r' ⟨⟨bytes, htook⟩, hshort⟩
    refine ⟨advances_reader h hr htook, fun hu => if_neg fun htake => ?_⟩
    have hlen := congrArg length htake
    rw [length_take] at hlen
    have := hshort hu
    simp only [length_cons, length_nil] at hlen
    omega

lemma readSizeLine_sat (h : body.Sound) (hr : body.reader = some r) :
    (readSizeLine body).Ends
      (fun size t => body.Advances [] t ∧ ∃ line r', t = { body with reader := some r' } ∧
        splitLine r.rest = some (line, r'.rest) ∧ chunkSize line = some size ∧
        line.length ≤ body.maxChunkLineBytes.toNat)
      (fun _ t => body.Advances [] t ∧
        (r.Undisturbed → ∀ payload trailers, ¬body.Yields (chunks r.rest) payload trailers)) := by
  refine sat_read_bind.mpr (sat_bind.mpr ((sat_onReader hr).mpr
    ((readCrlfLine_sat (h.reader r hr) _ _ .readBody).imp₂ ?_ ?_)))
  · rintro ⟨line, wireBytes⟩ r' ⟨htook, hcr, hlf, hlen, -⟩
    have hadv := advances_reader h hr htook
    have hline : splitLine r.rest = some (line, r'.rest) := by
      rw [htook.rest_eq, append_assoc]
      exact splitLine_append hcr hlf _
    have hsize := chunkSize_eq line
    dsimp only
    cases hparse : parseChunkSize line with
    | ok size =>
      rw [hparse] at hsize
      exact ⟨hadv, line, r', rfl, hline, hsize, hlen⟩
    | error e =>
      rw [hparse] at hsize
      refine ⟨hadv, fun _ payload trailers => ?_⟩
      rintro ⟨k, hk, -⟩
      rw [chunks_of_line hline, hsize] at hk
      cases hk
  · rintro e r' ⟨htook, hnone⟩
    refine ⟨advances_reader h hr htook, fun hu payload trailers => ?_⟩
    rintro ⟨k, hk, hadmits, -, -⟩
    cases hline : splitLine r.rest with
    | none =>
      rw [chunks_of_none hline] at hk
      simp at hk
    | some p =>
      have hlen := length_of_chunks hline hk
      have hsome := takeLine_eq_some.mpr ⟨hline, hlen.trans hadmits.sizeLines⟩
      rw [hnone hu] at hsome
      simp at hsome

/-! ## Trailers -/

/-- The metadata that was read is counted, and nothing else changed but the trailers. -/
lemma advances_metered (h : body.Sound) {s : Metered} (hr : body.reader = some r)
    (trailers : Headers) (hadv : Metered.Advances body.maxHeaderBytes body.maxHeaderCount
      { reader := r, budget := body.budget } s) :
    body.Advances []
      { body with reader := some s.reader, budget := s.budget, trailers := trailers } := by
  obtain ⟨bytes, htook⟩ := hadv.took
  have hmoved := advances_reader h hr htook
  exact ⟨⟨hmoved.sound.reader, h.decoded, hadv.sound, hmoved.sound.closed, h.remaining⟩, rfl, rfl,
    rfl, hmoved.undisturbed, rest_of_reader hr ▸ hadv.records, hmoved.rest_le⟩

/-- **The trailers are read exactly when the reference decoder finds trailers** that the limits
admit, and that may be trailers. -/
theorem readTrailersLoop_sat {fuel : Nat} (hr : body.reader = some r) (hwf : r.Wf)
    (hsound : body.budget.Sound body.maxHeaderBytes body.maxHeaderCount)
    (hfuel : r.rest.length < fuel) :
    (readTrailersLoop fuel body).Ends
      (fun _ t => ∃ s fields, t =
          { body with
            reader := some s.reader
            budget := s.budget
            trailers := ⟨body.trailers.fields ++ fields⟩ } ∧
        ReadSection body.maxHeaderBytes body.maxHeaderCount (mayTrail ·.1)
          { reader := r, budget := body.budget } fields s)
      (fun _ t => ∃ s trailers, t =
          { body with reader := some s.reader, budget := s.budget, trailers := trailers } ∧
        RefusedSection body.maxHeaderBytes body.maxHeaderCount (mayTrail ·.1)
          { reader := r, budget := body.budget } s) := by
  induction fuel generalizing body r with
  | zero => exact absurd hfuel (Nat.not_lt_zero _)
  | succ fuel ih =>
    refine sat_read_bind.mpr (sat_bind.mpr ((sat_onMetered hr).mpr
      ((readMetadataLine_sat hwf hsound .readBody).imp₂ ?_ ?_)))
    · intro line s hline
      have hadv := hline.advances
      split_ifs with hnil
      · subst hnil
        exact ⟨s, [], by simp, .nil hline⟩
      · refine sat_bind.mpr ((sat_onMetered rfl).mpr
          ((countField_sat hadv.wf hadv.sound).imp₂ ?_ ?_))
        · rintro _ _ ⟨rfl, hle⟩
          refine sat_ofExcept_bind.mpr ⟨fun field hfield => ?_, fun e hbad => ?_⟩
          · refine sat_check_bind.mpr ⟨fun hallowed => ?_, fun hprohibited => ?_⟩
            · have hmore := hline.accepted hle field
              refine sat_bind.mpr ((sat_onMetered rfl).mpr ?_)
              refine (ih (by rfl) hmore.wf hmore.sound (hline.rest_lt hfuel)).imp₂ ?_ ?_
              · rintro _ t ⟨u, fields, rfl, hrest⟩
                refine ⟨u, field :: fields, by simp [Headers.append], ?_⟩
                exact .cons hline hnil hle hfield (by simpa [mayTrail_eq] using hallowed) hrest
              · rintro e t ⟨u, trailers, rfl, hrest⟩
                exact ⟨u, trailers, rfl, .cons hline hnil hle hrest⟩
            · refine ⟨s.counted, body.trailers, rfl, .of_field hline hnil fun other hother => ?_⟩
              obtain rfl := Except.ok.inj (hfield.symm.trans hother)
              simpa [mayTrail_eq] using hprohibited
          · exact ⟨s.counted, body.trailers, rfl, .of_field hline hnil (by simp [hbad])⟩
        · rintro e u ⟨hmore, hmany⟩
          exact ⟨u, body.trailers, rfl, .of_count hline hnil hmore hmany⟩
    · rintro e s ⟨hadv, -, hfail⟩
      exact ⟨s, body.trailers, rfl, .of_line hadv hfail⟩

lemma lastChunk_eq {bytes after : List UInt8} {fields : List Field}
    (h : fieldSection bytes = some (fields, after))
    (hallowed : ∀ field ∈ fields, mayTrail field.1) :
    lastChunk bytes = some
      { payload := []
        trailers := fields
        trailerBytes := bytes.length - after.length
        longestSizeLine := 0 } := by
  unfold lastChunk guard
  simp only [h, Option.bind_eq_bind, Option.bind_some]
  rw [if_pos hallowed]
  rfl

/-- The last chunk and its trailers, which end the body. -/
lemma readLastChunk_reads (h : body.Sound) (hr : body.reader = some r) :
    body.Reads (lastChunk r.rest)
      ((do
        readTrailers
        Call.modify close
        pure [] : Call Body Error (List UInt8)) body) := by
  have hfuel : r.rest.length < body.available + 1 := by
    simp [available, hr, WireReader.rest]
  refine sat_bind.mpr
    ((readTrailersLoop_sat hr (h.reader r hr) h.budget hfuel).imp₂ ?_ ?_)
  · rintro _ t ⟨s, fields, rfl, hadv, hkept, hsection, hallowed, htotal⟩
    dsimp only at hkept hsection htotal
    have hread := advances_metered h hr ⟨body.trailers.fields ++ fields⟩ hadv
    refine ⟨by simpa using hread.trans (advances_close hread.sound), fun _ => rfl,
      fun hcount => ⟨hkept hcount, fun payload trailers => ?_⟩⟩
    have hweight := hadv.weight_eq
    have hle := hadv.sound.bytes_le
    have hdecoded := h.decoded
    have hcount' := hkept hcount
    have hless := length_of_fieldSection hsection
    simp only [weight] at hweight
    rw [lastChunk_eq hsection hallowed]
    constructor
    · rintro ⟨_, hk, -, rfl, rfl⟩
      obtain rfl := Option.some.inj hk
      refine ⟨[], rfl, .plain [], rfl, ⟨?_, ?_, ?_, Nat.zero_le _⟩, rfl, by simp [plain, close]⟩
      · simpa [plain, close] using hdecoded
      · simpa [plain, close] using hle
      · simpa [plain, close] using hcount'
    · rintro ⟨_, rfl, _, hk, -, rfl, rfl⟩
      obtain rfl := Option.some.inj hk
      refine ⟨_, rfl, ⟨?_, ?_, ?_, Nat.zero_le _⟩, rfl, by simp [plain, close]⟩
      · simpa using hdecoded
      · dsimp only
        omega
      · dsimp only
        omega
  · rintro e t ⟨s, trailers, rfl, hadv, hrefuses⟩
    refine ⟨advances_metered h hr trailers hadv, fun hu payload trailers => ?_⟩
    rintro ⟨k, hk, hadmits, -, -⟩
    unfold lastChunk guard at hk
    simp only [Option.bind_eq_bind, Option.bind_eq_some_iff] at hk
    obtain ⟨⟨fields, after⟩, hsection, _, hguard, hk⟩ := hk
    obtain rfl := Option.some.inj hk
    have hallowed : ∀ field ∈ fields, mayTrail field.1 := by
      by_contra hnot
      rw [if_neg hnot] at hguard
      simp at hguard
    have hbytes := hadmits.trailerBytes
    have hcount := hadmits.trailers
    have hless := length_of_fieldSection hsection
    have := hrefuses (hu r hr) fields after hsection hallowed
    simp only [weight] at this
    dsimp only at hbytes hcount hless
    omega

/-! ## The reads of the body -/

variable (h : body.Sound)
include h

lemma startChunk_sat (size : Nat) :
    (startChunk size body).Ends (fun _ t => t = { body with state := .chunked size false })
      (fun _ t => body = t ∧ body.maxBodyBytes.toNat - body.decodedBytes < size) := by
  refine sat_read_bind.mpr (sat_bind.mpr ((subtract_sat h.decoded).imp ?_))
  rintro _ _ ⟨rfl, rfl⟩
  exact sat_check_bind.mpr ⟨fun _ => rfl, fun hbig => ⟨rfl, by omega⟩⟩

lemma readNextChunk_reads {outputLen : Nat} (hout : 0 < outputLen) (hopen : body.state ≠ .empty) :
    body.Reads (chunks body.rest) (readNextChunk outputLen body) := by
  obtain ⟨r, hr⟩ := exists_reader h hopen
  rw [rest_of_reader hr]
  refine sat_seq (readSizeLine_sat h hr) ?_ ?_
  · rintro size t ⟨hadv, line, r', rfl, hline, hsize, hshort⟩
    split_ifs with hzero
    · subst hzero
      have hchunks : chunks r.rest = (lastChunk r'.rest).map (underLine line) := by
        rw [chunks_of_line hline, hsize]
      refine Reads.of_silent hadv rfl (fun payload trailers => ?_)
        (readLastChunk_reads hadv.sound rfl)
      rw [hchunks, yields_underLine hshort]
      exact yields_congr (by rfl) (by rfl) (by rfl) (by rfl) _ _
    · obtain ⟨n, rfl⟩ := Nat.exists_eq_succ_of_ne_zero hzero
      have hchunks := chunks_of_size hline hsize
      refine sat_seq (startChunk_sat hadv.sound (n + 1)) ?_ ?_
      · rintro _ _ rfl
        have hmoved := advances_state hadv.sound (.chunked (n + 1) false) hopen (by simp) (by simp)
        refine Reads.of_silent (hadv.trans hmoved) rfl (fun payload trailers => ?_)
          (readChunkData_reads hmoved.sound hout (Nat.succ_pos n) (by simp))
        rw [hchunks, yields_underLine hshort]
        exact yields_congr (by rfl) (by rfl) (by rfl) (by rfl) _ _
      · rintro e _ ⟨rfl, hbig⟩
        refine ⟨hadv, fun _ payload trailers => ?_⟩
        rw [hchunks, yields_underLine hshort]
        rintro ⟨k, hk, hadmits, -, -⟩
        have hlen := length_of_inChunk hk
        have hpayload := hadmits.payload
        dsimp only at hbig
        omega
  · rintro e t ⟨hadv, hfail⟩
    exact ⟨hadv, fun hu => hfail (hu r hr)⟩

lemma readChunked_reads {needsDataCrlf : Bool} (hout : 0 < outputLen)
    (hstate : body.state = .chunked n needsDataCrlf) :
    body.Reads (remaining body.state body.rest) (readChunked outputLen n needsDataCrlf body) := by
  have hopen : body.state ≠ .empty := by simp [hstate]
  unfold readChunked
  rw [hstate, remaining]
  split_ifs with hn hneeds
  · exact readChunkData_reads h hout hn hopen
  · obtain ⟨r, hr⟩ := exists_reader h hopen
    rw [rest_of_reader hr]
    refine sat_seq (readDataCrlf_sat h hr hopen) ?_ ?_
    · rintro _ t ⟨hadv, r', rfl, hafter⟩
      refine Reads.of_silent hadv rfl (fun payload trailers => ?_)
        (readNextChunk_reads hadv.sound hout (by simp))
      rw [hafter]
      exact yields_congr (by rfl) (by rfl) (by rfl) (by rfl) _ _
    · rintro e t ⟨hadv, hfail⟩
      refine ⟨hadv, fun hu payload trailers => ?_⟩
      rintro ⟨k, hk, -⟩
      rw [hfail (hu r hr)] at hk
      simp at hk
  · exact readNextChunk_reads h hout hopen

/-- **What a read does**, from every state of the body. -/
theorem readChunkUnlatched_reads {outputLen : Nat} (hout : 0 < outputLen) :
    body.Reads (remaining body.state body.rest) (readChunkUnlatched outputLen body) := by
  have hcheck : (checkReader body).Ends
      (fun _ t => body.Advances [] t ∧ t.state = body.state ∧ t.budget = body.budget ∧
        t.trailers = body.trailers ∧ t.rest = body.rest)
      (fun _ t => body.Advances [] t ∧ ¬body.Undisturbed) := by
    unfold checkReader
    split
    · exact ⟨.refl h, rfl, rfl, rfl, rfl⟩
    · rename_i r hr
      refine (sat_onReader hr).mpr
        ((checkControl_sat (h.reader r hr) .readBody).imp₂ ?_ ?_)
      · rintro _ r' ⟨htook, -, -, -⟩
        have hrest : r.rest = r'.rest := by simpa using htook.rest_eq
        exact ⟨advances_reader h hr htook, rfl, rfl, rfl, by simp only [rest, hr, hrest]⟩
      · intro e r' hspared
        exact ⟨advances_reader h hr hspared.took, fun hu => hspared.disturbed (hu r hr)⟩
  refine sat_seq hcheck ?_ ?_
  · rintro _ t ⟨hadv, hstate, hbudget, htrailers, hrest⟩
    rw [← hstate, ← hrest]
    refine Reads.of_silent hadv hbudget (fun payload trailers =>
      yields_congr (by simpa using hadv.decoded_eq) hadv.limits_eq hbudget htrailers payload trailers) ?_
    refine sat_read_bind.mpr ?_
    generalize hcase : t.state = state
    cases state with
    | empty =>
      refine ⟨.refl hadv.sound, fun _ => hcase, fun hcount => ⟨hcount, fun payload trailers => ?_⟩⟩
      rw [hcase]
      simp [remaining]
    | contentLength n =>
      have hread := readContentLength_reads hadv.sound hout hcase
      rwa [hcase] at hread
    | chunked n needsDataCrlf =>
      have hread := readChunked_reads hadv.sound hout hcase
      rwa [hcase] at hread
    | connectionClose =>
      have hread := readConnectionClose_reads hadv.sound hout hcase
      rwa [hcase] at hread
  · rintro e t ⟨hadv, hnot⟩
    exact ⟨hadv, fun hu => absurd hu hnot⟩

end Body

end WildBuzzard.Net
