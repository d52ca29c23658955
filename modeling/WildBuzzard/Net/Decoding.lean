import WildBuzzard.Net.Delivery

/-!
# Responses, however they are cut

`fetch` executes a request and reads the body of the response to its end, into buffers of any
sizes, over a stream that arrives in any segments. It succeeds exactly when the reference decoder
finds a response in the stream that the limits admit (`fetch_sat`). So **the result is a function
of the stream alone** (`decoding_ignores_segmentation`).
-/

namespace WildBuzzard.Net

open Lib Reference Body Option

namespace Body

variable {body : Body}

/-- Read the body to its end, into buffers of these sizes; every round but the last delivers a byte.
Source: `Body::read_to_end`, whose buffer has 8 KiB. -/
def readAll (sizes : Nat → Nat) : Nat → Nat → Call Body Error (List UInt8)
  | 0, _ => fun _ => .halt .loop
  | fuel + 1, k => do
    let bytes ← readChunk (sizes k)
    if bytes = [] then pure []
    else do
      let rest ← readAll sizes fuel (k + 1)
      pure (bytes ++ rest)

lemma rest_lt_available (body : Body) : body.rest.length < body.available + 1 := by
  unfold rest available
  cases body.reader with
  | none => simp
  | some r => simp [WireReader.rest]

/-- A read of a body that has no terminal error. -/
lemma readChunk_sat (h : body.Sound) (hlive : body.terminalError = none) {outputLen : Nat}
    (hout : 0 < outputLen) :
    (readChunk outputLen body).Ends
      (fun bytes t => body.Advances bytes t ∧ (bytes = [] → t.state = .empty) ∧
        (body.budget.count ≤ body.maxHeaderCount.toNat →
          t.budget.count ≤ body.maxHeaderCount.toNat ∧
            body.Leaves (remaining body.state body.rest) bytes t))
      (fun e t => (∃ u, body.Advances [] u ∧ t = if isTerminalBodyError e then poison e u else u) ∧
        (body.Undisturbed → ∀ payload trailers,
          ¬body.Yields (remaining body.state body.rest) payload trailers)) := by
  have hread := readChunkUnlatched_reads h hout
  unfold readChunk
  rw [if_neg (by omega), hlive]
  cases hrun : readChunkUnlatched outputLen body with
  | ok bytes t => exact hread.of_ok hrun
  | err e t => exact ⟨⟨t, (hread.of_err hrun).1, rfl⟩, (hread.of_err hrun).2⟩
  | halt reason => exact hread.of_halt hrun

/-- **A body is read to its end exactly when the reference decoder finds its end.** -/
theorem readAll_sat {sizes : Nat → Nat} (hsizes : ∀ k, 0 < sizes k) {fuel : Nat} (k : Nat)
    (h : body.Sound) (hlive : body.terminalError = none)
    (hcount : body.budget.count ≤ body.maxHeaderCount.toNat) (hfuel : body.rest.length < fuel) :
    (readAll sizes fuel k body).Ends
      (fun bytes t => body.Yields (remaining body.state body.rest) bytes t.trailers.fields)
      (fun _ _ => body.Undisturbed → ∀ payload trailers,
        ¬body.Yields (remaining body.state body.rest) payload trailers) := by
  induction fuel generalizing body k with
  | zero => exact absurd hfuel (Nat.not_lt_zero _)
  | succ fuel ih =>
    refine Call.sat_seq (readChunk_sat h hlive (hsizes k)) ?_ ?_
    · rintro bytes t ⟨hadv, hend, hleaves⟩
      obtain ⟨hcount', hleaves⟩ := hleaves hcount
      have hlimits := hadv.limits_eq
      simp only [limits, List.cons.injEq] at hlimits
      split_ifs with hnil
      · subst hnil
        have hempty : remaining t.state t.rest = some (.plain []) := by rw [hend rfl, remaining]
        refine (hleaves [] _).mpr ⟨[], rfl, .plain [], hempty, ⟨?_, ?_, ?_, Nat.zero_le _⟩, rfl, ?_⟩
        · exact hadv.sound.decoded
        · exact hadv.sound.budget.bytes_le
        · rw [hlimits.2.2.1]
          exact hcount'
        · simp [Content.plain]
      · have hpos := List.length_pos_iff.mpr hnil
        have hless := hadv.rest_le
        rw [← hlimits.2.2.1] at hcount'
        refine Call.sat_seq (ih (k + 1) hadv.sound (hadv.terminalError_eq.trans hlive) hcount'
          (by omega)) ?_ ?_
        · exact fun rest u hyields => (hleaves _ _).mpr ⟨rest, rfl, hyields⟩
        · intro e u hfail hu payload trailers hyields
          obtain ⟨payload', -, hyields'⟩ := (hleaves payload trailers).mp hyields
          exact hfail (hadv.undisturbed hu) payload' trailers hyields'
    · rintro e t ⟨-, hfail⟩
      exact hfail

lemma sound_new {reader : WireReader} {framing : BodyFraming} {config : ClientConfig}
    {budget : HeaderBudget} (hwf : reader.Wf) (hbudget : budget.SoundIn config) :
    (new reader framing config budget).Sound := by
  refine ⟨?_, Nat.zero_le _, hbudget, ?_, ?_⟩
  · intro r hr
    simp only [new] at hr
    split_ifs at hr
    exact some.inj hr ▸ hwf
  · simp only [new]
    split_ifs with hempty
    · simpa using hempty
    · simpa using hempty
  · intro n hn
    match framing, hn with
    | .contentLength (m + 1), hn =>
      obtain rfl := BodyState.contentLength.inj hn
      exact Nat.succ_pos m

end Body

/-! ## Responses -/

/-- A reader that has read nothing, of a response of which nothing was counted. -/
def Metered.new (script : List SocketEvent) (checks : List Control) : Metered :=
  { reader := .new script checks, budget := .new }

/-- The response is as its head says, and nothing of its body was read. -/
structure Committed (config : ClientConfig) (s : Metered) (response : Response) (h : Heads)
    (t : Metered) : Prop where
  advances : Metered.Advances config.maxHeaderBytes config.maxHeaderCount s t
  head_eq : response.head = h.head
  body_eq : response.body = Body.new t.reader h.head.framing config t.budget
  rest_eq : h.rest = t.reader.rest
  count_eq : t.budget.count = s.budget.count + h.fieldCount
  admits : Metered.Admits config s.weight s.budget.count h

/-- **A response is committed exactly when the reference decoder finds its heads.** -/
theorem executePrepared_sat {s : Metered} (method : Method) (policy : RedirectPolicy)
    (config : ClientConfig) (written : Except Error Unit) (hwf : s.reader.Wf)
    (hsound : s.budget.SoundIn config) (hcount : s.budget.count ≤ config.maxHeaderCount.toNat) :
    (executePrepared method policy config written s).Ends
      (fun response t => ∃ h, Committed config s response h t ∧ written = .ok () ∧
        heads method 0 s.reader.rest = some h ∧ ¬(policy = .reject ∧ h.head.status.isRedirect))
      (fun _ t => Metered.AdvancesIn config s t ∧
        (s.reader.Undisturbed → written = .ok () → ∀ h, heads method 0 s.reader.rest = some h →
          ¬(policy = .reject ∧ h.head.status.isRedirect) →
            ¬Metered.Admits config s.weight s.budget.count h)) := by
  refine Call.sat_ofExcept_bind.mpr ⟨fun _ hwritten => ?_, fun e hbad => ?_⟩
  · refine Call.sat_bind.mpr
      ((Metered.parseResponseHead_sat method hwf hsound hcount).imp₂ ?_ ?_)
    · rintro head t ⟨hadv, h, hheads, rfl, hrest, htotal, hadmits⟩
      refine Call.sat_check_bind.mpr ⟨fun hpolicy => ?_, fun hredirect => ?_⟩
      · exact ⟨h, ⟨hadv, rfl, rfl, hrest, htotal, hadmits⟩, hwritten, hheads, hpolicy⟩
      · refine ⟨hadv, fun _ _ h' hsome hpolicy => absurd hpolicy ?_⟩
        rw [hheads] at hsome
        exact some.inj hsome ▸ hredirect
    · rintro e t ⟨hadv, hfail⟩
      exact ⟨hadv, fun hu _ h hsome _ => hfail hu h hsome⟩
  · refine ⟨.refl hwf hsound, fun _ hok => ?_⟩
    rw [hok] at hbad
    simp at hbad

/-- Segments of the stream, none of them empty. -/
abbrev Segments := List (UInt8 × List UInt8)

namespace Segments

/-- The script of a socket that delivers the segments. -/
def script (segments : Segments) : List SocketEvent := segments.map fun s => .data s.1 s.2

/-- The stream that was cut into the segments. -/
def stream (segments : Segments) : List UInt8 := segments.flatMap fun s => s.1 :: s.2

end Segments

/-- Execute a request and read the body of its response to the end, into buffers of these sizes.
`written` is what came of writing the request. -/
def fetch (method : Method) (policy : RedirectPolicy) (config : ClientConfig)
    (written : Except Error Unit) (segments : Segments) (sizes : Nat → Nat) :
    Outcome Unit Error Decoded :=
  match executePrepared method policy config written (.new segments.script []) with
  | .ok response _ =>
    match Body.readAll sizes (response.body.available + 1) 0 response.body with
    | .ok bytes body => .ok { head := response.head, body := bytes, trailers := body.trailers } ()
    | .err e _ => .err e ()
    | .halt reason => .halt reason
  | .err e _ => .err e ()
  | .halt reason => .halt reason

/-- The limits and the redirect policy admit the response. -/
structure Admissible (policy : RedirectPolicy) (config : ClientConfig) (d : Decoded) (u : Usage) :
    Prop where
  metadataBytes : u.metadataBytes ≤ config.maxHeaderBytes.toNat
  fieldCount : u.fieldCount ≤ config.maxHeaderCount.toNat
  informational : d.head.informationalResponses ≤ config.maxInformationalResponses.toNat
  body : d.body.length ≤ config.maxBodyBytes.toNat
  sizeLines : u.longestSizeLine ≤ config.maxChunkLineBytes.toNat
  policy : ¬(policy = .reject ∧ d.head.status.isRedirect)

/-- A body that was not read holds what its framing says about the rest of the stream. -/
lemma remaining_new (reader : WireReader) (framing : BodyFraming) (config : ClientConfig)
    (budget : HeaderBudget) :
    remaining (new reader framing config budget).state
        (new reader framing config budget).rest = content framing reader.rest := by
  rw [← remaining_initialState]
  simp only [new, rest]
  split_ifs with hempty
  · rw [hempty]
    rfl
  · rfl

/-- A length that is announced and kept is within the limit for bodies. -/
lemma fits_of_content {framing : BodyFraming} {bytes : List UInt8} {k : Content}
    {maxBodyBytes : UInt64} (hk : content framing bytes = some k)
    (h : k.payload.length ≤ maxBodyBytes.toNat) : HeadKind.Fits maxBodyBytes (.final framing) := by
  match framing, hk with
  | .none, _ => trivial
  | .chunked, _ => trivial
  | .connectionClose, _ => trivial
  | .contentLength n, hk =>
    simp only [content] at hk
    split_ifs at hk with hle
    obtain rfl := some.inj hk
    have hlength : n ≤ maxBodyBytes.toNat := by simpa [Content.plain, hle] using h
    exact hlength

/-- The response of these heads and this content. -/
abbrev decodedOf (h : Heads) (k : Content) : Decoded :=
  { head := h.head, body := k.payload, trailers := ⟨k.trailers⟩ }

/-- What that response uses of the limits. -/
abbrev usageOf (streamBytes : Nat) (h : Heads) (k : Content) : Usage where
  metadataBytes := streamBytes - h.rest.length + k.trailerBytes
  fieldCount := h.fieldCount + k.trailers.length
  longestSizeLine := k.longestSizeLine

section fetch

variable {config : ClientConfig} {stream : List UInt8} {h : Heads} {response : Response}
  {t : Metered} {k : Content}

/-- **The limits of the heads and of the body are the limits of the response.** -/
theorem admissible_iff (policy : RedirectPolicy) {s : Metered}
    (hcommitted : Committed config s response h t) (hbudget : s.budget = .new)
    (hpolicy : ¬(policy = .reject ∧ h.head.status.isRedirect)) :
    Admissible policy config (decodedOf h k) (usageOf s.reader.rest.length h k) ↔
      response.body.Admits k := by
  have hweight : t.budget.bytes + h.rest.length = s.reader.rest.length := by
    have := hcommitted.advances.weight_eq
    rw [Metered.weight, Metered.weight, hbudget, ← hcommitted.rest_eq] at this
    simpa [HeaderBudget.new] using this
  have hcount : t.budget.count = h.fieldCount := by
    have := hcommitted.count_eq
    rw [hbudget] at this
    simpa [HeaderBudget.new] using this
  have hinfo := hcommitted.admits.informational
  rw [hcommitted.body_eq]
  constructor
  · rintro ⟨hbytes, hfields, -, hbody, hlines, -⟩
    dsimp only at hbytes hfields hbody hlines
    refine ⟨by simpa [new] using hbody, ?_, ?_, hlines⟩
    · show t.budget.bytes + k.trailerBytes ≤ config.maxHeaderBytes.toNat
      omega
    · show t.budget.count + k.trailers.length ≤ config.maxHeaderCount.toNat
      omega
  · rintro ⟨hbody, hbytes, hfields, hlines⟩
    have hbytes' : t.budget.bytes + k.trailerBytes ≤ config.maxHeaderBytes.toNat := hbytes
    have hfields' : t.budget.count + k.trailers.length ≤ config.maxHeaderCount.toNat := hfields
    refine ⟨?_, ?_, hinfo, by simpa [new] using hbody, hlines, hpolicy⟩
    · dsimp only
      omega
    · dsimp only
      omega

/-- What the reference decoder makes of a stream that starts with these heads. -/
lemma response_of_heads {method : Method} (hheads : heads method 0 stream = some h) :
    Reference.response method stream =
      (content h.head.framing h.rest).map fun k => (decodedOf h k, usageOf stream.length h k) := by
  simp only [Reference.response, hheads, bind_eq_bind, bind_some]
  cases content h.head.framing h.rest <;> rfl

/-- What a body yields that was not read. -/
lemma yields_new {s : Metered} (hcommitted : Committed config s response h t)
    (payload : List UInt8) (trailers : List Field) :
    response.body.Yields (remaining response.body.state response.body.rest) payload trailers ↔
      ∃ k, content h.head.framing h.rest = some k ∧ response.body.Admits k ∧
        payload = k.payload ∧ trailers = k.trailers := by
  have hcontent : remaining response.body.state response.body.rest =
      content h.head.framing h.rest := by
    rw [hcommitted.body_eq, hcommitted.rest_eq]
    exact remaining_new t.reader h.head.framing config t.budget
  have htrailers : response.body.trailers.fields = [] := by
    rw [hcommitted.body_eq]
    rfl
  unfold Yields
  rw [hcontent, htrailers]
  rfl

/-- A response of the reference decoder consists of heads and a content. -/
lemma response_cases {method : Method} {d : Decoded} {u : Usage}
    (hresponse : Reference.response method stream = some (d, u)) :
    ∃ h k, heads method 0 stream = some h ∧ content h.head.framing h.rest = some k ∧
      d = decodedOf h k ∧ u = usageOf stream.length h k := by
  cases hheads : heads method 0 stream with
  | none => simp [Reference.response, hheads] at hresponse
  | some h =>
    rw [response_of_heads hheads] at hresponse
    obtain ⟨k, hk, heq⟩ := map_eq_some_iff.mp hresponse
    exact ⟨h, k, rfl, hk, (Prod.mk.inj heq).1.symm, (Prod.mk.inj heq).2.symm⟩

/-- The heads of a response that is admitted are admitted. -/
lemma heads_of_admissible {policy : RedirectPolicy} {script : List SocketEvent}
    (hstream : (Metered.new script []).reader.rest = stream)
    (hk : content h.head.framing h.rest = some k)
    (hadmissible : Admissible policy config (decodedOf h k) (usageOf stream.length h k)) :
    Metered.Admits config (Metered.new script []).weight 0 h := by
  have hbytes := hadmissible.metadataBytes
  have hfields := hadmissible.fieldCount
  dsimp only at hbytes hfields
  refine ⟨?_, by omega, hadmissible.informational, fits_of_content hk hadmissible.body⟩
  rw [Metered.weight, hstream]
  show 0 + stream.length ≤ _
  omega

end fetch

/-- **A fetch succeeds exactly when the stream holds a response** that the limits admit. -/
theorem fetch_sat (method : Method) (policy : RedirectPolicy) (config : ClientConfig)
    (written : Except Error Unit) (segments : Segments) {sizes : Nat → Nat}
    (hsizes : ∀ k, 0 < sizes k) :
    (fetch method policy config written segments sizes).Ends
      (fun d _ => written = .ok () ∧ ∃ u, Reference.response method segments.stream = some (d, u) ∧
        Admissible policy config d u) (fun _ _ => written = .ok () → ∀ d u,
        Reference.response method segments.stream = some (d, u) → ¬Admissible policy config d u) := by
  have hquiet : (Metered.new segments.script []).reader.Undisturbed := by
    refine ⟨rfl, fun e he => ?_⟩
    obtain ⟨p, -, rfl⟩ := List.mem_map.mp he
    exact ⟨p.1, p.2, rfl⟩
  have hstream : (Metered.new segments.script []).reader.rest = segments.stream := by
    simp only [Metered.new, WireReader.new, WireReader.rest, WireReader.pending, WireReader.unread,
      Segments.script, Segments.stream, List.drop_nil, List.nil_append, List.flatMap_map]
    rfl
  have hexec := executePrepared_sat method policy config written
    (s := Metered.new segments.script []) (Nat.zero_le _) (HeaderBudget.sound_new _ _)
    (Nat.zero_le _)
  unfold fetch
  cases hrun : executePrepared method policy config written (Metered.new segments.script []) with
  | halt reason => exact hexec.of_halt hrun
  | err e t =>
    intro hwritten d u hresponse hadmissible
    obtain ⟨h, k, hheads, hk, rfl, rfl⟩ := response_cases hresponse
    rw [← hstream] at hheads
    exact (hexec.of_err hrun).2 hquiet hwritten h hheads hadmissible.policy
      (heads_of_admissible hstream hk hadmissible)
  | ok response t =>
    obtain ⟨h, hcommitted, hwritten, hheads, hpolicy⟩ := hexec.of_ok hrun
    have hbody : response.body = new t.reader h.head.framing config t.budget :=
      hcommitted.body_eq
    have hadv := hcommitted.advances
    have hsound : response.body.Sound := by
      rw [hbody]
      exact sound_new hadv.wf hadv.sound
    have hlive : response.body.terminalError = none := by
      rw [hbody]
      rfl
    have hcount : response.body.budget.count ≤ response.body.maxHeaderCount.toNat := by
      rw [hbody]
      have hfields := hcommitted.admits.fields
      rw [← hcommitted.count_eq] at hfields
      exact hfields
    have hopen : response.body.Undisturbed := by
      intro r hr
      rw [hbody] at hr
      simp only [new] at hr
      split_ifs at hr
      exact some.inj hr ▸ hadv.undisturbed hquiet
    have hread := readAll_sat hsizes 0 hsound hlive hcount (response.body.rest_lt_available)
    dsimp only
    rw [hstream] at hheads
    have hresponse := response_of_heads hheads
    have hlimits := fun k => admissible_iff (k := k) policy hcommitted rfl hpolicy
    rw [hstream] at hlimits
    cases hall : readAll sizes (response.body.available + 1) 0 response.body with
    | halt reason => exact hread.of_halt hall
    | ok bytes body =>
      obtain ⟨k, hk, hadmits, rfl, htrailers⟩ :=
        (yields_new hcommitted _ _).mp (hread.of_ok hall)
      rw [hk] at hresponse
      have htrailers' : body.trailers = ⟨k.trailers⟩ := by rw [← htrailers]
      dsimp only
      rw [htrailers', hcommitted.head_eq]
      exact ⟨hwritten, _, hresponse, (hlimits k).mpr hadmits⟩
    | err e body =>
      intro _ d u hsome hadmissible
      rw [hresponse] at hsome
      obtain ⟨k, hk, heq⟩ := map_eq_some_iff.mp hsome
      obtain ⟨rfl, rfl⟩ := Prod.mk.inj heq
      exact hread.of_err hall hopen _ _
        ((yields_new hcommitted _ _).mpr ⟨k, hk, (hlimits k).mp hadmissible, rfl, rfl⟩)

/-- What a fetch that returns a response returns. -/
lemma fetch_eq_ok_iff {method : Method} {policy : RedirectPolicy} {config : ClientConfig}
    {written : Except Error Unit} {segments : Segments} {sizes : Nat → Nat}
    (hsizes : ∀ k, 0 < sizes k) {d : Decoded} :
    fetch method policy config written segments sizes = .ok d () ↔
      written = .ok () ∧ ∃ u, Reference.response method segments.stream = some (d, u) ∧
        Admissible policy config d u := by
  have h := fetch_sat method policy config written segments hsizes
  constructor
  · exact fun hfetch => h.of_ok hfetch
  · rintro ⟨hwritten, u, hresponse, hadmissible⟩
    cases hfetch : fetch method policy config written segments sizes with
    | ok d' _ =>
      obtain ⟨-, u', hresponse', -⟩ := h.of_ok hfetch
      rw [hresponse] at hresponse'
      rw [(Prod.mk.inj (some.inj hresponse')).1]
    | err e _ => exact absurd hadmissible (h.of_err hfetch hwritten d u hresponse)
    | halt reason => exact (h.of_halt hfetch).elim

/-- **The response is a function of the stream alone**: two fetches over the same stream, in any
segments and into buffers of any sizes, either both fail, or both return one response, which is the
one the reference decoder finds in the stream.
Source: `execute_prepared`, `Body::read_chunk` and `Body::read_to_end`. -/
theorem decoding_ignores_segmentation (method : Method) (policy : RedirectPolicy)
    (config : ClientConfig) (written : Except Error Unit) (a b : Segments)
    (hstream : a.stream = b.stream) (sizes sizes' : Nat → Nat) (hsizes : ∀ k, 0 < sizes k)
    (hsizes' : ∀ k, 0 < sizes' k) :
    ((∃ e, fetch method policy config written a sizes = .err e ()) ∧
        ∃ e, fetch method policy config written b sizes' = .err e ()) ∨
      ∃ d, fetch method policy config written a sizes = .ok d () ∧
        fetch method policy config written b sizes' = .ok d () ∧
        Reference.decode method a.stream = some d := by
  have ha := fetch_sat method policy config written a hsizes
  have hb := fetch_sat method policy config written b hsizes'
  cases hfetch : fetch method policy config written a sizes with
  | ok d _ =>
    obtain ⟨hwritten, u, hresponse, hadmissible⟩ := ha.of_ok hfetch
    refine .inr ⟨d, rfl, ?_, by rw [Reference.decode, hresponse]; rfl⟩
    rw [hstream] at hresponse
    exact (fetch_eq_ok_iff hsizes').mpr ⟨hwritten, u, hresponse, hadmissible⟩
  | err e _ =>
    refine .inl ⟨⟨e, rfl⟩, ?_⟩
    cases hfetch' : fetch method policy config written b sizes' with
    | ok d _ =>
      obtain ⟨hwritten, u, hresponse, hadmissible⟩ := hb.of_ok hfetch'
      rw [← hstream] at hresponse
      exact absurd hadmissible (ha.of_err hfetch hwritten d u hresponse)
    | err e' _ => exact ⟨e', rfl⟩
    | halt reason => exact (hb.of_halt hfetch').elim
  | halt reason => exact (ha.of_halt hfetch).elim

/-- A chunked response in one segment. -/
def wholeResponse : Segments :=
  [(72, ascii "TTP/1.1 200 OK\r\nTransfer-Encoding: chunked\r\n\r\n2\r\nxy\r\n0\r\n\r\n")]

/-- The same response, cut inside its line endings and its data. -/
def cutResponse : Segments :=
  [(72, ascii "TTP/1.1 200 OK\r"), (10, ascii "Transfer-Encoding: chunked\r\n\r"),
    (10, ascii "2\r\nx"), (121, ascii "\r"), (10, ascii "0\r\n\r\n")]

/-- Both are read to the two bytes they carry, into buffers of different sizes. -/
theorem decoding_ignores_segmentation_chunked :
    (fetch .get .manual .default (.ok ()) wholeResponse fun _ => 1).value?.map Decoded.body =
        some (ascii "xy") ∧
      fetch .get .manual .default (.ok ()) wholeResponse (fun _ => 1) =
        fetch .get .manual .default (.ok ()) cutResponse fun k => k + 5 := by
  have hbody : (fetch .get .manual .default (.ok ()) wholeResponse fun _ => 1).value?.map
      Decoded.body = some (ascii "xy") := by decide +kernel
  refine ⟨hbody, ?_⟩
  obtain ⟨⟨e, he⟩, -⟩ | ⟨d, hd, hd', -⟩ := decoding_ignores_segmentation .get .manual .default
    (.ok ()) wholeResponse cutResponse (by decide +kernel) (fun _ => 1) (fun k => k + 5)
    (fun _ => Nat.one_pos) (fun _ => Nat.succ_pos _)
  · rw [he] at hbody
    simp [Outcome.value?] at hbody
  · rw [hd, hd']

end WildBuzzard.Net
