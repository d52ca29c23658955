import WildBuzzard.Net.Decoding

/-!
# Limits and the terminal error

A request is executed and its body is read by any sequence of `read_chunk` calls, with empty buffers
among them, over any script of segments, timeouts and failures and with any cancellation
(`responses_keep_limits`): no call halts, **the bytes counted are the bytes delivered and no limit is
exceeded**, the metadata counted are lines of the stream, and an error other than a cancellation or
a timeout is repeated by every later read.
-/

namespace WildBuzzard.Net

open Lib Reference

/-- One `read_chunk` call and what it returned. -/
structure ReadEvent where
  outputLen : Nat
  result : Except Error (List UInt8)
  deriving Repr

namespace ReadEvent

/-- The bytes that were delivered. -/
def delivered : ReadEvent → List UInt8
  | ⟨_, .ok bytes⟩ => bytes
  | ⟨_, .error _⟩ => []

/-- A read of a body that has a terminal error. -/
def Echoes (e : Error) (event : ReadEvent) : Prop :=
  event.result = if event.outputLen = 0 then .ok [] else .error e

lemma Echoes.delivered_eq {e : Error} {event : ReadEvent} (h : event.Echoes e) :
    event.delivered = [] := by
  obtain ⟨outputLen, result⟩ := event
  have hresult : result = if outputLen = 0 then .ok [] else .error e := h
  rw [hresult]
  split_ifs <;> rfl

end ReadEvent

namespace Body

/-- One call and its record. -/
def readEvent (outputLen : Nat) : Call Body Empty ReadEvent :=
  Call.settle (fun bytes => ⟨outputLen, .ok bytes⟩) (fun e => ⟨outputLen, .error e⟩)
    (readChunk outputLen)

/-- Read into buffers of these sizes, one after another, whatever the reads return. -/
def readEvents (sizes : List Nat) : Call Body Empty (List ReadEvent) :=
  Call.runAll readEvent sizes

/-- Only a cancellation and a timeout can be followed by another read. -/
lemma isTerminalBodyError_of_ne {e : Error} (hcancelled : e ≠ .cancelled)
    (htimeout : ∀ operation, e ≠ .timeout operation) : isTerminalBodyError e := by
  cases e with
  | cancelled => exact absurd rfl hcancelled
  | timeout operation => exact absurd rfl (htimeout operation)
  | _ => rfl

/-- A terminal error that was returned is latched, and every later read repeated it. -/
def Poisoned (log : List ReadEvent) (body : Body) : Prop :=
  ∀ before event after e, log = before ++ event :: after → event.result = .error e →
    isTerminalBodyError e → (∀ later ∈ after, later.Echoes e) ∧ body.terminalError = some e ∧
      body.trailers = .new

/-- What holds after every sequence of reads of a body that was created with this configuration, in
a response on this stream. -/
structure Kept (config : ClientConfig) (stream : List UInt8) (log : List ReadEvent)
    (body : Body) : Prop where
  sound : body.Sound
  records : Records [] stream body.budget.lines body.rest
  limits_eq : body.limits =
    [config.maxBodyBytes, config.maxHeaderBytes, config.maxHeaderCount, config.maxChunkLineBytes]
  decoded_eq : body.decodedBytes = (log.flatMap ReadEvent.delivered).length
  latched : ∀ e, body.terminalError = some e → body.trailers = .new
  poisoned : Poisoned log body

variable {body : Body} {config : ClientConfig} {stream : List UInt8} {log : List ReadEvent}

lemma sound_poison (h : body.Sound) (e : Error) : (poison e body).Sound := by
  refine ⟨?_, h.decoded, h.budget, by simp [poison], ?_⟩
  · intro r hr
    simp [poison] at hr
  · intro n hn
    simp [poison] at hn

/-- What one more read can do. -/
inductive Step (outputLen : Nat) (body : Body) : Except Error (List UInt8) → Body → Prop
  /-- An empty buffer. -/
  | nothing (h : outputLen = 0) : Step outputLen body (.ok []) body
  /-- The terminal error again. -/
  | again {e : Error} (h : body.terminalError = some e) : Step outputLen body (.error e) body
  /-- Bytes are delivered, or the body has ended. -/
  | deliver {bytes : List UInt8} {t : Body} (hlive : body.terminalError = none)
      (h : body.Advances bytes t) : Step outputLen body (.ok bytes) t
  /-- The read was interrupted. -/
  | interrupt {e : Error} {t : Body} (hlive : body.terminalError = none)
      (he : isTerminalBodyError e = false) (h : body.Advances [] t) :
      Step outputLen body (.error e) t
  /-- The body is poisoned. -/
  | poison {e : Error} {t : Body} (hlive : body.terminalError = none) (h : body.Advances [] t) :
      Step outputLen body (.error e) (Body.poison e t)

/-- **A read is one of these steps.** -/
theorem readEvent_step (h : body.Sound) (outputLen : Nat) :
    (readEvent outputLen body).Ends
      (fun event t => event.outputLen = outputLen ∧ (outputLen = 0 → event.result = .ok []) ∧
        Step outputLen body event.result t) (fun _ _ => False) := by
  refine Call.sat_settle.mpr ?_
  by_cases hzero : outputLen = 0
  · unfold readChunk
    rw [if_pos hzero]
    exact ⟨rfl, fun _ => rfl, .nothing hzero⟩
  · cases hlive : body.terminalError with
    | some e =>
      unfold readChunk
      rw [if_neg hzero, hlive]
      exact ⟨rfl, fun hn => absurd hn hzero, .again hlive⟩
    | none =>
      refine (readChunk_sat h hlive (Nat.pos_of_ne_zero hzero)).imp₂ ?_ ?_
      · rintro bytes t ⟨hadv, -, -⟩
        exact ⟨rfl, fun hn => absurd hn hzero, .deliver hlive hadv⟩
      · rintro e _ ⟨⟨u, hadv, rfl⟩, -⟩
        refine ⟨rfl, fun hn => absurd hn hzero, ?_⟩
        by_cases he : isTerminalBodyError e = true
        · rw [if_pos he]
          exact .poison hlive hadv
        · rw [if_neg he]
          exact .interrupt hlive (by simpa using he) hadv

section step

variable {outputLen : Nat} {result : Except Error (List UInt8)} {t : Body}

/-- After the terminal error nothing changes. -/
lemma Step.of_latched {e : Error} (h : Step outputLen body result t)
    (hzero : outputLen = 0 → result = .ok []) (he : body.terminalError = some e) :
    body = t ∧ ReadEvent.Echoes e ⟨outputLen, result⟩ := by
  unfold ReadEvent.Echoes
  cases h with
  | nothing hn => exact ⟨rfl, by rw [if_pos hn]⟩
  | again hlatched =>
    rw [he] at hlatched
    obtain rfl := Option.some.inj hlatched
    refine ⟨rfl, ?_⟩
    by_cases hn : outputLen = 0
    · exact absurd (hzero hn) (by simp)
    · rw [if_neg hn]
  | deliver hlive => simp [hlive] at he
  | interrupt hlive => simp [hlive] at he
  | poison hlive => simp [hlive] at he

/-- A read counts the bytes it delivers. -/
lemma Step.decoded_eq (h : Step outputLen body result t) :
    t.decodedBytes = body.decodedBytes + (ReadEvent.delivered ⟨outputLen, result⟩).length := by
  cases h with
  | nothing => rfl
  | again => rfl
  | deliver _ hadv => exact hadv.decoded_eq
  | interrupt _ _ hadv => exact hadv.decoded_eq
  | poison _ hadv => exact hadv.decoded_eq

/-- The metadata of the read are lines of the stream. -/
lemma Step.records (h : Step outputLen body result t) :
    Records body.budget.lines body.rest t.budget.lines t.rest := by
  cases h with
  | nothing => exact .refl
  | again => exact .refl
  | deliver _ hadv => exact hadv.records
  | interrupt _ _ hadv => exact hadv.records
  | poison _ hadv => exact hadv.records.trans (.skip (List.append_nil _).symm)

/-- One more read keeps the terminal error. -/
lemma Poisoned.concat (h : Poisoned log body)
    (hlatched : ∀ e, body.terminalError = some e → body.trailers = .new)
    (hstep : Step outputLen body result t) (hzero : outputLen = 0 → result = .ok []) :
    Poisoned (log ++ [⟨outputLen, result⟩]) t := by
  intro before event after e hlog hresult he
  obtain ⟨-, hnil⟩ | ⟨rest, hlog', hrest⟩ := concat_eq_append_cases hlog
  · simp at hnil
  · rcases rest with _ | ⟨first, rest⟩
    · -- the read that was just made
      obtain ⟨rfl, rfl⟩ : event = ⟨outputLen, result⟩ ∧ after = [] := by simpa using hrest
      refine ⟨by simp, ?_⟩
      subst hresult
      cases hstep with
      | again hsome => exact ⟨hsome, hlatched e hsome⟩
      | interrupt _ hnot => simp [hnot] at he
      | poison => exact ⟨rfl, rfl⟩
    · obtain ⟨rfl, rfl⟩ : event = first ∧ after = rest ++ [⟨outputLen, result⟩] := by
        simpa using hrest
      obtain ⟨hechoes, hsome, htrailers⟩ := h before event rest e hlog' hresult he
      obtain ⟨rfl, hecho⟩ := hstep.of_latched hzero hsome
      refine ⟨fun later hlater => ?_, hsome, htrailers⟩
      rcases List.mem_append.mp hlater with hlater | hlater
      · exact hechoes later hlater
      · rw [List.mem_singleton.mp hlater]
        exact hecho

/-- **One more read keeps the limits.** -/
theorem Kept.concat (h : Kept config stream log body) (hstep : Step outputLen body result t)
    (hzero : outputLen = 0 → result = .ok []) :
    Kept config stream (log ++ [⟨outputLen, result⟩]) t := by
  have hpoisoned := h.poisoned.concat h.latched hstep hzero
  have hdecoded : t.decodedBytes =
      ((log ++ [(⟨outputLen, result⟩ : ReadEvent)]).flatMap ReadEvent.delivered).length := by
    rw [hstep.decoded_eq, h.decoded_eq]
    simp
  have hrecords := h.records.trans hstep.records
  cases hstep with
  | nothing => exact ⟨h.sound, hrecords, h.limits_eq, hdecoded, h.latched, hpoisoned⟩
  | again => exact ⟨h.sound, hrecords, h.limits_eq, hdecoded, h.latched, hpoisoned⟩
  | deliver hlive hadv =>
    refine ⟨hadv.sound, hrecords, hadv.limits_eq.trans h.limits_eq, hdecoded, ?_, hpoisoned⟩
    intro e he
    simp [hadv.terminalError_eq, hlive] at he
  | interrupt hlive _ hadv =>
    refine ⟨hadv.sound, hrecords, hadv.limits_eq.trans h.limits_eq, hdecoded, ?_, hpoisoned⟩
    intro e he
    simp [hadv.terminalError_eq, hlive] at he
  | poison _ hadv =>
    exact ⟨sound_poison hadv.sound _, hrecords, hadv.limits_eq.trans h.limits_eq,
      hdecoded, fun _ _ => rfl, hpoisoned⟩

end step

/-- Every sequence of reads keeps the limits. -/
lemma readEvents_sat (h : Kept config stream [] body) (sizes : List Nat) :
    (readEvents sizes body).Ends (fun log t => Kept config stream log t) (fun _ _ => False) := by
  have hstep : ∀ past t outputLen, Kept config stream past t →
      (readEvent outputLen t).Ends (fun event u => Kept config stream (past ++ [event]) u)
        (fun _ _ => False) := by
    intro past t outputLen hkept
    refine (readEvent_step hkept.sound outputLen).imp ?_
    rintro ⟨outputLen', result⟩ u ⟨rfl, hzero, hstep⟩
    exact hkept.concat hstep hzero
  exact Call.sat_runAll hstep h sizes

lemma outputLen_readEvents {sizes : List Nat} {t : Body} (h : readEvents sizes body = .ok log t) :
    log.map ReadEvent.outputLen = sizes := by
  refine Call.map_runAll (fun outputLen s event u hevent => ?_) h
  unfold readEvent Call.settle at hevent
  split at hevent
  · rw [← (Outcome.ok.inj hevent).1]
  · rw [← (Outcome.ok.inj hevent).1]
  · simp at hevent

/-- A body that nothing was read of. -/
lemma kept_new {reader : WireReader} {framing : BodyFraming} {budget : HeaderBudget}
    (hwf : reader.Wf) (hbudget : budget.SoundIn config)
    (hrecords : Records [] stream budget.lines reader.rest) :
    Kept config stream [] (Body.new reader framing config budget) := by
  refine ⟨sound_new hwf hbudget, hrecords.trans ?_, rfl, rfl, fun _ _ => rfl, ?_⟩
  · -- a body without content drops its reader
    simp only [new, rest]
    split_ifs
    · exact .skip (List.append_nil _).symm
    · exact .refl
  · intro before event after e hlog
    simp at hlog

end Body

/-! ## Whole responses -/

/-- The lines of the metadata that were accepted, as they came over the wire, are within the limit,
and so are the fields. -/
def HeaderBudget.WithinLimits (config : ClientConfig) (b : HeaderBudget) : Prop :=
  (b.lines.map fun line => line.length + 2).sum ≤ config.maxHeaderBytes.toNat ∧
    b.fields.length ≤ config.maxHeaderCount.toNat

lemma HeaderBudget.Sound.withinLimits {config : ClientConfig} {b : HeaderBudget}
    (h : b.SoundIn config) : b.WithinLimits config :=
  ⟨h.bytes_eq ▸ h.bytes_le, h.fields_le⟩

/-- **Responses keep their limits**, whatever the peer sends and however it is read. No call halts:
no subtraction underflows and no index is out of bounds. After every sequence of reads, the bytes
counted are the bytes delivered and within the limit, and so are the metadata, which are lines of
the stream, whether the head was read or not; once a read returned an error other than `Cancelled`
and `Timeout`, every later read into a buffer that is not empty returned that error and none
delivered a byte, and there are no trailers.
Source: `execute_prepared`, `parse_response_head` and `Body::read_chunk`. -/
theorem responses_keep_limits (method : Method) (policy : RedirectPolicy) (config : ClientConfig)
    (written : Except Error Unit) (script : List SocketEvent) (checks : List Control) :
    (executePrepared method policy config written (.new script checks)).Sat
      (fun response _ => ∀ sizes, ∃ log body, Body.readEvents sizes response.body = .ok log body ∧
        log.map ReadEvent.outputLen = sizes ∧
        body.decodedBytes = (log.flatMap ReadEvent.delivered).length ∧
        body.decodedBytes ≤ config.maxBodyBytes.toNat ∧ body.budget.WithinLimits config ∧
        LinesOf body.budget.lines (script.flatMap SocketEvent.bytes) ∧
        ∀ before event after e, log = before ++ event :: after → event.result = .error e →
          e ≠ .cancelled → (∀ operation, e ≠ .timeout operation) →
            (∀ later ∈ after, later.outputLen ≠ 0 → later.result = .error e) ∧
            (∀ later ∈ after, later.delivered = []) ∧ body.trailers = .new)
      (fun _ s => s.budget.WithinLimits config ∧
        LinesOf s.budget.lines (script.flatMap SocketEvent.bytes)) (fun _ => False) := by
  have hstart := executePrepared_sat method policy config written
    (s := Metered.new script checks) (Nat.zero_le _) (HeaderBudget.sound_new _ _) (Nat.zero_le _)
  refine hstart.imp₂ ?_ ?_
  · rintro response t ⟨h, hcommitted, -⟩ sizes
    have hadv := hcommitted.advances
    have hkept : Body.Kept config (script.flatMap SocketEvent.bytes) [] response.body := by
      rw [hcommitted.body_eq]
      exact Body.kept_new hadv.wf hadv.sound hadv.records
    obtain ⟨log, body, hrun, hend⟩ := (Body.readEvents_sat hkept sizes).exists_ok
    have hlimits := hend.limits_eq
    simp only [Body.limits, List.cons.injEq] at hlimits
    have hbudget := hend.sound.budget
    rw [hlimits.2.1, hlimits.2.2.1] at hbudget
    refine ⟨log, body, hrun, Body.outputLen_readEvents hrun, hend.decoded_eq,
      hlimits.1 ▸ hend.sound.decoded, hbudget.withinLimits, hend.records.linesOf, ?_⟩
    intro before event after e hlog hresult hcancelled htimeout
    have he := Body.isTerminalBodyError_of_ne hcancelled htimeout
    obtain ⟨hechoes, -, htrailers⟩ := hend.poisoned before event after e hlog hresult he
    exact ⟨fun later hlater hne => (hechoes later hlater).trans (if_neg hne),
      fun later hlater => (hechoes later hlater).delivered_eq, htrailers⟩
  · rintro e s ⟨hadv, -⟩
    exact ⟨hadv.sound.withinLimits, hadv.records.linesOf⟩

end WildBuzzard.Net
