import WildBuzzard.Lib.Erasure
import WildBuzzard.Net.Decoding

/-!
# Responses without timeouts

Taking the timeouts out of the script of a reader gives a reader of the same stream in the same
segments that is never interrupted. **What a call does on a reader with timeouts, unless it times
out, it does on the reader without them**: `Call.Erasable` for the calls that read a response, one
after the other. A buffer that is used up is dropped, as the next call that fills it does.
-/

namespace WildBuzzard.Net

open Lib Call WireReader List SocketEvent

/-- The error of a read that was interrupted. -/
def Error.IsTimeout : Error → Prop
  | .timeout _ => True
  | _ => False

instance (e : Error) : Decidable e.IsTimeout := by
  unfold Error.IsTimeout
  split <;> infer_instance

/-- A read of the socket that returns this times out. -/
def SocketEvent.interrupts : SocketEvent → Bool
  | .timeout => true
  | .fail (.kind .timedOut) => true
  | .fail (.kind .wouldBlock) => true
  | _ => false

lemma isTimeout_ofIo {operation : Operation} {failure : IoFailure} :
    (Error.ofIo operation failure).IsTimeout ↔ (SocketEvent.fail failure).interrupts = true := by
  unfold Error.ofIo interrupts Error.IsTimeout
  rcases failure with failure | kind
  · simp
  · cases kind <;> simp

namespace WireReader

/-- The reader without interruptions. -/
def calm (r : WireReader) : WireReader :=
  compactIfConsumed { r with script := r.script.filter (!·.interrupts) }

/-- Readers without their interruptions, when nothing is cancelled. -/
def eraser : Eraser WireReader Error where
  erase := calm
  Valid r := r.Wf ∧ r.checks = []
  burden r := r.script.countP SocketEvent.interrupts
  Skipped := Error.IsTimeout

variable {r : WireReader} {limitError : Error} (n : Nat) (operation : Operation)

section

variable (r : WireReader)

lemma eraser_erase : eraser.erase r = r.calm := rfl

@[simp] lemma calm_checks : r.calm.checks = r.checks := by
  unfold calm compactIfConsumed
  split_ifs <;> rfl

@[simp] lemma calm_script : r.calm.script = r.script.filter (!·.interrupts) := by
  unfold calm compactIfConsumed
  split_ifs <;> rfl

@[simp] lemma calm_pending : r.calm.pending = r.pending := by
  unfold calm compactIfConsumed pending
  split_ifs with h
  · dsimp only at h ⊢
    rw [h]
    simp
  · rfl

lemma bytes_of_interrupts {event : SocketEvent} (h : event.interrupts = true) :
    event.bytes = [] := by
  cases event with
  | data first rest => simp [interrupts] at h
  | timeout => rfl
  | fail failure => rfl

@[simp] lemma calm_unread : r.calm.unread = r.unread := by
  unfold unread
  rw [calm_script]
  induction r.script with
  | nil => rfl
  | cons event rest ih =>
    by_cases h : event.interrupts = true
    · simp [h, ih, bytes_of_interrupts h]
    · simp [h, ih]

end

/-- A buffer that is not used up is kept. -/
lemma calm_of_lt (h : r.cursor < r.buffer.length) :
    r.calm = { r with script := r.script.filter (!·.interrupts) } := by
  unfold calm compactIfConsumed
  rw [if_neg (by dsimp only; omega)]

lemma calm_cursor_lt : r.calm.cursor < r.calm.buffer.length ↔ r.cursor < r.buffer.length := by
  unfold calm compactIfConsumed
  split_ifs with h
  · dsimp only at h ⊢
    simp [h]
  · rfl

lemma calm_cursor_le : r.calm.cursor ≤ r.calm.buffer.length ↔ r.cursor ≤ r.buffer.length := by
  unfold calm compactIfConsumed
  split_ifs with h
  · dsimp only at h ⊢
    simp [h]
  · rfl

/-- Only the script of the reader changes. -/
lemma calm_with_script (script : List SocketEvent) :
    { r.calm with script := script.filter (!·.interrupts) } = calm { r with script := script } := by
  unfold calm compactIfConsumed
  split_ifs <;> rfl

lemma compactIfConsumed_idem (r : WireReader) :
    r.compactIfConsumed.compactIfConsumed = r.compactIfConsumed := by
  unfold compactIfConsumed
  split_ifs <;> rfl

lemma calm_compactIfConsumed (r : WireReader) : r.compactIfConsumed.calm = r.calm := by
  unfold calm compactIfConsumed
  split_ifs <;> rfl

/-- Bytes are consumed from a buffer that is not used up. -/
lemma calm_advance (h : r.cursor < r.buffer.length) (n : Nat) :
    (advance n r).calm = advance n r.calm := by
  rw [calm_of_lt h]
  unfold advance
  rw [calm_compactIfConsumed]
  rfl

lemma burden_advance : eraser.burden (advance n r) = eraser.burden r := by
  unfold advance compactIfConsumed
  split_ifs <;> rfl

lemma checks_advance : (advance n r).checks = r.checks := by
  unfold advance compactIfConsumed
  split_ifs <;> rfl

/-! ## Reads -/

lemma checkControl_erasable : Erasable eraser (checkControl operation) := by
  intro r hr
  have hr' : r.checks = [] := hr.2
  have herased : checkControl operation r.calm = .ok () r.calm := by
    simp [checkControl, hr']
  unfold ErasableAt
  rw [show eraser.erase r = r.calm from rfl, herased]
  simp only [checkControl, hr']
  exact ⟨hr, le_rfl, rfl⟩

/-- A segment is taken, or part of it. -/
lemma takeSegment_of_data {n : Nat} {operation : Operation} {first : UInt8}
    {bytes : List UInt8} {rest : List SocketEvent} (h : r.script = .data first bytes :: rest) :
    takeSegment n operation r = .ok ((first :: bytes).take n)
      { r with script := match (first :: bytes).drop n with
          | [] => rest
          | next :: left => .data next left :: rest } := by
  simp only [takeSegment, h]
  cases hdrop : (first :: bytes).drop n with
  | nil => rw [take_of_length_le (drop_eq_nil_iff.mp hdrop)]
  | cons next left => rfl

lemma takeSegment_erasable : Erasable eraser (takeSegment n operation) := by
  intro r hr
  show (takeSegment n operation r).Sat _ _ _
  cases hscript : r.script with
  | nil =>
    simp only [takeSegment, hscript]
    refine ⟨hr, le_rfl, ?_⟩
    show takeSegment n operation r.calm = _
    simp only [takeSegment, calm_script, hscript, filter_nil]
    rfl
  | cons event rest =>
    have hburden : eraser.burden r = rest.countP interrupts +
        if event.interrupts then 1 else 0 := by
      show r.script.countP interrupts = _
      rw [hscript, countP_cons]
    cases event with
    | timeout =>
      simp only [takeSegment, hscript]
      refine ⟨hr, ?_, fun _ => ?_, fun hnot => absurd trivial hnot⟩
      · rw [hburden]
        exact Nat.le_add_right _ _
      · rw [hburden]
        exact Nat.lt_succ_self _
    | fail failure =>
      simp only [takeSegment, hscript]
      refine ⟨hr, ?_, fun hskip => ?_, fun hnot => ?_⟩
      · rw [hburden]
        exact Nat.le_add_right _ _
      · rw [hburden, if_pos (isTimeout_ofIo.mp hskip)]
        exact Nat.lt_succ_self _
      · have hkeep : (SocketEvent.fail failure).interrupts = false := by
          simpa using fun h => hnot (isTimeout_ofIo.mpr h)
        show takeSegment n operation r.calm = _
        simp only [takeSegment, calm_script, hscript, filter_cons, hkeep, Bool.not_false, if_true]
        exact congrArg (Outcome.err _) (calm_with_script rest)
    | data first bytes =>
      have hdata : (data first bytes).interrupts = false := rfl
      rw [takeSegment_of_data hscript]
      refine ⟨hr, ?_, ?_⟩
      · rw [hburden]
        show countP interrupts _ ≤ _
        split
        · exact Nat.le_add_right _ _
        · rw [countP_cons]
          exact le_rfl
      · have hcalm : r.calm.script = .data first bytes :: rest.filter (!·.interrupts) := by
          rw [calm_script, hscript, filter_cons, hdata]
          rfl
        show takeSegment n operation r.calm = _
        rw [takeSegment_of_data hcalm]
        apply congrArg (Outcome.ok _)
        refine Eq.trans ?_ (calm_with_script _)
        cases (first :: bytes).drop n <;> rfl

lemma readSocket_erasable : Erasable eraser (readSocket n operation) :=
  (checkControl_erasable operation).bind fun _ => takeSegment_erasable n operation

lemma readSome_erasable : Erasable eraser (readSome n operation) := by
  intro r hr
  apply ErasableAt.ite
  · exact fun _ => .pure [] hr
  · intro _
    apply ErasableAt.bind (checkControl_erasable operation r hr)
    intro _ t _ ht
    -- the buffer of the erased reader is used up exactly when the buffer is
    by_cases hbuffered : t.cursor < t.buffer.length
    · have hcalm := calm_of_lt hbuffered
      apply ErasableAt.read
      · show (if t.calm.cursor < t.calm.buffer.length then _ else _ : Call _ _ _) = _
        rw [if_pos hbuffered, if_pos (calm_cursor_lt.mpr hbuffered), eraser_erase, calm_pending,
          hcalm]
      · rw [if_pos hbuffered]
        apply ErasableAt.bind
        · apply ErasableAt.modify
          · refine ⟨(took_advance ht.1 ?_).wf, (checks_advance _).trans ht.2⟩
            rw [pending, length_drop]
            exact min_le_right _ _
          · exact le_of_eq (burden_advance _)
          · exact (calm_advance hbuffered _).symm
        · exact fun _ u _ hu => .pure _ hu
    · apply ErasableAt.read
      · show (if t.calm.cursor < t.calm.buffer.length then _ else _ : Call _ _ _) = _
        rw [if_neg hbuffered, if_neg fun h => hbuffered (calm_cursor_lt.mp h)]
      · rw [if_neg hbuffered]
        exact readSocket_erasable n operation t ht

lemma readExactLoop_erasable (fuel n : Nat) : Erasable eraser (readExactLoop operation fuel n) := by
  induction fuel generalizing n with
  | zero =>
    cases n with
    | zero => exact .pure []
    | succ n => exact fun _ _ => .halt _
  | succ fuel ih =>
    cases n with
    | zero => exact .pure []
    | succ n =>
      refine (readSome_erasable (n + 1) operation).bind fun bytes => .bind (.check id) fun _ => ?_
      exact (ih (n + 1 - bytes.length)).bind fun rest => .pure (bytes ++ rest)

/-- There is nothing to compact. -/
def Compact (r : WireReader) : Prop := r.cursor = r.buffer.length → r.cursor = 0

lemma compact_compactIfConsumed (r : WireReader) : r.compactIfConsumed.Compact := by
  unfold compactIfConsumed Compact
  split_ifs with h
  · exact fun _ => rfl
  · exact fun h' => absurd h' h

/-- Only the interruptions are dropped from a compact reader. -/
lemma calm_of_compact (h : r.Compact) :
    r.calm = { r with script := r.script.filter (!·.interrupts) } := by
  by_cases heq : r.cursor = r.buffer.length
  · have hcursor := h heq
    have hbuffer : r.buffer = [] := length_eq_zero_iff.mp (heq.symm.trans hcursor)
    unfold calm compactIfConsumed
    rw [if_pos heq, hbuffer, hcursor]
  · unfold calm compactIfConsumed
    rw [if_neg heq]

lemma valid_compactIfConsumed (h : eraser.Valid r) : eraser.Valid r.compactIfConsumed := by
  refine ⟨(took_compact h.1).wf, ?_⟩
  unfold compactIfConsumed
  split_ifs <;> exact h.2

lemma burden_compactIfConsumed : eraser.burden r.compactIfConsumed = eraser.burden r := by
  unfold compactIfConsumed
  split_ifs <;> rfl

/-- A read of the socket leaves the buffer as it is. -/
lemma readSocket_buffer {n : Nat} {operation : Operation} {bytes : List UInt8} {t : WireReader}
    (h : readSocket n operation r = .ok bytes t) : t.buffer = r.buffer ∧ t.cursor = r.cursor := by
  obtain ⟨_, u, hcheck, htake⟩ := bind_eq_ok.mp h
  have hu : u.buffer = r.buffer ∧ u.cursor = r.cursor := by
    unfold checkControl at hcheck
    split at hcheck <;> cases hcheck <;> exact ⟨rfl, rfl⟩
  unfold takeSegment at htake
  split at htake
  · cases htake
    exact hu
  · cases htake
  · cases htake
  · split at htake <;> cases htake <;> exact hu

/-- Bytes are added to a buffer that is compact. -/
lemma calm_append (h : r.Wf) (hcompact : r.Compact) (bytes : List UInt8) :
    { r.calm with buffer := r.calm.buffer ++ bytes } =
      calm { r with buffer := r.buffer ++ bytes } := by
  have hmore : Compact { r with buffer := r.buffer ++ bytes } := by
    intro heq
    have hle : r.cursor ≤ r.buffer.length := h
    rw [length_append] at heq
    exact hcompact (by dsimp only at heq; omega)
  rw [calm_of_compact hcompact, calm_of_compact hmore]

lemma fill_erasable : Erasable eraser (fill operation) := by
  intro r hr
  have hcompact := valid_compactIfConsumed hr
  refine ErasableAt.bind ?_ ?_
  · apply ErasableAt.modify hcompact (le_of_eq burden_compactIfConsumed)
    rw [eraser_erase, eraser_erase, calm, compactIfConsumed_idem, ← calm, calm_compactIfConsumed]
  · intro _ t hmodify ht
    obtain ⟨-, rfl⟩ := Outcome.ok.inj hmodify
    refine ErasableAt.bind (readSocket_erasable (8 * 1024) operation _ ht) ?_
    intro bytes u hread hu
    obtain ⟨hbuffer, hcursor⟩ := readSocket_buffer hread
    have hkept : u.Compact := by
      unfold Compact
      rw [hbuffer, hcursor]
      exact compact_compactIfConsumed r
    refine ErasableAt.bind ?_ fun _ v _ hv => .pure _ hv
    apply ErasableAt.modify
    · refine ⟨?_, hu.2⟩
      show u.cursor ≤ (u.buffer ++ bytes).length
      rw [length_append]
      exact Nat.le_trans hu.1 (Nat.le_add_right _ _)
    · exact le_rfl
    · exact calm_append hu.1 hkept bytes

lemma completeLine_erasable {offset maxPayloadBytes : Nat}
    (hr : eraser.Valid r) (hoffset : offset + 1 ≤ r.pending.length)
    (hlimit : ¬limitError.IsTimeout) :
    ErasableAt eraser (completeLine offset maxPayloadBytes limitError) r := by
  have hlt : r.cursor < r.buffer.length := by
    rw [pending, length_drop] at hoffset
    omega
  apply ErasableAt.read
  · rw [eraser_erase, calm_pending]
  · refine ErasableAt.bind (.check hr hlimit) fun _ s hs hsv => ?_
    obtain rfl : r = s := check_state hs
    refine ErasableAt.bind (.check hsv id) fun _ t ht htv => ?_
    obtain rfl : r = t := check_state ht
    refine ErasableAt.bind ?_ fun _ v _ hv => .pure _ hv
    apply ErasableAt.modify
    · exact ⟨(took_advance hr.1 hoffset).wf, (checks_advance _).trans hr.2⟩
    · exact le_of_eq (burden_advance _)
    · exact (calm_advance hlt _).symm

lemma scanLine_error {pending : List UInt8} {e : Error} (offset : Nat) (bytes : List UInt8)
    (h : scanLine pending offset bytes = some (.error e)) : e = .invalidLineEnding := by
  induction bytes generalizing offset with
  | nil => simp [scanLine] at h
  | cons byte rest ih =>
    unfold scanLine at h
    split_ifs at h
    · exact (Except.error.inj (Option.some.inj h)).symm
    · simp at h
    · exact (Except.error.inj (Option.some.inj h)).symm
    · exact ih (offset + 1) h

variable {maxPayloadBytes : Nat}

lemma readCrlfLineLoop_erasable {operation : Operation} (hlimit : ¬limitError.IsTimeout)
    (fuel : Nat) :
    Erasable eraser (readCrlfLineLoop maxPayloadBytes limitError operation fuel) := by
  induction fuel with
  | zero => exact fun _ _ => .halt _
  | succ fuel ih =>
    intro r hr
    refine ErasableAt.bind (checkControl_erasable operation r hr) fun _ s _ hs => ?_
    apply ErasableAt.read
    · rw [eraser_erase, calm_pending, assert_eq_pure (c := s.cursor ≤ s.buffer.length) hs.1,
        assert_eq_pure (calm_cursor_le.mpr hs.1)]
    · refine ErasableAt.bind (.assert hs) fun _ t ht htv => ?_
      obtain rfl : s = t := assert_state ht
      have hfound := scanLine_found [] s.pending unfinished_nil (by simp)
      simp only [nil_append, length_nil] at hfound
      have herror : ∀ e, scanLine s.pending 0 s.pending = some (.error e) → e = .invalidLineEnding :=
        fun e => scanLine_error 0 s.pending
      generalize scanLine s.pending 0 s.pending = found at hfound herror ⊢
      rcases found with _ | e | offset
      · exact Erasable.bind (.check hlimit) (fun _ => (fill_erasable operation).bind fun count =>
          .bind (.check id) fun _ => ih) s hs
      · obtain rfl := herror e rfl
        exact .fail hs id
      · obtain ⟨line, tail, hpending, rfl, -, -⟩ := hfound
        apply completeLine_erasable hs _ hlimit
        rw [hpending]
        simp only [length_append, length_cons]
        omega

lemma readCrlfLine_erasable {operation : Operation} (hlimit : ¬limitError.IsTimeout) :
    Erasable eraser (readCrlfLine maxPayloadBytes limitError operation) := by
  intro r hr
  have hloop : ErasableAt eraser
      (readCrlfLineLoop maxPayloadBytes limitError operation (r.unread.length + 1)) r :=
    readCrlfLineLoop_erasable hlimit _ r hr
  unfold ErasableAt at hloop ⊢
  unfold readCrlfLine
  rw [eraser_erase, calm_unread]
  exact hloop

end WireReader

/-! ## Heads -/

/-- No error is a timeout. -/
def NoTimeout {α : Type} (x : Except Error α) : Prop := ∀ e, x = .error e → ¬e.IsTimeout

namespace NoTimeout

variable {α β : Type}

lemma ok (a : α) : NoTimeout (.ok a) := by
  intro e h
  simp at h

lemma error {e : Error} (h : ¬e.IsTimeout) : NoTimeout (.error e : Except Error α) := by
  intro e' he
  exact Except.error.inj he ▸ h

lemma bind {x : Except Error α} {f : α → Except Error β} (hx : NoTimeout x)
    (hf : ∀ a, NoTimeout (f a)) : NoTimeout (x >>= f) := by
  cases x with
  | ok a => exact hf a
  | error e => exact error (hx e rfl)

lemma ite {c : Prop} [Decidable c] {x y : Except Error α} (hx : NoTimeout x)
    (hy : NoTimeout y) : NoTimeout (if c then x else y) := by
  split_ifs
  · exact hx
  · exact hy

/-- A condition under which an error is thrown. -/
lemma ifThrow {c : Prop} [Decidable c] {e : Error} {k : PUnit → Except Error α}
    (he : ¬e.IsTimeout) (hk : NoTimeout (k ⟨⟩)) : NoTimeout (if c then throw e >>= k else k ⟨⟩) :=
  ite (error he) hk

lemma foldlM {f : β → α → Except Error β} (hf : ∀ b a, NoTimeout (f b a)) (b : β) (l : List α) :
    NoTimeout (l.foldlM f b) := by
  induction l generalizing b with
  | nil => exact ok b
  | cons a l ih =>
    exact (hf b a).bind ih

lemma forM {f : α → Except Error PUnit} (hf : ∀ a, NoTimeout (f a)) (l : List α) :
    NoTimeout (l.forM f) := by
  induction l with
  | nil => exact ok _
  | cons a l ih =>
    exact (hf a).bind fun _ => ih

end NoTimeout

lemma noTimeout_fromWire (value : Nat) : NoTimeout (StatusCode.fromWire value) := by
  unfold StatusCode.fromWire
  split_ifs
  · exact .ok _
  · exact .error id

variable (line : List UInt8)

lemma noTimeout_parseStatusLine : NoTimeout (parseStatusLine line) := by
  unfold parseStatusLine
  apply NoTimeout.ifThrow id
  refine NoTimeout.ite (.bind (.ok _) ?join) (.ite (.bind (.ok _) ?join) (.error id))
  intro version
  refine .ifThrow id (.bind (noTimeout_fromWire _) fun status => ?_)
  split
  · exact .ok _
  · exact .error id

lemma noTimeout_parseHeaderLine : NoTimeout (parseHeaderLine line) := by
  unfold parseHeaderLine
  apply NoTimeout.ifThrow id
  apply NoTimeout.bind
  · cases line.idxOf? 58 with
    | none => exact .error id
    | some colon => exact .ok colon
  · intro colon
    apply NoTimeout.ifThrow id
    split
    · exact .ok _
    · exact .error id

lemma noTimeout_decimalValue (digits : List UInt8) (number : Nat) :
    NoTimeout (decimalValue digits number) := by
  induction digits generalizing number with
  | nil => exact .ok _
  | cons digit rest ih =>
    exact .ite (ih _) (.error id)

lemma noTimeout_contentLengthMember (parsed : Option Nat) (member : List UInt8) :
    NoTimeout (contentLengthMember parsed member) := by
  unfold contentLengthMember
  apply NoTimeout.ifThrow id
  refine .bind (noTimeout_decimalValue _ 0) fun number => ?_
  split
  · exact .ite (.error id) (.ok _)
  · exact .ok _

lemma noTimeout_parseTransferEncoding (headers : Headers) :
    NoTimeout (parseTransferEncoding headers) := by
  unfold parseTransferEncoding
  dsimp only
  split
  · exact .ok _
  · exact .ite (.ok _) (.error id)
  · exact .error id

lemma noTimeout_determineBodyFraming (method : Method) (status : StatusCode)
    (contentLength : Option Nat) (chunked : Bool) (maxBodyBytes : UInt64) :
    NoTimeout (determineBodyFraming method status contentLength chunked maxBodyBytes) := by
  refine .ite (.ok _) (.ite (.ok _) ?_)
  split
  · exact .ite (.error id) (.ok _)
  · exact .ok _

lemma noTimeout_classifyHead (method : Method) (config : ClientConfig) (status : StatusCode)
    (headers : Headers) : NoTimeout (classifyHead method config status headers) := by
  have hcoding : NoTimeout (validateContentCoding headers) := by
    refine .forM (fun coding => ?_) _
    exact .ite (.error id) (.ok _)
  refine .bind hcoding fun _ => .bind (.foldlM noTimeout_contentLengthMember none _)
    fun contentLength => .bind (noTimeout_parseTransferEncoding headers) fun chunked => ?_
  apply NoTimeout.ifThrow id
  apply NoTimeout.ifThrow id
  apply NoTimeout.ite
  · exact .ifThrow id (.ok _)
  · apply NoTimeout.ifThrow id
    exact .bind (noTimeout_determineBodyFraming _ _ _ _ _) fun _ => .ok _

namespace Metered

/-- Metered readers without their interruptions. -/
def eraser : Eraser Metered Error where
  erase s := { s with reader := s.reader.calm }
  Valid s := WireReader.eraser.Valid s.reader
  burden s := WireReader.eraser.burden s.reader
  Skipped := Error.IsTimeout

variable {s : Metered} (config : ClientConfig)

lemma onReader_erasable {α : Type} {m : Call WireReader Error α}
    (hm : Erasable WireReader.eraser m) : Erasable eraser (onReader m) :=
  fun s hs => .focus (hm s.reader hs) rfl (fun _ hu => ⟨rfl, hu, rfl⟩) rfl rfl

lemma readMetadataLine_erasable (limit : UInt64) (operation : Operation) :
    Erasable eraser (readMetadataLine limit operation) := by
  refine .read (fun _ => rfl) fun s => .bind (.check id) fun _ => .bind (.check id) fun _ => ?_
  refine .bind (onReader_erasable (readCrlfLine_erasable id)) fun p => ?_
  exact .bind (.check id) fun _ => .bind (.modify fun _ h => ⟨h, le_rfl, rfl⟩) fun _ => .pure _

lemma countField_erasable (limit : UInt64) : Erasable eraser (countField limit) :=
  .read (fun _ => rfl) fun _ => .bind (.check id) fun _ =>
    .bind (.modify fun _ h => ⟨h, le_rfl, rfl⟩) fun _ => .check id

lemma acceptField_erasable (field : HeaderName × HeaderValue) :
    Erasable eraser (acceptField field) :=
  fun _ hs => .modify hs le_rfl rfl

lemma readFields_erasable (fuel : Nat) (headers : Headers) :
    Erasable eraser (readFields config fuel headers) := by
  induction fuel generalizing headers with
  | zero => exact fun _ _ => .halt _
  | succ fuel ih =>
    refine (readMetadataLine_erasable _ _).bind fun line => .ite (.pure _) ?_
    refine (countField_erasable _).bind fun _ => ?_
    refine .bind (.ofExcept (noTimeout_parseHeaderLine line)) fun field => ?_
    exact (acceptField_erasable field).bind fun _ => ih (headers.append field)

lemma available_erase (s : Metered) : (eraser.erase s).available = s.available := by
  simp [available, eraser]

lemma parseOneResponseHead_erasable : Erasable eraser (parseOneResponseHead config) := by
  refine (readMetadataLine_erasable _ _).bind fun line => ?_
  refine .bind (.ofExcept (noTimeout_parseStatusLine line)) fun p => .read (fun s => ?_) fun s => ?_
  · rw [available_erase]
  · exact (readFields_erasable config _ _).bind fun headers => .pure _

lemma countInformational_erasable (count : Nat) :
    Erasable eraser (countInformational config count) :=
  .bind (.check id) fun _ => .bind (.check id) fun _ => .pure _

lemma readHeads_erasable (method : Method) (config : ClientConfig) (fuel informational : Nat) :
    Erasable eraser (readHeads method config fuel informational) := by
  induction fuel generalizing informational with
  | zero => exact fun _ _ => .halt _
  | succ fuel ih =>
    refine (parseOneResponseHead_erasable config).bind ?_
    rintro ⟨version, status, reasonPhrase, headers⟩
    refine .bind (.ofExcept (noTimeout_classifyHead method config status headers)) fun kind => ?_
    cases kind with
    | informational => exact (countInformational_erasable config informational).bind ih
    | final framing => exact .pure _

lemma parseResponseHead_erasable (method : Method) (config : ClientConfig) :
    Erasable eraser (parseResponseHead method config) := by
  refine .read (fun s => ?_) fun s => readHeads_erasable method config _ 0
  rw [available_erase]

end Metered

/-! ## Bodies -/

lemma noTimeout_consumeQuotedString (input : List UInt8) :
    NoTimeout (consumeQuotedString input) := by
  fun_induction consumeQuotedString input with
  | case1 => exact .error id
  | case2 => exact .ok _
  | case3 => exact .error id
  | case4 _ _ _ ih => exact ih
  | case5 => exact .error id
  | case6 _ _ _ _ _ ih => exact ih
  | case7 => exact .error id

lemma noTimeout_consumeChunkExtension (input : List UInt8) :
    NoTimeout (consumeChunkExtension input) := by
  refine .ite (.error id) ?_
  split
  · exact noTimeout_consumeQuotedString _
  · exact .ite (.error id) (.ok _)
  · exact .ok _

lemma noTimeout_validateChunkExtensionsLoop (fuel : Nat) (input : List UInt8) :
    NoTimeout (validateChunkExtensionsLoop fuel input) := by
  induction fuel generalizing input with
  | zero =>
    cases input with
    | nil => exact .ok _
    | cons => exact .error id
  | succ fuel ih =>
    cases input with
    | nil => exact .ok _
    | cons byte rest =>
      exact .ite (.error id) (.bind (noTimeout_consumeChunkExtension rest) ih)

lemma noTimeout_hexadecimalValue (digits : List UInt8) (size : Nat) :
    NoTimeout (hexadecimalValue digits size) := by
  induction digits generalizing size with
  | nil => exact .ok _
  | cons digit rest ih =>
    exact .ite (ih _) (.error id)

lemma noTimeout_parseChunkSize : NoTimeout (parseChunkSize line) := by
  unfold parseChunkSize
  apply NoTimeout.ifThrow id
  refine .bind (noTimeout_hexadecimalValue _ 0) fun size => ?_
  exact .bind (noTimeout_validateChunkExtensionsLoop _ _) fun _ => .ok _

namespace Body

/-- The body without the interruptions of its reader. -/
def calm (body : Body) : Body := { body with reader := body.reader.map WireReader.calm }

/-- Bodies without their interruptions. -/
def eraser : Eraser Body Error where
  erase := calm
  Valid body := ∀ r, body.reader = some r → WireReader.eraser.Valid r
  burden body := body.reader.elim 0 WireReader.eraser.burden
  Skipped := Error.IsTimeout

variable {body : Body} (outputLen : Nat)

lemma eraser_erase (body : Body) : eraser.erase body = body.calm := rfl

lemma onMetered_erasable {α : Type} {m : Call Metered Error α}
    (hm : Erasable Metered.eraser m) : Erasable eraser (onMetered m) := by
  intro body h
  cases hr : body.reader with
  | none =>
    have hplain : onMetered m body = .err .prematureEof body := by simp only [onMetered, hr]
    have hcalm : onMetered m body.calm = .err .prematureEof body.calm := by
      simp only [onMetered, calm, hr, Option.map_none]
    unfold ErasableAt
    rw [hplain, eraser_erase, hcalm]
    exact ⟨h, le_rfl, fun hs => absurd hs id, fun _ => rfl⟩
  | some r =>
    have hat := hm { reader := r, budget := body.budget } (h r hr)
    have hburden : eraser.burden body = WireReader.eraser.burden r := by
      simp only [eraser, hr, Option.elim]
    have hcalm : ∀ o, m { reader := r.calm, budget := body.budget } = o →
        onMetered m body.calm = o.trimap id id fun s =>
          { body.calm with reader := some s.reader, budget := s.budget } := by
      intro o ho
      simp only [onMetered, calm, hr, Option.map_some, ho]
    unfold ErasableAt at hat ⊢
    rw [sat_onMetered hr, hburden]
    refine hat.mono ?_ ?_ ?_
    · rintro a s ⟨hs, hle, heq⟩
      refine ⟨?_, hle, hcalm _ heq⟩
      intro r' hr'
      exact Option.some.inj hr' ▸ hs
    · rintro e s ⟨hs, hle, hless, heq⟩
      refine ⟨?_, hle, hless, fun hskip => hcalm _ (heq hskip)⟩
      intro r' hr'
      exact Option.some.inj hr' ▸ hs
    · exact fun reason heq => hcalm _ heq

lemma onReader_erasable {α : Type} {m : Call WireReader Error α}
    (hm : Erasable WireReader.eraser m) : Erasable eraser (onReader m) :=
  onMetered_erasable (Metered.onReader_erasable hm)

lemma subtract_erasable (a b : Nat) : Erasable eraser (subtract a b) :=
  .bind .assert fun _ => .pure _

lemma countDecoded_erasable (count : Nat) : Erasable eraser (countDecoded count) :=
  .read (fun _ => rfl) fun _ => .bind .assert fun _ => .modify fun _ h => ⟨h, le_rfl, rfl⟩

lemma close_erasable : Erasable eraser (Call.modify close : Call Body Error Unit) := by
  refine .modify fun body _ => ⟨fun r hr => ?_, Nat.zero_le _, rfl⟩
  simp [close] at hr

lemma readDelimited_erasable (outputLen remaining : Nat) :
    Erasable eraser (readDelimited outputLen remaining) := by
  refine .read (fun _ => rfl) fun body => .bind (.ofExcept ?_) fun permitted => ?_
  · unfold boundedReadLen
    exact NoTimeout.ite (.error id) (.ok _)
  · refine (onReader_erasable (readSome_erasable _ _)).bind fun bytes => .bind (.check id) fun _ => ?_
    refine (subtract_erasable _ _).bind fun left => ?_
    exact (countDecoded_erasable _).bind fun _ => .pure _

lemma readContentLength_erasable (outputLen remaining : Nat) :
    Erasable eraser (readContentLength outputLen remaining) := by
  refine (readDelimited_erasable outputLen remaining).bind ?_
  rintro ⟨bytes, left⟩
  refine .bind ?_ fun _ => .pure _
  by_cases hzero : left = 0
  · simp only [hzero, if_true]
    exact close_erasable
  · simp only [hzero, if_false]
    exact .modify fun _ h => ⟨h, le_rfl, rfl⟩

lemma deliverUntilClose_erasable (bytes : List UInt8) :
    Erasable eraser (deliverUntilClose bytes) :=
  .ite (close_erasable.bind fun _ => .pure _) ((countDecoded_erasable _).bind fun _ => .pure _)

lemma readConnectionClose_erasable : Erasable eraser (readConnectionClose outputLen) := by
  refine .read (fun _ => rfl) fun body => .ite ?_ ?_
  · refine (onReader_erasable (readSome_erasable _ _)).bind fun probe => .bind (.check id) fun _ => ?_
    exact close_erasable.bind fun _ => .pure _
  · refine (subtract_erasable _ _).bind fun available => ?_
    exact (onReader_erasable (readSome_erasable _ _)).bind deliverUntilClose_erasable

lemma readChunkData_erasable (outputLen chunkRemaining : Nat) :
    Erasable eraser (readChunkData outputLen chunkRemaining) :=
  (readDelimited_erasable outputLen chunkRemaining).bind fun _ =>
    .bind (.modify fun _ h => ⟨h, le_rfl, rfl⟩) fun _ => .pure _

lemma readDataCrlf_erasable : Erasable eraser readDataCrlf :=
  (onReader_erasable (readExactLoop_erasable _ _ _)).bind fun _ =>
    .bind (.check id) fun _ => .modify fun _ h => ⟨h, le_rfl, rfl⟩

lemma readTrailersLoop_erasable (fuel : Nat) : Erasable eraser (readTrailersLoop fuel) := by
  induction fuel with
  | zero => exact fun _ _ => .halt _
  | succ fuel ih =>
    refine .read (fun _ => rfl) fun body => ?_
    refine (onMetered_erasable (Metered.readMetadataLine_erasable _ _)).bind fun line => ?_
    refine .ite (.pure _) ((onMetered_erasable (Metered.countField_erasable _)).bind fun _ => ?_)
    refine .bind (.ofExcept (noTimeout_parseHeaderLine line)) fun field => ?_
    refine .bind (.check id) fun _ => ?_
    refine (onMetered_erasable (Metered.acceptField_erasable field)).bind fun _ => ?_
    exact .bind (.modify fun _ h => ⟨h, le_rfl, rfl⟩) fun _ => ih

lemma available_calm (body : Body) : body.calm.available = body.available := by
  unfold available calm
  cases body.reader with
  | none => rfl
  | some r => simp

lemma readTrailers_erasable : Erasable eraser readTrailers := by
  intro body h
  have hloop := readTrailersLoop_erasable (body.available + 1) body h
  unfold ErasableAt at hloop ⊢
  unfold readTrailers
  rw [eraser_erase, available_calm]
  exact hloop

lemma readSizeLine_erasable : Erasable eraser readSizeLine :=
  .read (fun _ => rfl) fun _ => (onReader_erasable (readCrlfLine_erasable id)).bind fun p =>
    .ofExcept (noTimeout_parseChunkSize p.1)

lemma startChunk_erasable (size : Nat) : Erasable eraser (startChunk size) :=
  .read (fun _ => rfl) fun _ => (subtract_erasable _ _).bind fun _ =>
    .bind (.check id) fun _ => .modify fun _ h => ⟨h, le_rfl, rfl⟩

lemma readNextChunk_erasable : Erasable eraser (readNextChunk outputLen) := by
  refine readSizeLine_erasable.bind fun size => .ite ?_ ?_
  · exact readTrailers_erasable.bind fun _ => close_erasable.bind fun _ => .pure _
  · exact (startChunk_erasable size).bind fun _ => readChunkData_erasable outputLen size

lemma readChunked_erasable (outputLen chunkRemaining : Nat) (needsDataCrlf : Bool) :
    Erasable eraser (readChunked outputLen chunkRemaining needsDataCrlf) := by
  refine .ite (readChunkData_erasable _ _) (.ite ?_ (readNextChunk_erasable outputLen))
  exact readDataCrlf_erasable.bind fun _ => readNextChunk_erasable outputLen

lemma checkReader_erasable : Erasable eraser checkReader := by
  intro body h
  cases hr : body.reader with
  | none =>
    have hplain : checkReader body = .ok () body := by simp only [checkReader, hr]
    have hcalm : checkReader body.calm = .ok () body.calm := by
      simp only [checkReader, calm, hr, Option.map_none]
    unfold ErasableAt
    rw [hplain, eraser_erase, hcalm]
    exact ⟨h, le_rfl, rfl⟩
  | some r =>
    have hat : ErasableAt eraser (onReader (checkControl .readBody)) body :=
      onReader_erasable (checkControl_erasable _) body h
    have hplain : checkReader body = onReader (checkControl .readBody) body := by
      simp only [checkReader, hr]
    have hcalm : checkReader body.calm =
        onReader (checkControl .readBody) body.calm := by
      simp only [checkReader, calm, hr, Option.map_some]
    unfold ErasableAt at hat ⊢
    rw [hplain, eraser_erase, hcalm]
    exact hat

lemma readChunkUnlatched_erasable : Erasable eraser (readChunkUnlatched outputLen) := by
  refine checkReader_erasable.bind fun _ => .read (fun _ => rfl) fun body => ?_
  cases body.state with
  | empty => exact .pure _
  | contentLength remaining => exact readContentLength_erasable outputLen remaining
  | connectionClose => exact readConnectionClose_erasable outputLen
  | chunked chunkRemaining needsDataCrlf =>
    exact readChunked_erasable outputLen chunkRemaining needsDataCrlf

lemma isTerminalBodyError_eq_false {e : Error} (h : e.IsTimeout) :
    isTerminalBodyError e = false := by
  cases e <;> first | rfl | exact absurd h id

/-- A terminal error is latched in the same way without the interruptions. -/
lemma readChunk_erasable (h : eraser.Valid body)
    (hlive : body.terminalError = none) : ErasableAt eraser (readChunk outputLen) body := by
  have hread := readChunkUnlatched_erasable outputLen body h
  have hlive' : body.calm.terminalError = none := hlive
  unfold ErasableAt at hread ⊢
  rw [eraser_erase] at hread ⊢
  unfold readChunk
  split_ifs with hzero
  · exact ⟨h, le_rfl, rfl⟩
  · rw [hlive, hlive']
    cases hrun : readChunkUnlatched outputLen body with
    | ok bytes t =>
      obtain ⟨ht, hle, heq⟩ := hread.of_ok hrun
      rw [heq]
      exact ⟨ht, hle, rfl⟩
    | err e t =>
      obtain ⟨ht, hle, hless, heq⟩ := hread.of_err hrun
      by_cases he : isTerminalBodyError e = true
      · have hskip : ¬e.IsTimeout := fun hskip => by
          simp [isTerminalBodyError_eq_false hskip] at he
        rw [heq hskip]
        simp only [he, if_true]
        refine ⟨?_, Nat.zero_le _, fun hs => absurd hs hskip, fun _ => rfl⟩
        intro r hr
        simp [poison] at hr
      · simp only [he]
        refine ⟨ht, hle, hless, fun hskip => ?_⟩
        rw [heq hskip]
        simp [he, eraser_erase]
    | halt reason =>
      rw [hread.of_halt hrun]
      rfl

end Body

end WildBuzzard.Net
