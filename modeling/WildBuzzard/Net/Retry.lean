import WildBuzzard.Net.Erasure

/-!
# Reads that are made again after a timeout

`Body::read_chunk` is documented to leave the body usable when it times out: the read may be made
again. `Body.finish` reads a body to its end in that way, and `retries_are_transparent` compares it
with the run over the same segments without the timeouts.

**Two places of the decoder do not keep what they have consumed.** The line ending behind the data of
a chunk is read into a local buffer, so that a CR is lost when the timeout comes before its LF; and
the last size line is consumed before the trailers are read, so that the next read takes what is left
of the trailers for a size line. `Body.CutShort` is the state before such a read. In every run
without one, whatever the timeouts, the result is that of the run without timeouts.
-/

namespace WildBuzzard.Net

open Lib Call List WireReader Outcome

/-! ## What is there before a timeout -/

/-- A segment. -/
def SocketEvent.isData : SocketEvent → Bool
  | .data _ _ => true
  | _ => false

namespace WireReader

/-- What can be read without waiting for anything but segments. -/
def arrived (r : WireReader) : List UInt8 :=
  r.pending ++ (r.script.takeWhile SocketEvent.isData).flatMap SocketEvent.bytes

/-- What comes behind those segments. -/
def beyond (r : WireReader) : List SocketEvent := r.script.dropWhile SocketEvent.isData

/-- A timeout comes behind them. -/
def Interrupted (r : WireReader) : Prop := r.beyond.head?.any SocketEvent.interrupts = true

instance (r : WireReader) : Decidable r.Interrupted := inferInstanceAs (Decidable (_ = true))

end WireReader

/-- A complete line, up to its LF, that the trailers take for a field. -/
def TakenAsTrailer (line : List UInt8) : Prop :=
  line.getLast? = some 13 ∧ ∃ field ∈ (parseHeaderLine line.dropLast).toOption,
    ¬isProhibitedTrailer field.1

instance (line : List UInt8) : Decidable (TakenAsTrailer line) :=
  inferInstanceAs (Decidable (_ ∧ ∃ field ∈ (parseHeaderLine line.dropLast).toOption, _))

/-- Every complete line is a field, so that the section goes on. -/
def SectionGoesOn (bytes : List UInt8) : Prop :=
  ∀ line ∈ (bytes.splitOn 10).dropLast, TakenAsTrailer line

instance (bytes : List UInt8) : Decidable (SectionGoesOn bytes) :=
  inferInstanceAs (Decidable (∀ line ∈ _, _))

/-- The last size line is complete and the trailers behind it are neither complete nor rejected. -/
def LastChunkCut (bytes : List UInt8) : Prop :=
  ∃ p ∈ splitLine bytes, (parseChunkSize p.1).toOption = some 0 ∧ SectionGoesOn p.2

instance (bytes : List UInt8) : Decidable (LastChunkCut bytes) :=
  inferInstanceAs (Decidable (∃ p ∈ splitLine bytes, _))

/-- A timeout comes between the CR and the LF behind the data of a chunk, or between the last size
line and the end of the trailers. -/
def WireReader.losesPlace (r : WireReader) : BodyState → Bool
  | .chunked 0 true =>
    r.Interrupted ∧ (r.arrived.length = 1 ∨
      r.arrived.take 2 = [13, 10] ∧ LastChunkCut (r.arrived.drop 2))
  | .chunked 0 false => r.Interrupted ∧ LastChunkCut r.arrived
  | _ => false

/-- **The next read will time out and lose its place.** -/
def Body.CutShort (body : Body) : Prop := body.reader.any (·.losesPlace body.state) = true

instance (body : Body) : Decidable body.CutShort := inferInstanceAs (Decidable (_ = true))

/-! ## Runs -/

/-- What came of reading a body to its end. -/
structure Finish where
  delivered : List UInt8
  trailers : Headers
  /-- The terminal error, or nothing if the body ended. -/
  error : Option Error
  deriving DecidableEq, Repr

/-- Bytes that were delivered before. -/
def Finish.prepend (bytes : List UInt8) (f : Finish) : Finish :=
  { f with delivered := bytes ++ f.delivered }

namespace Body

/-- How many timeouts there are to come. -/
def interruptions (body : Body) : Nat :=
  body.reader.elim 0 fun r => r.script.countP SocketEvent.interrupts

/-- Read the body to its end, into buffers of these sizes; a read that times out is made again. Every
round delivers a byte, uses up a timeout or is the last one. -/
def readRetrying (sizes : Nat → Nat) : Nat → Nat → Body → Option Finish
  | 0, _, _ => none
  | fuel + 1, k, body =>
    match readChunk (sizes k) body with
    | .ok [] body' => some { delivered := [], trailers := body'.trailers, error := none }
    | .ok (byte :: bytes) body' =>
      (readRetrying sizes fuel (k + 1) body').map (Finish.prepend (byte :: bytes))
    | .err e body' =>
      if e.IsTimeout then readRetrying sizes fuel k body'
      else some { delivered := [], trailers := body'.trailers, error := some e }
    | .halt _ => none

/-- The states from which the reads of such a run start. -/
def readsFrom (sizes : Nat → Nat) : Nat → Nat → Body → List Body
  | 0, _, _ => []
  | fuel + 1, k, body =>
    body :: match readChunk (sizes k) body with
      | .ok [] _ => []
      | .ok (_ :: _) body' => readsFrom sizes fuel (k + 1) body'
      | .err e body' => if e.IsTimeout then readsFrom sizes fuel k body' else []
      | .halt _ => []

/-- More rounds than there are. -/
def rounds (body : Body) : Nat := body.available + body.interruptions + 1

/-- Read the body to its end and make the reads again that time out. -/
def finish (sizes : Nat → Nat) (body : Body) : Option Finish :=
  readRetrying sizes body.rounds 0 body

/-- The states from which its reads start. -/
def reads (sizes : Nat → Nat) (body : Body) : List Body := readsFrom sizes body.rounds 0 body

end Body

/-! ## Timeouts of the reader -/

namespace WireReader

variable {r s t : WireReader}

lemma arrived_append_beyond (r : WireReader) :
    r.arrived ++ r.beyond.flatMap SocketEvent.bytes = r.rest := by
  unfold arrived beyond rest unread
  rw [append_assoc, ← flatMap_append, takeWhile_append_dropWhile]

/-- Bytes that were taken had arrived. -/
lemma Took.arrived_eq {bytes : List UInt8} (h : r.Took t bytes) (hbeyond : t.beyond = r.beyond) :
    r.arrived = bytes ++ t.arrived := by
  have hrest := h.rest_eq
  rw [← arrived_append_beyond, ← arrived_append_beyond t, hbeyond, ← append_assoc] at hrest
  exact append_cancel_right hrest

lemma interrupted_congr (hbeyond : t.beyond = r.beyond) : t.Interrupted ↔ r.Interrupted := by
  unfold Interrupted
  rw [hbeyond]

/-- A timeout of the socket. -/
structure Stopped (r t : WireReader) : Prop where
  interrupted : r.Interrupted
  arrived_eq : r.arrived = r.pending
  calm_eq : t.calm = r.calm

/-- The event that is used up is all that changes. -/
lemma stopped_of_script {event : SocketEvent} {rest : List SocketEvent}
    (hscript : r.script = event :: rest) (hevent : event.interrupts = true) :
    r.Stopped { r with script := rest } := by
  have hdata : event.isData = false := by
    cases event with
    | data first bytes => simp [SocketEvent.interrupts] at hevent
    | timeout => rfl
    | fail failure => rfl
  refine ⟨?_, ?_, ?_⟩
  · simp [Interrupted, beyond, hscript, hdata, hevent]
  · simp [arrived, hscript, hdata]
  · unfold calm
    simp [hscript, hevent]

lemma takeSegment_stops (n : Nat) (operation : Operation) (r : WireReader) :
    (takeSegment n operation r).Sat (fun _ t => t.beyond = r.beyond ∧ t.checks = r.checks)
      (fun e t => e.IsTimeout → r.Stopped t) (fun _ => True) := by
  cases hscript : r.script with
  | nil =>
    simp only [takeSegment, hscript]
    exact ⟨rfl, rfl⟩
  | cons event rest =>
    cases event with
    | timeout =>
      simp only [takeSegment, hscript]
      exact fun _ => stopped_of_script hscript rfl
    | fail failure =>
      simp only [takeSegment, hscript]
      exact fun he => stopped_of_script hscript (isTimeout_ofIo.mp he)
    | data first bytes =>
      rw [takeSegment_of_data hscript]
      refine ⟨?_, rfl⟩
      have hrest : r.beyond = rest.dropWhile SocketEvent.isData := by
        rw [beyond, hscript]
        rfl
      rw [hrest]
      split <;> rfl

lemma checkControl_of_nil (h : r.checks = []) (operation : Operation) :
    checkControl operation r = .ok () r := by
  simp only [checkControl, h]

lemma readSocket_stops (h : r.checks = []) (n : Nat) (operation : Operation) :
    (readSocket n operation r).Sat (fun _ t => t.beyond = r.beyond ∧ t.checks = [])
      (fun e t => e.IsTimeout → r.Stopped t) (fun _ => True) := by
  unfold readSocket
  rw [bind_apply, checkControl_of_nil h]
  refine (takeSegment_stops n operation r).imp fun _ t ht => ?_
  exact ⟨ht.1, ht.2.trans h⟩

lemma beyond_advance (n : Nat) : (advance n r).beyond = r.beyond := by
  unfold advance compactIfConsumed
  split_ifs <;> rfl

/-- **A read that times out finds nothing and takes nothing.** -/
theorem readSome_stops (h : r.checks = []) (n : Nat) (operation : Operation) :
    (readSome n operation r).Sat (fun _ t => t.beyond = r.beyond ∧ t.checks = [])
      (fun e t => e.IsTimeout → r.Stopped t ∧ r.arrived = []) (fun _ => True) := by
  unfold readSome
  split_ifs with hn
  · exact ⟨rfl, h⟩
  · refine sat_bind.mpr ?_
    rw [checkControl_of_nil h]
    show (if r.cursor < r.buffer.length then _ else readSocket n operation : Call _ _ _) r
      |>.Sat _ _ _
    split_ifs with hbuffered
    · exact ⟨beyond_advance _, (checks_advance _).trans h⟩
    · have hpending : r.pending = [] := drop_eq_nil_iff.mpr (Nat.le_of_not_lt hbuffered)
      refine (readSocket_stops h n operation).imp₂ (fun _ _ ht => ht) ?_
      exact fun e t hstop he => ⟨hstop he, (hstop he).arrived_eq.trans hpending⟩

/-- **Of two bytes that are needed, one may be lost**: then it is all that had arrived. -/
theorem readExactWire_stops (h : eraser.Valid r) (operation : Operation) :
    (readExactWire 2 operation r).Sat (fun _ t => t.beyond = r.beyond)
      (fun e t => e.IsTimeout → t.calm = r.calm ∨ r.Interrupted ∧ r.arrived.length = 1)
      (fun _ => True) := by
  refine sat_bind.mpr (((readSome_sat h.1 (Nat.succ_pos 1) operation).and
    (readSome_stops h.2 2 operation)).mono ?_ ?_ fun _ _ => trivial)
  · rintro bytes s ⟨⟨htook, hlen, -⟩, hbeyond, hchecks⟩
    refine sat_check_bind.mpr ⟨fun hne => ?_, fun _ he => absurd he id⟩
    have hpos := length_pos_iff.mpr hne
    by_cases htwo : bytes.length = 2
    · rw [htwo]
      exact hbeyond
    · -- one byte came, and the second read may time out
      have hone : 2 - bytes.length = 1 := by omega
      rw [hone]
      refine sat_bind.mpr (sat_bind.mpr (((readSome_sat htook.wf Nat.one_pos operation).and
        (readSome_stops hchecks 1 operation)).mono ?_ ?_ fun _ _ => trivial))
      · rintro more t ⟨⟨-, hmore, -⟩, hbeyond', -⟩
        refine sat_check_bind.mpr ⟨fun hne' => ?_, fun _ he => absurd he id⟩
        have hpos' := length_pos_iff.mpr hne'
        have hdone : 1 - more.length = 0 := by omega
        rw [hdone]
        exact hbeyond'.trans hbeyond
      · rintro e t ⟨-, hstop⟩ he
        obtain ⟨hstopped, hnone⟩ := hstop he
        refine .inr ⟨(interrupted_congr hbeyond).mp hstopped.interrupted, ?_⟩
        rw [htook.arrived_eq hbeyond, hnone, append_nil]
        omega
  · rintro e t ⟨-, hstop⟩ he
    exact .inl (hstop he).1.calm_eq

lemma beyond_compactIfConsumed : r.compactIfConsumed.beyond = r.beyond := by
  unfold compactIfConsumed
  split_ifs <;> rfl

lemma checks_compactIfConsumed : r.compactIfConsumed.checks = r.checks := by
  unfold compactIfConsumed
  split_ifs <;> rfl

lemma arrived_compactIfConsumed : r.compactIfConsumed.arrived = r.arrived := by
  unfold compactIfConsumed
  split_ifs with hconsumed
  · simp [arrived, pending, hconsumed]
  · rfl

lemma pending_compactIfConsumed : r.compactIfConsumed.pending = r.pending := by
  unfold compactIfConsumed
  split_ifs with hconsumed
  · simp [pending, hconsumed]
  · rfl

lemma fill_stops (h : r.checks = []) (operation : Operation) :
    (fill operation r).Sat (fun _ t => t.beyond = r.beyond ∧ t.checks = [])
      (fun e t => e.IsTimeout → r.Stopped t) (fun _ => True) := by
  have hchecks : r.compactIfConsumed.checks = [] := checks_compactIfConsumed.trans h
  refine sat_modify_bind.mpr (sat_bind.mpr
    ((readSocket_stops hchecks (8 * 1024) operation).imp₂ ?_ ?_))
  · exact fun bytes t ht => ⟨ht.1.trans beyond_compactIfConsumed, ht.2⟩
  · intro e t hstop he
    refine ⟨?_, ?_, (hstop he).calm_eq.trans (calm_compactIfConsumed r)⟩
    · exact (interrupted_congr beyond_compactIfConsumed).mp (hstop he).interrupted
    · rw [← arrived_compactIfConsumed, (hstop he).arrived_eq, pending_compactIfConsumed]

section lines

variable {maxPayloadBytes : Nat} {limitError : Error} {operation : Operation}

/-- Enough rounds are enough. -/
lemma readCrlfLineLoop_stable {fuel fuel' : Nat} (h : r.Wf) (hfuel : r.unread.length < fuel)
    (hfuel' : r.unread.length < fuel') :
    readCrlfLineLoop maxPayloadBytes limitError operation fuel r =
      readCrlfLineLoop maxPayloadBytes limitError operation fuel' r := by
  induction fuel generalizing r fuel' with
  | zero => exact absurd hfuel (Nat.not_lt_zero _)
  | succ fuel ih =>
    obtain ⟨fuel', rfl⟩ := Nat.exists_eq_add_of_lt (Nat.zero_lt_of_lt hfuel')
    refine bind_congr_of_ok fun _ s hs => ?_
    obtain ⟨htook, -, -, hscript⟩ := (checkControl_sat h operation).of_ok hs
    have hunread : s.unread = r.unread := by rw [unread, hscript, unread]
    refine bind_congr_of_ok (m := Call.read) fun s' _ hread => ?_
    obtain ⟨rfl, rfl⟩ := ok.inj hread
    refine bind_congr_of_ok fun _ _ hassert => ?_
    obtain rfl := assert_state hassert
    rcases scanLine s.pending 0 s.pending with _ | e | offset
    · refine bind_congr_of_ok fun _ _ hcheck => ?_
      obtain rfl := check_state hcheck
      refine bind_congr_of_ok fun count t hfill => ?_
      obtain ⟨hfilled, -, hless⟩ := (fill_sat htook.wf operation).of_ok hfill
      refine bind_congr_of_ok fun _ _ hcount => ?_
      obtain rfl := check_state hcount
      have hfewer := hless (check_holds hcount)
      rw [hunread] at hfewer
      exact ih hfilled.wf (by omega) (by omega)
    · rfl
    · rfl

/-- A round that gets more bytes of a line. -/
lemma readCrlfLineLoop_of_fill {fuel count : Nat} (h : r.Wf) (hchecks : r.checks = [])
    (hscan : scanLine r.pending 0 r.pending = none)
    (hshort : r.pending.length ≤ maxPayloadBytes + 1) (hfill : fill operation r = .ok count t)
    (hcount : count ≠ 0) :
    readCrlfLineLoop maxPayloadBytes limitError operation (fuel + 1) r =
      readCrlfLineLoop maxPayloadBytes limitError operation fuel t := by
  have hassert : r.cursor ≤ r.buffer.length := h
  rw [readCrlfLineLoop, bind_apply, checkControl_of_nil hchecks]
  show (Call.assert (r.cursor ≤ r.buffer.length) _ >>= _ : Call _ _ _) r = _
  rw [assert_eq_pure hassert]
  simp only [hscan]
  rw [check_eq_pure hshort]
  show (fill operation >>= _ : Call _ _ _) r = _
  rw [bind_apply, hfill]
  show (Call.check (count ≠ 0) _ >>= _ : Call _ _ _) t = _
  rw [check_eq_pure hcount]
  rfl

/-- What a timeout of the reading of a line leaves: the line is not there, and reading it again does
what would have been done without the timeout. -/
structure LineStopped (read : Nat → Call WireReader Error (List UInt8 × Nat)) (r t : WireReader) :
    Prop where
  interrupted : r.Interrupted
  unfinished : 10 ∉ r.arrived
  took : r.Took t []
  again : ∀ fuel, r.unread.length < fuel → read fuel t.calm = read fuel r.calm

lemma readCrlfLineLoop_stops (h : eraser.Valid r) (hlimit : ¬limitError.IsTimeout) (fuel : Nat) :
    (readCrlfLineLoop maxPayloadBytes limitError operation fuel r).Sat
      (fun _ t => t.beyond = r.beyond) (fun e t => e.IsTimeout →
        LineStopped (readCrlfLineLoop maxPayloadBytes limitError operation) r t)
      (fun _ => True) := by
  induction fuel generalizing r with
  | zero => trivial
  | succ fuel ih =>
    refine sat_bind.mpr ?_
    rw [checkControl_of_nil h.2]
    refine sat_read_bind.mpr (sat_assert_bind.mpr ⟨fun _ => ?_, fun _ => trivial⟩)
    have hfound := scanLine_found [] r.pending unfinished_nil (by simp)
    simp only [nil_append, length_nil] at hfound
    have herror : ∀ e, scanLine r.pending 0 r.pending = some (.error e) →
        e = .invalidLineEnding := fun e => scanLine_error 0 r.pending
    generalize hscan : scanLine r.pending 0 r.pending = found at hfound herror
    rcases found with _ | e | offset
    · refine sat_check_bind.mpr ⟨fun hshort => ?_, fun _ he => absurd he hlimit⟩
      have hcalm := fill_erasable operation r h
      have hfill := fill_sat h.1 operation
      have hstops := fill_stops h.2 operation
      rw [bind_apply]
      cases hrun : fill operation r with
      | ok count u =>
        obtain ⟨hvalid, -, heq⟩ := hcalm.of_ok hrun
        obtain ⟨htook, -, hless⟩ := hfill.of_ok hrun
        obtain ⟨hbeyond, -⟩ := hstops.of_ok hrun
        refine sat_check_bind.mpr ⟨fun hcount => ?_, fun _ he => absurd he id⟩
        refine (ih hvalid).mono (fun _ t ht => ht.trans hbeyond) ?_ fun _ _ => trivial
        intro e t hstop he
        obtain ⟨hinterrupted, hlf, htook', hagain⟩ := hstop he
        refine ⟨(interrupted_congr hbeyond).mp hinterrupted, ?_, htook.trans htook', ?_⟩
        · rw [htook.arrived_eq hbeyond]
          exact hlf
        · intro fuel' hfuel'
          obtain ⟨fuel', rfl⟩ := Nat.exists_eq_add_of_lt (Nat.zero_lt_of_lt hfuel')
          rw [Nat.zero_add] at hfuel' ⊢
          have hle := htook'.unread_le
          have hround : readCrlfLineLoop maxPayloadBytes limitError operation (fuel' + 1) r.calm =
              readCrlfLineLoop maxPayloadBytes limitError operation fuel' u.calm :=
            readCrlfLineLoop_of_fill (calm_cursor_le.mpr h.1) ((calm_checks r).trans h.2)
              (by rw [calm_pending]; exact hscan) (by rw [calm_pending]; exact hshort) heq
              hcount
          rw [hround, ← hagain fuel' (by omega)]
          apply readCrlfLineLoop_stable (calm_cursor_le.mpr htook'.wf)
          · rw [calm_unread]
            omega
          · rw [calm_unread]
            omega
      | err e t =>
        intro he
        have hstop := hstops.of_err hrun he
        refine ⟨hstop.interrupted, ?_, (hfill.of_err hrun).took, fun _ _ => ?_⟩
        · rw [hstop.arrived_eq]
          exact hfound.1
        · rw [hstop.calm_eq]
      | halt reason => trivial
    · obtain rfl := herror e rfl
      exact fun he => absurd he id
    · refine sat_read_bind.mpr (sat_check_bind.mpr ⟨fun _ => ?_, fun _ he => absurd he hlimit⟩)
      refine sat_check_bind.mpr ⟨fun _ => ?_, fun _ he => absurd he id⟩
      exact beyond_advance _

/-- A line that was read had arrived, and nothing behind it was looked at. -/
structure LineSeen (r : WireReader) (line : List UInt8) (t : WireReader) : Prop where
  valid : eraser.Valid t
  line_eq : splitLine r.arrived = some (line, t.arrived)
  interrupted_iff : t.Interrupted ↔ r.Interrupted

/-- **A line that was not complete is read again from its start.** -/
theorem readCrlfLine_stops (h : eraser.Valid r) (hlimit : ¬limitError.IsTimeout) :
    (readCrlfLine maxPayloadBytes limitError operation r).Sat (fun p t => r.LineSeen p.1 t)
      (fun e t => e.IsTimeout → r.Interrupted ∧ 10 ∉ r.arrived ∧
        readCrlfLine maxPayloadBytes limitError operation t.calm =
          readCrlfLine maxPayloadBytes limitError operation r.calm) (fun _ => True) := by
  have hvalid : ErasableAt eraser (readCrlfLine maxPayloadBytes limitError operation) r :=
    readCrlfLine_erasable hlimit r h
  refine (((readCrlfLine_sat h.1 maxPayloadBytes limitError operation).and hvalid).and
    (readCrlfLineLoop_stops h hlimit _)).mono ?_ ?_ fun _ _ => trivial
  · rintro ⟨line, wireBytes⟩ t ⟨⟨⟨htook, hcr, hlf, -⟩, hvalid, -⟩, hbeyond⟩
    refine ⟨hvalid, ?_, interrupted_congr hbeyond⟩
    rw [htook.arrived_eq hbeyond, append_assoc]
    exact splitLine_append hcr hlf _
  · rintro e t ⟨-, hstop⟩ he
    obtain ⟨hinterrupted, hlf, htook, hagain⟩ := hstop he
    have hle := htook.unread_le
    refine ⟨hinterrupted, hlf, ?_⟩
    unfold readCrlfLine
    rw [calm_unread, calm_unread, ← hagain _ (Nat.lt_succ_self _)]
    apply readCrlfLineLoop_stable (calm_cursor_le.mpr htook.wf)
    · rw [calm_unread]
      exact Nat.lt_succ_self _
    · rw [calm_unread]
      omega

end lines

end WireReader

/-! ## Timeouts of the trailers -/

lemma sectionGoesOn_of_lf {bytes : List UInt8} (h : 10 ∉ bytes) : SectionGoesOn bytes := by
  simp [SectionGoesOn, splitOn_eq_singleton h]

/-- A section goes on behind a field. -/
lemma SectionGoesOn.of_line {line rest : List UInt8} (hlf : 10 ∉ line) {field : Field}
    (hfield : parseHeaderLine line = .ok field) (hallowed : ¬isProhibitedTrailer field.1)
    (h : SectionGoesOn rest) : SectionGoesOn (line ++ 13 :: 10 :: rest) := by
  unfold SectionGoesOn
  rw [append_cons, splitOn_append_cons_self_of_not_mem (by simpa using hlf),
    dropLast_cons_of_ne_nil (splitOn_ne_nil 10 rest), forall_mem_cons]
  refine ⟨⟨by simp, field, ?_, hallowed⟩, h⟩
  rw [dropLast_concat, hfield]
  rfl

namespace Metered

lemma readMetadataLine_stops {s : Metered} (h : WireReader.eraser.Valid s.reader) (limit : UInt64)
    (operation : Operation) :
    (readMetadataLine limit operation s).Sat (fun line t => s.reader.LineSeen line t.reader)
      (fun e _ => e.IsTimeout → s.reader.Interrupted ∧ 10 ∉ s.reader.arrived) (fun _ => True) := by
  refine sat_read_bind.mpr (sat_check_bind.mpr ⟨fun _ => ?_, fun _ he => absurd he id⟩)
  refine sat_check_bind.mpr ⟨fun _ => ?_, fun _ he => absurd he id⟩
  refine sat_bind.mpr (sat_focus.mpr
    ((readCrlfLine_stops h id).mono ?_ ?_ fun _ _ => trivial))
  · rintro ⟨line, wireBytes⟩ t hseen
    exact sat_check_bind.mpr ⟨fun _ => hseen, fun _ he => absurd he id⟩
  · exact fun e t hstop he => ⟨(hstop he).1, (hstop he).2.1⟩

/-- Counting does not touch the reader. -/
lemma countField_keeps (limit : UInt64) (s : Metered) :
    (countField limit s).Sat (fun _ t => s.reader = t.reader) (fun e _ => ¬e.IsTimeout)
      (fun _ => True) := by
  refine sat_read_bind.mpr (sat_check_bind.mpr ⟨fun _ => sat_modify_bind.mpr ?_, fun _ => id⟩)
  exact sat_check.mpr ⟨fun _ => rfl, fun _ => id⟩

end Metered

namespace Body

variable {body : Body} {r : WireReader} {α : Type} {outputLen : Nat}

/-- **The trailers time out only if all that arrived of them was accepted and did not end them.** -/
theorem readTrailersLoop_stops (hr : body.reader = some r) (h : WireReader.eraser.Valid r)
    (fuel : Nat) :
    (readTrailersLoop fuel body).Sat (fun _ _ => True)
      (fun e _ => e.IsTimeout → r.Interrupted ∧ SectionGoesOn r.arrived) (fun _ => True) := by
  induction fuel generalizing body r with
  | zero => trivial
  | succ fuel ih =>
    refine sat_read_bind.mpr (sat_bind.mpr ((sat_onMetered hr).mpr
      ((Metered.readMetadataLine_stops h _ _).mono ?_ ?_ fun _ _ => trivial)))
    · intro line s hseen
      split_ifs with hnil
      · trivial
      · refine sat_bind.mpr ((sat_onMetered rfl).mpr
          ((Metered.countField_keeps _ _).mono ?_ ?_ fun _ _ => trivial))
        · intro _ t hkept
          refine sat_ofExcept_bind.mpr ⟨fun field hfield => ?_, fun e hbad he => ?_⟩
          · refine sat_check_bind.mpr ⟨fun hallowed => ?_, fun _ he => absurd he id⟩
            refine sat_bind.mpr ((sat_onMetered rfl).mpr ?_)
            have hreader : s.reader = t.reader := hkept
            show (readTrailersLoop fuel
              { body with
                reader := some t.reader
                budget := { t.budget with fields := t.budget.fields ++ [field] }
                trailers := body.trailers.append field }).Sat _ _ _
            refine Sat.mono (ih (by rfl) (hreader ▸ hseen.valid)) (fun _ _ ht => ht) ?_
              fun _ ht => ht
            -- the section that timed out is behind this line
            intro e _ hstop he
            obtain ⟨hinterrupted, hsection⟩ := hstop he
            obtain ⟨heq, -, hlf⟩ := splitLine_eq_some hseen.line_eq
            rw [← hreader] at hinterrupted hsection
            rw [heq]
            exact ⟨hseen.interrupted_iff.mp hinterrupted, .of_line hlf hfield hallowed hsection⟩
          · exact absurd he (noTimeout_parseHeaderLine line e hbad)
        · exact fun e _ hnot he => absurd he hnot
    · exact fun e t hstop he => ⟨(hstop he).1, sectionGoesOn_of_lf (hstop he).2⟩

/-! ## Timeouts of the body -/

lemma onReader_spares {m : Call WireReader Error α} (hr : body.reader = some r)
    (hm : SparesAt WireReader.eraser m r) : SparesAt eraser (onReader m) body := by
  refine (sat_onReader hr).mpr (hm.mono (fun _ _ _ => trivial) ?_ fun _ _ => trivial)
  intro e r' hspared he
  have hcalm : r'.calm = r.calm := hspared he
  simp only [eraser_erase, calm, hr, Option.map_some, hcalm]

lemma readSome_spares (h : eraser.Valid body) (n : Nat) (operation : Operation) :
    SparesAt eraser (onReader (readSome n operation)) body := by
  cases hr : body.reader with
  | none =>
    have hnone : onReader (readSome n operation) body = .err .prematureEof body := by
      simp only [onReader, onMetered, hr]
    unfold SparesAt
    rw [hnone]
    exact fun he => absurd he id
  | some r =>
    apply onReader_spares hr
    refine (readSome_stops (h r hr).2 n operation).mono (fun _ _ _ => trivial) ?_
      fun _ _ => trivial
    exact fun e t hstop he => (hstop he).1.calm_eq

lemma subtract_steady (a b : Nat) : Steady eraser (subtract a b) :=
  .bind (.assert _ _) fun _ => .pure _

lemma countDecoded_steady (count : Nat) : Steady eraser (countDecoded count) :=
  .read fun _ => .bind (.assert _ _) fun _ => .modify _

section

variable (h : eraser.Valid body)
include h

lemma readDelimited_spares (outputLen remaining : Nat) :
    SparesAt eraser (readDelimited outputLen remaining) body := by
  apply SparesAt.read
  apply SparesAt.after
  · apply Steady.ofExcept
    exact NoTimeout.ite (.error id) (.ok _)
  · intro permitted t hpermitted
    obtain rfl := (ofExcept_eq_ok hpermitted).2
    refine ⟨rfl, (readSome_spares h permitted .readBody).bind fun bytes => ?_⟩
    refine .bind (.check id) fun _ => .bind (subtract_steady _ _) fun left => ?_
    exact .bind (countDecoded_steady _) fun _ => .pure _

lemma readContentLength_spares (outputLen remaining : Nat) :
    SparesAt eraser (readContentLength outputLen remaining) body :=
  (readDelimited_spares h outputLen remaining).bind fun _ => .bind (.modify _) fun _ => .pure _

lemma readChunkData_spares (outputLen chunkRemaining : Nat) :
    SparesAt eraser (readChunkData outputLen chunkRemaining) body :=
  (readDelimited_spares h outputLen chunkRemaining).bind fun _ => .bind (.modify _) fun _ => .pure _

omit h in
lemma deliverUntilClose_steady (bytes : List UInt8) : Steady eraser (deliverUntilClose bytes) := by
  apply Steady.ite
  · exact .bind (.modify _) fun _ => .pure _
  · exact .bind (countDecoded_steady _) fun _ => .pure _

lemma readConnectionClose_spares (outputLen : Nat) :
    SparesAt eraser (readConnectionClose outputLen) body := by
  apply SparesAt.read
  split_ifs
  · refine (readSome_spares h 1 .readBody).bind fun probe => ?_
    exact .bind (.check id) fun _ => .bind (.modify _) fun _ => .pure _
  · refine SparesAt.after (subtract_steady _ _) fun available t hsubtract => ?_
    obtain ⟨_, u, hassert, hpure⟩ := bind_eq_ok.mp hsubtract
    obtain rfl := assert_state hassert
    obtain ⟨-, rfl⟩ := ok.inj hpure
    exact ⟨rfl, (readSome_spares h _ .readBody).bind deliverUntilClose_steady⟩

end

/-- A timeout of the call is made good by the next read of the body. -/
def MendedAt (outputLen : Nat) (m : Call Body Error (List UInt8)) (body : Body) : Prop :=
  (m body).Sat (fun _ _ => True)
    (fun e t => e.IsTimeout → readChunkUnlatched outputLen t.calm = m body.calm) (fun _ => True)

lemma mendedAt_of_spares {m : Call Body Error (List UInt8)}
    (hm : SparesAt eraser m body) (hread : readChunkUnlatched outputLen body.calm = m body.calm) :
    MendedAt outputLen m body := by
  refine hm.mono (fun _ _ _ => trivial) ?_ fun _ _ => trivial
  intro e t hspared he
  have hcalm : t.calm = body.calm := hspared he
  rw [hcalm, hread]

/-- The read that the state of a body asks for. -/
def readState (outputLen : Nat) : BodyState → Call Body Error (List UInt8)
  | .empty => pure []
  | .contentLength remaining => readContentLength outputLen remaining
  | .connectionClose => readConnectionClose outputLen
  | .chunked chunkRemaining needsDataCrlf => readChunked outputLen chunkRemaining needsDataCrlf

lemma readChunkUnlatched_of_valid (h : eraser.Valid body) (outputLen : Nat) :
    readChunkUnlatched outputLen body = readState outputLen body.state body := by
  have hcheck : checkReader body = .ok () body := by
    cases hr : body.reader with
    | none => simp only [checkReader, hr]
    | some r =>
      have hcontrol := checkControl_of_nil (h r hr).2 .readBody
      simp only [checkReader, hr, onReader, onMetered, Metered.onReader, Call.focus, hcontrol,
        trimap, id]
      rw [← hr]
  unfold readChunkUnlatched
  rw [bind_apply, hcheck]
  show (match body.state with
    | .empty => _ | .contentLength _ => _ | .connectionClose => _ | .chunked _ _ => _ :
      Call _ _ _) body = _
  cases body.state <;> rfl

lemma valid_calm (h : eraser.Valid body) : eraser.Valid body.calm := by
  intro r' hr'
  obtain ⟨r, hr, rfl⟩ := Option.map_eq_some_iff.mp hr'
  exact ⟨calm_cursor_le.mpr (h r hr).1, (calm_checks r).trans (h r hr).2⟩

lemma readChunkUnlatched_calm (h : eraser.Valid body) (outputLen : Nat) :
    readChunkUnlatched outputLen body.calm = readState outputLen body.state body.calm :=
  readChunkUnlatched_of_valid (valid_calm h) outputLen

lemma onReader_of_some (m : Call WireReader Error α) (hr : body.reader = some r) :
    onReader m body = (m r).trimap id id fun r' => { body with reader := some r' } := by
  simp only [onReader, onMetered, Metered.onReader, Call.focus, hr]
  cases m r <;> rfl

/-- Reading a size line depends on the reader only through the line it reads. -/
lemma readSizeLine_of_some (hr : body.reader = some r) :
    readSizeLine body = ((readCrlfLine body.maxChunkLineBytes.toNat
        (.limitExceeded .chunkLineBytes body.maxChunkLineBytes) .readBody r).trimap id id
          fun r' => { body with reader := some r' }).andThen
            fun p => Call.ofExcept (parseChunkSize p.1) := by
  rw [← onReader_of_some _ hr]
  rfl

lemma readSizeLine_stops (hr : body.reader = some r) (h : WireReader.eraser.Valid r) :
    (readSizeLine body).Sat
      (fun size t => ∃ r' line, t = { body with reader := some r' } ∧ r.LineSeen line r' ∧
        parseChunkSize line = .ok size)
      (fun e t => e.IsTimeout → t.state = body.state ∧ readSizeLine t.calm = readSizeLine body.calm)
      (fun _ => True) := by
  refine sat_read_bind.mpr (sat_bind.mpr ((sat_onReader hr).mpr
    ((readCrlfLine_stops h id).mono ?_ ?_ fun _ _ => trivial)))
  · rintro ⟨line, wireBytes⟩ r' hseen
    refine sat_ofExcept.mpr ⟨fun size hsize => ⟨r', line, rfl, hseen, hsize⟩, fun e hbad he => ?_⟩
    exact absurd he (noTimeout_parseChunkSize line e hbad)
  · rintro e r' hstop he
    refine ⟨rfl, ?_⟩
    obtain ⟨-, -, hagain⟩ := hstop he
    have hplain : body.calm.reader = some r.calm := by simp only [calm, hr, Option.map_some]
    have hcalm : (calm { body with reader := some r' }).reader = some r'.calm := rfl
    rw [readSizeLine_of_some hplain, readSizeLine_of_some hcalm]
    exact congrArg (fun o => (o.trimap id id fun r' => ({ body with reader := some r' } : Body)).andThen
      fun p => Call.ofExcept (parseChunkSize p.1)) hagain

/-- A sequence of calls, of which the first is interrupted or the rest is. -/
lemma MendedAt.bind {m : Call Body Error α}
    {f : α → Call Body Error (List UInt8)} (hm : ErasableAt eraser m body)
    (hstop : ∀ e t, m body = .err e t → eraser.Valid t → e.IsTimeout →
      readChunkUnlatched outputLen t.calm = (m >>= f) body.calm)
    (hf : ∀ a t, m body = .ok a t → eraser.Valid t → MendedAt outputLen (f a) t) :
    MendedAt outputLen (m >>= f) body := by
  unfold MendedAt
  rw [bind_apply]
  cases hrun : m body with
  | ok a t =>
    obtain ⟨ht, -, heq⟩ := hm.of_ok hrun
    have hrest : (m >>= f) body.calm = f a t.calm := by
      exact congrArg (andThen · f) heq
    rw [hrest]
    exact hf a t hrun ht
  | err e t =>
    obtain ⟨ht, -⟩ := hm.of_err hrun
    exact fun he => hstop e t hrun ht he
  | halt reason => trivial

lemma startChunk_state {size : Nat} {t : Body} {a : Unit} (h : startChunk size body = .ok a t) :
    t.state = .chunked size false := by
  obtain ⟨_, _, -, h⟩ := bind_eq_ok.mp h
  obtain ⟨_, _, -, h⟩ := bind_eq_ok.mp h
  obtain ⟨_, _, -, h⟩ := bind_eq_ok.mp h
  rw [← (ok.inj h).2]

lemma startChunk_steady (size : Nat) : Steady eraser (startChunk size) :=
  .read fun _ => .bind (subtract_steady _ _) fun _ => .bind (.check id) fun _ => .modify _

/-- The data of a chunk that was started. -/
lemma startChunk_mended (h : eraser.Valid body) {size : Nat} (hsize : 0 < size) (outputLen : Nat) :
    MendedAt outputLen (startChunk size >>= fun _ => readChunkData outputLen size) body := by
  apply MendedAt.bind (startChunk_erasable size body h)
  · intro e t herr _ he
    exact absurd he ((startChunk_steady size body).of_err herr)
  · intro _ t hstart ht
    apply mendedAt_of_spares (readChunkData_spares ht outputLen size)
    rw [readChunkUnlatched_calm ht, startChunk_state hstart]
    exact congrFun (if_pos hsize) t.calm

/-- From a size line on, a timeout is made good unless it falls into the trailers. -/
lemma readNextChunk_mended (hr : body.reader = some r) (h : eraser.Valid body)
    (hstate : body.state = .chunked 0 false) (hcut : ¬(r.Interrupted ∧ LastChunkCut r.arrived))
    (outputLen : Nat) : MendedAt outputLen (readNextChunk outputLen) body := by
  have hline := readSizeLine_stops hr (h r hr)
  apply MendedAt.bind (readSizeLine_erasable body h)
  · -- the size line is read again
    intro e t herr ht he
    obtain ⟨hsame, hagain⟩ := hline.of_err herr he
    rw [readChunkUnlatched_calm ht, hsame, hstate, bind_apply, ← hagain]
    rfl
  · intro size t hok ht
    obtain ⟨r', line, rfl, hseen, hsize⟩ := hline.of_ok hok
    by_cases hzero : size = 0
    · rw [if_pos hzero]
      refine sat_bind.mpr ((readTrailersLoop_stops rfl hseen.valid _).mono
        (fun _ _ _ => trivial) ?_ fun _ _ => trivial)
      intro e _ hstop he
      obtain ⟨hinterrupted, hsection⟩ := hstop he
      refine absurd ⟨hseen.interrupted_iff.mp hinterrupted, ?_⟩ hcut
      refine ⟨(line, r'.arrived), hseen.line_eq, ?_, hsection⟩
      rw [hsize, hzero]
      rfl
    · rw [if_neg hzero]
      exact startChunk_mended ht (Nat.pos_of_ne_zero hzero) outputLen

lemma readDataCrlf_stops (hr : body.reader = some r) (h : WireReader.eraser.Valid r) :
    (readDataCrlf body).Sat
      (fun _ t => ∃ r', t = { body with reader := some r', state := .chunked 0 false } ∧
        r.arrived = [13, 10] ++ r'.arrived ∧ (r'.Interrupted ↔ r.Interrupted))
      (fun e t => e.IsTimeout → t.calm = body.calm ∨ r.Interrupted ∧ r.arrived.length = 1)
      (fun _ => True) := by
  refine sat_bind.mpr ((sat_onReader hr).mpr
    (((readExactWire_sat h.1 .readBody).and
      (readExactWire_stops h .readBody)).mono ?_ ?_ fun _ _ => trivial))
  · rintro ending r' ⟨⟨htook, -⟩, hbeyond⟩
    refine sat_check_bind.mpr ⟨fun hending => ?_, fun _ he => absurd he id⟩
    refine ⟨r', rfl, ?_, interrupted_congr hbeyond⟩
    rw [← hending]
    exact htook.arrived_eq hbeyond
  · rintro e r' ⟨-, hstop⟩ he
    refine (hstop he).imp_left fun hcalm => ?_
    simp only [calm, hr, Option.map_some, hcalm]

/-- The line ending behind a chunk and what follows it. -/
lemma readDataCrlf_mended (hr : body.reader = some r) (h : eraser.Valid body)
    (hstate : body.state = .chunked 0 true) (hlost : ¬(r.Interrupted ∧ r.arrived.length = 1))
    (hcut : ¬(r.Interrupted ∧ r.arrived.take 2 = [13, 10] ∧ LastChunkCut (r.arrived.drop 2)))
    (outputLen : Nat) :
    MendedAt outputLen (readDataCrlf >>= fun _ => readNextChunk outputLen) body := by
  have hstops := readDataCrlf_stops hr (h r hr)
  apply MendedAt.bind (readDataCrlf_erasable body h)
  · intro e t herr ht he
    rcases hstops.of_err herr he with hcalm | hone
    · rw [hcalm, readChunkUnlatched_calm h, hstate]
      rfl
    · exact absurd hone hlost
  · intro _ t hok ht
    obtain ⟨r', rfl, harrived, hiff⟩ := hstops.of_ok hok
    apply readNextChunk_mended rfl ht rfl
    rintro ⟨hinterrupted, hlast⟩
    apply hcut
    rw [harrived]
    exact ⟨hiff.mp hinterrupted, rfl, hlast⟩

/-- **A read that times out is made good by the next one**, unless it is cut short. -/
theorem readChunkUnlatched_mended (h : eraser.Valid body) (hsound : body.Sound)
    (hcut : ¬body.CutShort) (outputLen : Nat) :
    MendedAt outputLen (readChunkUnlatched outputLen) body := by
  have hplain := readChunkUnlatched_of_valid h outputLen
  have hcalm := readChunkUnlatched_calm h outputLen
  suffices hstate : MendedAt outputLen (readState outputLen body.state) body by
    unfold MendedAt at hstate ⊢
    rw [hplain, hcalm]
    exact hstate
  generalize hs : body.state = state at hcalm ⊢
  match state with
  | .empty => trivial
  | .contentLength remaining =>
    exact mendedAt_of_spares (readContentLength_spares h outputLen remaining) hcalm
  | .connectionClose => exact mendedAt_of_spares (readConnectionClose_spares h outputLen) hcalm
  | .chunked (n + 1) needsDataCrlf =>
    exact mendedAt_of_spares (readChunkData_spares h outputLen (n + 1)) hcalm
  | .chunked 0 needsDataCrlf =>
    cases hr : body.reader with
    | none => exact absurd (hs.symm.trans (hsound.closed.mp hr)) (by simp)
    | some r =>
      have hplace : ¬r.losesPlace body.state = true := by
        intro hloses
        apply hcut
        simp only [CutShort, hr, Option.any_some, hloses]
      rw [hs] at hplace
      cases needsDataCrlf with
      | false =>
        apply readNextChunk_mended hr h hs
        simpa [losesPlace] using hplace
      | true =>
        simp only [losesPlace, decide_eq_true_eq] at hplace
        apply readDataCrlf_mended hr h hs
        · exact fun hone => hplace ⟨hone.1, .inl hone.2⟩
        · exact fun hlast => hplace ⟨hlast.1, .inr hlast.2⟩

lemma readChunk_mended (h : eraser.Valid body) (hsound : body.Sound)
    (hlive : body.terminalError = none) (hout : 0 < outputLen) (hcut : ¬body.CutShort) :
    (readChunk outputLen body).Sat (fun _ _ => True)
      (fun e t => e.IsTimeout → readChunk outputLen t.calm = readChunk outputLen body.calm)
      (fun _ => True) := by
  have hmended := readChunkUnlatched_mended h hsound hcut outputLen
  have hreads := readChunkUnlatched_reads hsound hout
  unfold readChunk
  rw [if_neg (by omega), hlive]
  cases hrun : readChunkUnlatched outputLen body with
  | ok bytes t => trivial
  | halt reason => trivial
  | err e t =>
    intro he
    have hlive' : t.calm.terminalError = none := (hreads.of_err hrun).1.terminalError_eq.trans hlive
    have hlive'' : body.calm.terminalError = none := hlive
    simp only [isTerminalBodyError_eq_false he, Bool.false_eq_true, if_false]
    have hne : ¬outputLen = 0 := by omega
    rw [hlive', hlive'', hmended.of_err hrun he, if_neg hne, if_neg hne]

/-! ## Whole runs -/

section runs

variable {sizes : Nat → Nat}

lemma mem_readsFrom (fuel k : Nat) : body ∈ readsFrom sizes (fuel + 1) k body := by
  exact mem_cons_self

/-- **The run with the timeouts ends as the run without them.** -/
theorem readRetrying_eq (hsizes : ∀ k, 0 < sizes k) (fuel fuel' k : Nat)
    (h : eraser.Valid body) (hsound : body.Sound) (hlive : body.terminalError = none)
    (hfuel : body.rest.length + eraser.burden body < fuel) (hfuel' : body.rest.length < fuel')
    (hsteps : ∀ b ∈ readsFrom sizes fuel k body, ¬b.CutShort) :
    ∃ result, readRetrying sizes fuel k body = some result ∧
      readRetrying sizes fuel' k body.calm = some result := by
  induction fuel generalizing body k fuel' with
  | zero => exact absurd hfuel (Nat.not_lt_zero _)
  | succ fuel ih =>
    obtain ⟨fuel', rfl⟩ := Nat.exists_eq_add_of_lt (Nat.zero_lt_of_lt hfuel')
    rw [Nat.zero_add] at hfuel' ⊢
    have hcut : ¬body.CutShort := hsteps body (mem_readsFrom fuel k)
    have hcalm := readChunk_erasable (sizes k) h hlive
    have hmended := readChunk_mended h hsound hlive (hsizes k) hcut
    have hspec := readChunk_sat hsound hlive (hsizes k)
    unfold ErasableAt at hcalm
    rw [eraser_erase] at hcalm
    cases hrun : readChunk (sizes k) body with
    | halt reason => exact (hspec.of_halt hrun).elim
    | ok bytes t =>
      obtain ⟨ht, hburden, heq⟩ := hcalm.of_ok hrun
      obtain ⟨hadv, -⟩ := hspec.of_ok hrun
      rw [eraser_erase] at heq
      cases bytes with
      | nil =>
        refine ⟨{ delivered := [], trailers := t.trailers, error := none }, ?_, ?_⟩
        · simp only [readRetrying, hrun]
        · simp only [readRetrying, heq]
          rfl
      | cons byte bytes =>
        have hrest := hadv.rest_le
        rw [length_cons] at hrest
        obtain ⟨result, hplain, hquiet⟩ := ih fuel' (k + 1) ht hadv.sound
          (hadv.terminalError_eq.trans hlive) (by omega) (by omega) fun b hb =>
            hsteps b (by simp only [readsFrom, hrun, mem_cons]; exact .inr hb)
        refine ⟨result.prepend (byte :: bytes), ?_, ?_⟩
        · simp only [readRetrying, hrun, hplain, Option.map_some]
        · simp only [readRetrying, heq, hquiet, Option.map_some]
    | err e t =>
      obtain ⟨ht, hburden, hless, heq⟩ := hcalm.of_err hrun
      by_cases he : e.IsTimeout
      · obtain ⟨⟨u, hadv, hu⟩, -⟩ := hspec.of_err hrun
        rw [isTerminalBodyError_eq_false he] at hu
        obtain rfl : t = u := hu
        have hrest := hadv.rest_le
        have hfewer := hless he
        obtain ⟨result, hplain, hquiet⟩ := ih (fuel' + 1) k ht hadv.sound
          (hadv.terminalError_eq.trans hlive) (by omega) (by omega) fun b hb =>
            hsteps b (by simp only [readsFrom, hrun, mem_cons, if_pos he]; exact .inr hb)
        refine ⟨result, ?_, ?_⟩
        · simp only [readRetrying, hrun, if_pos he]
          exact hplain
        · -- the first read of both runs does the same
          rw [← hquiet]
          simp only [readRetrying, hmended.of_err hrun he]
      · have hend := heq he
        refine ⟨{ delivered := [], trailers := t.trailers, error := some e }, ?_, ?_⟩
        · simp only [readRetrying, hrun, if_neg he]
        · simp only [readRetrying, hend, if_neg he]
          rfl

end runs

end Body

lemma Body.calm_new (reader : WireReader) (framing : BodyFraming) (config : ClientConfig)
    (budget : HeaderBudget) :
    Body.new reader.calm framing config budget = (Body.new reader framing config budget).calm := by
  simp only [Body.new, Body.calm]
  split_ifs <;> rfl

/-- A response whose head came without a timeout comes without timeouts too. -/
lemma executePrepared_calm {method : Method} {policy : RedirectPolicy} {config : ClientConfig}
    {written : Except Error Unit} {script : List SocketEvent} {response : Response} {s : Metered}
    (h : executePrepared method policy config written (.new script []) = .ok response s) :
    executePrepared method policy config written (.new (script.filter (!·.interrupts)) []) =
      .ok { head := response.head, body := response.body.calm } (Metered.eraser.erase s) ∧
      Body.eraser.Valid response.body := by
  obtain ⟨_, t, hwritten, h⟩ := bind_eq_ok.mp h
  obtain ⟨rfl, rfl⟩ := ofExcept_eq_ok hwritten
  obtain ⟨head, t, hhead, h⟩ := bind_eq_ok.mp h
  obtain ⟨_, _, hpolicy, h⟩ := bind_eq_ok.mp h
  obtain rfl := check_state hpolicy
  obtain ⟨rfl, rfl⟩ := ok.inj h
  have herased := Metered.parseResponseHead_erasable method config (.new script [])
    ⟨Nat.zero_le _, rfl⟩
  obtain ⟨ht, -, heq⟩ := herased.of_ok hhead
  constructor
  · refine bind_eq_ok.mpr ⟨(), _, rfl, bind_eq_ok.mpr ⟨head, _, heq, ?_⟩⟩
    rw [check_eq_pure (check_holds hpolicy)]
    exact congrArg (fun body => ok (Response.mk head body) _)
      (Body.calm_new t.reader head.framing config t.budget)
  · intro r hr
    simp only [Body.new] at hr
    split_ifs at hr
    exact Option.some.inj hr ▸ ht

/-- **Retries are transparent**: over any segments with timeouts between them, into buffers of any
sizes, a body whose reads are made again when they time out delivers the bytes, has the trailers and
ends as without the timeouts, in every run in which no read starts where a timeout cuts it short.
Source: `Body::read_chunk` ("an inactivity timeout may be retried"). -/
theorem retries_are_transparent (method : Method) (policy : RedirectPolicy) (config : ClientConfig)
    (written : Except Error Unit) (script : List SocketEvent) (sizes : Nat → Nat)
    (hsizes : ∀ k, 0 < sizes k) (response : Response) (s : Metered)
    (hstart : executePrepared method policy config written (.new script []) = .ok response s)
    (hsteps : ∀ body ∈ response.body.reads sizes, ¬body.CutShort) :
    ∃ response' s' result,
      executePrepared method policy config written (.new (script.filter (!·.interrupts)) []) =
        .ok response' s' ∧ response'.head = response.head ∧
      response.body.finish sizes = some result ∧ response'.body.finish sizes = some result := by
  obtain ⟨hcalm, hvalid⟩ := executePrepared_calm hstart
  have hspec := executePrepared_sat method policy config written (s := Metered.new script [])
    (Nat.zero_le _) (HeaderBudget.sound_new _ _) (Nat.zero_le _)
  obtain ⟨h, hcommitted, -⟩ := hspec.of_ok hstart
  have hadv := hcommitted.advances
  have hsound : response.body.Sound := by
    rw [hcommitted.body_eq]
    exact Body.sound_new hadv.wf hadv.sound
  have hlive : response.body.terminalError = none := by
    rw [hcommitted.body_eq]
    rfl
  have hrest := response.body.rest_lt_available
  have hburden : Body.eraser.burden response.body = response.body.interruptions := rfl
  have hrest' : response.body.rest.length < response.body.calm.rounds := by
    rw [Body.rounds, Body.available_calm]
    omega
  obtain ⟨result, hplain, hquiet⟩ := Body.readRetrying_eq hsizes response.body.rounds
    response.body.calm.rounds 0 hvalid hsound hlive (by rw [Body.rounds]; omega) hrest' hsteps
  exact ⟨_, _, result, hcalm, rfl, hplain, hquiet⟩

/-- Execute a request and read the body of its response to the end. -/
def retrieve (script : List SocketEvent) : Option Finish :=
  (executePrepared .get .manual .default (.ok ()) (.new script [])).value?.bind fun response =>
    response.body.finish fun _ => 1

/-- A chunked body with a timeout inside a size line and one inside a chunk. -/
def timeoutsBetween : List SocketEvent :=
  [.data 72 (ascii "TTP/1.1 200 OK\r\nTransfer-Encoding: chunked\r\n\r\n2\r"), .timeout,
    .data 10 (ascii "x"), .timeout, .data 121 (ascii "\r\n0\r\n\r\n")]

theorem retries_are_transparent_chunked :
    ∃ response s response' s',
      executePrepared .get .manual .default (.ok ()) (.new timeoutsBetween []) = .ok response s ∧
      executePrepared .get .manual .default (.ok ())
        (.new (timeoutsBetween.filter (!·.interrupts)) []) = .ok response' s' ∧
      response.body.finish (fun _ => 1) = response'.body.finish (fun _ => 1) ∧
      (response.body.finish fun _ => 1) =
        some { delivered := ascii "xy", trailers := .new, error := none } := by
  have hsteps : (executePrepared .get .manual .default (.ok ())
      (.new timeoutsBetween [])).value?.any (fun response =>
        decide (∀ body ∈ response.body.reads fun _ => 1, ¬body.CutShort)) = true := by
    decide +kernel
  have hend : retrieve timeoutsBetween =
      some { delivered := ascii "xy", trailers := .new, error := none } := by
    decide +kernel
  cases hstart : executePrepared .get .manual .default (.ok ()) (.new timeoutsBetween []) with
  | ok response s =>
    rw [hstart] at hsteps
    rw [retrieve, hstart] at hend
    obtain ⟨response', s', result, hstart', -, hplain, hquiet⟩ :=
      retries_are_transparent .get .manual .default (.ok ()) timeoutsBetween (fun _ => 1)
        (fun _ => Nat.one_pos) response s hstart (by simpa [Outcome.value?] using hsteps)
    exact ⟨response, s, response', s', rfl, hstart', hplain.trans hquiet.symm, hend⟩
  | err e s => simp [hstart, Outcome.value?] at hsteps
  | halt reason => simp [hstart, Outcome.value?] at hsteps

/-- A timeout before the LF behind the data of a chunk. -/
def timeoutInLineEnding : List SocketEvent :=
  [.data 72 (ascii "TTP/1.1 200 OK\r\nTransfer-Encoding: chunked\r\n\r\n1\r\na\r"), .timeout,
    .data 10 (ascii "0\r\n\r\n")]

/-- A timeout between the last size line and the line that ends the trailers. -/
def timeoutInTrailers : List SocketEvent :=
  [.data 72 (ascii "TTP/1.1 200 OK\r\nTransfer-Encoding: chunked\r\n\r\n1\r\na\r\n0\r\n"), .timeout,
    .data 13 (ascii "\n")]

/-- Without their timeouts both bodies are read to their end; with them, one read again fails on what
is left of the line ending and the other on what is left of the trailers. -/
theorem retry_loses_place :
    retrieve (timeoutInLineEnding.filter (!·.interrupts)) =
        some { delivered := ascii "a", trailers := .new, error := none } ∧
      retrieve timeoutInLineEnding =
        some { delivered := ascii "a", trailers := .new, error := some .invalidLineEnding } ∧
      retrieve (timeoutInTrailers.filter (!·.interrupts)) =
        some { delivered := ascii "a", trailers := .new, error := none } ∧
      retrieve timeoutInTrailers =
        some { delivered := ascii "a", trailers := .new, error := some .malformedChunkSize } := by
  decide +kernel

end WildBuzzard.Net
