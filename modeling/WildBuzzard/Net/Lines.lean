import WildBuzzard.Net.Wire

/-!
# What a reader reads

`WireReader.rest` is what is left of the stream, buffered or not. The reads of `WireReader` are
specified by what they take off its front, for every script of segments, timeouts and failures:

* `readSome_sat`, `readExactWire_sat`: the bytes they return are the next bytes of the stream;
* `readCrlfLine_sat`: a line is returned with its line ending taken off, and **an error takes
  nothing off the stream**.

A reader is `Quiet` when its script has segments only and no check finds anything. Then a line is
read exactly when `takeLine` finds one at the front of the stream, however the stream is cut.
-/

namespace WildBuzzard.Net

open Lib List Call Option

/-! ## Lines of a byte string -/

variable {line : List UInt8}

/-- The first line, ended by CRLF and with no CR or LF inside, and what follows it. -/
def splitLine (bytes : List UInt8) : Option (List UInt8 × List UInt8) :=
  match bytes.dropWhile (· ≠ 10) with
  | [] => none
  | _ :: rest =>
    let line := bytes.takeWhile (· ≠ 10)
    if line.getLast? = some 13 ∧ 13 ∉ line.dropLast then some (line.dropLast, rest) else none

/-- The first line, if it is not too long. -/
def takeLine (maxPayloadBytes : Nat) (bytes : List UInt8) : Option (List UInt8 × List UInt8) :=
  (splitLine bytes).filter fun p => p.1.length ≤ maxPayloadBytes

lemma takeWhile_append_lf (h : 10 ∉ line) (rest : List UInt8) :
    (line ++ 10 :: rest).takeWhile (· ≠ 10) = line ∧
      (line ++ 10 :: rest).dropWhile (· ≠ 10) = 10 :: rest := by
  have hall : ∀ b ∈ line, decide (b ≠ 10) = true := by
    intro b hb
    simp only [decide_eq_true_eq]
    exact fun heq => h (heq ▸ hb)
  rw [takeWhile_append_of_pos hall, dropWhile_append_of_pos hall]
  simp

lemma splitLine_of_lf (h : 10 ∉ line) (rest : List UInt8) :
    splitLine (line ++ 10 :: rest) =
      if line.getLast? = some 13 ∧ 13 ∉ line.dropLast then some (line.dropLast, rest) else none := by
  unfold splitLine
  rw [(takeWhile_append_lf h rest).1, (takeWhile_append_lf h rest).2]

lemma splitLine_append (hcr : 13 ∉ line) (hlf : 10 ∉ line)
    (rest : List UInt8) : splitLine (line ++ 13 :: 10 :: rest) = some (line, rest) := by
  have hlf' : 10 ∉ line ++ [13] := by simp [hlf]
  have h := splitLine_of_lf hlf' rest
  rw [append_assoc, singleton_append] at h
  rw [h]
  simp [hcr]

/-- What a first line looks like. -/
lemma splitLine_eq_some {bytes line rest : List UInt8} (h : splitLine bytes = some (line, rest)) :
    bytes = line ++ 13 :: 10 :: rest ∧ 13 ∉ line ∧ 10 ∉ line := by
  unfold splitLine at h
  split at h
  · simp at h
  · rename_i b tail hdrop
    dsimp only at h
    split_ifs at h with hcond
    obtain ⟨rfl, rfl⟩ : (bytes.takeWhile (· ≠ 10)).dropLast = line ∧ tail = rest := by simpa using h
    obtain ⟨hlast, hcr⟩ := hcond
    have hb : b = 10 := by
      have hhead := head?_dropWhile_not (fun b : UInt8 => decide (b ≠ 10)) bytes
      rw [hdrop] at hhead
      simpa using hhead
    have hsplit : bytes = bytes.takeWhile (· ≠ 10) ++ b :: tail := by
      rw [← hdrop, takeWhile_append_dropWhile]
    obtain ⟨front, hfront⟩ := getLast?_eq_some_iff.mp hlast
    have hlf : 10 ∉ bytes.takeWhile (· ≠ 10) := by
      intro hmem
      simpa using mem_takeWhile_imp hmem
    rw [hfront] at hsplit hlf ⊢
    refine ⟨?_, ?_, ?_⟩
    · rw [hsplit, hb]
      simp
    · rw [hfront] at hcr
      exact hcr
    · simp only [mem_append, not_or] at hlf
      simpa using hlf.1

/-- A byte string without LF has no line. -/
lemma splitLine_eq_none_of_lf {bytes : List UInt8} (h : 10 ∉ bytes) : splitLine bytes = none := by
  apply eq_none_iff_forall_ne_some.mpr
  rintro ⟨line, rest⟩ hline
  rw [(splitLine_eq_some hline).1] at h
  simp at h

lemma takeLine_eq_some {n : Nat} {bytes line rest : List UInt8} :
    takeLine n bytes = some (line, rest) ↔
      splitLine bytes = some (line, rest) ∧ line.length ≤ n := by
  unfold takeLine
  simp

/-! ## Looking for the end of a line -/

/-- A part of a line: a CR can only be its last byte, before the LF that ends the line. -/
def Unfinished (bytes : List UInt8) : Prop := 10 ∉ bytes ∧ 13 ∉ bytes.dropLast

lemma unfinished_nil : Unfinished [] := by simp [Unfinished]

/-- One more byte that does not end the line. -/
lemma Unfinished.concat {before : List UInt8} {byte : UInt8} (h : Unfinished before)
    (hlast : before.getLast? ≠ some 13) (hbyte : byte ≠ 10) : Unfinished (before ++ [byte]) := by
  refine ⟨by simp [h.1, Ne.symm hbyte], ?_⟩
  rw [dropLast_concat]
  intro hmem
  have hne : before ≠ [] := ne_nil_of_mem hmem
  rw [← dropLast_append_getLast hne] at hmem
  rcases mem_append.mp hmem with hmem | hmem
  · exact h.2 hmem
  · rw [getLast?_eq_some_getLast hne] at hlast
    exact hlast (by rw [← mem_singleton.mp hmem])

/-- A CR before another byte than LF spoils the line. -/
lemma splitLine_of_stray_cr {before after : List UInt8} {byte : UInt8} (hbefore : 10 ∉ before)
    (hbyte : byte ≠ 10) : splitLine (before ++ 13 :: byte :: after) = none := by
  apply eq_none_iff_forall_ne_some.mpr
  rintro ⟨line, rest⟩ hline
  obtain ⟨heq, hcr, hlf⟩ := splitLine_eq_some hline
  -- the CR of the line ending comes after the stray one, so the stray one is inside the line
  rcases append_eq_append_iff.mp heq with ⟨mid, hleft, hright⟩ | ⟨mid, hleft, hright⟩
  · rcases mid with _ | ⟨x, mid⟩
    · simp only [nil_append, cons.injEq] at hright
      exact hbyte hright.2.1
    · simp only [cons_append, cons.injEq] at hright
      rw [hleft, ← hright.1] at hcr
      simp at hcr
  · rcases mid with _ | ⟨x, _ | ⟨y, mid⟩⟩
    · simp only [nil_append, cons.injEq] at hright
      exact hbyte hright.2.1.symm
    · simp at hright
    · simp only [cons_append, cons.injEq] at hright
      rw [hleft, ← hright.2.1] at hbefore
      simp at hbefore

/-- What the search for the end of a line finds in the bytes at hand. -/
def Found (pending : List UInt8) : Option (Except Error Nat) → Prop
  | none => Unfinished pending
  | some (.ok offset) =>
    ∃ line tail, pending = line ++ 13 :: 10 :: tail ∧ offset = line.length + 1 ∧ 13 ∉ line ∧ 10 ∉ line
  | some (.error _) => ∀ more, splitLine (pending ++ more) = none

lemma scanLine_found (before rest : List UInt8) (h : Unfinished before)
    (hcr : before.getLast? = some 13 → rest.head? = some 10 ∨ rest = []) :
    Found (before ++ rest) (WireReader.scanLine (before ++ rest) before.length rest) := by
  induction rest generalizing before with
  | nil => simpa [WireReader.scanLine, Found] using h
  | cons byte rest ih =>
    unfold WireReader.scanLine
    split_ifs with hlf hbad hstray
    · -- an LF without a CR before it
      subst hlf
      intro more
      rw [append_assoc, cons_append, splitLine_of_lf h.1]
      apply if_neg
      rintro ⟨hlast, _⟩
      have hne : before ≠ [] := by
        intro hnil
        simp [hnil] at hlast
      have hpos := length_pos_iff.mpr hne
      rcases hbad with hzero | hprev
      · omega
      · rw [getElem?_append_left (by omega), ← getLast?_eq_getElem?] at hprev
        exact hprev hlast
    · subst hlf
      push Not at hbad
      obtain ⟨hpos, hprev⟩ := hbad
      rw [getElem?_append_left (by omega), ← getLast?_eq_getElem?] at hprev
      obtain ⟨line, rfl⟩ := getLast?_eq_some_iff.mp hprev
      refine ⟨line, rest, by simp, by simp, ?_, ?_⟩
      · simpa using h.2
      · have := h.1
        simp only [mem_append, not_or] at this
        exact this.1
    · obtain ⟨rfl, hne, hhead⟩ := hstray
      obtain ⟨next, rest, rfl⟩ := exists_cons_of_ne_nil hne
      intro more
      rw [append_assoc]
      exact splitLine_of_stray_cr h.1 (fun heq => hhead (by simp [heq]))
    · have hlast : before.getLast? ≠ some 13 := by
        intro hlast
        rcases hcr hlast with hhead | hnil
        · simp at hhead
          exact hlf hhead
        · simp at hnil
      have hnext := ih (before ++ [byte]) (h.concat hlast hlf) (by
        intro hlast'
        rw [getLast?_concat] at hlast'
        have hbyte : byte = 13 := some.inj hlast'
        by_contra hnone
        push Not at hnone
        exact hstray ⟨hbyte, hnone.2, hnone.1⟩)
      simpa using hnext

/-! ## Reads -/

namespace WireReader

variable {r : WireReader} {n : Nat}

/-- What is left of the stream. -/
def rest (r : WireReader) : List UInt8 := r.pending ++ r.unread

/-- The cursor is inside the buffer. -/
def Wf (r : WireReader) : Prop := r.cursor ≤ r.buffer.length

/-- Segments only, and no interruption. -/
def Undisturbed (r : WireReader) : Prop :=
  r.checks = [] ∧ ∀ e ∈ r.script, ∃ first rest, e = SocketEvent.data first rest

/-- What a read does to the stream when it returns bytes. -/
structure Took (r r' : WireReader) (bytes : List UInt8) : Prop where
  wf : r'.Wf
  rest_eq : r.rest = bytes ++ r'.rest
  undisturbed : r.Undisturbed → r'.Undisturbed
  unread_le : r'.unread.length ≤ r.unread.length

lemma Took.refl (h : r.Wf) : r.Took r [] :=
  ⟨h, rfl, fun hu => hu, le_rfl⟩

lemma Took.trans {r s t : WireReader} {a b : List UInt8} (h : r.Took s a) (h' : s.Took t b) :
    r.Took t (a ++ b) :=
  ⟨h'.wf, by rw [h.rest_eq, h'.rest_eq, append_assoc],
    fun hu => h'.undisturbed (h.undisturbed hu), h'.unread_le.trans h.unread_le⟩

lemma took_compact (h : r.Wf) : r.Took r.compactIfConsumed [] := by
  unfold compactIfConsumed
  split_ifs with hc
  · refine ⟨Nat.zero_le _, ?_, fun hu => hu, le_rfl⟩
    simp [rest, pending, hc, unread]
  · exact .refl h

lemma took_advance (h : r.Wf) (hn : n ≤ r.pending.length) :
    r.Took (advance n r) (r.pending.take n) := by
  have hlen : r.cursor + n ≤ r.buffer.length := by
    unfold Wf at h
    rw [pending, length_drop] at hn
    omega
  have hmoved : r.Took { r with cursor := r.cursor + n } (r.pending.take n) := by
    refine ⟨hlen, ?_, fun hu => hu, le_rfl⟩
    simp only [rest, pending, unread]
    rw [← drop_drop, ← append_assoc, take_append_drop]
  have hcompact := hmoved.trans (took_compact hmoved.wf)
  rwa [append_nil] at hcompact

/-- An interrupted or failed read, which takes nothing off the stream. -/
structure Spared (r r' : WireReader) : Prop where
  took : r.Took r' []
  disturbed : ¬r.Undisturbed

lemma checkControl_sat (h : r.Wf) (operation : Operation) :
    (checkControl operation r).Ends
      (fun _ r' => r.Took r' [] ∧ r'.buffer = r.buffer ∧ r'.cursor = r.cursor ∧
        r'.script = r.script) (fun _ r' => r.Spared r') := by
  unfold checkControl
  split
  · exact ⟨.refl h, rfl, rfl, rfl⟩
  · rename_i rest hchecks
    refine ⟨⟨h, rfl, fun hu => ?_, le_rfl⟩, rfl, rfl, rfl⟩
    exact absurd hu.1 (by simp [hchecks])
  · rename_i rest hchecks
    have hnot : ¬r.Undisturbed := fun hu => absurd hu.1 (by simp [hchecks])
    exact ⟨⟨h, rfl, fun hu => absurd hu hnot, le_rfl⟩, hnot⟩
  · rename_i rest hchecks
    have hnot : ¬r.Undisturbed := fun hu => absurd hu.1 (by simp [hchecks])
    exact ⟨⟨h, rfl, fun hu => absurd hu hnot, le_rfl⟩, hnot⟩

section

variable (h : r.Wf) (hn : 0 < n) (operation : Operation)
include h hn

/-- A read of the socket returns the next bytes it holds, and none only at the end. -/
lemma takeSegment_sat :
    (takeSegment n operation r).Ends
      (fun bytes r' => r'.Wf ∧ r'.buffer = r.buffer ∧ r'.cursor = r.cursor ∧
        r.unread = bytes ++ r'.unread ∧ bytes.length ≤ n ∧ (bytes = [] → r.unread = []) ∧
        (r.Undisturbed → r'.Undisturbed)) (fun _ r' => r.Spared r') := by
  unfold takeSegment
  split
  · rename_i hscript
    exact ⟨h, rfl, rfl, rfl, Nat.zero_le _, fun _ => by simp [unread, hscript], fun hu => hu⟩
  · rename_i rest hscript
    have hnot : ¬r.Undisturbed := by
      intro hu
      obtain ⟨_, _, heq⟩ := hu.2 .timeout (by simp [hscript])
      simp at heq
    refine ⟨⟨h, ?_, fun hu => absurd hu hnot, ?_⟩, hnot⟩
    · simp [WireReader.rest, pending, unread, hscript, SocketEvent.bytes]
    · simp [unread, hscript, SocketEvent.bytes]
  · rename_i failure rest hscript
    have hnot : ¬r.Undisturbed := by
      intro hu
      obtain ⟨_, _, heq⟩ := hu.2 (.fail failure) (by simp [hscript])
      simp at heq
    refine ⟨⟨h, ?_, fun hu => absurd hu hnot, ?_⟩, hnot⟩
    · simp [WireReader.rest, pending, unread, hscript, SocketEvent.bytes]
    · simp [unread, hscript, SocketEvent.bytes]
  · rename_i first bytes rest hscript
    have hrest : r.Undisturbed → ∀ e ∈ rest, ∃ b bs, e = SocketEvent.data b bs :=
      fun hu e he => hu.2 e (by simp [hscript, he])
    split
    · rename_i hdrop
      have hshort : (first :: bytes).length ≤ n := drop_eq_nil_iff.mp hdrop
      refine ⟨h, rfl, rfl, ?_, hshort, fun hnil => absurd hnil (by simp), ?_⟩
      · simp [unread, hscript, SocketEvent.bytes]
      · exact fun hu => ⟨hu.1, hrest hu⟩
    · rename_i next left hdrop
      refine ⟨h, rfl, rfl, ?_, ?_, fun hnil => ?_, fun hu => ⟨hu.1, ?_⟩⟩
      · have hsplit := take_append_drop n (first :: bytes)
        rw [hdrop] at hsplit
        simp only [unread, hscript, flatMap_cons, SocketEvent.bytes]
        rw [← append_assoc, hsplit]
      · exact length_take_le _ _
      · have : n = 0 := by simpa using hnil
        omega
      · intro e he
        rcases mem_cons.mp he with rfl | he
        · exact ⟨next, left, rfl⟩
        · exact hrest hu e he

omit h hn in
lemma Spared.of_took {r s t : WireReader} (h : r.Took s []) (h' : s.Spared t) : r.Spared t := by
  refine ⟨?_, fun hu => h'.disturbed (h.undisturbed hu)⟩
  have := h.trans h'.took
  rwa [append_nil] at this

lemma readSocket_sat :
    (readSocket n operation r).Ends
      (fun bytes r' => r'.Wf ∧ r'.buffer = r.buffer ∧ r'.cursor = r.cursor ∧
        r.unread = bytes ++ r'.unread ∧ bytes.length ≤ n ∧ (bytes = [] → r.unread = []) ∧
        (r.Undisturbed → r'.Undisturbed)) (fun _ r' => r.Spared r') := by
  refine sat_bind.mpr ((checkControl_sat h operation).imp fun _ s hs => ?_)
  obtain ⟨htook, hbuffer, hcursor, hscript⟩ := hs
  have hunread : s.unread = r.unread := by simp [unread, hscript]
  refine (takeSegment_sat htook.wf hn operation).imp₂ ?_ ?_
  · rintro bytes r' ⟨hwf, hbuf, hcur, htaken, hlen, hnil, hu⟩
    rw [hunread] at htaken hnil
    exact ⟨hwf, hbuf.trans hbuffer, hcur.trans hcursor, htaken, hlen, hnil,
      fun hr => hu (htook.undisturbed hr)⟩
  · exact fun _ r' hspared => .of_took htook hspared

/-- **A read returns the next bytes of the stream**, and none only at its end. -/
theorem readSome_sat :
    (readSome n operation r).Ends
      (fun bytes r' => r.Took r' bytes ∧ bytes.length ≤ n ∧ (bytes = [] → r.rest = []))
      (fun _ r' => r.Spared r') := by
  unfold readSome
  rw [if_neg (by omega)]
  refine sat_bind.mpr ((checkControl_sat h operation).imp fun _ s hs => ?_)
  obtain ⟨htook, hbuffer, hcursor, _⟩ := hs
  have hrest : r.rest = s.rest := by simpa using htook.rest_eq
  show (if s.cursor < s.buffer.length then _ else readSocket n operation : Call _ _ _) s |>.Sat _ _ _
  split_ifs with hbuffered
  · have hpending : s.pending.length = s.buffer.length - s.cursor := by simp [pending]
    have hmin : min n (s.buffer.length - s.cursor) ≤ s.pending.length := by omega
    have hmoved := htook.trans (took_advance htook.wf hmin)
    refine ⟨hmoved, ?_, fun hnil => ?_⟩
    · rw [length_take]
      omega
    · have hzero := congrArg length hnil
      rw [length_take, length_nil] at hzero
      omega
  · have hpending : s.pending = [] := by
      exact drop_eq_nil_iff.mpr (by omega)
    refine (readSocket_sat htook.wf hn operation).imp₂ ?_ ?_
    · rintro bytes r' ⟨hwf, hbuf, hcur, htaken, hlen, hnil, hu⟩
      have hpending' : r'.pending = [] := by
        rw [pending, hbuf, hcur]
        exact hpending
      refine ⟨⟨hwf, ?_, fun hr => hu (htook.undisturbed hr), ?_⟩, hlen, fun hb => ?_⟩
      · rw [hrest, WireReader.rest, WireReader.rest, hpending, hpending', htaken]
        rfl
      · have := htook.unread_le
        rw [htaken, length_append] at this
        omega
      · rw [hrest, WireReader.rest, hpending, hnil hb]
        rfl
    · exact fun _ r' hspared => .of_took htook hspared

end

/-- What an exact read does that does not get all its bytes: some of them are gone. -/
lemma readExactLoop_sat {fuel n : Nat} (hfuel : n ≤ fuel) (h : r.Wf) (operation : Operation) :
    (readExactLoop operation fuel n r).Ends (fun bytes r' => r.Took r' bytes ∧ bytes.length = n)
      (fun _ r' => (∃ bytes, r.Took r' bytes) ∧ (r.Undisturbed → r.rest.length < n)) := by
  induction fuel generalizing n r with
  | zero =>
    obtain rfl : n = 0 := by omega
    exact ⟨.refl h, rfl⟩
  | succ fuel ih =>
    rcases n with _ | n
    · exact ⟨.refl h, rfl⟩
    · refine sat_seq (readSome_sat h (Nat.succ_pos n) operation) ?_ ?_
      · rintro bytes s ⟨htook, hlen, hend⟩
        refine sat_check_bind.mpr ⟨fun hnil => ?_, fun hnil => ?_⟩
        · have hpos := length_pos_iff.mpr hnil
          have hleft : n + 1 - bytes.length ≤ fuel := by omega
          refine sat_seq (ih hleft htook.wf) ?_ ?_
          · rintro more t ⟨hmore, hcount⟩
            refine ⟨htook.trans hmore, ?_⟩
            rw [length_append]
            omega
          · rintro e t ⟨⟨more, hmore⟩, hshort⟩
            refine ⟨⟨_, htook.trans hmore⟩, fun hu => ?_⟩
            have := hshort (htook.undisturbed hu)
            rw [htook.rest_eq, length_append]
            omega
        · rw [not_not] at hnil
          refine ⟨⟨bytes, htook⟩, fun _ => ?_⟩
          rw [hend hnil]
          exact Nat.succ_pos n
      · intro e s hspared
        exact ⟨⟨[], hspared.took⟩, fun hu => absurd hu hspared.disturbed⟩

lemma readExactWire_sat (h : r.Wf) (operation : Operation) :
    (readExactWire n operation r).Ends (fun bytes r' => r.Took r' bytes ∧ bytes.length = n)
      (fun _ r' => (∃ bytes, r.Took r' bytes) ∧ (r.Undisturbed → r.rest.length < n)) :=
  readExactLoop_sat (le_refl n) h operation

/-- Filling the buffer takes nothing off the stream. -/
lemma fill_sat (h : r.Wf) (operation : Operation) :
    (fill operation r).Ends (fun count r' => r.Took r' [] ∧ (count = 0 → r.unread = []) ∧
        (count ≠ 0 → r'.unread.length < r.unread.length))
      (fun _ r' => r.Spared r') := by
  have hcompact := took_compact h
  have hunread : r.compactIfConsumed.unread = r.unread := by
    unfold compactIfConsumed
    split_ifs <;> rfl
  refine sat_bind.mpr ?_
  refine sat_seq (readSocket_sat hcompact.wf (by omega) operation) ?_ ?_
  · rintro bytes s ⟨hwf, hbuf, hcur, htaken, _, hnil, hu⟩
    have hpending : s.pending = r.compactIfConsumed.pending := by
      rw [pending, hbuf, hcur]
      rfl
    have hmore : ({ s with buffer := s.buffer ++ bytes } : WireReader).pending =
        s.pending ++ bytes := by
      exact drop_append_of_le_length hwf
    refine ⟨⟨?_, ?_, fun hr => hu (hcompact.undisturbed hr), ?_⟩, ?_, ?_⟩
    · show s.cursor ≤ (s.buffer ++ bytes).length
      rw [length_append]
      exact Nat.le_trans hwf (Nat.le_add_right _ _)
    · rw [hcompact.rest_eq]
      simp only [nil_append, WireReader.rest]
      rw [hmore, hpending, htaken, append_assoc]
      rfl
    · rw [← hunread, htaken, length_append]
      exact Nat.le_add_left _ _
    · intro hcount
      rw [← hunread]
      exact hnil (length_eq_zero_iff.mp hcount)
    · intro hcount
      rw [← hunread, htaken, length_append]
      show s.unread.length < _
      omega
  · exact fun _ s hspared => .of_took hcompact hspared

/-- What the reading of a line can do. -/
def LineRead (maxPayloadBytes : Nat) (r : WireReader) (p : List UInt8 × Nat) (r' : WireReader) :
    Prop :=
  r.Took r' (p.1 ++ [13, 10]) ∧ 13 ∉ p.1 ∧ 10 ∉ p.1 ∧ p.1.length ≤ maxPayloadBytes ∧
    p.2 = p.1.length + 2

/-- What a failure to read a line can do. -/
def NoLine (maxPayloadBytes : Nat) (r r' : WireReader) : Prop :=
  r.Took r' [] ∧ (r.Undisturbed → takeLine maxPayloadBytes r.rest = none)

lemma NoLine.of_took {r s t : WireReader} (h : r.Took s []) (h' : NoLine n s t) : NoLine n r t := by
  have htook := h.trans h'.1
  have hrest : r.rest = s.rest := by simpa using h.rest_eq
  refine ⟨by simpa using htook, fun hu => ?_⟩
  rw [hrest]
  exact h'.2 (h.undisturbed hu)

lemma LineRead.of_took {r s t : WireReader} {p : List UInt8 × Nat} (h : r.Took s [])
    (h' : LineRead n s p t) : LineRead n r p t :=
  ⟨by simpa using h.trans h'.1, h'.2⟩

lemma takeLine_eq_none {bytes : List UInt8} (h : splitLine bytes = none) :
    takeLine n bytes = none := by
  simp [takeLine, h]

/-- The bytes at hand are longer than any line that is admitted. -/
lemma takeLine_of_long {before after : List UInt8} (h : Unfinished before)
    (hlong : n + 1 < before.length) : takeLine n (before ++ after) = none := by
  apply eq_none_iff_forall_ne_some.mpr
  rintro ⟨line, rest⟩ hline
  obtain ⟨hsplit, hlen⟩ := takeLine_eq_some.mp hline
  have heq := (splitLine_eq_some hsplit).1
  -- the LF of the line would be among the bytes at hand
  have htake := congrArg (take (line.length + 2)) heq
  rw [take_append_of_le_length (by omega)] at htake
  have hmem : 10 ∈ before.take (line.length + 2) := by
    rw [htake]
    simp [take_append]
  exact h.1 (mem_of_mem_take hmem)

lemma completeLine_sat (h : r.Wf) {line tail : List UInt8}
    (hpending : r.pending = line ++ 13 :: 10 :: tail) (hcr : 13 ∉ line) (hlf : 10 ∉ line)
    (maxPayloadBytes : Nat) (limitError : Error) :
    (completeLine (line.length + 1) maxPayloadBytes limitError r).Ends
      (LineRead maxPayloadBytes r) (fun _ => NoLine maxPayloadBytes r) := by
  have hpayload : r.pending.take (line.length + 1 - 1) = line := by simp [hpending]
  have hwhole : r.pending.take (line.length + 2) = line ++ [13, 10] := by
    rw [hpending, take_length_add_append]
    rfl
  refine sat_read_bind.mpr (sat_check_bind.mpr ⟨fun hlen => ?_, fun hlen => ?_⟩)
  · refine sat_check_bind.mpr ⟨fun _ => ?_, fun hbad => ?_⟩
    case refine_2 =>
      rw [hpayload] at hbad
      exact absurd ⟨hcr, hlf⟩ hbad
    have hroom : line.length + 2 ≤ r.pending.length := by
      rw [hpending]
      simp
    have hmoved := took_advance h hroom
    rw [hwhole] at hmoved
    rw [hpayload]
    exact ⟨hmoved, hcr, hlf, hlen, rfl⟩
  · refine ⟨.refl h, fun _ => ?_⟩
    have hsplit : splitLine r.rest = some (line, tail ++ r.unread) := by
      rw [WireReader.rest, hpending, append_assoc]
      exact splitLine_append hcr hlf _
    apply eq_none_iff_forall_ne_some.mpr
    rintro ⟨line', rest'⟩ hline
    obtain ⟨hsplit', hle⟩ := takeLine_eq_some.mp hline
    rw [hsplit] at hsplit'
    obtain ⟨rfl, _⟩ : line = line' ∧ tail ++ r.unread = rest' := by simpa using hsplit'
    exact hlen hle

lemma readCrlfLineLoop_sat {fuel : Nat} (h : r.Wf)
    (hfuel : r.unread.length < fuel) (maxPayloadBytes : Nat) (limitError : Error)
    (operation : Operation) :
    (readCrlfLineLoop maxPayloadBytes limitError operation fuel r).Ends
      (LineRead maxPayloadBytes r) (fun _ => NoLine maxPayloadBytes r) := by
  induction fuel generalizing r with
  | zero => exact absurd hfuel (Nat.not_lt_zero _)
  | succ fuel ih =>
    refine sat_seq (checkControl_sat h operation) ?_ ?_
    · rintro _ s ⟨htook, -, -, hscript⟩
      have hunread : s.unread = r.unread := by simp [unread, hscript]
      refine sat_read_bind.mpr (sat_assert_bind.mpr ⟨fun _ => ?_, fun hbad => ?_⟩)
      case refine_2 => exact hbad htook.wf
      have hfound := scanLine_found [] s.pending unfinished_nil (by simp)
      simp only [nil_append, length_nil] at hfound
      generalize scanLine s.pending 0 s.pending = found at hfound ⊢
      rcases found with _ | e | offset
      rotate_left
      · -- the line is malformed
        refine NoLine.of_took htook ⟨.refl htook.wf, fun _ => ?_⟩
        exact takeLine_eq_none (hfound s.unread)
      · obtain ⟨line, tail, hpending, rfl, hcr, hlf⟩ := hfound
        refine (completeLine_sat htook.wf hpending hcr hlf maxPayloadBytes limitError).imp₂ ?_ ?_
        · exact fun p t hp => .of_took htook hp
        · exact fun e t ht => .of_took htook ht
      · -- the line is not complete: more bytes are needed
        refine sat_check_bind.mpr ⟨fun hshort => ?_, fun hlong => ?_⟩
        · refine sat_seq (fill_sat htook.wf operation) ?_ ?_
          · rintro count t ⟨hfill, hzero, hless⟩
            refine sat_check_bind.mpr ⟨fun hcount => ?_, fun hcount => ?_⟩
            · have hfuel' : t.unread.length < fuel := by
                have := hless hcount
                rw [hunread] at this
                omega
              refine (ih hfill.wf hfuel').imp₂ ?_ ?_
              · exact fun p u hp => .of_took htook (.of_took hfill hp)
              · exact fun e u hu => .of_took htook (.of_took hfill hu)
            · refine NoLine.of_took htook ⟨hfill, fun _ => ?_⟩
              rw [not_not] at hcount
              rw [WireReader.rest, hzero hcount, append_nil]
              exact takeLine_eq_none (splitLine_eq_none_of_lf hfound.1)
          · intro e t hspared
            exact NoLine.of_took htook ⟨hspared.took, fun hu => absurd hu hspared.disturbed⟩
        · refine NoLine.of_took htook ⟨.refl htook.wf, fun _ => ?_⟩
          exact takeLine_of_long hfound (by omega)
    · intro e s hspared
      exact ⟨hspared.took, fun hu => absurd hu hspared.disturbed⟩

/-- **A line is taken off the stream with its line ending, or nothing is**; without interruptions a
line is read exactly when there is one at the front of the stream. -/
theorem readCrlfLine_sat (h : r.Wf) (maxPayloadBytes : Nat) (limitError : Error)
    (operation : Operation) :
    (readCrlfLine maxPayloadBytes limitError operation r).Ends
      (LineRead maxPayloadBytes r) (fun _ => NoLine maxPayloadBytes r) :=
  readCrlfLineLoop_sat h (Nat.lt_succ_self _) maxPayloadBytes limitError operation

end WireReader

end WildBuzzard.Net
