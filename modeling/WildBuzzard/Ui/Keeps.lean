import WildBuzzard.Ui.Sound

/-!
# Methods that keep a session sound

A session is alive and sound, or it has ended and nothing is left in it (`Inv`). A method *keeps* a
session when whatever it returns leaves such a state, with no identity used twice, and **its error,
if any, is not one of the session's own bookkeeping** (`Proper`). Both are closed under sequencing,
so a method keeps a session because its parts do.

`Kept` has one more parameter: a condition on the errors that leave the session running. Applying an
engine event may only fail that way with an error of the port (`FromPort`).
-/

namespace WildBuzzard.Ui

open Lib Engine Finmap Call

/-- An error that is not the session's own fault. -/
def Proper : SessionError → Prop
  | .bookkeeping _ => False
  | .invalidPrimaryUiFocus _ => False
  | .terminal (.engineContract (.internal _)) => False
  | _ => True

/-- A failure that is not the session's own fault. -/
def ProperFailure : SessionFailure → Prop
  | .engineContract (.internal _) => False
  | _ => True

lemma proper_terminal {failure : SessionFailure} (h : ProperFailure failure) :
    Proper (.terminal failure) := by
  unfold ProperFailure at h
  unfold Proper
  split <;> simp_all

/-- An error of the engine's port. -/
def FromPort (error : SessionError) : Prop := ∃ e, error = .engine e

/-- No condition on errors. -/
def AnyError (_ : SessionError) : Prop := True

namespace BrowserSession

variable {E α β : Type} {s t u : BrowserSession E}

/-- A running session. -/
structure Alive (s : BrowserSession E) : Prop where
  running : s.lifecycle = .running
  engine : ∃ engine, s.engine = some engine
  windows : 0 < s.windows.size
  sound : Sound s

/-- A session that has ended. -/
structure Cleared (s : BrowserSession E) : Prop where
  stopped : s.lifecycle ≠ .running
  windows : s.windows = ∅
  tabs : s.tabs = ∅
  contexts : s.contexts = ∅
  closing : s.closingContexts = ∅
  surfaces : s.surfaces = ∅
  historyBytes : s.historyBytes = 0
  retainedFrameBytes : s.retainedFrameBytes = 0
  navigationLedgerEntries : s.navigationLedgerEntries = 0
  honest : ∀ failure status, s.lifecycle = .failed failure status → ProperFailure failure

/-- A session at any time between two calls. -/
def Inv (s : BrowserSession E) : Prop := Alive s ∨ Cleared s

lemma Inv.alive_of_running (h : Inv s) (hr : s.lifecycle = .running) : Alive s :=
  h.resolve_right fun hc => hc.stopped hr

variable {tab : BrowserTabId} {a : TabState} {window : BrowserWindowId} {A : WindowState}
variable {g : BrowserSession E → SessionCall E β}

lemma Inv.alive_of_tab (h : Inv s) (ha : s.tabs.lookup tab = some a) : Alive s := by
  refine h.resolve_right fun hc => ?_
  rw [hc.tabs, lookup_empty] at ha
  simp at ha

lemma Inv.alive_of_window (h : Inv s) (hA : s.windows.lookup window = some A) : Alive s := by
  refine h.resolve_right fun hc => ?_
  rw [hc.windows, lookup_empty] at hA
  simp at hA

/-- What a call leaves behind. -/
structure After (s t : BrowserSession E) : Prop where
  inv : Inv t
  ids : Extends s t

lemma After.refl (h : Inv s) : After s s := ⟨h, .refl s⟩

lemma After.trans (h : After s t) (h' : After t u) : After s u := ⟨h'.inv, h.ids.trans h'.ids⟩

/-- The outcome of a call that keeps the session. -/
def Kept (P : SessionError → Prop) (s : BrowserSession E)
    (o : Outcome (BrowserSession E) SessionError α) : Prop :=
  o.Sat (fun _ t => After s t) (fun e t => After s t ∧ Proper e ∧ (t.lifecycle = .running → P e))
    fun _ => False

/-- A call that keeps every session. -/
def Keeps (m : SessionCall E α) : Prop := ∀ s, Inv s → Kept AnyError s (m s)

variable {P : SessionError → Prop} {m : SessionCall E α} {f : α → SessionCall E β}
  {o : Outcome (BrowserSession E) SessionError α}

variable {e : SessionError}

lemma Kept.after (hst : After s t) (h : Kept P t o) : Kept P s o :=
  h.imp₂ (fun _ _ hu => hst.trans hu) (fun _ _ hu => ⟨hst.trans hu.1, hu.2⟩)

/-- **A sequence keeps the session when its first call does and the rest does from there.** -/
theorem Kept.bind (hm : Kept P s (m s))
    (hf : ∀ a t, m s = .ok a t → After s t → Kept P t (f a t)) : Kept P s ((m >>= f) s) := by
  rw [bind_apply]
  cases hms : m s with
  | ok a t =>
    have hst : After s t := hm.of_ok hms
    exact (hf a t hms hst).after hst
  | err e t => exact hm.of_err hms
  | halt r => exact (hm.of_halt hms).elim

/-- A sequence whose first call is known. -/
lemma Kept.step {a : α} (hm : m s = .ok a t) (hst : After s t) (hf : Kept P t (f a t)) :
    Kept P s ((m >>= f) s) := by
  rw [bind_of_ok hm]
  exact hf.after hst

/-- A sequence whose first call changes nothing. -/
lemma Kept.look {a : α} (hm : m s = .ok a s) (hf : Kept P s (f a s)) :
    Kept P s ((m >>= f) s) := by
  rw [bind_of_ok hm]
  exact hf

lemma Kept.pure (h : Inv s) (a : α) : Kept P s ((pure a : SessionCall E α) s) := After.refl h

/-- The state is read. -/
lemma Kept.read (h : Kept P s (g s s)) : Kept P s ((read >>= g) s) := h

lemma Kept.map {g : α → β} (h : Kept P s (m s)) : Kept P s ((g <$> m) s) :=
  sat_map.mpr h

/-- An error that changes nothing. -/
lemma Kept.error (h : Inv s) (hp : Proper e) (hP : P e) :
    Kept P s ((Call.fail e : SessionCall E α) s) := ⟨.refl h, hp, fun _ => hP⟩

/-- A sequence that goes on with the answer of its first call, an error included. -/
lemma Kept.settle {g : Except SessionError α → SessionCall E β} (hm : Kept AnyError s (m s))
    (hg : ∀ answer t, After s t → (∀ e, answer = .error e → Proper e) → Kept P t (g answer t)) :
    Kept P s ((settle Except.ok Except.error m >>= g) s) := by
  refine Call.sat_bind.mpr (sat_settle.mpr (hm.imp₂ ?_ ?_))
  · exact fun a t ht => (hg (.ok a) t ht (by simp)).after ht
  · rintro e t ⟨ht, he, -⟩
    refine (hg (.error e) t ht ?_).after ht
    rintro _ ⟨rfl⟩
    exact he

lemma Keeps.kept (h : Keeps m) (hs : Inv s) : Kept AnyError s (m s) := h s hs

lemma Keeps.bind (hm : Keeps m) (hf : ∀ a, Keeps (f a)) : Keeps (m >>= f) :=
  fun s hs => (hm s hs).bind fun a t _ ht => hf a t ht.inv

lemma Keeps.pure (a : α) : Keeps (E := E) (pure a) := fun _ hs => .pure hs a

lemma Keeps.map {g : α → β} (h : Keeps m) : Keeps (g <$> m) := fun s hs => (h s hs).map

lemma Keeps.error (hp : Proper e) : Keeps (Call.fail e : SessionCall E α) :=
  fun _ hs => .error hs hp trivial

lemma Keeps.read (h : ∀ s, Keeps (g s)) : Keeps (read >>= g) := fun s hs => h s s hs

lemma Keeps.ite {c : Prop} [Decidable c] {m' : SessionCall E α} (h : c → Keeps m)
    (h' : ¬c → Keeps m') : Keeps (if c then m else m') := by
  split_ifs with hc
  · exact h hc
  · exact h' hc

lemma Keeps.check {c : Prop} [Decidable c] (hp : Proper e) :
    Keeps (E := E) (check c e) := .ite (fun _ => .pure ()) fun _ => .error hp

lemma Keeps.ofExcept {x : Except SessionError α} (h : ∀ e, x = .error e → Proper e) :
    Keeps (E := E) (ofExcept x) := by
  cases x with
  | ok a => exact .pure a
  | error e => exact .error (h e rfl)

lemma Keeps.okOr {v : Option α} (hp : Proper e) : Keeps (E := E) (okOr v e) := by
  cases v with
  | none => exact .error hp
  | some a => exact .pure a

lemma ensureRunning_keeps : Keeps (E := E) ensureRunning := by
  intro s hs
  unfold ensureRunning
  split_ifs
  · exact After.refl hs
  · exact ⟨After.refl hs, trivial, fun _ => trivial⟩

lemma ensureRunning_eq (h : Alive s) : ensureRunning s = .ok () s := if_pos h.running

/-- A call of a session that has ended. -/
lemma ensureRunning_bind_ended (hs : s.lifecycle ≠ .running) (m : SessionCall E α) :
    (ensureRunning >>= fun _ => m) s = .err .notRunning s := by
  have herr : ensureRunning s = .err .notRunning s := if_neg hs
  rw [bind_apply, herr]
  rfl

/-- A call that first makes sure that the session runs. -/
lemma Keeps.guarded (h : ∀ s, Alive s → Kept AnyError s ((ensureRunning >>= fun _ => m) s)) :
    Keeps (ensureRunning >>= fun _ => m) := by
  rintro s (hs | hs)
  · exact h s hs
  · rw [ensureRunning_bind_ended hs.stopped]
    exact ⟨.refl (.inr hs), trivial, fun _ => trivial⟩

lemma Keeps.running (h : ∀ s, Alive s → Kept AnyError s (m s)) :
    Keeps (ensureRunning >>= fun _ => m) :=
  .guarded fun s hs => .look (ensureRunning_eq hs) (h s hs)

lemma getTab_keeps (tab : BrowserTabId) : Keeps (E := E) (getTab tab) :=
  .read fun _ => .okOr trivial

lemma getWindow_keeps (window : BrowserWindowId) :
    Keeps (E := E) (getWindow window) := .read fun _ => .okOr trivial

/-! ## Calls that change nothing -/

/-- The outcome of a call that changes nothing, with a property of its value. -/
def Looks (s : BrowserSession E) (Q : α → Prop)
    (o : Outcome (BrowserSession E) SessionError α) : Prop :=
  o.Sat (fun a t => t = s ∧ Q a) (fun e t => t = s ∧ Proper e) fun _ => False

section Looks

variable {Q : α → Prop} {R : β → Prop}

/-- What follows a call that changes nothing starts where it started. -/
lemma Looks.sat_bind {S : β → BrowserSession E → Prop}
    {F : SessionError → BrowserSession E → Prop} (hm : Looks s Q (m s))
    (hF : ∀ e, Proper e → F e s) (hf : ∀ a, Q a → (f a s).Ends S F) :
    ((m >>= f) s).Ends S F := by
  refine Call.sat_seq hm ?_ ?_
  · rintro a t ⟨rfl, ha⟩
    exact hf a ha
  · rintro e t ⟨rfl, he⟩
    exact hF e he

lemma Looks.bind (hm : Looks s Q (m s)) (hf : ∀ a, Q a → Looks s R (f a s)) :
    Looks s R ((m >>= f) s) := hm.sat_bind (fun _ he => ⟨rfl, he⟩) hf

lemma Looks.kept_bind (hm : Looks s Q (m s)) (hs : Inv s)
    (hf : ∀ a, Q a → Kept AnyError s (f a s)) : Kept AnyError s ((m >>= f) s) :=
  hm.sat_bind (fun _ he => ⟨.refl hs, he, fun _ => trivial⟩) hf

/-- The state is read. -/
lemma Looks.read {g : BrowserSession E → SessionCall E β} (h : Looks s R (g s s)) :
    Looks s R ((read >>= g) s) := h

lemma Looks.pure {a : α} (ha : Q a) : Looks s Q ((Pure.pure a : SessionCall E α) s) := ⟨rfl, ha⟩

lemma Looks.check {c : Prop} [Decidable c] {e : SessionError} (hp : Proper e) :
    Looks s (fun _ => c) ((check c e : SessionCall E Unit) s) :=
  sat_check.mpr ⟨fun hc => ⟨rfl, hc⟩, fun _ => ⟨rfl, hp⟩⟩

lemma Looks.okOr {v : Option α} {e : SessionError} (hp : Proper e) :
    Looks s (fun a => v = some a) ((okOr v e : SessionCall E α) s) := by
  cases v with
  | none => exact ⟨rfl, hp⟩
  | some a => exact ⟨rfl, rfl⟩

lemma getTab_looks (tab : BrowserTabId) :
    Looks s (fun a => s.tabs.lookup tab = some a) (getTab tab s) := Looks.okOr trivial

lemma getWindow_looks (window : BrowserWindowId) :
    Looks s (fun A => s.windows.lookup window = some A) (getWindow window s) := Looks.okOr trivial

end Looks

/-! ## Known lookups -/

section Lookups

variable {tab : BrowserTabId} {window : BrowserWindowId} {a : TabState} {A : WindowState}

lemma okOr_some (a : α) (e : SessionError) : (okOr (some a) e : SessionCall E α) = pure a := rfl

lemma orFail_some [EnginePort E] (a : α) (fault : InternalFault) :
    (orFail (some a) fault : SessionCall E α) = pure a := rfl

lemma getTab_eq (ha : s.tabs.lookup tab = some a) : getTab tab s = .ok a s := by
  unfold getTab
  rw [bind_of_ok (show read s = .ok s s from rfl), ha]
  rfl

lemma getWindow_eq (hA : s.windows.lookup window = some A) : getWindow window s = .ok A s := by
  unfold getWindow
  rw [bind_of_ok (show read s = .ok s s from rfl), hA]
  rfl

lemma modifyTab_eq (ha : s.tabs.lookup tab = some a) (f : TabState → TabState) :
    modifyTab tab f s = .ok () (s.withTab tab f) := by
  unfold modifyTab
  rw [bind_of_ok (getTab_eq ha)]
  rfl

lemma modifyWindow_eq (hA : s.windows.lookup window = some A) (g : WindowState → WindowState) :
    modifyWindow window g s = .ok () (s.withWindowState window g) := by
  unfold modifyWindow
  rw [bind_of_ok (getWindow_eq hA)]
  rfl

/-- What is read and returned was there. -/
lemma read_okOr_of_ok {g : BrowserSession E → Option α} {e : SessionError} {value : α}
    (h : (read >>= fun s => okOr (g s) e : SessionCall E α) s = .ok value t) :
    g s = some value ∧ t = s := by
  rw [bind_of_ok (show read s = .ok s s from rfl)] at h
  cases hg : g s with
  | none =>
    rw [hg] at h
    simp [okOr, Call.fail] at h
  | some found =>
    rw [hg] at h
    obtain ⟨rfl, rfl⟩ := Outcome.ok.inj h
    exact ⟨rfl, rfl⟩

end Lookups

/-! ## Failing -/

variable {failure : SessionFailure} {g : WindowState → WindowState}

lemma cleared_ended {lifecycle : SessionLifecycle} (hstopped : lifecycle ≠ .running)
    (honest : ∀ failure status, lifecycle = .failed failure status → ProperFailure failure) :
    Cleared (s.ended lifecycle) where
  stopped := hstopped
  windows := rfl
  tabs := rfl
  contexts := rfl
  closing := rfl
  surfaces := rfl
  historyBytes := rfl
  retainedFrameBytes := rfl
  navigationLedgerEntries := rfl
  honest := honest

lemma extends_ended (lifecycle : SessionLifecycle) : Extends s (s.ended lifecycle) :=
  .of_subset (fun _ h => absurd h (notMem_empty)) (fun _ h => absurd h notMem_empty)
    (fun _ h => absurd h notMem_empty) (fun _ h => absurd h notMem_empty) rfl rfl rfl

/-- A session that failed for a proper reason. -/
lemma after_failed (h : ProperFailure failure)
    (status : EnginePortShutdownStatus) : After s (s.ended (.failed failure status)) := by
  refine ⟨.inr (cleared_ended (by simp) ?_), extends_ended _⟩
  rintro _ _ ⟨rfl, -⟩
  exact h

/-- Failing for a proper reason keeps a running session, in whatever condition on errors. -/
lemma fail_kept [EnginePort E] (hr : s.lifecycle = .running)
    (h : ProperFailure failure) : Kept P s ((fail failure : SessionCall E α) s) := by
  unfold fail
  rw [if_neg (by simp [hr])]
  exact ⟨after_failed h _, proper_terminal h, fun hr => absurd hr (by simp [ended])⟩

lemma fail_keeps [EnginePort E] (h : ProperFailure failure) :
    Keeps (fail failure : SessionCall E α) := by
  intro s hs
  by_cases hr : s.lifecycle = .running
  · exact fail_kept hr h
  · unfold fail
    rw [if_pos hr]
    exact ⟨After.refl hs, trivial, fun hr' => absurd hr' hr⟩

/-! ## Changes that no account is about -/

/-- The session after one of its tabs was replaced. -/
lemma Alive.updateTab (h : Alive s) (ha : s.tabs.lookup tab = some a) {f : TabState → TabState}
    {history frame ledger : ℕ} (hc : TabChange s a (f a) history frame ledger) :
    After s { s with
      tabs := s.tabs.update tab f
      historyBytes := history
      retainedFrameBytes := frame
      navigationLedgerEntries := ledger } :=
  ⟨.inl ⟨h.running, h.engine, h.windows, h.sound.updateTab ha hc⟩, .updateTab ..⟩

/-- The session after one of its windows was replaced. -/
lemma Alive.updateWindow (h : Alive s) (hA : s.windows.lookup window = some A)
    {surfaces : Table SurfaceId BrowserWindowId} (hc : WindowChange s window A (g A) surfaces) :
    After s { s with windows := s.windows.update window g, surfaces := surfaces } := by
  refine ⟨.inl ⟨h.running, h.engine, ?_, h.sound.updateWindow hA hc⟩, .updateWindow ..⟩
  rw [Table.size_update]
  exact h.windows

/-- A change of a tab that leaves its record alone. -/
lemma Alive.softTab (h : Alive s) (ha : s.tabs.lookup tab = some a) {f : TabState → TabState}
    (hf : (f a).toTabRecord = a.toTabRecord) : After s (s.withTab tab f) :=
  h.updateTab ha ((TabChange.refl h.sound ha).congr hf)

/-- A change of a window that leaves its record alone. -/
lemma Alive.softWindow (h : Alive s) (hA : s.windows.lookup window = some A)
    (hg : (g A).toWindowRecord = A.toWindowRecord)
    (hfocus : (g A).primaryUi.focus ≠ .control .addressBar) :
    After s (s.withWindowState window g) :=
  h.updateWindow hA (.of_record_eq h.sound hA hg hfocus)

lemma modifyTab_keeps (tab : BrowserTabId) {f : TabState → TabState}
    (hf : ∀ a, (f a).toTabRecord = a.toTabRecord) :
    Keeps (E := E) (modifyTab tab f) := by
  intro s hs
  refine (getTab_keeps tab).kept hs |>.bind fun a t hok ht => ?_
  obtain ⟨ha, rfl⟩ := read_okOr_of_ok hok
  exact (hs.alive_of_tab ha).softTab ha (hf a)

lemma modifyWindow_keeps (window : BrowserWindowId)
    (hg : ∀ A, (g A).toWindowRecord = A.toWindowRecord)
    (hfocus : ∀ A : WindowState, A.primaryUi.focus ≠ .control .addressBar →
      (g A).primaryUi.focus ≠ .control .addressBar) :
    Keeps (E := E) (modifyWindow window g) := by
  intro s hs
  refine (getWindow_keeps window).kept hs |>.bind fun A t hok ht => ?_
  obtain ⟨hA, rfl⟩ := read_okOr_of_ok hok
  have halive := hs.alive_of_window hA
  exact halive.softWindow hA (hg A) (hfocus A (halive.sound.focus hA))

lemma modifyPrimaryUi_keeps (window : BrowserWindowId)
    {f : PrimaryUiWindowState → PrimaryUiWindowState}
    (hf : ∀ ui : PrimaryUiWindowState, ui.focus ≠ .control .addressBar →
      (f ui).focus ≠ .control .addressBar) :
    Keeps (E := E) (modifyPrimaryUi window f) :=
  modifyWindow_keeps window (fun _ => rfl) fun A hA => hf A.primaryUi hA

/-! ## Engine calls -/

/-- The engine changed. -/
lemma Alive.withEngine (h : Alive s) (engine : E) : After s { s with engine := some engine } :=
  ⟨.inl ⟨h.running, ⟨engine, rfl⟩, h.windows, { h.sound with }⟩, { Extends.refl s with }⟩

/-- Nothing but the engine changed. -/
def EngineOnly (s t : BrowserSession E) : Prop := ∃ engine, t = { s with engine := engine }

lemma EngineOnly.refl (s : BrowserSession E) : EngineOnly s s := ⟨s.engine, rfl⟩

section Engine

variable [EnginePort E]

/-- A call of the engine returns an answer and changes nothing but the engine. -/
lemma onEngine_eq (h : Alive s) (missing : InternalFault) (call : E → PortAnswer α × E) :
    ∃ engine, s.engine = some engine ∧
      onEngine missing call s = .ok (call engine).1 { s with engine := some (call engine).2 } := by
  obtain ⟨engine, hengine⟩ := h.engine
  refine ⟨engine, hengine, ?_⟩
  unfold onEngine
  rw [bind_of_ok (show read s = .ok s s from rfl), hengine]
  rfl

/-- The engine of a session answers a call with a value. -/
def Answers (s : BrowserSession E) (call : E → PortAnswer α × E) (value : α) (later : E) : Prop :=
  ∃ engine, s.engine = some engine ∧ call engine = (.returned (.ok value), later)

/-- The answer of an engine is handed on, refused or the end of the session. -/
lemma resolveEngineResult_sat (h : Alive s) (result : Except EnginePortError α) :
    (resolveEngineResult result s).Ends (fun value t => result = .ok value ∧ t = s)
      (fun e t => After s t ∧ Proper e ∧ (t.lifecycle = .running → t = s ∧ FromPort e)) := by
  have hfail (failure : SessionFailure) (hp : ProperFailure failure) :
      ((fail failure : SessionCall E α) s).Ends (fun value t => result = .ok value ∧ t = s)
        (fun e t => After s t ∧ Proper e ∧ (t.lifecycle = .running → t = s ∧ FromPort e)) := by
    unfold fail
    rw [if_neg (by simp [h.running])]
    exact ⟨after_failed hp _, proper_terminal hp, fun hr => absurd hr (by simp [ended])⟩
  cases result with
  | ok value => exact ⟨rfl, rfl⟩
  | error error =>
    cases error with
    | receiverClosed status => exact hfail (.engineDisconnected status) trivial
    | contractViolation detail => exact hfail (.engineContract (.port detail)) trivial
    | command kind =>
      simp only [resolveEngineResult]
      by_cases hstop : kind = .eventReceiverDropped ∨ kind = .shuttingDown
      · rw [if_pos hstop]
        have hp : ProperFailure (.engineDisconnected s.safeEngineShutdown) := trivial
        exact ⟨after_failed hp _, proper_terminal hp, fun hr => absurd hr (by simp [ended])⟩
      · rw [if_neg hstop]
        exact ⟨.refl (.inl h), trivial, fun _ => ⟨rfl, _, rfl⟩⟩
    | _ => exact hfail (.engineContract (.engine .oneShotBinding)) trivial

/-- **A call of the engine changes nothing but the engine, unless it ends the session.** -/
theorem callEngine_sat (h : Alive s) (operation : String) (call : E → PortAnswer α × E) :
    (callEngine operation call s).Ends
      (fun value t => ∃ later, Answers s call value later ∧ t = { s with engine := some later })
      (fun e t => After s t ∧ Proper e ∧ (t.lifecycle = .running → EngineOnly s t ∧ FromPort e)) := by
  obtain ⟨engine, hengine, hanswer⟩ := onEngine_eq h .lostEngine call
  have hafter := h.withEngine (call engine).2
  have halive : Alive { s with engine := some (call engine).2 } :=
    hafter.inv.alive_of_running h.running
  unfold callEngine
  rw [bind_of_ok hanswer]
  cases hcall : (call engine).1 with
  | panicked =>
    have hp : ProperFailure (.enginePanicked operation) := trivial
    simp only [fail, if_neg (show ¬s.lifecycle ≠ .running by simp [h.running])]
    exact ⟨hafter.trans (after_failed hp _), proper_terminal hp,
      fun hr => absurd hr (by simp [ended])⟩
  | returned result =>
    refine (resolveEngineResult_sat halive result).imp₂ ?_ ?_
    · rintro value t ⟨rfl, rfl⟩
      exact ⟨_, ⟨engine, hengine, Prod.ext hcall rfl⟩, rfl⟩
    · rintro e t ⟨ht, he, hrunning⟩
      exact ⟨hafter.trans ht, he, fun hr => ⟨⟨_, (hrunning hr).1⟩, (hrunning hr).2⟩⟩

lemma callEngine_kept (h : Alive s) (hP : ∀ e, P (.engine e)) (operation : String)
    (call : E → PortAnswer α × E) : Kept P s (callEngine operation call s) := by
  refine (callEngine_sat h operation call).imp₂ ?_ ?_
  · rintro _ t ⟨engine, -, rfl⟩
    exact h.withEngine engine
  · rintro e t ⟨ht, he, hrunning⟩
    refine ⟨ht, he, fun hr => ?_⟩
    obtain ⟨-, error, rfl⟩ := hrunning hr
    exact hP error

end Engine

end BrowserSession

end WildBuzzard.Ui
