import WildBuzzard.Ui.NativeKeep

/-!
# The structure of every session

Every action keeps a session sound, so **every state a session can come to is sound while it runs
and empty once it has ended** (`reachable_structure`), whatever the engine answers and whichever
reservations are refused. An identity that was given up is never there again, and none of the
session's own faults is ever reported. **A session that has ended never changes again**
(`ended_for_good`).
-/

namespace WildBuzzard.Ui

open Lib Engine Finmap Call

namespace BrowserSession

variable {E α : Type} {s t u : BrowserSession E}

/-! ## Transfers -/

variable (tab : BrowserTabId)

/-- A frame that is handed out is no longer charged. -/
lemma Alive.handOutFrame (hs : Alive s) {tab : BrowserTabId} {a : TabState}
    (ha : s.tabs.lookup tab = some a) {retained : ℕ}
    (hretained : checkedSub s.retainedFrameBytes a.frameBytes = some retained) :
    After s { s with
      tabs := s.tabs.update tab fun state => { state with frame := none }
      retainedFrameBytes := retained } := by
  have hsum := checkedSub_eq_some.mp hretained
  have hlimit := hs.sound.frameLimit
  refine hs.updateTab ha ?_
  exact
    { TabChange.refl hs.sound ha with
      sound := { hs.sound.tab ha with }
      frameSum := by
        show retained + a.frameBytes = s.retainedFrameBytes + 0
        omega
      frameLimit := by omega }

/-- The outcome of a call that hands out a scene and keeps the session. -/
def KeptScene (s : BrowserSession E) (o : Outcome (BrowserSession E) SessionPresentationError α) :
    Prop :=
  o.Sat (fun _ t => After s t) (fun e t => After s t ∧ Proper (presentationError e)) fun _ => False

lemma KeptScene.of_keeps {m : SessionCall E α} (h : Keeps m) (hs : Inv s) :
    KeptScene s (mapError .session m s) :=
  sat_mapError.mpr ((h s hs).imp₂ (fun _ _ ht => ht) (fun _ _ ht => ⟨ht.1, ht.2.1⟩))

/-- The tab of a scene is looked up first. -/
lemma KeptScene.look {tab : BrowserTabId} {f : TabState → PresentationCall E α} (hs : Inv s)
    (hf : ∀ a, KeptScene s (f a s)) : KeptScene s ((mapError .session (getTab tab) >>= f) s) := by
  refine sat_bind.mpr (sat_mapError.mpr ((getTab_looks tab).imp₂ ?_ ?_))
  · rintro a t ⟨rfl, -⟩
    exact hf a
  · rintro e t ⟨rfl, he⟩
    exact ⟨.refl hs, he⟩

/-- The labels of a candidate are looked up. -/
lemma presentationCandidateLabels_looks :
    (presentationCandidateLabels tab s).Ends (fun _ t => t = s)
      (fun e t => t = s ∧ Proper (presentationError e)) := by
  refine sat_bind.mpr (sat_mapError.mpr ((getTab_looks tab).imp₂ ?_ ?_))
  · rintro a t ⟨rfl, -⟩
    cases a.frame with
    | none => exact rfl
    | some frame =>
      simp only
      cases frame.descriptor.presentationScene with
      | none => exact rfl
      | some scene =>
        refine sat_ofExcept_bind.mpr ⟨fun _ _ => rfl, fun e he => ⟨rfl, ?_⟩⟩
        unfold candidateLabels at he
        split at he
        · split_ifs at he
          obtain rfl := Except.error.inj he
          trivial
        · obtain rfl := Except.error.inj he
          trivial
  · rintro e t ⟨rfl, he⟩
    exact ⟨rfl, he⟩

lemma takeMutationResult_keeps : Keeps (E := E) (takeMutationResult tab) := by
  refine (getTab_keeps tab).bind fun state => .bind (modifyTab_keeps tab ?_) fun _ => .pure _
  exact fun _ => rfl

lemma addressMut_keeps (edit : AddressEdit) : Keeps (E := E) (addressMut tab edit) := by
  refine ensureRunning_keeps.bind fun _ => (getTab_keeps tab).bind fun state => ?_
  refine .bind (.ofExcept fun e he => ?_) fun address => modifyTab_keeps tab ?_
  · cases hedit : state.address.apply edit with
    | ok address => simp [hedit, Except.mapError] at he
    | error error =>
      rw [hedit] at he
      obtain rfl := Except.error.inj he
      trivial
  · exact fun _ => rfl

lemma quietly_keeps {m : SessionCall E α} (h : Keeps m) : Keeps (quietly m) :=
  h.bind fun _ => .pure ()

/-- The engine and the allocator may change at any time. -/
lemma after_environment (hs : Inv s) (engine : E → E) (reservations : List Bool) :
    After s { s with engine := s.engine.map engine, reservations := reservations } := by
  refine ⟨hs.imp (fun h => ?_) fun h => { h with }, { Extends.refl s with }⟩
  obtain ⟨e, he⟩ := h.engine
  exact ⟨h.running, ⟨engine e, by rw [he, Option.map_some]⟩, h.windows, { h.sound with }⟩

lemma quietly_scene_keeps {m : PresentationCall E α} (h : ∀ s, Inv s → KeptScene s (m s)) :
    Keeps (quietly (mapError presentationError m)) := by
  refine quietly_keeps fun s hs => sat_mapError.mpr ((h s hs).imp₂ (fun _ _ ht => ht) ?_)
  exact fun _ _ ht => ⟨ht.1, ht.2, fun _ => trivial⟩

/-- A session with nothing in it and room for a window. -/
lemma sound_bare (engine : E) (limits : SessionLimits) (mode : BrowserNavigationMode)
    (reservations : List Bool) : Sound (bare engine limits mode reservations) where
  windowId h := by simp [bare] at h
  windowAllocated h := by simp [bare] at h
  nodup h := by simp [bare] at h
  active h := by simp [bare] at h
  listed h := by simp [bare] at h
  surface h := by simp [bare] at h
  focus h := by simp [bare] at h
  tabId h := by simp [bare] at h
  tabAllocated h := by simp [bare] at h
  owned h := by simp [bare] at h
  context h := by simp [bare] at h
  contextTab h := by simp [bare] at h
  contextAllocated h := by simp [bare] at h
  closing h := by simp [bare] at h
  closingAllocated h := by simp [bare] at h
  tab h := by simp [bare] at h
  tabLimit := Nat.zero_le _
  historySum := rfl
  frameSum := rfl
  ledgerSum := rfl
  historyLimit := Nat.zero_le _
  frameLimit := Nat.zero_le _
  ledgerLimit := Nat.zero_le _

/-- A new session is sound. -/
lemma alive_of_new {engine : E} {limits : SessionLimits} {mode : BrowserNavigationMode}
    {reservations : List Bool}
    (h : newWithNavigationMode engine limits mode reservations = .ok s) : Alive s := by
  have hsound := sound_bare engine limits mode reservations
  have hsat := openWindowInternal_sat hsound
  unfold newWithNavigationMode at h
  cases hopen : openWindowInternal (bare engine limits mode reservations) with
  | ok opened t =>
    rw [hopen] at h hsat
    obtain rfl := Except.ok.inj h
    obtain ⟨context, rfl, hnew⟩ := hsat
    refine ⟨rfl, ⟨engine, rfl⟩, ?_, hsound.addTab hnew⟩
    exact Table.size_pos_of_lookup (lookup_insert (bare engine limits mode
      reservations).windows)
  | err error t =>
    rw [hopen] at h
    cases h
  | halt reason =>
    rw [hopen] at h
    cases h

/-! ## Identities -/

/-- What was there and is gone stays gone. -/
structure NoReuse (s t u : BrowserSession E) : Prop where
  windows : ∀ w, w ∈ s.windows → w ∉ t.windows → w ∉ u.windows
  tabs : ∀ tab, tab ∈ s.tabs → tab ∉ t.tabs → tab ∉ u.tabs
  contexts : ∀ x, x ∈ s.contexts ∨ x ∈ s.closingContexts → x ∉ t.contexts → x ∉ u.contexts
  closing : ∀ x, x ∈ s.contexts ∨ x ∈ s.closingContexts → x ∉ t.contexts →
    x ∉ t.closingContexts → x ∉ u.closingContexts

/-- Identities are given out once. -/
lemma noReuse_of_extends (hs : Inv s) (hst : Extends s t) (htu : Extends t u) :
    NoReuse s t u := by
  rcases hs with hs | hs
  · have hcontext (x : TopLevelContextId) (hx : x ∈ s.contexts ∨ x ∈ s.closingContexts) :
        Allocated t.nextContext x.get := by
      refine hst.contextIds _ ?_
      rcases hx with hx | hx
      · obtain ⟨tab, htab⟩ := mem_iff.mp hx
        exact hs.sound.contextAllocated htab
      · obtain ⟨k, hk⟩ := mem_iff.mp hx
        exact hs.sound.closingAllocated hk
    constructor
    · intro w hw hgone hback
      obtain ⟨W, hW⟩ := mem_iff.mp hw
      exact (htu.windows w hback).elim hgone fun h =>
        h (hst.windowIds _ (hs.sound.windowAllocated hW))
    · intro tab htab hgone hback
      obtain ⟨T, hT⟩ := mem_iff.mp htab
      exact (htu.tabs tab hback).elim hgone fun h => h (hst.tabIds _ (hs.sound.tabAllocated hT))
    · intro x hx hgone hback
      exact (htu.contexts x hback).elim hgone fun h => h (hcontext x hx)
    · intro x hx hgone hclosed hback
      exact (htu.closing x hback).elim hgone fun h => h.elim hclosed fun h => h (hcontext x hx)
  · constructor
    · intro w hw
      exact absurd (hs.windows ▸ hw) notMem_empty
    · intro tab htab
      exact absurd (hs.tabs ▸ htab) notMem_empty
    · rintro x (hx | hx)
      · exact absurd (hs.contexts ▸ hx) notMem_empty
      · exact absurd (hs.closing ▸ hx) notMem_empty
    · rintro x (hx | hx)
      · exact absurd (hs.contexts ▸ hx) notMem_empty
      · exact absurd (hs.closing ▸ hx) notMem_empty

/-! ## Refusals -/

section Refused

variable {β ε δ : Type} {m : Call (BrowserSession E) ε α}

/-- An outcome that is an error and changes nothing. -/
def Refused (s : BrowserSession E) (o : Outcome (BrowserSession E) ε α) : Prop := ∃ e, o = .err e s

lemma Refused.bind {f : α → Call (BrowserSession E) ε β} (h : Refused s (m s)) :
    Refused s ((m >>= f) s) :=
  h.imp fun e he => by rw [bind_apply, he]; rfl

lemma Refused.mapError {wrap : ε → δ} (h : Refused s (m s)) : Refused s (mapError wrap m s) :=
  h.elim fun e he => ⟨wrap e, by rw [Call.mapError, he]; rfl⟩

variable (hs : Cleared s)
include hs

lemma getTab_refused (tab : BrowserTabId) : Refused s (getTab tab s) :=
  ⟨.unknownTab tab, by show okOr (s.tabs.lookup tab) _ s = _; rw [hs.tabs]; rfl⟩

lemma getWindow_refused (window : BrowserWindowId) : Refused s (getWindow window s) :=
  ⟨.unknownWindow window, by show okOr (s.windows.lookup window) _ s = _; rw [hs.windows]; rfl⟩

end Refused

/-! ## Actions -/

variable [EnginePort E]

lemma takeFrame_keeps (tab : BrowserTabId) : Keeps (E := E) (takeFrame tab) := by
  intro s hs
  refine (getTab_looks tab).kept_bind hs fun a ha => .read ?_
  have halive := hs.alive_of_tab ha
  obtain ⟨retained, hretained⟩ :
      ∃ retained, checkedSub s.retainedFrameBytes a.frameBytes = some retained := by
    refine ⟨_, checkedSub_eq_some.mpr ⟨?_, rfl⟩⟩
    rw [halive.sound.frameSum]
    exact Table.le_total ha fun T => T.frameBytes
  rw [hretained, orFail_some]
  exact halive.handOutFrame ha hretained

lemma takePresentationScene_kept (hs : Inv s) (tab : BrowserTabId)
    (navigation : NavigationId) (document : EngineDocumentVersion) (sceneRevision : ℕ) :
    KeptScene s (takePresentationScene tab navigation document sceneRevision s) := by
  refine .look hs fun a => ?_
  have hrefused (e : SessionPresentationError) (he : Proper (presentationError e)) :
      KeptScene s ((Call.fail e : PresentationCall E (Option EngineFrameLease)) s) :=
    ⟨.refl hs, he⟩
  cases a.frame with
  | none => exact After.refl hs
  | some frame =>
    simp only
    cases frame.descriptor.presentationScene with
    | none => exact hrefused .notPresentationOutput trivial
    | some scene =>
      cases a.liveNavigation with
      | none => exact hrefused .candidateIdentityMismatch trivial
      | some live =>
        cases a.engineDocument with
        | none => exact hrefused .candidateIdentityMismatch trivial
        | some page =>
          simp only
          split_ifs
          · exact .of_keeps (takeFrame_keeps tab) hs
          · exact hrefused .candidateIdentityMismatch trivial

lemma takeExactPresentationScene_kept (hs : Inv s) (tab : BrowserTabId)
    (expected : PresentationLabels) : KeptScene s (takeExactPresentationScene tab expected s) := by
  refine sat_seq (presentationCandidateLabels_looks tab) ?_ ?_
  · rintro labels t rfl
    cases labels with
    | none => exact After.refl hs
    | some actual =>
      by_cases hne : actual ≠ expected
      · simp only [if_pos hne]
        exact ⟨.refl hs, trivial⟩
      · simp only [if_neg hne]
        exact takePresentationScene_kept hs tab _ _ _
  · rintro e t ⟨rfl, he⟩
    exact ⟨.refl hs, he⟩

lemma requestPresentationRerender_keeps (tab : BrowserTabId) :
    Keeps (E := E) (requestPresentationRerender tab) := by
  refine .running fun s hs => (getTab_looks tab).kept_bind (.inl hs) fun a ha => ?_
  have hp : Proper .historyUnavailable := trivial
  refine (Looks.okOr hp).kept_bind (.inl hs) fun navigation hnavigation => ?_
  refine (Looks.okOr hp).kept_bind (.inl hs) fun document hdocument => ?_
  -- The document of a page is that of its live navigation.
  have hsame : ¬document.navigation ≠ navigation := by
    have hlive := (hs.sound.tab ha).document document hdocument
    rw [hnavigation] at hlive
    exact not_not.mpr (Option.some.inj hlive).symm
  rw [if_neg hsame]
  refine (callEngine_kept hs (fun _ => trivial) _ _).bind fun operation t _ ht => ?_
  refine Keeps.kept (.bind (modifyTab_keeps tab ?_) fun _ => .pure _) ht.inv
  exact fun _ => rfl

variable [UrlParser]

/-- **Every action keeps the session.** -/
theorem perform_keeps (action : SessionAction) : Keeps (E := E) (perform action) := by
  cases action with
  | dispatch command => exact quietly_keeps (dispatch_keeps command)
  | addressMut tab edit => exact addressMut_keeps tab edit
  | handleLinuxEvent window event => exact quietly_keeps (handleLinuxEvent_keeps window event)
  | pollEngineOnce => exact quietly_keeps pollEngineOnce_keeps
  | pumpEngine maximum => exact quietly_keeps (pumpEngine_keeps maximum)
  | primaryUiSnapshot window =>
    exact quietly_keeps fun s hs => (primaryUiSnapshot_peeks hs window).kept hs
  | setPrimaryUiDirection window direction =>
    exact quietly_keeps (setPrimaryUiDirection_keeps window direction)
  | setPrimaryUiLayout window layout => exact quietly_keeps (setPrimaryUiLayout_keeps window layout)
  | dispatchPrimaryUiAction window expected action =>
    exact quietly_keeps (dispatchPrimaryUiAction_keeps window expected action)
  | dispatchPrimaryUiBinding binding => exact quietly_keeps (dispatchPrimaryUiBinding_keeps binding)
  | takeFrame tab => exact quietly_keeps (takeFrame_keeps tab)
  | takePresentationScene tab navigation document sceneRevision =>
    exact quietly_scene_keeps fun s hs =>
      takePresentationScene_kept hs tab navigation document sceneRevision
  | takeExactPresentationScene tab expected =>
    exact quietly_scene_keeps fun s hs => takeExactPresentationScene_kept hs tab expected
  | requestPresentationRerender tab => exact quietly_keeps (requestPresentationRerender_keeps tab)
  | takeMutationResult tab => exact quietly_keeps (takeMutationResult_keeps tab)
  | shutdown => exact quietly_keeps shutdown_keeps

/-! ## Runs -/

lemma Step.after (h : Step s t) (hs : Inv s) : After s t := by
  cases h with
  | act _ action hact =>
    have hkept := perform_keeps action s hs
    cases hresult : perform action s with
    | ok value u =>
      rw [hresult] at hact hkept
      obtain rfl := Option.some.inj hact
      exact hkept
    | err error u =>
      rw [hresult] at hact hkept
      obtain rfl := Option.some.inj hact
      exact hkept.1
    | halt reason =>
      rw [hresult] at hact
      cases hact
  | environment engine reservations => exact after_environment hs engine reservations

/-- **A run leaves what its steps leave.** -/
theorem Run.after (h : Run s t) (hs : Inv s) : After s t := by
  induction h with
  | refl => exact .refl hs
  | tail _ hstep ih => exact ih.trans (hstep.after ih.inv)

/-- **A reachable session is alive and sound, or has ended.** -/
theorem Reachable.inv (h : Reachable s) : Inv s := by
  obtain ⟨engine, limits, mode, reservations, start, hstart, hrun⟩ := h
  exact (hrun.after (.inl (alive_of_new hstart))).inv

/-! ## Every session -/

/-- An outcome that is not the session's own fault: no panic and no error of its bookkeeping. -/
def Blameless (o : Outcome (BrowserSession E) SessionError α) : Prop :=
  o.Sat (fun _ _ => True) (fun e _ => Proper e) fun _ => False

/-- **Every session is sound while it runs and empty once it has ended**, no fault of its own
bookkeeping is reported or fails it, and identities that were given up are never there again. -/
theorem reachable_structure (h : Reachable s) :
    (s.lifecycle = .running → 0 < s.windows.size ∧ Sound s) ∧ (s.lifecycle ≠ .running → Cleared s) ∧
      (∀ action, Blameless (perform action s)) ∧ ∀ t u, Run s t → Run t u → NoReuse s t u := by
  refine ⟨fun hr => ?_, fun hr => ?_, fun action => ?_, fun t u hst htu => ?_⟩
  · have halive := h.inv.alive_of_running hr
    exact ⟨halive.windows, halive.sound⟩
  · exact h.inv.resolve_left fun halive => hr halive.running
  · exact (perform_keeps action s h.inv).imp₂ (fun _ _ _ => trivial) (fun _ _ he => he.2.1)
  · have ht := hst.after h.inv
    exact noReuse_of_extends h.inv ht.ids (htu.after ht.inv).ids

/-! ## After the end -/

/-- A session that has ended refuses every call but a shutdown. -/
lemma perform_ended (hs : Cleared s) (action : SessionAction) :
    action = .shutdown ∧ perform action s = .ok () s ∨ Refused s (perform action s) := by
  have hended : Refused s (ensureRunning s) := ⟨_, if_neg hs.stopped⟩
  cases action with
  | dispatch command =>
    right
    cases command <;> exact hended.bind.bind
  | addressMut => exact .inr hended.bind
  | handleLinuxEvent | pollEngineOnce | pumpEngine | setPrimaryUiDirection | setPrimaryUiLayout
  | dispatchPrimaryUiAction | requestPresentationRerender => exact .inr hended.bind.bind
  | primaryUiSnapshot => exact .inr (getWindow_refused hs _).bind.bind
  | dispatchPrimaryUiBinding => exact .inr (getWindow_refused hs _).bind.bind.bind
  | takeFrame | takeMutationResult => exact .inr (getTab_refused hs _).bind.bind
  | takePresentationScene => exact .inr (getTab_refused hs _).mapError.bind.mapError.bind
  | takeExactPresentationScene =>
    exact .inr (getTab_refused hs _).mapError.bind.bind.mapError.bind
  | shutdown =>
    refine .inl ⟨rfl, ?_⟩
    show (shutdown s).andThen _ = _
    unfold shutdown
    cases hl : s.lifecycle with
    | running => exact absurd hl hs.stopped
    | closed | failed => rfl

/-- **The end of a session is final**: no run changes more than the engine and the
allocator, and every call but a shutdown is refused. -/
theorem ended_for_good (h : Reachable s) (hs : s.lifecycle ≠ .running) (hrun : Run s t) :
    t = { s with engine := t.engine, reservations := t.reservations } ∧
      ∀ action, action ≠ .shutdown → Refused t (perform action t) := by
  have hcleared := h.inv.resolve_left (hs ·.running)
  have hframe {u : BrowserSession E}
      (hu : u = { s with engine := u.engine, reservations := u.reservations }) : Cleared u := by
    rw [hu]
    exact { hcleared with }
  have hsame : t = { s with engine := t.engine, reservations := t.reservations } := by
    induction hrun with
    | refl => rfl
    | @tail u v _ hstep ih =>
      cases hstep with
      | act _ action hact =>
        have huv : u = v := by
          rcases perform_ended (hframe ih) action with ⟨-, hok⟩ | ⟨e, herr⟩
          · simpa [hok, Outcome.state?] using hact
          · simpa [herr, Outcome.state?] using hact
        exact huv ▸ ih
      | environment engine reservations => rw [ih]
  exact ⟨hsame, fun action hne => (perform_ended (hframe hsame) action).resolve_left (hne ·.1)⟩

end BrowserSession

/-! ## A scripted engine -/

/-- An engine that plays a script: the identities of the navigations to come, the events to report
and the metadata of the commits to hand out. -/
structure ScriptedEngine where
  navigations : List NavigationId
  events : List EnginePortEvent
  commits : List NavigationCommitMetadata

/-- The scripted engine accepts commands and keeps no pages. -/
instance : EnginePort ScriptedEngine where
  navigate _ _ engine :=
    match engine.navigations with
    | [] => (.returned (.error (.command .unknownContext)), engine)
    | navigation :: rest => (.returned (.ok navigation), { engine with navigations := rest })
  cancelNavigation _ engine := (.returned (.ok ()), engine)
  closeContext _ engine := (.returned (.ok ()), engine)
  pollEvent engine :=
    match engine.events with
    | [] => (.returned (.ok none), engine)
    | event :: rest => (.returned (.ok (some event)), { engine with events := rest })
  takeNavigationCommit _ engine :=
    (.returned (.ok engine.commits.head?), { engine with commits := engine.commits.tail })
  takeFrame _ _ engine := (.returned (.error (.frameLease .stale)), engine)
  takeMutationResult _ _ engine := (.returned (.error (.mutationLease .stale)), engine)
  shutdown engine := (some ⟨.requested, .clean⟩, engine)

/-- The address `http://a.test/`. -/
def home : List Char := ['h', 't', 't', 'p', ':', '/', '/', 'a', '.', 't', 'e', 's', 't', '/']

/-- The parser on the pages of one site, named by letters and digits: such an address is its own
canonical spelling. -/
@[reducible]
def siteParser : UrlParser where
  parseNavigation address :=
    if address.take 14 = home ∧ (address.drop 14).all Char.isAlphanum then some (address, .http)
    else none

/-- The first tab of a session. -/
def firstTab : BrowserTabId := ⟨⟨1, Nat.one_ne_zero⟩⟩

/-- The first navigation of the first tab. -/
def firstNavigation : NavigationId := ⟨⟨⟨1, Nat.one_ne_zero⟩⟩, .initial⟩

/-- Limits with room for two tabs. -/
def smallLimits : SessionLimits where
  maxWindows := 2
  maxTabsPerWindow := 2
  maxTotalTabs := 2
  maxClosingContexts := 2
  maxHistoryEntries := 4
  maxTotalHistoryBytes := 1024
  maxTotalFrameBytes := 1024
  maxAddressBytes := 64
  maxEngineEventsPerPump := 4
  windows := by decide
  tabsPerWindow := by decide
  totalTabs := by decide
  closingContexts := by decide
  historyEntries := by decide
  totalHistoryBytes := by decide
  totalFrameBytes := by decide
  addressBytes := by decide
  engineEventsPerPump := by decide
  tabs_le := by decide
  closing_le := by decide

/-- A navigation that is started and redirected to a URL, before its context is closed. -/
def redirected (url : List Char) (h : AdmissibleUrl url) : ScriptedEngine where
  navigations := [firstNavigation]
  events := [⟨⟨⟨1, Nat.one_ne_zero⟩⟩, .navigationStarted firstNavigation⟩,
    ⟨⟨⟨2, by decide⟩⟩, .navigationCommitted firstNavigation 200⟩,
    ⟨⟨⟨3, by decide⟩⟩, .contextClosed firstNavigation⟩]
  commits := [⟨url, 1, .cleartext, false, h⟩]

namespace BrowserSession

attribute [local instance] siteParser

/-- A session over a scripted engine after some actions. -/
def played (engine : ScriptedEngine) (actions : List SessionAction) :
    Option (BrowserSession ScriptedEngine) :=
  (newWithNavigationMode engine smallLimits .generalWeb []).toOption.bind
    (actions.foldlM fun s action => (perform action s).state?)

/-- Actions that return make a run. -/
lemma run_of_foldlM (actions : List SessionAction) {s t : BrowserSession ScriptedEngine}
    (h : actions.foldlM (fun s action => (perform action s).state?) s = some t) : Run s t := by
  induction actions generalizing s with
  | nil =>
    cases h
    exact .refl
  | cons action actions ih =>
    obtain ⟨u, hu, hrest⟩ := Option.bind_eq_some_iff.mp h
    exact (ih hrest).head (.act s u action hu)

/-- What actions lead to is reachable. -/
lemma reachable_of_played (engine : ScriptedEngine) (actions : List SessionAction)
    {s : BrowserSession ScriptedEngine} (h : played engine actions = some s) : Reachable s := by
  obtain ⟨start, hstart, hrun⟩ := Option.bind_eq_some_iff.mp h
  refine ⟨engine, smallLimits, .generalWeb, [], start, ?_, run_of_foldlM actions hrun⟩
  cases hnew : newWithNavigationMode engine smallLimits .generalWeb [] with
  | ok s =>
    rw [hnew] at hstart
    exact congrArg Except.ok (Option.some.inj hstart)
  | error e =>
    rw [hnew] at hstart
    cases hstart

/-- A page is visited in the first of two tabs. -/
def visiting : List SessionAction :=
  [.dispatch (.newTab ⟨⟨1, Nat.one_ne_zero⟩⟩), .dispatch (.navigate firstTab home), .pollEngineOnce,
    .pollEngineOnce]

/-- A tab with a committed page is closed and never comes back, and the session is shut down. -/
theorem reachable_structure_closed_tab :
    ∃ s t u, played (redirected (home ++ ['x']) (by decide)) visiting = some s ∧
      (perform (.dispatch (.closeTab firstTab)) s).state? = some t ∧
      (perform .shutdown t).state? = some u ∧
      s.historyBytes = 15 ∧ 0 < s.windows.size ∧ Sound s ∧
      Blameless (perform (.dispatch (.closeTab firstTab)) s) ∧ t.historyBytes = 0 ∧
      (∀ v, Run t v → firstTab ∉ v.tabs) ∧ Cleared u := by
  have hs := reachable_of_played (redirected (home ++ ['x']) (by decide)) visiting rfl
  obtain ⟨hsound, -, hblameless, hreuse⟩ := reachable_structure hs
  refine ⟨_, _, _, rfl, rfl, rfl, rfl, (hsound rfl).1, (hsound rfl).2, hblameless _, rfl, ?_, ?_⟩
  · intro v hv
    have hclosed := hreuse _ v (.single (.act _ _ (.dispatch (.closeTab firstTab)) rfl)) hv
    exact hclosed.tabs firstTab (Finmap.mem_iff.mpr ⟨_, rfl⟩) (Finmap.lookup_eq_none.mp rfl)
  · have hu := reachable_of_played (redirected (home ++ ['x']) (by decide))
      (visiting ++ [.dispatch (.closeTab firstTab), .shutdown]) rfl
    exact (reachable_structure hu).2.1 SessionLifecycle.noConfusion

/-- A session that was shut down after a visit refuses to open a window, also after other calls. -/
theorem ended_for_good_shutdown :
    ∃ s t, played (redirected (home ++ ['x']) (by decide)) (visiting ++ [.shutdown]) = some s ∧
      s.lifecycle = .closed ⟨.requested, .clean⟩ ∧
      [.pollEngineOnce, .shutdown, .dispatch (.navigate firstTab home)].foldlM
        (fun s action => (perform action s).state?) s = some t ∧
      t = { s with engine := t.engine, reservations := t.reservations } ∧
      Refused t (perform (.dispatch .newWindow) t) := by
  have hs := reachable_of_played (redirected (home ++ ['x']) (by decide))
    (visiting ++ [.shutdown]) rfl
  obtain ⟨hsame, hrefused⟩ := ended_for_good hs SessionLifecycle.noConfusion
    (run_of_foldlM [.pollEngineOnce, .shutdown, .dispatch (.navigate firstTab home)] rfl)
  exact ⟨_, _, rfl, rfl, rfl, hsame, hrefused _ SessionAction.noConfusion⟩

end BrowserSession

end WildBuzzard.Ui
