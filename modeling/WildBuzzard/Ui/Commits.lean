import WildBuzzard.Ui.History

/-!
# Commits and the end of a session

A server chooses the final URL of a navigation, and the session keeps it in the history. **A commit
that the engine reports as it should leaves the session running exactly if the session can retain
the URL** (`commit_leaves_running_iff`): a URL over the configured bounds ends the session rather
than being cut (`long_redirect_ends_session`).
-/

namespace WildBuzzard.Ui

open Lib Engine NavigationCommitMetadata Option Call

namespace BrowserSession

variable {E α β : Type} {s t : BrowserSession E} {navigation : NavigationId} {httpStatus : ℕ}
  {answer : Option NavigationCommitMetadata}

/-- The final URL of a navigation: the one the engine hands out, or else the requested one, if the
entry is still in the history. -/
def finalUrl (a : TabRecord) (navigation : NavigationId)
    (answer : Option NavigationCommitMetadata) : Option (List Char) :=
  match answer with
  | some commitment => some commitment.finalUrl
  | none => (a.history.find? fun e => e.navigation = navigation).map HistoryEntry.address

/-- The session can retain what a navigation came to: nothing, if its tab is gone, and otherwise the
final URL, under a next revision of the window. -/
def Retains (s : BrowserSession E) (navigation : NavigationId)
    (answer : Option NavigationCommitMetadata) : Prop :=
  ∀ tab a W, s.contexts.lookup navigation.context = some tab → s.tabs.lookup tab = some a →
    s.windows.lookup a.window = some W → W.primaryUi.bump ≠ none ∧
      ∃ url ∈ finalUrl a.toTabRecord navigation answer, Committable s a.toTabRecord navigation url

/-- The navigation is one of a tab that waits for its commit, or of a context that is gone. -/
def AwaitsCommit (s : BrowserSession E) (navigation : NavigationId) : Prop :=
  match s.contexts.lookup navigation.context with
  | none => navigation.context ∈ s.closingContexts ∨
      s.contextIdentityWasAllocated navigation.context
  | some tab => ∃ a, s.tabs.lookup tab = some a ∧
      a.navigationPhases.lookup navigation = some .started

/-- The next event of an engine that keeps its contract is the commit of a navigation: it is the
next one in sequence, it reports success, its navigation awaits it, and the metadata that comes with
it is valid, which only an engine confined to loopback may leave out. -/
structure DeliversCommit [EnginePort E] [UrlParser] (s : BrowserSession E)
    (navigation : NavigationId) (httpStatus : ℕ) (answer : Option NavigationCommitMetadata) : Prop
    where
  event : ∃ event later, Answers s EnginePort.pollEvent (some event) later ∧
    event.kind = .navigationCommitted navigation httpStatus ∧
    HandsOut later event.kind answer ∧
    (s.lastEngineSequence.elim (some 1) fun previous => checkedAdd previous 1) =
      some event.sequence.id.get
  success : 200 ≤ httpStatus ∧ httpStatus ≤ 299
  awaited : AwaitsCommit s navigation
  metadata : s.navigationMode = .generalWeb →
    ∃ commitment, answer = some commitment ∧ commitment.validateGeneralWeb = .ok ()

/-! ## Calls that decide -/

/-- A call that returns exactly if a condition holds. -/
def Decides (P : Prop) (o : Outcome (BrowserSession E) SessionError α) : Prop :=
  o.Sat (fun _ _ => P) (fun _ _ => ¬P) fun _ => False

lemma Decides.step {P : Prop} {m : SessionCall E α} {f : α → SessionCall E β} {a : α}
    (hm : m s = .ok a t) (h : Decides P (f a t)) : Decides P ((m >>= f) s) := by
  rw [bind_of_ok hm]
  exact h

section Engine

variable [EnginePort E] {tab : BrowserTabId} {a : TabState}

lemma callEngine_of_answers {call : E → PortAnswer α × E} {value : α} {later : E}
    (h : Answers s call value later) (operation : String) :
    callEngine operation call s = .ok value { s with engine := some later } := by
  obtain ⟨engine, hengine, hcall⟩ := h
  unfold callEngine onEngine
  simp only [Call.bind_apply, Call.read, Outcome.andThen, hengine, orFail_some, Call.modify,
    Call.pure_apply, hcall]
  rfl

lemma blame_sat {Q : α → BrowserSession E → Prop} {P : Prop} (h : P) (fault : EngineFault) :
    ((blame fault : SessionCall E α) s).Ends Q (fun _ _ => P) := by
  unfold blame fail
  split_ifs
  · exact h
  · exact h

/-- The commitment of a navigation is found exactly if its final URL is known. -/
lemma resolveNavigationCommit_cases (hs : Alive s)
    (ha : s.tabs.lookup tab = some a) (hmode : s.navigationMode = .generalWeb → answer ≠ none) :
    (∃ commitment, resolveNavigationCommit tab navigation answer s = .ok commitment s ∧
        (∀ c ∈ answer, commitment = c) ∧
        finalUrl a.toTabRecord navigation answer = some commitment.finalUrl) ∨
      (∃ fault, resolveNavigationCommit tab navigation answer s = blame fault s) ∧
        finalUrl a.toTabRecord navigation answer = none := by
  cases answer with
  | some commitment => exact .inl ⟨commitment, rfl, by simp, rfl⟩
  | none =>
    have hloopback : ¬s.navigationMode ≠ .numericLoopback := by
      intro hne
      cases hm : s.navigationMode with
      | numericLoopback => exact hne hm
      | generalWeb => exact hmode hm rfl
    unfold resolveNavigationCommit finalUrl
    simp only [Call.bind_apply, Call.read, Outcome.andThen, if_neg hloopback, ha, bind_some]
    cases hfound : a.history.find? fun e => e.navigation = navigation with
    | none => exact .inr ⟨⟨_, rfl⟩, rfl⟩
    | some entry =>
      have hadmissible := (hs.sound.tab ha).addresses entry (List.mem_of_find?_eq_some hfound)
      simp only [new, checkUrl_of_admissible hadmissible, Except.map]
      exact .inl ⟨_, rfl, by simp, rfl⟩

lemma tabForKnownNavigation_of_gone (hx : s.contexts.lookup navigation.context = none)
    (hgone : navigation.context ∈ s.closingContexts ∨
      s.contextIdentityWasAllocated navigation.context) (fault : EngineFault) :
    tabForKnownNavigation navigation fault s = .ok none s := by
  unfold tabForKnownNavigation
  simp only [Call.bind_apply, Call.read, Outcome.andThen, hx]
  rw [if_pos hgone]
  rfl

lemma tabForKnownNavigation_of_tab
    (hx : s.contexts.lookup navigation.context = some tab) (ha : s.tabs.lookup tab = some a)
    (hmem : navigation ∈ a.navigationPhases) (fault : EngineFault) :
    tabForKnownNavigation navigation fault s = .ok (some tab) s := by
  unfold tabForKnownNavigation
  simp only [Call.bind_apply, Call.read, Outcome.andThen, hx, getTab_eq ha, if_pos hmem]
  rfl

lemma requireNavigationPhase_eq (ha : s.tabs.lookup tab = some a) {phase : NavigationPhase}
    (hphase : a.navigationPhases.lookup navigation = some phase) {allowed : List NavigationPhase}
    (hallowed : phase ∈ allowed) (next : NavigationPhase) (fault : EngineFault) :
    requireNavigationPhase tab navigation allowed next fault s =
      .ok () (s.withTab tab (enterPhase navigation next)) := by
  have hdemand : (demand (phase ∈ allowed) fault : SessionCall E Unit) = pure () := if_pos hallowed
  unfold requireNavigationPhase
  rw [bind_of_ok (getTab_eq ha), hphase, okOr_some, bind_of_ok (Call.pure_apply phase s),
    hdemand, bind_of_ok (Call.pure_apply () s)]
  exact modifyTab_eq ha _

variable [UrlParser]

/-- **A commit that is awaited is applied exactly if the session can retain it.** -/
theorem applyNavigationCommitted_decides (hs : Alive s)
    (hsuccess : 200 ≤ httpStatus ∧ httpStatus ≤ 299) (hawaited : AwaitsCommit s navigation)
    (hmetadata : s.navigationMode = .generalWeb →
      ∃ commitment, answer = some commitment ∧ commitment.validateGeneralWeb = .ok ()) {later : E}
    (hanswer : Answers s (EnginePort.takeNavigationCommit navigation) answer later) :
    Decides (Retains s navigation answer) (applyNavigationCommitted navigation httpStatus s) := by
  have hu : Alive { s with engine := some later } :=
    (hs.withEngine later).inv.alive_of_running hs.running
  refine .step (show demand _ _ s = .ok () s by rw [demand, if_pos hsuccess]; rfl) ?_
  refine .step (callEngine_of_answers hanswer _) ?_
  unfold AwaitsCommit at hawaited
  cases hx : s.contexts.lookup navigation.context with
  | none =>
    rw [hx] at hawaited
    refine .step (tabForKnownNavigation_of_gone (s := { s with engine := some later }) hx hawaited
      _) ?_
    intro tab a W htab
    rw [hx] at htab
    cases htab
  | some tab =>
    rw [hx] at hawaited
    obtain ⟨a, ha, hphase⟩ := hawaited
    obtain ⟨W, hW, -⟩ := hs.sound.owned ha
    have hcontext : a.context = navigation.context := by
      obtain ⟨a', ha', hcontext⟩ := hs.sound.contextTab hx
      rw [some.inj (ha.symm.trans ha')]
      exact hcontext
    have hretains : Retains s navigation answer ↔ W.primaryUi.bump ≠ none ∧
        ∃ url ∈ finalUrl a.toTabRecord navigation answer,
          Committable s a.toTabRecord navigation url := by
      refine ⟨fun h => h tab a W hx ha hW, fun h tab' a' W' hx' ha' hW' => ?_⟩
      obtain rfl := some.inj (hx.symm.trans hx')
      obtain rfl := some.inj (ha.symm.trans ha')
      obtain rfl := some.inj (hW.symm.trans hW')
      exact h
    refine .step (tabForKnownNavigation_of_tab (s := { s with engine := some later }) hx ha
      (Table.mem_of_lookup hphase) _) ?_
    have hmode : s.navigationMode = .generalWeb → answer ≠ none := by
      intro hm
      obtain ⟨commitment, rfl, -⟩ := hmetadata hm
      exact some_ne_none commitment
    rcases resolveNavigationCommit_cases hu ha hmode with
      ⟨commitment, hresolve, hsame, hfinal⟩ | ⟨⟨fault, hresolve⟩, hfinal⟩
    swap
    · refine sat_bind.mpr ?_
      rw [hresolve]
      refine blame_sat (fun h => ?_) fault
      obtain ⟨-, url, hurl, -⟩ := hretains.mp h
      rw [hfinal] at hurl
      cases hurl
    refine .step hresolve (.step (requireNavigationPhase_eq (s := { s with engine := some later })
      ha hphase (List.mem_singleton.mpr rfl) _ _) ?_)
    have hx' := hu.enterPhase ha hphase NavigationPhase.noConfusion .committed
    have hvalid : s.navigationMode = .generalWeb → commitment.validateGeneralWeb = .ok () := by
      intro hm
      obtain ⟨c, rfl, hc⟩ := hmetadata hm
      rw [hsame c rfl]
      exact hc
    have hsame (e : HistoryEntry) : committed httpStatus (some commitment) e =
        commitEntry httpStatus commitment e := rfl
    refine sat_seq (applyNavigationCommit_sat (hx'.inv.alive_of_running hs.running)
      (Table.lookup_update_self ha _) hcontext fun e _ _ => hsame e) ?_ ?_
    · rintro _ t ⟨ht, hr, hcommittable, -, hwindows, b, hb, hbw⟩
      have hWt : t.windows.lookup b.window = some W := by
        rw [hwindows, hbw]
        exact hW
      refine sat_bind.mpr (sat_bind.mpr ?_)
      rw [getTab_eq hb]
      refine (bumpPrimaryUiRevision_sat (ht.inv.alive_of_running hr) hWt).imp₂ ?_ ?_
      · exact fun _ _ h => hretains.mpr ⟨h.2.2, _, hfinal, hcommittable⟩
      · exact fun _ _ h hall => (hretains.mp hall).1 h.2.2.2
    · rintro _ t ⟨-, -, -, hnot⟩ hall
      obtain ⟨-, url, hurl, hcommittable⟩ := hretains.mp hall
      rw [hfinal] at hurl
      cases hurl
      exact hnot hvalid hcommittable

/-- **A commit that the engine reports as it should leaves the session running exactly if the session
can retain the final URL.** -/
theorem commit_leaves_running_iff (h : Reachable s) (hr : s.lifecycle = .running)
    (hcommit : DeliversCommit s navigation httpStatus answer) :
    ∃ t, (pollEngineOnce s).state? = some t ∧
      (t.lifecycle = .running ↔ Retains s navigation answer) := by
  have hs := h.inv.alive_of_running hr
  obtain ⟨event, later, hevent, hkind, hout, hsequence⟩ := hcommit.event
  have hu : Alive { s with
      engine := some later, lastEngineSequence := some event.sequence.id.get } :=
    ⟨hs.running, ⟨later, rfl⟩, hs.windows, { hs.sound with }⟩
  have hvalidate : validateEngineSequence event { s with engine := some later } = .ok () { s with
      engine := some later, lastEngineSequence := some event.sequence.id.get } := by
    unfold validateEngineSequence
    simp only [Call.bind_apply, Call.read, Outcome.andThen, hsequence]
    rw [if_neg (not_not.mpr rfl)]
    rfl
  rw [hkind] at hout
  obtain ⟨last, htake⟩ := hout
  have happlied := Outcome.Sat.and (applyEngineEvent_handles hu event.kind)
    (show Decides (Retains s navigation answer) (applyEngineEvent event.kind _) by
      rw [hkind]
      exact applyNavigationCommitted_decides hu hcommit.success hcommit.awaited hcommit.metadata
        ⟨later, rfl, htake⟩)
  have hpoll : (pollEngineOnce s).Sat (fun _ t => t.lifecycle = .running ∧
      Retains s navigation answer) (fun _ t => t.lifecycle ≠ .running ∧
      ¬Retains s navigation answer) fun _ => False := by
    unfold pollEngineOnce
    rw [Call.bind_of_ok (ensureRunning_eq hs), Call.bind_of_ok (callEngine_of_answers hevent _)]
    simp only
    rw [Call.bind_of_ok hvalidate]
    refine Call.sat_bind.mpr (Call.sat_settle.mpr (happlied.mono ?_ ?_ fun _ h => h.1))
    · rintro _ t ⟨ht, hretains⟩
      exact ⟨ht.1.running, hretains⟩
    · rintro e t ⟨-, hnot⟩
      refine Call.sat_read_bind.mpr ?_
      by_cases hrunning : t.lifecycle = .running
      · rw [if_neg (not_not.mpr hrunning), fail, if_neg (not_not.mpr hrunning)]
        exact ⟨by simp [ended], hnot⟩
      · rw [if_pos hrunning]
        exact ⟨hrunning, hnot⟩
  cases hresult : pollEngineOnce s with
  | ok outcome t =>
    obtain ⟨hrunning, hretains⟩ := hpoll.of_ok hresult
    exact ⟨t, rfl, fun _ => hretains, fun _ => hrunning⟩
  | err error t =>
    obtain ⟨hstopped, hnot⟩ := hpoll.of_err hresult
    exact ⟨t, rfl, fun hrunning => absurd hrunning hstopped, fun hretains => absurd hretains hnot⟩
  | halt reason =>
    rw [hresult] at hpoll
    exact hpoll.elim

end Engine

/-! ## A redirect to a long URL -/

attribute [local instance] siteParser

/-- A page of the site whose address has 65 bytes. -/
def longUrl : List Char := home ++ List.replicate 51 'x'

/-- The actions up to the commit of a redirect. -/
def awaiting : List SessionAction := [.dispatch (.navigate firstTab home), .pollEngineOnce]

/-- The engine then reports the commit as it should. -/
lemma awaiting_delivers (url : List Char) (h : AdmissibleUrl url)
    (hsite : UrlParser.parseNavigation url = some (url, .http)) :
    ∃ s, played (redirected url h) awaiting = some s ∧ s.lifecycle = .running ∧
      DeliversCommit s firstNavigation 200 (some ⟨url, 1, .cleartext, false, h⟩) := by
  have hvalid : validateGeneralWeb ⟨url, 1, .cleartext, false, h⟩ = .ok () := by
    unfold validateGeneralWeb
    rw [if_neg (by decide : ¬maxTopLevelRedirects < 1), hsite]
    exact if_neg (not_not.mpr rfl)
  refine ⟨_, rfl, rfl, ?_, ⟨by decide, by decide⟩, ⟨_, rfl, rfl⟩, fun _ => ⟨_, rfl, hvalid⟩⟩
  exact ⟨_, _, ⟨_, rfl, rfl⟩, rfl, ⟨_, rfl⟩, rfl⟩

/-- **A redirect to a URL of 65 bytes ends a session that retains addresses of 64.** -/
theorem long_redirect_ends_session :
    ∃ (s t : BrowserSession ScriptedEngine) (commitment : NavigationCommitMetadata),
      played (redirected longUrl (by decide)) awaiting = some s ∧ Reachable s ∧
      s.lifecycle = .running ∧ commitment.finalUrl = longUrl ∧
      DeliversCommit s firstNavigation 200 (some commitment) ∧
      (pollEngineOnce s).state? = some t ∧ t.lifecycle ≠ .running := by
  obtain ⟨s, hs, hr, hcommit⟩ := awaiting_delivers longUrl (by decide) rfl
  obtain ⟨s', t, hs', ht, hstopped⟩ : ∃ s t,
      played (redirected longUrl (by decide)) awaiting = some s ∧
      (pollEngineOnce s).state? = some t ∧ t.lifecycle ≠ .running :=
    ⟨_, _, rfl, rfl, SessionLifecycle.noConfusion⟩
  obtain rfl := Option.some.inj (hs.symm.trans hs')
  exact ⟨s, t, _, hs, reachable_of_played _ _ hs, hr, rfl, hcommit, ht, hstopped⟩

/-- A redirect within the bounds is committed, since the session can retain it. -/
theorem commit_leaves_running_redirected :
    ∃ (s t : BrowserSession ScriptedEngine) (commitment : NavigationCommitMetadata),
      played (redirected (home ++ ['x']) (by decide)) awaiting = some s ∧
      commitment.finalUrl = home ++ ['x'] ∧ (pollEngineOnce s).state? = some t ∧
      t.lifecycle = .running ∧ Retains s firstNavigation (some commitment) := by
  obtain ⟨s, hs, hr, hcommit⟩ := awaiting_delivers (home ++ ['x']) (by decide) rfl
  obtain ⟨t, ht, hiff⟩ := commit_leaves_running_iff (reachable_of_played _ _ hs) hr hcommit
  obtain ⟨s', t', hs', ht', hrunning⟩ : ∃ s t,
      played (redirected (home ++ ['x']) (by decide)) awaiting = some s ∧
      (pollEngineOnce s).state? = some t ∧ t.lifecycle = .running := ⟨_, _, rfl, rfl, rfl⟩
  obtain rfl := Option.some.inj (hs.symm.trans hs')
  obtain rfl := Option.some.inj (ht.symm.trans ht')
  exact ⟨s, t, _, hs, rfl, ht, hrunning, hiff.mp hrunning⟩

end BrowserSession

end WildBuzzard.Ui
