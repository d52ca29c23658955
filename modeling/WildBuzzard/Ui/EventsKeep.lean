import WildBuzzard.Ui.FrameEvents

/-!
# Polling keeps a session sound

**Applying an event leaves a running session, or fails for a reason that is not the session's own**
(`applyEngineEvent_handles`); what it does to the views of the tabs is `Shows`. An error that leaves
the session running is turned into its end by the poll, so a poll returns with the event applied
whole, or with the session unchanged, or with the session ended (`pollEngineOnce_sat`).
-/

namespace WildBuzzard.Ui

open Lib Engine Call Table

namespace BrowserSession

variable {E : Type} {s t : BrowserSession E}

/-! ## Acknowledged closes -/

/-- The session without a tombstone runs on. -/
lemma Alive.acknowledge (hs : Alive s) (context : TopLevelContextId) {k : ClosingContext}
    (hk : s.closingContexts.lookup context = some k) :
    After s { s with closingContexts := s.closingContexts.erase context } := by
  have h := hs.sound
  have hsize := size_erase hk
  refine ⟨.inl ⟨hs.running, hs.engine, hs.windows, ?_⟩, ?_⟩
  · exact
      { h with
        closing := fun hx => h.closing (lookup_of_lookup_erase hx).2
        closingAllocated := fun hx => h.closingAllocated (lookup_of_lookup_erase hx).2
        tabLimit := by
          have hlimit := h.tabLimit
          show s.tabs.size + size (s.closingContexts.erase context) ≤ s.limits.maxTotalTabs
          omega }
  · refine .of_subset (fun _ h => h) (fun _ h => h) (fun _ h => h) (fun x hx => ?_) rfl rfl rfl
    obtain ⟨k, hk⟩ := lookup_some_of_mem hx
    exact .inr (mem_of_lookup (lookup_of_lookup_erase hk).2)

/-! ## Every event -/

/-- What an event does to the views of the tabs. -/
def Shows [EnginePort E] (event : EnginePortEventKind) (s t : BrowserSession E) : Prop :=
  ∃ engine answer, s.engine = some engine ∧ HandsOut engine event answer ∧
    t.views = s.tabs.mapValues (eventView answer event)

lemma properFailure_notApplied {e : SessionError} (h : FromPort e) :
    ProperFailure (.engineContract (notApplied e)) := by
  obtain ⟨error, rfl⟩ := h
  trivial

section Engine

variable [EnginePort E]

lemma applyContextClosed_handles (hs : Alive s) (navigation : NavigationId) :
    Handles s (Settles s.views) (applyContextClosed navigation s) := by
  refine .read ?_
  cases hk : s.closingContexts.lookup navigation.context with
  | some closing =>
    refine (demand_handles hs _ _).bind fun _ t ht => ?_
    rintro ⟨rfl, -⟩
    exact .of_after (ht.acknowledge navigation.context hk) ht.running ⟨by trivial, rfl⟩ rfl
  | none =>
    split_ifs
    · exact blame_handles hs _
    · exact .pure hs ⟨trivial, rfl⟩
    · exact blame_handles hs _

/-- An event out of its place in the sequence ends the session. -/
lemma validateEngineSequence_sat (hs : Alive s) (event : EnginePortEvent) :
    (validateEngineSequence event s).Ends
      (fun _ t => ∃ last, t = { s with lastEngineSequence := last })
      (fun e t => After s t ∧ Proper e ∧ t.lifecycle ≠ .running) := by
  have hfail (failure : SessionFailure) (hp : ProperFailure failure) :
      ((fail failure : SessionCall E Unit) s).Ends
        (fun _ t => ∃ last, t = { s with lastEngineSequence := last })
        (fun e t => After s t ∧ Proper e ∧ t.lifecycle ≠ .running) := by
    unfold fail
    rw [if_neg (by simp [hs.running])]
    exact ⟨after_failed hp _, proper_terminal hp, by simp [ended]⟩
  refine sat_read_bind.mpr ?_
  cases s.lastEngineSequence.elim (some 1) fun previous => checkedAdd previous 1 with
  | none => exact hfail (.engineContract (.engine .sequenceExhausted)) trivial
  | some expected =>
    simp only
    split_ifs
    · exact hfail (.engineEventSequence expected event.sequence.id.get) trivial
    · exact ⟨_, rfl⟩

/-- What a poll does: nothing if the engine has no event, what its event does otherwise. -/
def Polled (s t : BrowserSession E) : Prop :=
  ∃ event later, Answers s EnginePort.pollEvent event later ∧
    event.elim (t.views = s.views) fun event =>
      Shows event.kind { s with engine := some later } t

variable [UrlParser]

/-- **An event is applied in a running session, or its failure is not the session's own.** -/
theorem applyEngineEvent_handles (hs : Alive s) (event : EnginePortEventKind) :
    Handles s (fun outcome t => Single outcome ∧ Shows event s t) (applyEngineEvent event s) := by
  obtain ⟨engine, hengine⟩ := hs.engine
  -- Only a commit asks the engine for more than the event.
  have hshows {event : EnginePortEventKind} (hout : HandsOut engine event none)
      {o : Outcome (BrowserSession E) SessionError EnginePumpOutcome}
      (h : Handles s (Settles (s.tabs.mapValues (eventView none event))) o) :
      Handles s (fun outcome t => Single outcome ∧ Shows event s t) o :=
    h.imp fun _ _ ht => ⟨ht.1, engine, none, hengine, hout, ht.2⟩
  cases event with
  | navigationStarted navigation =>
    exact hshows (by trivial) (applyNavigationStarted_handles hs navigation)
  | navigationCommitted navigation httpStatus =>
    refine (applyNavigationCommitted_handles hs navigation httpStatus).imp ?_
    rintro _ t ⟨answer, ⟨later, engine, hengine, hanswer⟩, hsingle, hviews⟩
    exact ⟨hsingle, engine, answer, hengine, ⟨later, hanswer⟩, hviews⟩
  | frameReady navigation lease descriptor version =>
    exact hshows (by trivial) (applyFrameEvent_handles hs navigation lease descriptor version)
  | navigationCancelled navigation =>
    exact hshows (by trivial) (applyNavigationEnded_handles hs navigation _ _ (by decide) _ _)
  | navigationFailed navigation failure =>
    exact hshows (by trivial) (applyNavigationEnded_handles hs navigation _ _ (by decide) _ _)
  | documentMutationRendered navigation operation previousLive previousFrame live result created
      frame descriptor =>
    exact hshows (by trivial) (applyDocumentMutationRendered_handles hs navigation operation
      previousLive previousFrame live result created frame descriptor)
  | documentMutationCommittedWithoutFrame navigation operation previousLive live frame result
      created failure =>
    exact hshows (by trivial) (applyDocumentMutationCommittedWithoutFrame_handles hs navigation
      operation previousLive live frame result created failure)
  | documentMutationRejected navigation operation live frame failure =>
    refine hshows (by trivial) (note_handles hs navigation live frame _ ?_)
    exact fun _ => ⟨rfl, rfl⟩
  | documentRerendered navigation operation live previousFrame frame descriptor =>
    exact hshows (by trivial) (applyDocumentRerenderedEvent_handles hs navigation operation live
      previousFrame frame descriptor)
  | documentRerenderRejected navigation operation live frame failure =>
    refine hshows (by trivial) (note_handles hs navigation live frame _ ?_)
    exact fun _ => ⟨rfl, rfl⟩
  | contextClosed navigation => exact hshows (by trivial) (applyContextClosed_handles hs navigation)
  | shutdownComplete status =>
    have hp : ProperFailure (.engineStopped status) := trivial
    exact fail_handles hs hp

/-! ## Polling -/

/-- **A poll applies one event whole, or changes nothing, or ends the session.** -/
theorem pollEngineOnce_sat (hs : Alive s) :
    (pollEngineOnce s).Ends (fun outcome t => Single outcome ∧ After s t ∧ Polled s t)
      (fun e t => After s t ∧ Proper e ∧ (t.lifecycle = .running → t.views = s.views)) := by
  unfold pollEngineOnce
  rw [bind_of_ok (ensureRunning_eq hs)]
  refine sat_seq (callEngine_sat hs _ _) ?_ ?_
  swap
  · rintro e t ⟨ht, he, hrunning⟩
    refine ⟨ht, he, fun hr => ?_⟩
    obtain ⟨⟨engine, rfl⟩, -⟩ := hrunning hr
    rfl
  rintro polled u ⟨later, hanswer, rfl⟩
  have hafter := hs.withEngine later
  have hu : Alive { s with engine := some later } := hafter.inv.alive_of_running hs.running
  cases polled with
  | none => exact ⟨trivial, hafter, none, later, hanswer, rfl⟩
  | some event =>
    -- Whatever error is left after an event was taken ends the session.
    refine sat_seq (validateEngineSequence_sat hu event) ?_ ?_
    · rintro _ v ⟨last, rfl⟩
      have hv : Alive { s with engine := some later, lastEngineSequence := last } :=
        ⟨hu.running, hu.engine, hu.windows, { hu.sound with }⟩
      have hsv : After s { s with engine := some later, lastEngineSequence := last } :=
        ⟨.inl hv, { hafter.ids with }⟩
      refine sat_bind.mpr (sat_settle.mpr ?_)
      refine Outcome.Sat.mono (applyEngineEvent_handles hv event.kind) ?_ ?_ fun _ => id
      · rintro outcome t ⟨ht, hids', hsingle, hshows⟩
        exact ⟨hsingle, ⟨.inl ht, hsv.ids.trans hids'⟩, some event, later, hanswer, hshows⟩
      · rintro e t ⟨ht, he, hport⟩
        refine sat_read_bind.mpr ?_
        by_cases hr : t.lifecycle = .running
        · rw [if_neg (not_not.mpr hr)]
          have hp := properFailure_notApplied (hport hr)
          simp only [fail, if_neg (not_not.mpr hr)]
          exact ⟨(hsv.trans ht).trans (after_failed hp _), proper_terminal hp,
            fun hr => absurd hr (by simp [ended])⟩
        · rw [if_pos hr]
          exact ⟨hsv.trans ht, he, fun hr' => absurd hr' hr⟩
    · rintro e t ⟨ht, he, hstopped⟩
      exact ⟨hafter.trans ht, he, fun hr => absurd hr hstopped⟩

lemma pollEngineOnce_keeps : Keeps (E := E) pollEngineOnce := by
  refine .guarded fun s hs => ?_
  exact (pollEngineOnce_sat hs).imp₂ (fun _ _ ht => ht.2.1) fun _ _ ht =>
    ⟨ht.1, ht.2.1, fun _ => trivial⟩

/-! ## Pumping -/

lemma pumpEvents_keeps (remaining processed : ℕ) :
    Keeps (E := E) (pumpEvents remaining processed) := by
  induction remaining generalizing processed with
  | zero => exact .pure _
  | succ remaining ih =>
    intro s hs
    refine Kept.bind (pollEngineOnce_keeps s hs) fun outcome t hok ht => ?_
    have hsingle : Single outcome := by
      by_cases hr : s.lifecycle = .running
      · exact ((pollEngineOnce_sat (hs.alive_of_running hr)).of_ok hok).1
      · cases (ensureRunning_bind_ended hr _).symm.trans hok
    cases outcome with
    | empty => exact .pure ht.inv _
    | batch processed more => exact hsingle.elim
    | _ => exact ih _ t ht.inv

lemma pumpEngine_keeps (maximum : ℕ) : Keeps (E := E) (pumpEngine maximum) :=
  ensureRunning_keeps.bind fun _ => .read fun _ => pumpEvents_keeps _ _

end Engine

end BrowserSession

end WildBuzzard.Ui
