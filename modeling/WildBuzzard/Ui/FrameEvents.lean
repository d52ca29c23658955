import WildBuzzard.Ui.NavigationEvents

/-!
# Frames, documents and polling

Events that carry a frame install it, drop it or drop what is retained, with the account of retained
bytes (`settleFrame_handles`). Together with the navigation events they make up every event:
**applying one either leaves a running session or fails for a reason that is not the session's own**
(`applyEngineEvent_handles`), so polling keeps a session (`pumpEngine_keeps`).
-/

namespace WildBuzzard.Ui

open Lib Engine Table

namespace BrowserSession

variable {E : Type} {s : BrowserSession E} {tab : BrowserTabId} {a : TabState}
  {navigation : NavigationId}

/-! ## Retained frames -/

variable {f : TabState → TabState}

/-- The account of the frames with a frame in the place of a tab's. -/
def Projected (s : BrowserSession E) (a : TabRecord) (descriptor : EngineFrameDescriptor)
    (bytes : ℕ) : Prop :=
  bytes + a.frameBytes = s.retainedFrameBytes + descriptor.retainedChargeBytes ∧
    bytes ≤ s.limits.maxTotalFrameBytes

lemma Sound.frameBytes_le (h : Sound s) (ha : s.tabs.lookup tab = some a) :
    a.frameBytes ≤ s.retainedFrameBytes := by
  rw [h.frameSum]
  exact Table.le_total ha fun T => T.frameBytes

/-- The session with a frame installed or dropped runs on. -/
lemma Alive.setFrame (hs : Alive s) (ha : s.tabs.lookup tab = some a)
    {frame : Option EngineFrameLease} {bytes : ℕ}
    (hf : (f a).toTabRecord = { a.toTabRecord with frame := frame })
    (hsum : bytes + a.frameBytes = s.retainedFrameBytes + (f a).frameBytes)
    (hle : bytes ≤ s.limits.maxTotalFrameBytes) :
    After s { s with tabs := s.tabs.update tab f, retainedFrameBytes := bytes } := by
  rw [hf] at hsum
  exact hs.updateTab ha (.congr (b := { a with frame := frame })
    { TabChange.refl hs.sound ha with
      sound := { hs.sound.tab ha with }
      frameSum := hsum
      frameLimit := hle } hf)

/-- A tab and its session later, for the frame that is about to be installed. -/
structure Awaits (s : BrowserSession E) (a : TabRecord) (t : BrowserSession E) (b : TabRecord) :
    Prop where
  frame : b.frame = a.frame
  retained : t.retainedFrameBytes = s.retainedFrameBytes
  limits : t.limits = s.limits

lemma Projected.later {t : BrowserSession E} {b : TabRecord}
    {descriptor : EngineFrameDescriptor} {bytes : ℕ} (h : Projected s a.toTabRecord descriptor bytes)
    (hb : Awaits s a.toTabRecord t b) : Projected t b descriptor bytes := by
  unfold Projected TabRecord.frameBytes at *
  rw [hb.frame, hb.retained, hb.limits]
  exact h

section

variable (hs : Alive s) (ha : s.tabs.lookup tab = some a)
include hs ha

/-- The session with a page published in the place of another one runs on. -/
lemma Alive.publish (hready : a.navigationPhases.lookup navigation = some .ready)
    (version : EngineDocumentVersion) {ledger : ℕ} (hledger : ledger + a.ledgerEntries =
      s.navigationLedgerEntries + (publishPage navigation version a).ledgerEntries)
    (hle : ledger ≤ maxNavigationLedgerEntries) :
    After s { s with
      tabs := s.tabs.update tab (publishPage navigation version)
      navigationLedgerEntries := ledger } := by
  refine hs.updateTab ha ?_
  constructor
  case id => rw [publishPage, endLoading_record]
  case window => rw [publishPage, endLoading_record]
  case context => rw [publishPage, endLoading_record]
  case sound => exact tabSound_publishPage (hs.sound.tab ha) hready version
  case historySum => rw [publishPage, endLoading_record]; rfl
  case historyLimit => exact hs.sound.historyLimit
  case frameSum => rw [publishPage, endLoading_record]; rfl
  case frameLimit => exact hs.sound.frameLimit
  case ledgerSum => exact hledger
  case ledgerLimit => exact hle

omit hs ha in
lemma view_publishPage (navigation : NavigationId) (version : EngineDocumentVersion)
    (a : TabState) : (publishPage navigation version a).view = a.view := by
  unfold TabState.view publishPage endLoading
  split_ifs <;> rfl

/-- **A page is published and the one it replaces leaves the ledger.** -/
theorem retirePrior_handles (hready : a.navigationPhases.lookup navigation = some .ready)
    (version : EngineDocumentVersion) :
    Handles s (fun _ t => t.views = s.views ∧ ∃ b, t.tabs.lookup tab = some b ∧
        Awaits s a.toTabRecord t b.toTabRecord) (retirePrior tab navigation version s) := by
  have hviews : (s.tabs.update tab (publishPage navigation version)).mapValues TabState.view =
      s.views := mapValues_update_of_eq fun b _ => view_publishPage navigation version b
  have hframe : (publishPage navigation version a).frame = a.frame := by
    rw [publishPage, endLoading_record]
  have hself := lookup_update_self ha (publishPage navigation version)
  refine .look (getTab_eq ha) (.read ?_)
  cases hprior : a.liveNavigation.filter fun prior => prior ≠ navigation with
  | none =>
    have hledger := ledgerEntries_publishPage_none hprior version
    have hafter := hs.publish ha hready version (by rw [hledger]) hs.sound.ledgerLimit
    exact .of_after hafter hs.running ⟨hviews, _, hself, hframe, rfl, rfl⟩ (modifyTab_eq ha _)
  | some prior =>
    obtain ⟨hlive, -⟩ := Option.filter_eq_some_iff.mp hprior
    have hpriorReady := (hs.sound.tab ha).live prior hlive
    have hledger := ledgerEntries_publishPage_some hprior hpriorReady version
    have hpos : a.ledgerEntries ≤ s.navigationLedgerEntries := by
      rw [hs.sound.ledgerSum]
      exact Table.le_total ha fun T => T.ledgerEntries
    refine .look (congrFun (Call.check_eq_pure hpriorReady) s) ?_
    rw [checkedSub_of_le (by omega), okOr_some]
    refine .look (Call.pure_apply _ s) ?_
    have hlimit := hs.sound.ledgerLimit
    have hafter := hs.publish ha hready version
      (show s.navigationLedgerEntries - 1 + a.ledgerEntries = _ by omega) (by omega)
    exact .of_after hafter hs.running ⟨hviews, _, hself, hframe, rfl, rfl⟩ rfl

/-- The session with a new version of the document of a page runs on. -/
lemma Alive.setDocument {document : EngineDocumentState}
    (hlive : a.liveNavigation = some document.navigation)
    (hf : (f a).toTabRecord = { a.toTabRecord with engineDocument := some document }) :
    After s (s.withTab tab f) := by
  refine hs.updateTab ha (.congr (b := { a with engineDocument := some document })
    { TabChange.refl hs.sound ha with sound := { hs.sound.tab ha with document := ?_ } } hf)
  rintro _ ⟨rfl⟩
  exact hlive

/-- The document of a page is not part of a view. -/
lemma modifyTab_document (document : EngineDocumentState)
    (hlive : a.liveNavigation = some document.navigation)
    (hf : ∀ b, (f b).toTabRecord = { b.toTabRecord with engineDocument := some document })
    (haddress : ∀ b, (f b).address = b.address) :
    Handles s
      (fun _ t => t.views = s.views ∧ ∃ b, t.tabs.lookup tab = some b ∧
        Awaits s a.toTabRecord t b.toTabRecord) (modifyTab tab f s) := by
  refine .of_after (hs.setDocument ha hlive (hf a)) hs.running
    ⟨?_, _, lookup_update_self ha f, ?_, rfl, rfl⟩ (modifyTab_eq ha f)
  · refine views_withTab (fun b => ?_) s tab
    unfold TabState.view
    rw [hf b, haddress b]
  · rw [hf a]

end

lemma soft_id : Soft id := fun _ => ⟨rfl, rfl⟩

section Engine

variable [EnginePort E] (hs : Alive s)
include hs

section

variable (ha : s.tabs.lookup tab = some a)
include ha

lemma projectFrame_handles (frame : Option EngineFrameLease) (descriptor : EngineFrameDescriptor) :
    Handles s
      (fun projected t => t = s ∧ (frame = none → projected = none) ∧
        ∀ bytes ∈ projected, Projected s a.toTabRecord descriptor bytes)
      (projectFrame tab frame descriptor s) := by
  cases frame with
  | none => exact .pure hs ⟨rfl, fun _ => rfl, by simp⟩
  | some frame =>
    have hle := hs.sound.frameBytes_le ha
    have hfits : s.retainedFrameBytes - a.frameBytes + descriptor.retainedChargeBytes < 2 ^ 64 := by
      have hlimit := hs.sound.frameLimit
      have hmax := s.limits.totalFrameBytes.2
      have hcharge : descriptor.retainedChargeBytes ≤ maxUiFrameChargeBytes := descriptor.charge_le
      unfold maxUiFrameChargeBytes at hcharge
      omega
    refine .look (getTab_eq ha) (.read ?_)
    rw [checkedSub_of_le hle, Option.bind_some, checkedAdd_of_lt hfits, orFail_some]
    refine .look (Call.pure_apply _ s) (.pure hs ⟨rfl, by simp, ?_⟩)
    intro bytes hbytes
    split_ifs at hbytes with hlimit
    · simp at hbytes
    · obtain rfl := Option.some.inj hbytes
      refine ⟨?_, not_lt.mp hlimit⟩
      omega

lemma suppressRetainedFrame_handles :
    Handles s (fun _ t => t.views = s.views ∧ ∃ b, t.tabs.lookup tab = some b)
      (suppressRetainedFrame tab s) := by
  have hle := hs.sound.frameBytes_le ha
  refine .look (getTab_eq ha) (.read ?_)
  rw [checkedSub_of_le hle, orFail_some]
  refine .look (Call.pure_apply _ s) ?_
  have hafter := hs.setFrame ha (f := fun state => { state with frame := none }) rfl
    (show s.retainedFrameBytes - a.frameBytes + a.frameBytes = s.retainedFrameBytes + 0 by omega)
    ((Nat.sub_le _ _).trans hs.sound.frameLimit)
  refine .of_after hafter hs.running ⟨?_, _, lookup_update_self ha _⟩ rfl
  exact mapValues_update_of_eq fun _ _ => rfl

/-- The end of an event that carries a frame. -/
lemma settleFrame_handles {frame : Option EngineFrameLease} {projected : Option ℕ}
    {descriptor : EngineFrameDescriptor} (hframe : ∀ f ∈ frame, f.descriptor = descriptor)
    (hstale : frame = none → projected = none)
    (hprojected : ∀ bytes ∈ projected, Projected s a.toTabRecord descriptor bytes)
    (staleProjection : InternalFault) {installed dropped stale : TabState → TabState}
    (hinstalled : Soft installed) (hdropped : Soft dropped) (hsoft : Soft stale)
    {suppressed : EnginePumpOutcome} (hsuppressed : Single suppressed) :
    Handles s (fun outcome t => Settles s.views outcome t ∧ ∃ b, t.tabs.lookup tab = some b)
      (settleFrame tab frame projected staleProjection installed dropped stale suppressed s) := by
  have hsuppress {f : TabState → TabState} (hf : Soft f) {outcome : EnginePumpOutcome}
      (hsingle : Single outcome) :
      Handles s (fun outcome t => Settles s.views outcome t ∧ ∃ b, t.tabs.lookup tab = some b)
        ((do suppressRetainedFrame tab; modifyTab tab f; Pure.pure outcome :
          SessionCall E EnginePumpOutcome) s) := by
    refine (suppressRetainedFrame_handles hs ha).bind ?_
    rintro _ t ht ⟨hviews, b, hb⟩
    refine (modifyTab_soft ht hb hf).bind ?_
    rintro _ u hu ⟨hviews', c, hc⟩
    exact .pure hu ⟨⟨hsingle, hviews'.trans hviews⟩, c, hc⟩
  cases frame with
  | none =>
    rw [hstale rfl]
    exact hsuppress hsoft trivial
  | some frame =>
    cases projected with
    | none => exact hsuppress hdropped hsuppressed
    | some bytes =>
      obtain ⟨hsum, hle⟩ := hprojected bytes rfl
      refine .look (getTab_eq ha) ?_
      have hrecord : (installed { a with frame := some frame }).toTabRecord =
          { a.toTabRecord with frame := some frame } := (hinstalled _).1
      have hafter := hs.setFrame ha
        (f := fun state => installed { state with frame := some frame }) hrecord
        (by
          rw [hrecord]
          show _ = s.retainedFrameBytes + frame.descriptor.retainedChargeBytes
          rw [hframe frame rfl]
          exact hsum) hle
      refine .of_after hafter hs.running ⟨⟨by trivial, ?_⟩, _, lookup_update_self ha _⟩ rfl
      exact mapValues_update_of_eq fun b _ => hinstalled.view _

end

/-! ## Publication -/

/-- The navigation of a frame was committed; the page it replaces was ready. -/
lemma validateFramePublicationCandidate_handles (ha : s.tabs.lookup tab = some a)
    (hcontext : a.context = navigation.context) :
    Handles s (fun _ t => t = s ∧ a.navigationPhases.lookup navigation = some .committed)
      (validateFramePublicationCandidate tab navigation s) := by
  refine .look (getTab_eq ha) ((demand_handles hs _ _).bind fun _ t ht => ?_)
  rintro ⟨rfl, hcommitted⟩
  cases hlive : a.liveNavigation with
  | none => exact .pure ht ⟨rfl, hcommitted⟩
  | some live =>
    have hready := (ht.sound.tab ha).live live hlive
    have hissued := (ht.sound.tab ha).ledger live _ hready
    have hsame : ¬(live.context ≠ navigation.context ∨
        a.navigationPhases.lookup live ≠ some .ready) := by
      rintro (hne | hne)
      · exact hne (hissued.1.trans hcontext)
      · exact hne hready
    simp only [if_neg hsame]
    exact (demand_handles ht _ _).imp fun _ u hu => ⟨hu.1, hcommitted⟩

lemma validateInitialDocumentVersion_handles (version : Option EngineDocumentVersion) :
    Handles s (fun _ t => t = s) (validateInitialDocumentVersion version s) := by
  cases version with
  | none => exact blame_handles hs _
  | some version =>
    simp only [validateInitialDocumentVersion]
    split_ifs
    · exact blame_handles hs _
    · exact .pure hs rfl

lemma validateDocumentFrame_handles (frame : Option EngineFrameLease)
    (version : EngineDocumentVersion) (fault : EngineFault) :
    Handles s (fun _ t => t = s) (validateDocumentFrame frame version fault s) := by
  cases frame with
  | none => exact .pure hs rfl
  | some frame => exact (demand_handles hs _ _).imp fun _ _ ht => ht.1

lemma applyFrameEvent_handles (navigation : NavigationId) (lease : EnginePortFrameLeaseId)
    (descriptor : EngineFrameDescriptor) (documentVersion : Option EngineDocumentVersion) :
    Handles s (Settles s.views)
      (applyFrameEvent navigation lease descriptor documentVersion s) := by
  refine (tabForKnownNavigation_handles hs navigation _).bind fun found t ht => ?_
  rintro ⟨rfl, hlocated⟩
  cases found with
  | none =>
    refine (discardStaleFrame_handles ht _ _).bind fun _ u hu => ?_
    rintro ⟨engine, rfl⟩
    exact .pure hu ⟨trivial, rfl⟩
  | some tab =>
    obtain ⟨a, phase, ha, hcontext, -⟩ := hlocated
    refine (validateFramePublicationCandidate_handles ht ha hcontext).bind fun _ u hu => ?_
    rintro ⟨rfl, hcommitted⟩
    refine (validateInitialDocumentVersion_handles hu _).bind fun version v hv => ?_
    rintro rfl
    refine (takeCheckedFrame_handles hv _ _ _).bind fun frame w hw => ?_
    rintro ⟨⟨engine, rfl⟩, hframe⟩
    refine (validateDocumentFrame_handles hw _ _ _).bind fun _ x hx => ?_
    rintro rfl
    refine (projectFrame_handles hx ha frame descriptor).bind fun projected y hy => ?_
    rintro ⟨rfl, hstale, hprojected⟩
    refine (requireNavigationPhase_handles hy ha hcommitted (by decide) _ _).bind fun _ z hz => ?_
    rintro ⟨-, rfl⟩
    have hself := lookup_update_self ha (enterPhase navigation .ready)
    have hready : (enterPhase navigation .ready a).navigationPhases.lookup navigation =
        some .ready := Finmap.lookup_insert a.navigationPhases
    refine (retirePrior_handles hz hself hready version).bind ?_
    rintro _ p hp ⟨hviews, b, hb, hawaits⟩
    refine (settleFrame_handles hp hb hframe hstale (fun bytes hbytes => ?_) _ soft_id soft_id soft_id
      (by trivial)).bind ?_
    · exact Projected.later (hprojected bytes hbytes) ⟨hawaits.frame, hawaits.retained, hawaits.limits⟩
    · rintro outcome q hq ⟨⟨hsingle, hviews'⟩, c, hc⟩
      refine (bumpPrimaryUiForTab_handles hq hc).bind fun _ r hr hquiet => .pure hr ⟨hsingle, ?_⟩
      rw [hquiet, hviews', hviews]
      exact mapValues_update_of_eq fun _ _ => rfl

/-! ## Document events -/

lemma validateDocumentTransition_handles (ha : s.tabs.lookup tab = some a)
    (navigation : NavigationId) (live frame : EngineDocumentVersion) (fault : EngineFault) :
    Handles s (fun _ t => t = s) (validateDocumentTransition tab navigation live frame fault s) :=
  .look (getTab_eq ha) ((demand_handles hs _ _).imp fun _ _ ht => ht.1)

lemma validateUnchangedDocumentState_handles (ha : s.tabs.lookup tab = some a)
    (navigation : NavigationId) (live frame : Option EngineDocumentVersion) (fault : EngineFault) :
    Handles s (fun _ t => t = s)
      (validateUnchangedDocumentState tab navigation live frame fault s) := by
  cases live with
  | none => exact blame_handles hs fault
  | some live =>
    cases frame with
    | none => exact blame_handles hs fault
    | some frame =>
      simp only [validateUnchangedDocumentState]
      split_ifs
      · exact .look (getTab_eq ha) ((demand_handles hs _ _).imp fun _ _ ht => ht.1)
      · exact blame_handles hs fault

variable (navigation : NavigationId) (operation : DocumentOperationId)

lemma applyDocumentMutationRendered_handles
    (previousLiveVersion previousFrameVersion liveVersion : EngineDocumentVersion)
    (resultLease : EnginePortMutationLeaseId) (createdNodes : ℕ)
    (frameLease : EnginePortFrameLeaseId) (descriptor : EngineFrameDescriptor) :
    Handles s (Settles s.views)
      (applyDocumentMutationRendered navigation operation previousLiveVersion previousFrameVersion
        liveVersion resultLease createdNodes frameLease descriptor s) := by
  refine (tabForLiveDocumentEvent_handles hs navigation).bind fun found t ht => ?_
  rintro ⟨rfl, hfound⟩
  cases found with
  | none =>
    refine (discardStaleResult_handles ht _ _).bind fun _ u hu => ?_
    rintro ⟨engine, rfl⟩
    refine (discardStaleFrame_handles hu _ _).bind fun _ v hv => ?_
    rintro ⟨engine, rfl⟩
    exact .pure hv ⟨trivial, rfl⟩
  | some tab =>
    obtain ⟨a, ha, hlive⟩ := hfound tab rfl
    refine (validateDocumentTransition_handles ht ha _ _ _ _).bind fun _ u hu => ?_
    rintro rfl
    refine (demand_handles hu _ _).bind fun _ v hv => ?_
    rintro ⟨rfl, -⟩
    refine (transfer_handles hv _ _ _ _).bind fun result w hw => ?_
    rintro ⟨engine, rfl⟩
    cases result with
    | none =>
      refine (discardStaleFrame_handles hw _ _).bind fun _ x hx => ?_
      rintro ⟨engine, rfl⟩
      exact .pure hx ⟨trivial, rfl⟩
    | some result =>
      refine (demand_handles hw _ _).bind fun _ x hx => ?_
      rintro ⟨rfl, -⟩
      refine (takeCheckedFrame_handles hx _ _ _).bind fun frame y hy => ?_
      rintro ⟨⟨engine, rfl⟩, hframe⟩
      refine (validateDocumentFrame_handles hy _ _ _).bind fun _ z hz => ?_
      rintro rfl
      refine (projectFrame_handles hz ha frame descriptor).bind fun projected p hp => ?_
      rintro ⟨rfl, hstale, hprojected⟩
      refine (modifyTab_document hp ha ⟨navigation, liveVersion, liveVersion⟩ hlive ?_ ?_).bind ?_
      · exact fun _ => rfl
      · exact fun _ => rfl
      rintro _ q hq ⟨hviews, b, hb, hawaits⟩
      refine (settleFrame_handles hq hb hframe hstale
        (fun bytes hbytes => (hprojected bytes hbytes).later hawaits) _ ?_ ?_ ?_ (by trivial)).imp ?_
      · exact fun _ => ⟨rfl, rfl⟩
      · exact fun _ => ⟨rfl, rfl⟩
      · exact fun _ => ⟨rfl, rfl⟩
      · exact fun _ r hr => ⟨hr.1.1, hr.1.2.trans hviews⟩

lemma applyDocumentMutationCommittedWithoutFrame_handles
    (previousLiveVersion liveVersion frameVersion : EngineDocumentVersion)
    (resultLease : EnginePortMutationLeaseId) (createdNodes : ℕ)
    (failure : DocumentOperationFailure) :
    Handles s (Settles s.views)
      (applyDocumentMutationCommittedWithoutFrame navigation operation previousLiveVersion
        liveVersion frameVersion resultLease createdNodes failure s) := by
  refine (tabForLiveDocumentEvent_handles hs navigation).bind fun found t ht => ?_
  rintro ⟨rfl, hfound⟩
  cases found with
  | none =>
    refine (discardStaleResult_handles ht _ _).bind fun _ u hu => ?_
    rintro ⟨engine, rfl⟩
    exact .pure hu ⟨trivial, rfl⟩
  | some tab =>
    obtain ⟨a, ha, hlive⟩ := hfound tab rfl
    refine (validateDocumentTransition_handles ht ha _ _ _ _).bind fun _ u hu => ?_
    rintro rfl
    refine (demand_handles hu _ _).bind fun _ v hv => ?_
    rintro ⟨rfl, -⟩
    refine (transfer_handles hv _ _ _ _).bind fun result w hw => ?_
    rintro ⟨engine, rfl⟩
    cases result with
    | none => exact .pure hw ⟨trivial, rfl⟩
    | some result =>
      refine (demand_handles hw _ _).bind fun _ x hx => ?_
      rintro ⟨rfl, -⟩
      refine (modifyTab_document hx ha ⟨navigation, liveVersion, frameVersion⟩ hlive ?_ ?_).bind ?_
      · exact fun _ => rfl
      · exact fun _ => rfl
      · rintro _ y hy ⟨hviews, -⟩
        exact .pure hy ⟨trivial, hviews⟩

/-- An event that only leaves a note on the page it belongs to. -/
lemma note_handles (navigation : NavigationId) (live frame : Option EngineDocumentVersion)
    (fault : EngineFault) {f : TabState → TabState} (hf : Soft f) :
    Handles s (Settles s.views)
      ((do
        match ← tabForLiveDocumentEvent navigation with
        | none => Pure.pure .staleSuppressed
        | some tab => do
          validateUnchangedDocumentState tab navigation live frame fault
          modifyTab tab f
          Pure.pure .applied : SessionCall E EnginePumpOutcome) s) := by
  refine (tabForLiveDocumentEvent_handles hs navigation).bind fun found t ht => ?_
  rintro ⟨rfl, hfound⟩
  cases found with
  | none => exact .pure ht ⟨trivial, rfl⟩
  | some tab =>
    obtain ⟨a, ha, -⟩ := hfound tab rfl
    refine (validateUnchangedDocumentState_handles ht ha _ _ _ _).bind fun _ u hu => ?_
    rintro rfl
    exact (modifyTab_soft hu ha hf).bind fun _ v hv hviews => .pure hv ⟨trivial, hviews.1⟩

lemma applyDocumentRerenderedEvent_handles
    (liveVersion previousFrameVersion : EngineDocumentVersion) (lease : EnginePortFrameLeaseId)
    (descriptor : EngineFrameDescriptor) :
    Handles s (Settles s.views)
      (applyDocumentRerenderedEvent navigation operation liveVersion previousFrameVersion lease
        descriptor s) := by
  refine (tabForLiveDocumentEvent_handles hs navigation).bind fun found t ht => ?_
  rintro ⟨rfl, hfound⟩
  cases found with
  | none =>
    refine (discardStaleFrame_handles ht _ _).bind fun _ u hu => ?_
    rintro ⟨engine, rfl⟩
    exact .pure hu ⟨trivial, rfl⟩
  | some tab =>
    obtain ⟨a, ha, hlive⟩ := hfound tab rfl
    refine (validateDocumentTransition_handles ht ha _ _ _ _).bind fun _ u hu => ?_
    rintro rfl
    refine (takeCheckedFrame_handles hu _ _ _).bind fun frame v hv => ?_
    rintro ⟨⟨engine, rfl⟩, hframe⟩
    refine (validateDocumentFrame_handles hv _ _ _).bind fun _ w hw => ?_
    rintro rfl
    refine (projectFrame_handles hw ha frame descriptor).bind fun projected x hx => ?_
    rintro ⟨rfl, hstale, hprojected⟩
    refine (modifyTab_document hx ha ⟨navigation, liveVersion, liveVersion⟩ hlive ?_ ?_).bind ?_
    · exact fun _ => rfl
    · exact fun _ => rfl
    rintro _ y hy ⟨hviews, b, hb, hawaits⟩
    refine (settleFrame_handles hy hb hframe hstale
      (fun bytes hbytes => (hprojected bytes hbytes).later hawaits) _ ?_ ?_ ?_ (by trivial)).imp ?_
    · exact fun _ => ⟨rfl, rfl⟩
    · exact fun _ => ⟨rfl, rfl⟩
    · exact fun _ => ⟨rfl, rfl⟩
    · exact fun _ z hz => ⟨hz.1.1, hz.1.2.trans hviews⟩

end Engine

end BrowserSession

end WildBuzzard.Ui
