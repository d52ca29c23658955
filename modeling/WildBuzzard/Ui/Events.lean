import WildBuzzard.Ui.Commands

/-!
# Engine events of a browser session

One event is polled at a time, checked for its place in the sequence and applied. An event of a
navigation is applied only in the phase that the tab's ledger has for it; what an event refers to
(a commitment, a frame, a mutation result) is transferred from the engine and checked against it.

**An event that cannot be applied ends the session**: whatever error is left after an event was
taken from the queue becomes a failure in `pollEngineOnce`. The source also catches a panic there;
applying an event does not panic, so a panic is passed on here.
-/

namespace WildBuzzard.Ui

open Lib Engine

/-- Source: `EnginePumpOutcome` -/
inductive EnginePumpOutcome where
  | empty
  | applied
  | staleSuppressed
  | retiredContextSuppressed (navigation : NavigationId)
  | contextCloseAcknowledged (tab : BrowserTabId) (window : BrowserWindowId)
  | batch (processed : ℕ) (moreMayRemain : Bool)
  | frameSuppressedByResourceLimit (navigation : NavigationId)
  | mutationAppliedFrameSuppressed (navigation : NavigationId) (operation : DocumentOperationId)
  deriving DecidableEq, Repr

/-- Change the state of the first history entry with a navigation.
Source: `BrowserSession::set_history_state` -/
def setHistoryState (navigation : NavigationId) (state : HistoryEntryState) :
    List HistoryEntry → List HistoryEntry
  | [] => []
  | entry :: rest =>
    if entry.navigation = navigation then { entry with state := state } :: rest
    else entry :: setHistoryState navigation state rest

/-- Source: `BrowserSession::document_pair_is_valid` -/
def documentPairIsValid (live frame : EngineDocumentVersion) : Bool :=
  live.document ≠ 0 ∧ frame.document = live.document ∧ frame.revision ≤ live.revision

namespace BrowserSession

variable {E α : Type} [EnginePort E] [UrlParser]

/-- Fail because the engine broke its contract. -/
def blame (fault : EngineFault) : SessionCall E α := fail (.engineContract (.engine fault))

/-- Go on if the condition holds, blame the engine otherwise. -/
def demand (c : Prop) [Decidable c] (fault : EngineFault) : SessionCall E Unit :=
  if c then pure () else blame fault

/-! ## Checks -/

/-- Source: `BrowserSession::validate_engine_sequence` -/
def validateEngineSequence (event : EnginePortEvent) : SessionCall E Unit := do
  let s ← Call.read
  let received := event.sequence.id.get
  match s.lastEngineSequence.elim (some 1) fun previous => checkedAdd previous 1 with
  | none => blame .sequenceExhausted
  | some expected =>
    if received ≠ expected then fail (.engineEventSequence expected received)
    else Call.modify fun s => { s with lastEngineSequence := some received }

variable (tab : BrowserTabId) (frame : Option EngineFrameLease) (navigation : NavigationId)
  (operation : DocumentOperationId)

/-- Source: `BrowserSession::validate_document_transition` -/
def validateDocumentTransition
    (liveVersion frameVersion : EngineDocumentVersion) (fault : EngineFault) :
    SessionCall E Unit := do
  let state ← getTab tab
  demand (state.engineDocument = some ⟨navigation, liveVersion, frameVersion⟩ ∧
    documentPairIsValid liveVersion frameVersion) fault

/-- Source: `BrowserSession::validate_mutation_advance` -/
def validateMutationAdvance (previous live : EngineDocumentVersion) (fault : EngineFault) :
    SessionCall E Unit :=
  demand (previous.document ≠ 0 ∧ live.document = previous.document ∧
    checkedAdd previous.revision 1 = some live.revision) fault

/-- Source: `BrowserSession::validate_initial_document_version` -/
def validateInitialDocumentVersion (version : Option EngineDocumentVersion) :
    SessionCall E EngineDocumentVersion :=
  match version with
  | none => blame .initialOmitted
  | some version => if version.document = 0 then blame .initialZero else pure version

/-- Source: `BrowserSession::validate_unchanged_document_state` -/
def validateUnchangedDocumentState
    (liveVersion frameVersion : Option EngineDocumentVersion) (fault : EngineFault) :
    SessionCall E Unit :=
  match liveVersion, frameVersion with
  | some live, some frame =>
    if documentPairIsValid live frame then do
      let state ← getTab tab
      demand (state.engineDocument = some ⟨navigation, live, frame⟩) fault
    else blame fault
  | _, _ => blame fault

/-- Source: `BrowserSession::validate_mutation_result` -/
def validateMutationResult (result : EngineMutationResultLease) (navigation : NavigationId)
    (lease : EnginePortMutationLeaseId) (operation : DocumentOperationId)
    (liveVersion : EngineDocumentVersion) (createdNodes : ℕ) (fault : EngineFault) :
    SessionCall E Unit :=
  demand (result.navigation = navigation ∧ result.lease = lease ∧ result.operation = operation ∧
    result.liveVersion = liveVersion ∧ result.createdNodes = createdNodes) fault

/-- Check the version of a frame, if there is one.
Source: `BrowserSession::validate_document_frame` -/
def validateDocumentFrame (liveVersion : EngineDocumentVersion)
    (fault : EngineFault) : SessionCall E Unit :=
  match frame with
  | none => pure ()
  | some frame =>
    demand (liveVersion.document ≠ 0 ∧ frame.documentVersion = some liveVersion) fault

/-- Source: `BrowserSession::context_identity_was_allocated` -/
def contextIdentityWasAllocated (s : BrowserSession E) (context : TopLevelContextId) : Bool :=
  s.nextContext.all fun next => context.get < next

/-- Source: `BrowserSession::tab_for_known_navigation` -/
def tabForKnownNavigation (fault : EngineFault) : SessionCall E (Option BrowserTabId) := do
  let s ← Call.read
  match s.contexts.lookup navigation.context with
  | none =>
    if navigation.context ∈ s.closingContexts ∨ s.contextIdentityWasAllocated navigation.context
    then pure none
    else blame fault
  | some tab => do
    let state ← getTab tab
    if navigation ∈ state.navigationPhases then pure (some tab) else blame fault

/-- Source: `BrowserSession::tab_for_live_document_event` -/
def tabForLiveDocumentEvent : SessionCall E (Option BrowserTabId) := do
  match ← tabForKnownNavigation navigation .documentUnknown with
  | none => pure none
  | some tab => do
    let state ← getTab tab
    demand (state.liveNavigation = some navigation) .documentNotLive
    demand (state.navigationPhases.lookup navigation = some .ready) .documentNotReady
    pure (some tab)

/-- A tab with a navigation in its next phase. -/
def enterPhase (next : NavigationPhase) (state : TabState) : TabState :=
  { state with navigationPhases := state.navigationPhases.insert navigation next }

/-- Source: `BrowserSession::require_navigation_phase` -/
def requireNavigationPhase
    (allowed : List NavigationPhase) (next : NavigationPhase) (fault : EngineFault) :
    SessionCall E Unit := do
  let state ← getTab tab
  let phase ← okOr (state.navigationPhases.lookup navigation) (.bookkeeping (.phaseMissing fault))
  demand (phase ∈ allowed) fault
  modifyTab tab (enterPhase navigation next)

/-! ## Transfers from the engine -/

/-- What a transfer returned; nothing if its lease is stale. -/
def settleTransfer (operation : String) (stale : EnginePortError) :
    PortAnswer α → SessionCall E (Option α)
  | .panicked => fail (.enginePanicked operation)
  | .returned (.ok value) => pure (some value)
  | .returned (.error error) =>
    if error = stale then pure none else some <$> resolveEngineResult (.error error)

/-- Transfer from the engine what may be stale.
Source: the shared part of `take_checked_frame`, `take_checked_mutation_result`,
`discard_stale_frame` and `discard_stale_result` -/
def transfer (missing : InternalFault) (operation : String) (stale : EnginePortError)
    (call : E → PortAnswer α × E) : SessionCall E (Option α) := do
  let answer ← onEngine missing call
  settleTransfer operation stale answer

/-- Source: `BrowserSession::take_checked_frame` -/
def takeCheckedFrame (lease : EnginePortFrameLeaseId)
    (descriptor : EngineFrameDescriptor) : SessionCall E (Option EngineFrameLease) := do
  match ← transfer .frameTransferLostEngine "take frame" (.frameLease .stale)
      (EnginePort.takeFrame navigation lease) with
  | none => pure none
  | some frame => do
    demand (frame.navigation = navigation ∧ frame.lease = lease ∧ frame.descriptor = descriptor)
      .transferredFrame
    pure (some frame)

/-- Source: `BrowserSession::take_checked_mutation_result` -/
def takeCheckedMutationResult (lease : EnginePortMutationLeaseId) :
    SessionCall E (Option EngineMutationResultLease) :=
  transfer .resultTransferLostEngine "take mutation result" (.mutationLease .stale)
    (EnginePort.takeMutationResult navigation lease)

/-- Source: `BrowserSession::discard_stale_frame` -/
def discardStaleFrame (lease : EnginePortFrameLeaseId) : SessionCall E Unit := do
  let _ ← transfer .frameDrainLostEngine "discard stale frame" (.frameLease .stale)
    (EnginePort.discardFrame navigation lease)
  pure ()

/-- Source: `BrowserSession::discard_stale_result` -/
def discardStaleResult (lease : EnginePortMutationLeaseId) : SessionCall E Unit := do
  let _ ← transfer .resultDrainLostEngine "discard stale mutation result" (.mutationLease .stale)
    (EnginePort.discardMutationResult navigation lease)
  pure ()

/-! ## Retained frames -/

/-- Source: `BrowserSession::preflight_frame_install` -/
def preflightFrameInstall (descriptor : EngineFrameDescriptor) : SessionCall E (Option ℕ) := do
  let state ← getTab tab
  let s ← Call.read
  let projected ← orFail
    ((checkedSub s.retainedFrameBytes state.frameBytes).bind fun bytes =>
      checkedAdd bytes descriptor.retainedChargeBytes)
    .preflightOverflow
  pure (if s.limits.maxTotalFrameBytes < projected then none else some projected)

/-- The projection for a frame that was transferred, none for a stale one. -/
def projectFrame (descriptor : EngineFrameDescriptor) : SessionCall E (Option ℕ) :=
  match frame with
  | none => pure none
  | some _ => preflightFrameInstall tab descriptor

/-- Source: `BrowserSession::suppress_retained_frame` -/
def suppressRetainedFrame : SessionCall E Unit := do
  let state ← getTab tab
  let s ← Call.read
  let retainedAfter ← orFail (checkedSub s.retainedFrameBytes state.frameBytes)
    .suppressionUnderflow
  Call.modify fun s =>
    { s with
      tabs := s.tabs.update tab fun state => { state with frame := none }
      retainedFrameBytes := retainedAfter }

/-- Install a frame with its projected bytes, drop a frame that has no projection, or drop what is
retained for a stale one.
Source: the `match (frame, projected_frame_bytes)` of the events that carry a frame -/
def settleFrame (projected : Option ℕ)
    (staleProjection : InternalFault) (installed dropped stale : TabState → TabState)
    (suppressed : EnginePumpOutcome) : SessionCall E EnginePumpOutcome :=
  match frame, projected with
  | some frame, some bytes => do
    let _ ← getTab tab
    Call.modify fun s =>
      { s with
        tabs := s.tabs.update tab fun state => installed { state with frame := some frame }
        retainedFrameBytes := bytes }
    pure .applied
  | some _, none => do
    suppressRetainedFrame tab
    modifyTab tab dropped
    pure suppressed
  | none, none => do
    suppressRetainedFrame tab
    modifyTab tab stale
    pure .staleSuppressed
  | none, some _ => fail (.engineContract (.internal staleProjection))

/-! ## Navigation events -/

/-- The tab stops loading a navigation that ended. -/
def endLoading (state : TabState) : TabState :=
  if state.loading = some navigation then { state with loading := none, stopRequested := false }
  else state

/-- A tab with the state of a history entry changed. -/
def labelHistory (label : HistoryEntryState) (state : TabState) : TabState :=
  { state with history := setHistoryState navigation label state.history }

/-- Source: the `NavigationStarted` arm of `apply_engine_event` -/
def applyNavigationStarted : SessionCall E EnginePumpOutcome := do
  match ← tabForKnownNavigation navigation .startUnknown with
  | none => pure .staleSuppressed
  | some tab => do
    requireNavigationPhase tab navigation [.requested] .started .startOrder
    modifyTab tab (labelHistory navigation .loading)
    pure .applied

/-- A navigation that ended without a page.
Source: the `NavigationCancelled` and `NavigationFailed` arms of `apply_engine_event` -/
def applyNavigationEnded (unknown : EngineFault)
    (allowed : List NavigationPhase) (next : NavigationPhase) (order : EngineFault)
    (label : HistoryEntryState) : SessionCall E EnginePumpOutcome := do
  match ← tabForKnownNavigation navigation unknown with
  | none => pure .staleSuppressed
  | some tab => do
    requireNavigationPhase tab navigation allowed next order
    modifyTab tab fun state => labelHistory navigation label (endLoading navigation state)
    let _ ← bumpPrimaryUiForTab tab
    pure .applied

/-- Source: the `NavigationCancelled` arm of `apply_engine_event` -/
def applyNavigationCancelled : SessionCall E EnginePumpOutcome :=
  applyNavigationEnded navigation .cancelUnknown [.requested, .started] .cancelled .cancelOrder
    .cancelled

/-- Source: the `NavigationFailed` arm of `apply_engine_event` -/
def applyNavigationFailed (failure : ExecutionFailure) : SessionCall E EnginePumpOutcome :=
  applyNavigationEnded navigation .failureUnknown [.started] .failed .failureOrder (.failed failure)

/-- Source: `BrowserSession::resolve_navigation_commit` -/
def resolveNavigationCommit
    (commitment : Option NavigationCommitMetadata) : SessionCall E NavigationCommitMetadata := do
  match commitment with
  | some commitment => pure commitment
  | none => do
    let s ← Call.read
    if s.navigationMode ≠ .numericLoopback then blame .generalWebOmitted
    else
      match (s.tabs.lookup tab).bind fun state =>
          state.history.find? fun entry => entry.navigation = navigation with
      | none => blame .loopbackOmitted
      | some entry =>
        match NavigationCommitMetadata.new entry.address 0 .cleartext false with
        | .ok commitment => pure commitment
        | .error _ => Call.fail (.bookkeeping .loopbackCommitBound)

/-- A history entry that was committed. -/
def commitEntry (httpStatus : ℕ) (commitment : NavigationCommitMetadata) (entry : HistoryEntry) :
    HistoryEntry :=
  { entry with
    address := commitment.finalUrl
    state := .committed httpStatus
    commit := some
      ⟨commitment.security, commitment.redirectCount, commitment.hadHttpsDowngrade⟩ }

/-- A tab with a history entry committed; the visible address follows if the entry is current and
the draft is not being edited.
Source: the changes of `state` in `apply_navigation_commit` -/
def commitHistory (index httpStatus : ℕ) (commitment : NavigationCommitMetadata)
    (state : TabState) : TabState :=
  { state with
    history := state.history.modify index (commitEntry httpStatus commitment)
    address :=
      if state.historyIndex = some index ∧ ¬state.address.dirty ∧ state.address.preedit.isNone then
        state.address.acceptNavigationValue commitment.finalUrl
      else state.address }

/-- The history entries of a navigation, with their places. -/
def entriesOf (history : List HistoryEntry) : List (ℕ × HistoryEntry) :=
  (history.zipIdx.map fun p => (p.2, p.1)).filter fun p => p.2.navigation = navigation

/-- Source: `BrowserSession::apply_navigation_commit` -/
def applyNavigationCommit (httpStatus : ℕ)
    (commitment : NavigationCommitMetadata) : SessionCall E Unit := do
  let s ← Call.read
  demand (s.navigationMode = .generalWeb → commitment.validateGeneralWeb = .ok ()) .commitInvalid
  demand (commitment.finalUrl ≠ [] ∧ byteLen commitment.finalUrl ≤ s.limits.maxAddressBytes)
    .finalUrlAddressBound
  let state ← getTab tab
  match entriesOf navigation state.history with
  | [] => pure ()
  | _ :: _ :: _ => fail (.engineContract (.internal .commitDuplicateIdentities))
  | [(index, entry)] => do
    let resultingBytes ← orFail
      ((checkedSub s.historyBytes (byteLen entry.address)).bind fun bytes =>
        checkedAdd bytes (byteLen commitment.finalUrl))
      .commitAccounting
    demand (resultingBytes ≤ s.limits.maxTotalHistoryBytes) .finalUrlHistoryPolicy
    let state ← getTab tab
    let entry ← okOr state.history[index]? (.bookkeeping .commitLostSlot)
    Call.check (entry.navigation = navigation) (.bookkeeping .commitIdentityChanged)
    Call.modify fun s =>
      { s with
        tabs := s.tabs.update tab (commitHistory index httpStatus commitment)
        historyBytes := resultingBytes }

/-- Source: the `NavigationCommitted` arm of `apply_engine_event` -/
def applyNavigationCommitted (httpStatus : ℕ) : SessionCall E EnginePumpOutcome := do
  demand (200 ≤ httpStatus ∧ httpStatus ≤ 299) .commitStatus
  let commitment ← callEngine "take navigation commitment"
    (EnginePort.takeNavigationCommit navigation)
  match ← tabForKnownNavigation navigation .commitUnknown with
  | none => pure .staleSuppressed
  | some tab => do
    let commitment ← resolveNavigationCommit tab navigation commitment
    requireNavigationPhase tab navigation [.started] .committed .commitOrder
    applyNavigationCommit tab navigation httpStatus commitment
    let _ ← bumpPrimaryUiForTab tab
    pure .applied

/-! ## Frame publication -/

/-- Source: `BrowserSession::validate_frame_publication_candidate` -/
def validateFramePublicationCandidate : SessionCall E Unit := do
  let state ← getTab tab
  demand (state.navigationPhases.lookup navigation = some .committed) .frameOrder
  match state.liveNavigation with
  | none => pure ()
  | some live =>
    if live.context ≠ navigation.context ∨ state.navigationPhases.lookup live ≠ some .ready then
      fail (.engineContract (.internal .liveLostReadyEntry))
    else demand (live.generation.get < navigation.generation.get) .frameRollback

/-- A tab whose page is now that of a navigation.
Source: the block of `apply_frame_event` that computes `retired_prior` -/
def publishPage (version : EngineDocumentVersion) (state : TabState) : TabState :=
  endLoading navigation
    { state with
      liveNavigation := some navigation
      navigationPhases :=
        match state.liveNavigation with
        | some prior =>
          if prior ≠ navigation then state.navigationPhases.erase prior
          else state.navigationPhases
        | none => state.navigationPhases
      mutationResult := none
      engineDocument := some ⟨navigation, version, version⟩
      lastDocumentFailure := none }

/-- Retire the ledger entry of the page that is replaced.
Source: `retired_prior` of `apply_frame_event` -/
def retirePrior (version : EngineDocumentVersion) : SessionCall E Unit := do
  let state ← getTab tab
  let s ← Call.read
  match state.liveNavigation.filter fun prior => prior ≠ navigation with
  | none => modifyTab tab (publishPage navigation version)
  | some prior => do
    Call.check (state.navigationPhases.lookup prior = some .ready)
      (.bookkeeping .priorReadyNotRetired)
    let entries ← okOr (checkedSub s.navigationLedgerEntries 1)
      (.bookkeeping .publicationLedgerUnderflow)
    Call.modify fun s =>
      { s with
        tabs := s.tabs.update tab (publishPage navigation version)
        navigationLedgerEntries := entries }

/-- Source: `BrowserSession::apply_frame_event` -/
def applyFrameEvent (lease : EnginePortFrameLeaseId)
    (descriptor : EngineFrameDescriptor) (documentVersion : Option EngineDocumentVersion) :
    SessionCall E EnginePumpOutcome := do
  match ← tabForKnownNavigation navigation .frameUnknown with
  | none => do
    discardStaleFrame navigation lease
    pure .staleSuppressed
  | some tab => do
    validateFramePublicationCandidate tab navigation
    let version ← validateInitialDocumentVersion documentVersion
    let frame ← takeCheckedFrame navigation lease descriptor
    validateDocumentFrame frame version .initialFrame
    let projected ← projectFrame tab frame descriptor
    requireNavigationPhase tab navigation [.committed] .ready .frameDidNotComplete
    retirePrior tab navigation version
    let outcome ← settleFrame tab frame projected .staleInitialProjection id id id
      (.frameSuppressedByResourceLimit navigation)
    let _ ← bumpPrimaryUiForTab tab
    pure outcome

/-! ## Document events -/

/-- Source: the `DocumentMutationRendered` arm of `apply_engine_event` -/
def applyDocumentMutationRendered
    (previousLiveVersion previousFrameVersion liveVersion : EngineDocumentVersion)
    (resultLease : EnginePortMutationLeaseId) (createdNodes : ℕ)
    (frameLease : EnginePortFrameLeaseId) (descriptor : EngineFrameDescriptor) :
    SessionCall E EnginePumpOutcome := do
  match ← tabForLiveDocumentEvent navigation with
  | none => do
    discardStaleResult navigation resultLease
    discardStaleFrame navigation frameLease
    pure .staleSuppressed
  | some tab => do
    validateDocumentTransition tab navigation previousLiveVersion previousFrameVersion
      .renderedTransition
    validateMutationAdvance previousLiveVersion liveVersion .renderedAdvance
    match ← takeCheckedMutationResult navigation resultLease with
    | none => do
      discardStaleFrame navigation frameLease
      pure .staleSuppressed
    | some result => do
      validateMutationResult result navigation resultLease operation liveVersion createdNodes
        .renderedResult
      let frame ← takeCheckedFrame navigation frameLease descriptor
      validateDocumentFrame frame liveVersion .renderedFrame
      let projected ← projectFrame tab frame descriptor
      modifyTab tab fun state =>
        { state with
          mutationResult := some result
          engineDocument := some ⟨navigation, liveVersion, liveVersion⟩ }
      settleFrame tab frame projected .staleMutationProjection
        (fun state => { state with lastDocumentFailure := none })
        (fun state => { state with lastDocumentFailure := some .resourceLimit })
        (fun state => { state with lastDocumentFailure := none })
        (.mutationAppliedFrameSuppressed navigation operation)

/-- Source: the `DocumentMutationCommittedWithoutFrame` arm of `apply_engine_event` -/
def applyDocumentMutationCommittedWithoutFrame
    (previousLiveVersion liveVersion frameVersion : EngineDocumentVersion)
    (resultLease : EnginePortMutationLeaseId) (createdNodes : ℕ)
    (failure : DocumentOperationFailure) : SessionCall E EnginePumpOutcome := do
  match ← tabForLiveDocumentEvent navigation with
  | none => do
    discardStaleResult navigation resultLease
    pure .staleSuppressed
  | some tab => do
    validateDocumentTransition tab navigation previousLiveVersion frameVersion .noFrameTransition
    validateMutationAdvance previousLiveVersion liveVersion .noFrameAdvance
    match ← takeCheckedMutationResult navigation resultLease with
    | none => pure .staleSuppressed
    | some result => do
      validateMutationResult result navigation resultLease operation liveVersion createdNodes
        .noFrameResult
      modifyTab tab fun state =>
        { state with
          mutationResult := some result
          engineDocument := some ⟨navigation, liveVersion, frameVersion⟩
          lastDocumentFailure := some failure }
      pure .applied

/-- Source: the `DocumentMutationRejected` arm of `apply_engine_event` -/
def applyDocumentMutationRejected (liveVersion frameVersion : Option EngineDocumentVersion)
    (failure : DocumentOperationFailure) : SessionCall E EnginePumpOutcome := do
  match ← tabForLiveDocumentEvent navigation with
  | none => pure .staleSuppressed
  | some tab => do
    validateUnchangedDocumentState tab navigation liveVersion frameVersion .rejectedMutation
    modifyTab tab fun state => { state with lastDocumentFailure := some failure }
    pure .applied

/-- The end of a rerender, as a tab remembers it. -/
def rerenderEnded (failure : Option DocumentOperationFailure) (state : TabState) : TabState :=
  { state with
    lastDocumentFailure := failure
    lastPresentationRerender := some ⟨operation, failure⟩ }

/-- Source: `BrowserSession::apply_document_rerendered_event` -/
def applyDocumentRerenderedEvent
    (liveVersion previousFrameVersion : EngineDocumentVersion) (lease : EnginePortFrameLeaseId)
    (descriptor : EngineFrameDescriptor) : SessionCall E EnginePumpOutcome := do
  match ← tabForLiveDocumentEvent navigation with
  | none => do
    discardStaleFrame navigation lease
    pure .staleSuppressed
  | some tab => do
    validateDocumentTransition tab navigation liveVersion previousFrameVersion
      .rerenderTransition
    let frame ← takeCheckedFrame navigation lease descriptor
    validateDocumentFrame frame liveVersion .rerenderFrame
    let projected ← projectFrame tab frame descriptor
    modifyTab tab fun state =>
      { state with engineDocument := some ⟨navigation, liveVersion, liveVersion⟩ }
    settleFrame tab frame projected .staleRerenderProjection (rerenderEnded operation none)
      (rerenderEnded operation (some .resourceLimit)) (rerenderEnded operation none)
      (.frameSuppressedByResourceLimit navigation)

/-- Source: the `DocumentRerenderRejected` arm of `apply_engine_event` -/
def applyDocumentRerenderRejected (liveVersion frameVersion : Option EngineDocumentVersion)
    (failure : DocumentOperationFailure) : SessionCall E EnginePumpOutcome := do
  match ← tabForLiveDocumentEvent navigation with
  | none => pure .staleSuppressed
  | some tab => do
    validateUnchangedDocumentState tab navigation liveVersion frameVersion .rejectedRerender
    modifyTab tab (rerenderEnded operation (some failure))
    pure .applied

/-- Source: the `ContextClosed` arm of `apply_engine_event` -/
def applyContextClosed : SessionCall E EnginePumpOutcome := do
  let s ← Call.read
  match s.closingContexts.lookup navigation.context with
  | some closing => do
    demand (closing.navigation = navigation) .closeGeneration
    Call.modify fun s =>
      { s with closingContexts := s.closingContexts.erase navigation.context }
    pure (.contextCloseAcknowledged closing.tab closing.window)
  | none =>
    if navigation.context ∈ s.contexts then blame .closeLiveContext
    else if s.contextIdentityWasAllocated navigation.context then
      pure (.retiredContextSuppressed navigation)
    else blame .closeForeignContext

/-! ## Polling -/

/-- Source: `BrowserSession::apply_engine_event` -/
def applyEngineEvent (event : EnginePortEventKind) : SessionCall E EnginePumpOutcome :=
  match event with
  | .navigationStarted navigation => applyNavigationStarted navigation
  | .navigationCommitted navigation httpStatus => applyNavigationCommitted navigation httpStatus
  | .frameReady navigation lease descriptor documentVersion =>
    applyFrameEvent navigation lease descriptor documentVersion
  | .navigationCancelled navigation => applyNavigationCancelled navigation
  | .navigationFailed navigation failure => applyNavigationFailed navigation failure
  | .documentMutationRendered navigation operation previousLive previousFrame live result created
      frame descriptor =>
      applyDocumentMutationRendered navigation operation previousLive previousFrame live result
        created frame descriptor
  | .documentMutationCommittedWithoutFrame navigation operation previousLive live frame result
      created failure =>
      applyDocumentMutationCommittedWithoutFrame navigation operation previousLive live frame
        result created failure
  | .documentMutationRejected navigation _ live frame failure =>
    applyDocumentMutationRejected navigation live frame failure
  | .documentRerendered navigation operation live previousFrame frame descriptor =>
    applyDocumentRerenderedEvent navigation operation live previousFrame frame descriptor
  | .documentRerenderRejected navigation operation live frame failure =>
    applyDocumentRerenderRejected navigation operation live frame failure
  | .contextClosed navigation => applyContextClosed navigation
  | .shutdownComplete status => fail (.engineStopped status)

/-- Who is to blame for an event that was not applied. -/
def notApplied : SessionError → ContractFault
  | .engine _ => .engine .eventNotApplied
  | _ => .internal .eventNotApplied

/-- Source: `BrowserSession::poll_engine_once` -/
def pollEngineOnce : SessionCall E EnginePumpOutcome := do
  ensureRunning
  match ← callEngine "poll event" EnginePort.pollEvent with
  | none => pure .empty
  | some event => do
    validateEngineSequence event
    let answer ← Call.settle Except.ok Except.error (applyEngineEvent event.kind)
    match answer with
    | .ok outcome => pure outcome
    | .error error => do
      let s ← Call.read
      if s.lifecycle ≠ .running then Call.fail error
      else fail (.engineContract (notApplied error))

/-- Poll up to `remaining` events.
Source: the loop of `pump_engine` -/
def pumpEvents : ℕ → ℕ → SessionCall E EnginePumpOutcome
  | 0, processed => pure (.batch processed true)
  | remaining + 1, processed => do
    match ← pollEngineOnce with
    | .empty => pure (.batch processed false)
    | .batch _ _ => fail (.engineContract (.internal .pollReturnedBatch))
    | _ => pumpEvents remaining (processed + 1)

/-- Source: `BrowserSession::pump_engine` -/
def pumpEngine (maximum : ℕ) : SessionCall E EnginePumpOutcome := do
  ensureRunning
  let s ← Call.read
  pumpEvents (min maximum s.limits.maxEngineEventsPerPump) 0

end BrowserSession

end WildBuzzard.Ui
