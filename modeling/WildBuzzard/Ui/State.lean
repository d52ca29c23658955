import WildBuzzard.Lib.Table
import WildBuzzard.Ui.Address
import WildBuzzard.Ui.Port
import WildBuzzard.Ui.PrimaryUi

/-!
# The state of a browser session

Windows, tabs, histories and the accounts kept over them. The fields are the source's; a tab and a
window are split in two by `extends`: the record the accounts and cross references are about, and
the rest, which many operations change and no account reads.

A failure the session raises on its own says what went wrong. Whether it blames the engine or the
session's own bookkeeping is the difference between `EngineFault` and `InternalFault`; a constructor
stands for the text the source gives it. **What a port reports itself stays apart**
(`ContractFault.port`), so that an engine cannot pass off a failure as one of the session's own. One
text of the source stands for both: an event that was taken and not applied (`eventNotApplied`) is
the engine's fault if a transfer was refused, and the session's own otherwise.

Fallible reservations of memory are answered from the script `reservations`; a reservation without
an answer succeeds.
-/

namespace WildBuzzard.Ui

open Lib Engine

/-! ## Limits -/

/-- Source: `MAX_NAVIGATION_LEDGER_ENTRIES` -/
def maxNavigationLedgerEntries : ℕ := 4096

/-- The hard ceilings and the consistency checks of `SessionLimits::new`. -/
structure SessionLimits where
  maxWindows : ℕ
  maxTabsPerWindow : ℕ
  maxTotalTabs : ℕ
  maxClosingContexts : ℕ
  maxHistoryEntries : ℕ
  maxTotalHistoryBytes : ℕ
  maxTotalFrameBytes : ℕ
  maxAddressBytes : ℕ
  maxEngineEventsPerPump : ℕ
  windows : 0 < maxWindows ∧ maxWindows ≤ 64
  tabsPerWindow : 0 < maxTabsPerWindow ∧ maxTabsPerWindow ≤ 1024
  totalTabs : 0 < maxTotalTabs ∧ maxTotalTabs ≤ 4096
  closingContexts : 0 < maxClosingContexts ∧ maxClosingContexts ≤ 4096
  historyEntries : 0 < maxHistoryEntries ∧ maxHistoryEntries ≤ 4096
  totalHistoryBytes : 0 < maxTotalHistoryBytes ∧ maxTotalHistoryBytes ≤ 256 * 1024 * 1024
  totalFrameBytes : 0 < maxTotalFrameBytes ∧ maxTotalFrameBytes ≤ 1024 * 1024 * 1024
  addressBytes : 0 < maxAddressBytes ∧ maxAddressBytes ≤ maxNavigationUrlBytes
  engineEventsPerPump : 0 < maxEngineEventsPerPump ∧ maxEngineEventsPerPump ≤ 4096
  tabs_le : maxTabsPerWindow ≤ maxTotalTabs
  closing_le : maxClosingContexts ≤ maxTotalTabs
  deriving DecidableEq, Repr

/-- Source: `BrowserNavigationMode` -/
inductive BrowserNavigationMode where
  | numericLoopback
  | generalWeb
  deriving DecidableEq, Repr

/-- Source: `BrowserNavigationMode::request` -/
def BrowserNavigationMode.request (mode : BrowserNavigationMode) (address : List Char) :
    Except NavigationRequestError NavigationRequest :=
  match mode with
  | .numericLoopback => NavigationRequest.new address
  | .generalWeb => NavigationRequest.generalWeb address

/-! ## Tabs -/

/-- Source: `HistoryEntryState` -/
inductive HistoryEntryState where
  | requested
  | loading
  | committed (httpStatus : ℕ)
  | cancelled
  | failed (failure : ExecutionFailure)
  deriving DecidableEq, Repr

/-- Source: `HistoryCommitState` -/
structure HistoryCommitState where
  connectionSecurity : NavigationConnectionSecurity
  redirectCount : ℕ
  hadHttpsDowngrade : Bool
  deriving DecidableEq, Repr

/-- Source: `NavigationPhase` -/
inductive NavigationPhase where
  | requested
  | started
  | committed
  | ready
  | cancelled
  | failed
  deriving DecidableEq, Repr

/-- Source: `NavigationPhase::is_terminal` -/
def NavigationPhase.isTerminal : NavigationPhase → Bool
  | .ready => true
  | .cancelled => true
  | .failed => true
  | .requested => false
  | .started => false
  | .committed => false

/-- Source: `HistoryEntry` -/
structure HistoryEntry where
  address : List Char
  navigation : NavigationId
  state : HistoryEntryState
  commit : Option HistoryCommitState
  deriving DecidableEq, Repr

/-- Source: `TabFocus` -/
inductive TabFocus where
  | content
  | address
  deriving DecidableEq, Repr

/-- Source: `EngineDocumentState` -/
structure EngineDocumentState where
  navigation : NavigationId
  liveVersion : EngineDocumentVersion
  frameVersion : EngineDocumentVersion
  deriving DecidableEq, Repr

/-- Source: `PresentationRerenderTerminal` -/
structure PresentationRerenderTerminal where
  operation : DocumentOperationId
  failure : Option DocumentOperationFailure
  deriving DecidableEq, Repr

/-- The fields of a tab that the session's accounts and references are about.
Source: `TabState` -/
structure TabRecord where
  id : BrowserTabId
  window : BrowserWindowId
  context : TopLevelContextId
  history : List HistoryEntry
  historyIndex : Option ℕ
  latestNavigation : Option NavigationId
  navigationPhases : Table NavigationId NavigationPhase
  liveNavigation : Option NavigationId
  frame : Option EngineFrameLease
  engineDocument : Option EngineDocumentState

/-- Source: `TabState` -/
structure TabState extends TabRecord where
  address : AddressEditState
  focus : TabFocus
  loading : Option NavigationId
  stopRequested : Bool
  mutationResult : Option EngineMutationResultLease
  lastDocumentFailure : Option DocumentOperationFailure
  lastPresentationRerender : Option PresentationRerenderTerminal

/-- The bytes of the retained addresses. -/
def TabRecord.historyBytes (tab : TabRecord) : ℕ := (tab.history.map fun e => byteLen e.address).sum

/-- The charge of the retained frame. -/
def TabRecord.frameBytes (tab : TabRecord) : ℕ :=
  tab.frame.elim 0 fun frame => frame.descriptor.retainedChargeBytes

/-- The entries of the phase ledger. -/
def TabRecord.ledgerEntries (tab : TabRecord) : ℕ := tab.navigationPhases.size

/-- A tab that has not navigated.
Source: the two `TabState` literals of `open_window_internal` and `open_tab` -/
def TabState.blank (tab : BrowserTabId) (window : BrowserWindowId) (context : TopLevelContextId)
    (maxAddressBytes : ℕ) : TabState where
  id := tab
  window := window
  context := context
  history := []
  historyIndex := none
  latestNavigation := none
  navigationPhases := ∅
  liveNavigation := none
  frame := none
  engineDocument := none
  address := .empty maxAddressBytes
  focus := .address
  loading := none
  stopRequested := false
  mutationResult := none
  lastDocumentFailure := none
  lastPresentationRerender := none

/-! ## Windows -/

/-- Source: `SurfaceId` -/
structure SurfaceId where
  raw : ℕ
  deriving DecidableEq, Repr

/-- Source: `NativeWindowState` -/
inductive NativeWindowState where
  | starting
  | running
  | suspended
  | destroyed
  deriving DecidableEq, Repr

/-- The fields of a window that the session's references are about.
Source: `WindowState` -/
structure WindowRecord where
  id : BrowserWindowId
  tabs : List BrowserTabId
  active : BrowserTabId
  nativeState : NativeWindowState
  surface : Option SurfaceId
  deriving DecidableEq

/-- Source: `WindowState` -/
structure WindowState extends WindowRecord where
  nativeFocused : Bool
  lastInputSequence : Option ℕ
  primaryUi : PrimaryUiWindowState
  deriving DecidableEq

/-- A window with its primary user interface changed. -/
def WindowState.mapUi (f : PrimaryUiWindowState → PrimaryUiWindowState) (window : WindowState) :
    WindowState :=
  { window with primaryUi := f window.primaryUi }

/-- Source: `ClosingContext` -/
structure ClosingContext where
  navigation : NavigationId
  tab : BrowserTabId
  window : BrowserWindowId
  deriving DecidableEq, Repr

/-! ## Failures -/

/-- Violations of the engine's contract that the session detects. -/
inductive EngineFault where
  | partialWindowClose
  | eventNotApplied
  | foreignNavigation
  | sequenceExhausted
  | startUnknown
  | startOrder
  | commitStatus
  | commitUnknown
  | commitOrder
  | cancelUnknown
  | cancelOrder
  | failureUnknown
  | failureOrder
  | documentUnknown
  | documentNotLive
  | documentNotReady
  | renderedTransition
  | renderedAdvance
  | renderedResult
  | renderedFrame
  | noFrameTransition
  | noFrameAdvance
  | noFrameResult
  | rejectedMutation
  | rejectedRerender
  | rerenderTransition
  | rerenderFrame
  | closeGeneration
  | closeLiveContext
  | closeForeignContext
  | frameUnknown
  | frameOrder
  | frameRollback
  | frameDidNotComplete
  | initialOmitted
  | initialZero
  | initialFrame
  | transferredFrame
  | generalWebOmitted
  | loopbackOmitted
  | commitInvalid
  | finalUrlAddressBound
  | finalUrlHistoryPolicy
  | oneShotBinding
  deriving DecidableEq, Repr

/-- Failures of the session's own bookkeeping. -/
inductive InternalFault where
  | transferUnderflow
  | rerenderLabels
  | submissionLostTab
  | historyNavigationLostTab
  | historyNavigationLostEntry
  | reloadLostTab
  | reloadLostEntry
  | tabMissingFromWindow
  | contextOwnershipInconsistent
  | closeHistoryUnderflow
  | closeFrameUnderflow
  | closeLedgerUnderflow
  | closeLostTab
  | closeLostContext
  | closeReplacedTombstone
  | closeLostWindow
  | closeLostMembership
  | closeWindowDisappeared
  | closeLostSurface
  | pollReturnedBatch
  | pumpReturnedEmpty
  | pumpReturnedSingle
  | ledgerEntryReplaced
  | appendLostTab
  | appendEntryOverflow
  | appendAccounting
  | appendExceededPolicy
  | appendLostTabBeforeCommit
  | appendLostAddress
  | liveLostReadyEntry
  | priorReadyNotRetired
  | publicationLedgerUnderflow
  | staleInitialProjection
  | staleMutationProjection
  | staleRerenderProjection
  | preflightOverflow
  | suppressionUnderflow
  | commitDuplicateIdentities
  | commitAccounting
  | commitLostSlot
  | commitIdentityChanged
  | loopbackCommitBound
  | eventNotApplied
  | phaseMissing (fault : EngineFault)
  | activeTabMissing
  | windowWithoutTabs
  | unsupportedDelta
  | frameTransferLostEngine
  | resultTransferLostEngine
  | frameDrainLostEngine
  | resultDrainLostEngine
  | lostEngine
  deriving DecidableEq, Repr

/-- Where a contract failure comes from. -/
inductive ContractFault where
  | internal (fault : InternalFault)
  | engine (fault : EngineFault)
  | port (detail : String)
  deriving DecidableEq, Repr

/-- Source: `LinuxStopReason`; the session only passes it on, as a number here. -/
structure LinuxStopReason where
  code : ℕ
  deriving DecidableEq, Repr

/-- What was out of order among native events. -/
inductive LinuxOrderFault where
  | eventAfterDestroyed
  | readyOrder
  | surfaceReused
  | resumedOrder
  | suspendedOrder
  | destroyedNotRetired
  | surfaceEventAfterDestroyed
  deriving DecidableEq, Repr

/-- Source: `SessionFailure` -/
inductive SessionFailure where
  | enginePanicked (operation : String)
  | engineDisconnected (status : EnginePortShutdownStatus)
  | engineStopped (status : EnginePortShutdownStatus)
  | engineEventSequence (expected received : ℕ)
  | engineContract (fault : ContractFault)
  | linuxInputSequence (window : BrowserWindowId) (previous received : ℕ)
  | linuxEventOrder (window : BrowserWindowId) (fault : LinuxOrderFault)
  | linuxSurfaceMismatch (window : BrowserWindowId)
  | linuxStopped (window : BrowserWindowId) (reason : LinuxStopReason)
  | primaryUiRevisionExhausted (window : BrowserWindowId)
  deriving DecidableEq, Repr

/-- Source: `SessionLifecycle` -/
inductive SessionLifecycle where
  | running
  | closed (status : EnginePortShutdownStatus)
  | failed (failure : SessionFailure) (status : EnginePortShutdownStatus)
  deriving DecidableEq, Repr

/-- Source: `SessionLifecycle::shutdown_status` -/
def SessionLifecycle.shutdownStatus : SessionLifecycle → Option EnginePortShutdownStatus
  | .running => none
  | .closed status => some status
  | .failed _ status => some status

/-- Source: `SessionError`; `bookkeeping` is `SessionError::Engine` with a
`EnginePortError::ContractViolation` that the session raises itself. -/
inductive SessionError where
  | notRunning
  | unknownWindow (window : BrowserWindowId)
  | unknownTab (tab : BrowserTabId)
  | windowLimit (maximum : ℕ)
  | tabLimit (maximum : ℕ)
  | closingContextLimit (maximum : ℕ)
  | navigationLedgerLimit (maximum : ℕ)
  | identityExhausted (kind : String)
  | historyUnavailable
  | historyByteLimit (maximum : ℕ)
  | address (error : AddressEditError)
  | primaryUiLayout (error : PrimaryUiLayoutError)
  | invalidPrimaryUiFocus (focus : PrimaryUiFocus)
  | primaryUiResource (detail : String)
  | navigationRequest (error : NavigationRequestError)
  | engine (error : EnginePortError)
  | bookkeeping (fault : InternalFault)
  | terminal (failure : SessionFailure)
  deriving DecidableEq, Repr

/-! ## The session -/

/-- Source: `BrowserSession` -/
structure BrowserSession (E : Type) where
  engine : Option E
  limits : SessionLimits
  navigationMode : BrowserNavigationMode
  lifecycle : SessionLifecycle
  windows : Table BrowserWindowId WindowState
  tabs : Table BrowserTabId TabState
  contexts : Table TopLevelContextId BrowserTabId
  closingContexts : Table TopLevelContextId ClosingContext
  surfaces : Table SurfaceId BrowserWindowId
  nextWindow : Option ℕ
  nextTab : Option ℕ
  nextContext : Option ℕ
  historyBytes : ℕ
  retainedFrameBytes : ℕ
  navigationLedgerEntries : ℕ
  lastEngineSequence : Option ℕ
  /-- The outcomes of the fallible reservations to come. -/
  reservations : List Bool

/-- A method of the session. -/
abbrev SessionCall (E α : Type) : Type := Call (BrowserSession E) SessionError α

namespace BrowserSession

variable {E α : Type} [EnginePort E]

variable (s : BrowserSession E) (tab : BrowserTabId) (window : BrowserWindowId)

/-- The session with a tab changed. -/
def withTab (f : TabState → TabState) :
    BrowserSession E :=
  { s with tabs := s.tabs.update tab f }

/-- The session with a window changed. -/
def withWindowState
    (g : WindowState → WindowState) : BrowserSession E :=
  { s with windows := s.windows.update window g }

/-- Source: `BrowserSession::clear_product_state` -/
def clearProductState : BrowserSession E :=
  { s with
    windows := ∅
    tabs := ∅
    contexts := ∅
    closingContexts := ∅
    surfaces := ∅
    historyBytes := 0
    retainedFrameBytes := 0
    navigationLedgerEntries := 0 }

/-- The status of the shutdown; the engine is gone after it.
Source: `BrowserSession::safe_engine_shutdown` -/
def safeEngineShutdown : EnginePortShutdownStatus :=
  match s.engine with
  | none => s.lifecycle.shutdownStatus.getD .portPanicked
  | some engine =>
    match EnginePort.shutdown engine with
    | (some status, engine) => if EnginePort.dropPanics engine then .portPanicked else status
    | (none, _) => .portPanicked

/-- The session after its shutdown. -/
def ended (lifecycle : SessionLifecycle) : BrowserSession E :=
  { s.clearProductState with engine := none, lifecycle := lifecycle }

/-- Source: `BrowserSession::fail` -/
def fail (failure : SessionFailure) : SessionCall E α := fun s =>
  if s.lifecycle ≠ .running then .err .notRunning s
  else .err (.terminal failure) (s.ended (.failed failure s.safeEngineShutdown))

/-- The value, or the failure of the session without one.
Source: `let Some(..) = .. else { return self.fail(..) }` -/
def orFail (value : Option α) (fault : InternalFault) : SessionCall E α :=
  match value with
  | some a => pure a
  | none => fail (.engineContract (.internal fault))

/-- The value, or an error without one.
Source: `.ok_or(..)?` -/
def okOr (value : Option α) (error : SessionError) : SessionCall E α :=
  match value with
  | some a => pure a
  | none => Call.fail error

/-- Source: `BrowserSession::ensure_running` -/
def ensureRunning : SessionCall E Unit := fun s =>
  if s.lifecycle = .running then .ok () s else .err .notRunning s

/-- Source: `self.tabs.get(&tab).ok_or(SessionError::UnknownTab(tab))` -/
def getTab : SessionCall E TabState := do
  let s ← Call.read
  okOr (s.tabs.lookup tab) (.unknownTab tab)

/-- Source: `self.windows.get(&window).ok_or(SessionError::UnknownWindow(window))` -/
def getWindow : SessionCall E WindowState := do
  let s ← Call.read
  okOr (s.windows.lookup window) (.unknownWindow window)

/-- Source: `self.tabs.get_mut(&tab).ok_or(SessionError::UnknownTab(tab))` -/
def modifyTab (f : TabState → TabState) : SessionCall E Unit := do
  let _ ← getTab tab
  Call.modify fun s => s.withTab tab f

/-- Source: `self.windows.get_mut(&window).ok_or(SessionError::UnknownWindow(window))` -/
def modifyWindow (f : WindowState → WindowState) : SessionCall E Unit := do
  let _ ← getWindow window
  Call.modify fun s => s.withWindowState window f

/-- Change the primary user interface of a window. -/
def modifyPrimaryUi (f : PrimaryUiWindowState → PrimaryUiWindowState) : SessionCall E Unit :=
  modifyWindow window (WindowState.mapUi f)

/-- A fallible reservation.
Source: `try_reserve_exact(..).map_err(..)` -/
def reserve (detail : String) : SessionCall E Unit := do
  let s ← Call.read
  match s.reservations with
  | [] => pure ()
  | granted :: rest => do
    Call.modify fun s => { s with reservations := rest }
    Call.check granted (.primaryUiResource detail)

/-! ## Engine calls -/

/-- End the session of an engine that is shutting down.
Source: the `EventReceiverDropped | ShuttingDown` arm of `resolve_engine_result` -/
def disconnect : SessionCall E α := fun s =>
  let failure := SessionFailure.engineDisconnected s.safeEngineShutdown
  .err (.terminal failure) (s.ended (.failed failure s.safeEngineShutdown))

/-- Source: `BrowserSession::resolve_engine_result` -/
def resolveEngineResult (result : Except EnginePortError α) : SessionCall E α :=
  match result with
  | .ok value => pure value
  | .error (.receiverClosed status) => fail (.engineDisconnected status)
  | .error (.contractViolation detail) => fail (.engineContract (.port detail))
  | .error (.leaseNavigationMismatch _ _) => fail (.engineContract (.engine .oneShotBinding))
  | .error (.frameLease _) => fail (.engineContract (.engine .oneShotBinding))
  | .error (.mutationLease _) => fail (.engineContract (.engine .oneShotBinding))
  | .error (.navigationCommit _) => fail (.engineContract (.engine .oneShotBinding))
  | .error (.command kind) =>
    if kind = .eventReceiverDropped ∨ kind = .shuttingDown then disconnect
    else Call.fail (.engine (.command kind))

/-- Call a method of the engine, which the session must still own.
Source: the `catch_unwind` of `call_engine`, `take_checked_frame` and their siblings -/
def onEngine (missing : InternalFault) (call : E → PortAnswer α × E) :
    SessionCall E (PortAnswer α) := do
  let s ← Call.read
  let engine ← orFail s.engine missing
  Call.modify fun s => { s with engine := some (call engine).2 }
  pure (call engine).1

/-- Source: `BrowserSession::call_engine` -/
def callEngine (operation : String) (call : E → PortAnswer α × E) : SessionCall E α := do
  match ← onEngine .lostEngine call with
  | .panicked => fail (.enginePanicked operation)
  | .returned result => resolveEngineResult result

end BrowserSession

end WildBuzzard.Ui
