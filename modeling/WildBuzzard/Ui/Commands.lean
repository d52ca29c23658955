import WildBuzzard.Ui.Chrome

/-!
# Commands of a browser session

Opening, activating and closing tabs and windows, navigating and moving in a tab's history. A
command checks what it can before it asks the engine, and changes the session after the engine has
admitted it.

The steps between two points at which a command can return are one change of the state here; a
failure in between ends the session and clears all of it, so the order within a step is not
observable.
-/

namespace WildBuzzard.Ui

open Lib Engine

/-- Source: `BrowserCommand` -/
inductive BrowserCommand where
  | newWindow
  | newTab (window : BrowserWindowId)
  | closeWindow (window : BrowserWindowId)
  | closeTab (tab : BrowserTabId)
  | activateTab (tab : BrowserTabId)
  | navigate (tab : BrowserTabId) (address : List Char)
  | submitAddress (tab : BrowserTabId)
  | back (tab : BrowserTabId)
  | forward (tab : BrowserTabId)
  | reload (tab : BrowserTabId)
  | stop (tab : BrowserTabId)
  | focusAddress (window : BrowserWindowId)
  | focusContent (tab : BrowserTabId)
  deriving DecidableEq, Repr

/-- Source: `BrowserCommandOutcome` -/
inductive BrowserCommandOutcome where
  | windowOpened (window : BrowserWindowId) (tab : BrowserTabId)
  | tabOpened (window : BrowserWindowId) (tab : BrowserTabId)
  | tabActivated (window : BrowserWindowId) (tab : BrowserTabId)
  | navigationQueued (tab : BrowserTabId) (navigation : NavigationId)
  | stopRequested (tab : BrowserTabId) (navigation : NavigationId)
  | tabClosed (tab : BrowserTabId) (windowClosed : Bool)
  | windowClosed (window : BrowserWindowId)
  | addressFocused (window : BrowserWindowId) (tab : BrowserTabId)
  | contentFocused (window : BrowserWindowId) (tab : BrowserTabId)
  | noChange
  | sessionClosed (status : EnginePortShutdownStatus)
  deriving DecidableEq, Repr

/-- Whether the outcome says that the session was closed. -/
def BrowserCommandOutcome.isSessionClosed : BrowserCommandOutcome → Bool
  | .sessionClosed _ => true
  | _ => false

/-- The keyboard focus a tab asks for when it becomes active. -/
def TabFocus.primaryUiFocus : TabFocus → PrimaryUiFocus
  | .address => .addressBar
  | .content => .page

/-- A new window with one blank tab.
Source: the `WindowState` literal of `open_window_internal` -/
def WindowState.blank (window : BrowserWindowId) (tab : BrowserTabId) : WindowState where
  id := window
  tabs := [tab]
  active := tab
  nativeState := .starting
  surface := none
  nativeFocused := false
  lastInputSequence := none
  primaryUi := .initial

namespace BrowserSession

variable {E : Type} [EnginePort E]

/-! ## Identities and capacity -/

/-- Source: `BrowserSession::peek_window_id` -/
def peekWindowId : SessionCall E BrowserWindowId := do
  let s ← Call.read
  okOr (s.nextWindow.bind BrowserWindowId.new) (.identityExhausted "window")

/-- Source: `BrowserSession::peek_tab_id` -/
def peekTabId : SessionCall E BrowserTabId := do
  let s ← Call.read
  okOr (s.nextTab.bind BrowserTabId.new) (.identityExhausted "tab")

/-- Source: `BrowserSession::peek_context_id` -/
def peekContextId : SessionCall E TopLevelContextId := do
  let s ← Call.read
  okOr (s.nextContext.bind TopLevelContextId.new) (.identityExhausted "top-level context")

/-- The identity after the next one.
Source: `commit_window_id`, `commit_tab_id`, `commit_context_id` -/
def commitId (next : Option ℕ) : Option ℕ := next.bind fun value => checkedAdd value 1

/-- Source: `BrowserSession::ensure_tab_capacity` -/
def ensureTabCapacity (window : Option BrowserWindowId) : SessionCall E Unit := do
  let s ← Call.read
  let owned ← okOr (checkedAdd s.tabs.size s.closingContexts.size) (.tabLimit s.limits.maxTotalTabs)
  Call.check (owned < s.limits.maxTotalTabs) (.tabLimit s.limits.maxTotalTabs)
  match window with
  | none => pure ()
  | some window => do
    let state ← getWindow window
    Call.check (state.tabs.length < s.limits.maxTabsPerWindow)
      (.tabLimit s.limits.maxTabsPerWindow)

/-! ## Opening and activating -/

variable (s : BrowserSession E) (window : BrowserWindowId) (tab : BrowserTabId) (state : TabRecord)

/-- The session with a new window.
Source: the insertions of `open_window_internal` -/
def withWindow
    (context : TopLevelContextId) : BrowserSession E :=
  { s with
    nextWindow := commitId s.nextWindow
    nextTab := commitId s.nextTab
    nextContext := commitId s.nextContext
    tabs := s.tabs.insert tab (.blank tab window context s.limits.maxAddressBytes)
    contexts := s.contexts.insert context tab
    windows := s.windows.insert window (.blank window tab) }

/-- Source: `BrowserSession::open_window_internal` -/
def openWindowInternal : SessionCall E (BrowserWindowId × BrowserTabId) := do
  let s ← Call.read
  Call.check (s.windows.size < s.limits.maxWindows) (.windowLimit s.limits.maxWindows)
  ensureTabCapacity none
  let window ← peekWindowId
  let tab ← peekTabId
  let context ← peekContextId
  Call.modify fun s => s.withWindow window tab context
  pure (window, tab)

/-- Source: `BrowserSession::open_window` -/
def openWindow : SessionCall E BrowserCommandOutcome := do
  ensureRunning
  let (window, tab) ← openWindowInternal
  pure (.windowOpened window tab)

/-- A window with a new active tab.
Source: the changes of `window_state` in `open_tab` -/
def appendTab (state : WindowState) : WindowState :=
  { state with
    tabs := state.tabs ++ [tab]
    active := tab
    primaryUi := { state.primaryUi.closePanel .addressBar with allTabsScroll := 0 } }

/-- Source: `BrowserSession::open_tab` -/
def openTab : SessionCall E BrowserCommandOutcome := do
  ensureRunning
  ensureTabCapacity (some window)
  let tab ← peekTabId
  let context ← peekContextId
  Call.modify fun s =>
    { s with nextTab := commitId s.nextTab, nextContext := commitId s.nextContext }
  let _ ← getWindow window
  Call.modify fun s =>
    { s with
      windows := s.windows.update window (appendTab tab)
      tabs := s.tabs.insert tab (.blank tab window context s.limits.maxAddressBytes)
      contexts := s.contexts.insert context tab }
  let _ ← bumpPrimaryUiRevision window
  pure (.tabOpened window tab)

/-- Source: `BrowserSession::activate_tab` -/
def activateTab : SessionCall E BrowserCommandOutcome := do
  ensureRunning
  let state ← getTab tab
  let owner ← getWindow state.window
  if owner.active = tab then pure .noChange
  else do
    modifyWindow state.window fun owner =>
      { owner with
        active := tab
        primaryUi := owner.primaryUi.closePanel state.focus.primaryUiFocus }
    let _ ← bumpPrimaryUiRevision state.window
    pure (.tabActivated state.window tab)

/-! ## Admission of navigations -/

/-- The entries of a phase ledger that an admission drops: terminal, and not of the live page. -/
def prunable (state : TabState) (navigation : NavigationId) (phase : NavigationPhase) : Bool :=
  some navigation ≠ state.liveNavigation ∧ phase.isTerminal

/-- A tab with its terminal phases dropped.
Source: the `retain` of `send_navigation` -/
def pruneLedger (state : TabState) : TabState :=
  { state with
    navigationPhases := state.navigationPhases.retain fun navigation phase =>
      !prunable state navigation phase }

/-- A tab whose newest navigation was admitted. -/
def admitNavigation (navigation : NavigationId) (state : TabState) : TabState :=
  { state with
    navigationPhases := state.navigationPhases.insert navigation .requested
    latestNavigation := some navigation
    loading := some navigation
    stopRequested := false }

/-- The generation the engine must give the next navigation of a tab. -/
def expectedGeneration (latest : Option NavigationId) : Option NavigationGeneration :=
  match latest with
  | some navigation => navigation.generation.checkedNext
  | none => some .initial

/-- The number of ledger entries that an admission drops. -/
def prunableEntries : ℕ :=
  s.tabs.total fun state => (state.navigationPhases.retain (prunable state)).size

/-- Source: `BrowserSession::send_navigation` -/
def sendNavigation (request : NavigationRequest) : SessionCall E NavigationId := do
  let state ← getTab tab
  let generation ← okOr (expectedGeneration state.latestNavigation)
    (.identityExhausted "navigation generation")
  let s ← Call.read
  let projected ← okOr
    ((checkedSub s.navigationLedgerEntries s.prunableEntries).bind fun kept => checkedAdd kept 1)
    (.navigationLedgerLimit maxNavigationLedgerEntries)
  Call.check (projected ≤ maxNavigationLedgerEntries)
    (.navigationLedgerLimit maxNavigationLedgerEntries)
  let navigation ← callEngine "navigate" (EnginePort.navigate state.context request)
  if navigation ≠ ⟨state.context, generation⟩ then
    fail (.engineContract (.engine .foreignNavigation))
  else do
    let state ← getTab tab
    if navigation ∈ (pruneLedger state).navigationPhases then
      fail (.engineContract (.internal .ledgerEntryReplaced))
    else do
      Call.modify fun s =>
        { s with
          tabs := (s.tabs.mapValues pruneLedger).update tab (admitNavigation navigation)
          navigationLedgerEntries := projected }
      pure navigation

/-! ## History -/

/-- The number of entries a new one is appended to.
Source: `keep` of `preflight_history_append` -/
def keptEntries : ℕ := state.historyIndex.elim 0 fun index => index + 1

/-- The bytes of a list of entries. -/
def entryBytes (entries : List HistoryEntry) : ℕ := (entries.map fun e => byteLen e.address).sum

/-- The part of the history behind the current entry.
Source: `state.history[keep..]`, which panics when it starts past the end -/
def forwardEntries : SessionCall E (List HistoryEntry) := do
  Call.assert (keptEntries state ≤ state.history.length) "range start index out of range"
  pure (state.history.drop (keptEntries state))

/-- The bytes of the entry that a full history drops. -/
def oldestBytes : ℕ :=
  if s.limits.maxHistoryEntries < keptEntries state + 1 then entryBytes (state.history.take 1)
  else 0

/-- Source: `BrowserSession::preflight_history_append` -/
def preflightHistoryAppend (addressBytes : ℕ) : SessionCall E Unit := do
  let state ← getTab tab
  let s ← Call.read
  let limit := SessionError.historyByteLimit s.limits.maxTotalHistoryBytes
  let forward ← forwardEntries state.toTabRecord
  let retainedBeforeNew ← okOr (checkedSub s.historyBytes (entryBytes forward)) limit
  let projected ← okOr (checkedAdd retainedBeforeNew addressBytes) limit
  let _ ← okOr (checkedAdd (keptEntries state.toTabRecord) 1) .historyUnavailable
  let projected ← okOr (checkedSub projected (s.oldestBytes state.toTabRecord)) limit
  Call.check (projected ≤ s.limits.maxTotalHistoryBytes) limit

/-- The history with a new entry: without what was forward, and without the oldest entry if there
would be too many.
Source: `truncate`, `push` and `remove(0)` of `append_history_after_admission` -/
def appendEntry (maxEntries : ℕ) (state : TabRecord) (entry : HistoryEntry) : List HistoryEntry :=
  let appended := state.history.take (keptEntries state) ++ [entry]
  if maxEntries < appended.length then appended.tail else appended

/-- A history entry for a navigation that was requested. -/
def requestedEntry (address : List Char) (navigation : NavigationId) : HistoryEntry :=
  ⟨address, navigation, .requested, none⟩

/-- A tab with a new current entry. -/
def appendToHistory (maxEntries : ℕ) (entry : HistoryEntry) (accepted : List Char)
    (state : TabState) : TabState :=
  { state with
    history := appendEntry maxEntries state.toTabRecord entry
    historyIndex := checkedSub (appendEntry maxEntries state.toTabRecord entry).length 1
    address := state.address.acceptNavigationValue accepted }

/-- Source: `BrowserSession::append_history_after_admission` -/
def appendHistoryAfterAdmission (address : List Char)
    (navigation : NavigationId) : SessionCall E Unit := do
  let s ← Call.read
  let state ← orFail (s.tabs.lookup tab) .appendLostTab
  let forward ← forwardEntries state.toTabRecord
  let resultingEntries ← orFail (checkedAdd (keptEntries state.toTabRecord) 1) .appendEntryOverflow
  let resultingBytes ← orFail
    (((checkedSub s.historyBytes (entryBytes forward)).bind fun bytes =>
      checkedAdd bytes (byteLen address)).bind fun bytes =>
        checkedSub bytes (s.oldestBytes state.toTabRecord))
    .appendAccounting
  if s.limits.maxHistoryEntries + 1 < resultingEntries ∨
      s.limits.maxTotalHistoryBytes < resultingBytes then
    fail (.engineContract (.internal .appendExceededPolicy))
  else do
    let state ← orFail (s.tabs.lookup tab) .appendLostTabBeforeCommit
    let history := appendEntry s.limits.maxHistoryEntries state.toTabRecord
      (requestedEntry address navigation)
    let accepted ← orFail (history.getLast?.map HistoryEntry.address) .appendLostAddress
    Call.modify fun s =>
      { s with
        tabs := s.tabs.update tab (appendToHistory s.limits.maxHistoryEntries
          (requestedEntry address navigation) accepted)
        historyBytes := resultingBytes }

/-- Source: `BrowserSession::navigate_new` -/
def navigateNew (address : List Char) : SessionCall E BrowserCommandOutcome := do
  ensureRunning
  let s ← Call.read
  Call.check (byteLen address ≤ s.limits.maxAddressBytes)
    (.address (.tooLong (byteLen address) s.limits.maxAddressBytes))
  let request ← Call.ofExcept ((s.navigationMode.request address).mapError .navigationRequest)
  preflightHistoryAppend tab (byteLen address)
  let navigation ← sendNavigation tab request
  appendHistoryAfterAdmission tab address navigation
  let _ ← bumpPrimaryUiForTab tab
  pure (.navigationQueued tab navigation)

/-- Source: `BrowserSession::submit_address` -/
def submitAddress : SessionCall E BrowserCommandOutcome := do
  ensureRunning
  let state ← getTab tab
  let outcome ← navigateNew tab state.address.text
  let s ← Call.read
  let state ← orFail (s.tabs.lookup tab) .submissionLostTab
  modifyTab tab focusTabContent
  modifyPrimaryUi state.window fun ui => ui.closePanel .page
  let _ ← bumpPrimaryUiRevision state.window
  pure outcome

/-- A history entry that is navigated to again. -/
def renavigate (navigation : NavigationId) (entry : HistoryEntry) : HistoryEntry :=
  { entry with navigation := navigation, state := .requested, commit := none }

/-- A tab that was sent to an entry of its history. -/
def revisit (target : ℕ) (navigation : NavigationId) (address : List Char) (state : TabState) :
    TabState :=
  { state with
    historyIndex := some target
    history := state.history.modify target (renavigate navigation)
    address := state.address.acceptNavigationValue address }

/-- Send a tab to an entry of its history.
Source: the second halves of `go_history` and `reload`, which differ in the texts of failures; a
reload leaves the index, which is the target already -/
def revisitEntry (target : ℕ) (entry : HistoryEntry)
    (lostTab lostEntry : InternalFault) : SessionCall E BrowserCommandOutcome := do
  let s ← Call.read
  let request ← Call.ofExcept
    ((s.navigationMode.request entry.address).mapError .navigationRequest)
  let navigation ← sendNavigation tab request
  let s ← Call.read
  let state ← orFail (s.tabs.lookup tab) lostTab
  let _ ← orFail state.history[target]? lostEntry
  modifyTab tab (revisit target navigation entry.address)
  let _ ← bumpPrimaryUiForTab tab
  pure (.navigationQueued tab navigation)

/-- The index a step in the history leads to.
Source: `target` of `go_history`, for the deltas 1 and -1 -/
def stepIndex (index : ℕ) (forward : Bool) : Option ℕ :=
  if forward then some (index + 1) else checkedSub index 1

/-- The entry a step in the history leads to.
Source: `target` and `entry` of `go_history` -/
def historyTarget (forward : Bool) : Option (ℕ × HistoryEntry) := do
  let index ← state.historyIndex
  let target ← stepIndex index forward
  let entry ← state.history[target]?
  pure (target, entry)

/-- Source: `BrowserSession::go_history` -/
def goHistory (forward : Bool) : SessionCall E BrowserCommandOutcome := do
  ensureRunning
  let state ← getTab tab
  match historyTarget state.toTabRecord forward with
  | none => pure .noChange
  | some (target, entry) =>
    revisitEntry tab target entry .historyNavigationLostTab .historyNavigationLostEntry

/-- Source: `BrowserSession::reload` -/
def reload : SessionCall E BrowserCommandOutcome := do
  ensureRunning
  let state ← getTab tab
  match state.historyIndex with
  | none => pure .noChange
  | some index => do
    let entry ← okOr state.history[index]? .historyUnavailable
    revisitEntry tab index entry .reloadLostTab .reloadLostEntry

/-- Source: the `match` of `stop` on the answer of the engine -/
def stopAnswered (navigation : NavigationId) :
    Except SessionError Unit → SessionCall E BrowserCommandOutcome
  | .ok () => do
    modifyTab tab fun state => { state with stopRequested := true }
    let _ ← bumpPrimaryUiForTab tab
    pure (.stopRequested tab navigation)
  | .error (.engine (.command .noActiveNavigation)) => pure .noChange
  | .error error => Call.fail error

/-- Source: `BrowserSession::stop` -/
def stop : SessionCall E BrowserCommandOutcome := do
  ensureRunning
  let state ← getTab tab
  match state.loading with
  | none => pure .noChange
  | some navigation => do
    let answer ← Call.settle Except.ok Except.error
      (callEngine "cancel navigation" (EnginePort.cancelNavigation navigation))
    stopAnswered tab navigation answer

/-! ## Focus -/

/-- Source: `BrowserSession::focus_address` -/
def focusAddress : SessionCall E BrowserCommandOutcome := do
  ensureRunning
  let state ← getWindow window
  modifyTab state.active fun tab =>
    { tab with focus := .address, address := tab.address.selectAll }
  modifyPrimaryUi window fun ui => ui.closePanel .addressBar
  let _ ← bumpPrimaryUiRevision window
  pure (.addressFocused window state.active)

/-- Source: `BrowserSession::focus_content` -/
def focusContent : SessionCall E BrowserCommandOutcome := do
  ensureRunning
  modifyTab tab focusTabContent
  let state ← getTab tab
  modifyPrimaryUi state.window fun ui => ui.closePanel .page
  let _ ← bumpPrimaryUiRevision state.window
  pure (.contentFocused state.window tab)

/-! ## Closing -/

/-- Source: `BrowserSession::shutdown` -/
def shutdown : SessionCall E EnginePortShutdownStatus := fun s =>
  match s.lifecycle.shutdownStatus with
  | some status => .ok status s
  | none =>
    let status := s.safeEngineShutdown
    .ok status (s.ended
      (if status.reason = .portPanicked then .failed (.enginePanicked "shutdown") status
      else .closed status))

/-- The tombstone of a tab that navigated.
Source: the insertion into `closing_contexts` of `close_tab` -/
def withTombstone :
    Table TopLevelContextId ClosingContext :=
  match state.latestNavigation with
  | none => s.closingContexts
  | some navigation => s.closingContexts.insert state.context ⟨navigation, tab, state.window⟩

/-- The session without a tab, except for the window that lists it.
Source: the removals of `close_tab` -/
def withoutTab :
    BrowserSession E :=
  { s with
    tabs := s.tabs.erase tab
    contexts := s.contexts.erase state.context
    closingContexts := s.withTombstone tab state
    historyBytes := s.historyBytes - state.historyBytes
    retainedFrameBytes := s.retainedFrameBytes - state.frameBytes
    navigationLedgerEntries := s.navigationLedgerEntries - state.ledgerEntries }

/-- A window without one of its tabs; its successor becomes active.
Source: the block of `close_tab` that computes `window_closed` -/
def removeTab (index : ℕ) (owner : WindowState) : WindowState :=
  let tabs := owner.tabs.eraseIdx index
  { owner with
    tabs := tabs
    active :=
      if owner.active = tab then tabs.getD (min index (tabs.length - 1)) owner.active
      else owner.active }

/-- Retire a window that lost its last tab, with its surface.
Source: the first branch after `window_closed` of `close_tab` -/
def retireWindow : SessionCall E Unit := do
  let s ← Call.read
  let removed ← okOr (s.windows.lookup window) (.bookkeeping .closeWindowDisappeared)
  Call.modify fun s => { s with windows := s.windows.erase window }
  match removed.surface with
  | none => pure ()
  | some surface =>
    if removed.nativeState = .destroyed then pure ()
    else do
      let s ← Call.read
      Call.modify fun s => { s with surfaces := s.surfaces.erase surface }
      if s.surfaces.lookup surface ≠ some window then
        fail (.engineContract (.internal .closeLostSurface))
      else pure ()

/-- Give the focus to the tab that became active.
Source: the second branch after `window_closed` of `close_tab` -/
def refocusWindow : SessionCall E Unit := do
  let owner ← getWindow window
  let active ← getTab owner.active
  modifyPrimaryUi window fun ui =>
    { ui.closePanel active.focus.primaryUiFocus with allTabsScroll := 0 }
  let _ ← bumpPrimaryUiRevision window
  pure ()

/-- The checks of a tab's references and accounts before it is closed.
Source: the first half of `close_tab` -/
def closePreflight : SessionCall E Unit := do
  let s ← Call.read
  if ¬(s.windows.lookup state.window).any fun owner => tab ∈ owner.tabs then
    fail (.engineContract (.internal .tabMissingFromWindow))
  else if s.contexts.lookup state.context ≠ some tab ∨ state.context ∈ s.closingContexts then
    fail (.engineContract (.internal .contextOwnershipInconsistent))
  else do
    let _ ← orFail (checkedSub s.historyBytes state.historyBytes) .closeHistoryUnderflow
    let _ ← orFail (checkedSub s.retainedFrameBytes state.frameBytes) .closeFrameUnderflow
    let _ ← orFail (checkedSub s.navigationLedgerEntries state.ledgerEntries) .closeLedgerUnderflow
    Call.check
      (state.latestNavigation.isSome → s.closingContexts.size < s.limits.maxClosingContexts)
      (.closingContextLimit s.limits.maxClosingContexts)

/-- Ask the engine to close the context of a tab that navigated. -/
def closeEngineContext (latest : Option NavigationId) : SessionCall E Unit :=
  match latest with
  | none => pure ()
  | some navigation => callEngine "close context" (EnginePort.closeContext navigation)

/-- Remove a tab whose close was admitted, and its window with its last tab.
Source: the second half of `close_tab` -/
def dropTab : SessionCall E Bool := do
  let s ← Call.read
  let _ ← orFail (s.tabs.lookup tab) .closeLostTab
  if s.contexts.lookup state.context ≠ some tab then
    fail (.engineContract (.internal .closeLostContext))
  else if state.latestNavigation.isSome ∧ state.context ∈ s.closingContexts then
    fail (.engineContract (.internal .closeReplacedTombstone))
  else do
    let owner ← orFail (s.windows.lookup state.window) .closeLostWindow
    let index ← orFail (owner.tabs.findIdx? fun candidate => candidate = tab) .closeLostMembership
    Call.modify fun s =>
      { s.withoutTab tab state with windows := s.windows.update state.window (removeTab tab index) }
    if (removeTab tab index owner).tabs = [] then do
      retireWindow state.window
      pure true
    else do
      refocusWindow state.window
      pure false

/-- Source: `BrowserSession::close_tab` -/
def closeTab : SessionCall E BrowserCommandOutcome := do
  ensureRunning
  let state ← getTab tab
  closePreflight tab state.toTabRecord
  closeEngineContext state.latestNavigation
  let windowClosed ← dropTab tab state.toTabRecord
  let s ← Call.read
  if s.windows.size = 0 then do
    let status ← shutdown
    pure (.sessionClosed status)
  else pure (.tabClosed tab windowClosed)

/-- Close the tabs of a window one after another.
Source: the loop of `close_window` -/
def closeTabs (window : BrowserWindowId) :
    List BrowserTabId → ℕ → SessionCall E BrowserCommandOutcome
  | [], _ => pure (.windowClosed window)
  | tab :: rest, closed => do
    let answer ← Call.settle Except.ok Except.error (closeTab tab)
    match answer with
    | .ok outcome =>
      if outcome.isSessionClosed then pure outcome else closeTabs window rest (closed + 1)
    | .error error => do
      let s ← Call.read
      if closed = 0 ∨ s.lifecycle ≠ .running then Call.fail error
      else fail (.engineContract (.engine .partialWindowClose))

/-- Source: `BrowserSession::close_window` -/
def closeWindow : SessionCall E BrowserCommandOutcome := do
  ensureRunning
  let state ← getWindow window
  let s ← Call.read
  let limit := SessionError.closingContextLimit s.limits.maxClosingContexts
  let required := state.tabs.countP fun tab =>
    (s.tabs.lookup tab).any fun tab => tab.latestNavigation.isSome
  let projected ← okOr (checkedAdd s.closingContexts.size required) limit
  Call.check (projected ≤ s.limits.maxClosingContexts) limit
  closeTabs window state.tabs 0

/-! ## Dispatch -/

/-- Source: `BrowserSession::dispatch` -/
def dispatch (command : BrowserCommand) : SessionCall E BrowserCommandOutcome :=
  match command with
  | .newWindow => openWindow
  | .newTab window => openTab window
  | .closeWindow window => closeWindow window
  | .closeTab tab => closeTab tab
  | .activateTab tab => activateTab tab
  | .navigate tab address => navigateNew tab address
  | .submitAddress tab => submitAddress tab
  | .back tab => goHistory tab false
  | .forward tab => goHistory tab true
  | .reload tab => reload tab
  | .stop tab => stop tab
  | .focusAddress window => focusAddress window
  | .focusContent tab => focusContent tab

end BrowserSession

end WildBuzzard.Ui
