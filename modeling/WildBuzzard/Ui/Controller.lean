import WildBuzzard.Ui.Commands

/-!
# The controller of the primary user interface

A snapshot describes the chrome of a window: its controls, tabs, open panel and semantic nodes.
Actions are dispatched against the revision they were bound to, so that **an action on a stale or
disabled element has no effect**. Looking up a control of a snapshot panics in the source if it is
missing; a snapshot has every control.
-/

namespace WildBuzzard.Ui

open Lib Engine

/-- Source: `PrimaryUiActionOutcome` -/
inductive PrimaryUiActionOutcome where
  | command (outcome : BrowserCommandOutcome)
  | focusChanged (previous current : PrimaryUiFocus)
  | panelChanged (panel : Option PrimaryUiPanel)
  | panelScrolled (panel : PrimaryUiPanel) (firstVisibleRow : ℕ)
  | disabled (element : PrimaryUiElementId)
  | stale (expected current : PrimaryUiRevision)
  | noChange
  deriving DecidableEq, Repr

/-- Whether the action ended in a command. -/
def PrimaryUiActionOutcome.isCommand : PrimaryUiActionOutcome → Bool
  | .command _ => true
  | _ => false

/-! ## Names -/

/-- The characters of a text that fit a number of bytes.
Source: the slice of `bounded_primary_label` at the last boundary within the bound -/
def takeBytes : ℕ → List Char → List Char
  | _, [] => []
  | budget, c :: rest =>
    if byteLen [c] ≤ budget then c :: takeBytes (budget - byteLen [c]) rest else []

/-- Source: `bounded_primary_label` -/
def boundedPrimaryLabel (value : List Char) : List Char :=
  if byteLen value ≤ maxPrimaryUiLabelBytes then value else takeBytes maxPrimaryUiLabelBytes value

/-- Source: `primary_control_name` -/
def primaryControlName (control : PrimaryUiControl) (facts : PrimaryControlFacts) : List Char :=
  match control with
  | .back => "Back".toList
  | .forward => "Forward".toList
  | .reloadStop => if facts.reloadStopMode = some .stop then "Stop".toList else "Reload".toList
  | .siteIdentity =>
    match facts.siteIdentity with
    | some .loopbackHttp => "Local site information".toList
    | some .insecureHttp => "Not secure".toList
    | some .unverified => "Connection not verified".toList
    | some .noPage => "Site information".toList
    | none => "Site information".toList
  | .addressBar => "Address and search bar".toList
  | .newTab => "New Tab".toList
  | .allTabs => "List all tabs".toList
  | .applicationMenu => "Application menu".toList
  | .overflow => "More tools".toList

/-- Source: `primary_focus_matches_control` -/
def primaryFocusMatchesControl (focus : PrimaryUiFocus) (control : PrimaryUiControl) : Bool :=
  match control with
  | .addressBar => focus = .addressBar
  | _ => focus = .control control

/-- Source: `valid_primary_focus` -/
def validPrimaryFocus (focus : PrimaryUiFocus) : Bool := focus ≠ .control .addressBar

/-- The current entry of a history. -/
def TabRecord.currentEntry (tab : TabRecord) : Option HistoryEntry :=
  tab.historyIndex.bind fun index => tab.history[index]?

/-- Source: `primary_tab_name` -/
def primaryTabName (tab : TabRecord) : List Char :=
  boundedPrimaryLabel
    (((tab.currentEntry.map HistoryEntry.address).filter fun address => address ≠ []).getD
      "New Tab".toList)

/-! ## Snapshots -/

/-- Source: the loop over `PrimaryUiControl::ALL` of `primary_ui_snapshot` -/
def snapshotControl (window : WindowState) (facts : PrimaryUiControl → PrimaryControlFacts)
    (control : PrimaryUiControl) : PrimaryUiControlSnapshot where
  control := control
  name := primaryControlName control (facts control)
  enabled := (facts control).enabled
  interaction := (facts control).interaction
  visible := control ∈ window.primaryUi.layout.visible
  overflowed := control ∈ window.primaryUi.layout.overflowed
  expanded := window.primaryUi.panel.any fun panel => panel.anchor = control
  focused := primaryFocusMatchesControl window.primaryUi.focus control
  reloadStopMode := (facts control).reloadStopMode
  siteIdentity := (facts control).siteIdentity

/-- Source: the loop over `window.tabs` of `primary_ui_snapshot` -/
def snapshotTab (window : WindowState) (tab : BrowserTabId) (state : TabState) :
    PrimaryUiTabSnapshot where
  tab := tab
  name := primaryTabName state.toTabRecord
  selected := tab = window.active
  loading := state.loading.isSome
  focused := window.primaryUi.focus = .tab tab
  closeEnabled := true

/-- Source: `panel_row` -/
def panelRow (id : PrimaryUiPanelItemId) (name : List Char) (enabled : Bool)
    (interaction : PrimaryUiInteraction) (selected : Bool) (focused : Option PrimaryUiPanelItemId)
    (action : PrimaryUiPanelItemAction) : PrimaryUiPanelItemSnapshot where
  id := id
  name := boundedPrimaryLabel name
  enabled := enabled
  interaction := interaction
  selected := selected
  expanded := false
  focused := focused = some id
  action := action

/-- Source: the `SiteIdentity` arm of `primary_panel_items` -/
def identitySummary (identity : Option PrimarySiteIdentityKind) : List Char :=
  match identity with
  | some .loopbackHttp => "Local HTTP connection is not secure".toList
  | some .insecureHttp => "HTTP connection is not secure".toList
  | some .unverified => "Connection security is not verified".toList
  | some .noPage => "No site information".toList
  | none => "No site information".toList

/-- Source: the `AllTabs` arm of `primary_panel_items` -/
def allTabsRow (focused : Option PrimaryUiPanelItemId) (tab : PrimaryUiTabSnapshot) :
    PrimaryUiPanelItemSnapshot where
  id := .allTabsTab tab.tab
  name := tab.name
  enabled := true
  interaction := .invoke
  selected := tab.selected
  expanded := false
  focused := focused = some (.allTabsTab tab.tab)
  action := .activateTab tab.tab

/-- The rows of the application menu that invoke a control. -/
def applicationMenuControls : List (PrimaryUiPanelItemId × PrimaryUiControl) :=
  [(.applicationNewTab, .newTab), (.applicationBack, .back), (.applicationForward, .forward),
    (.applicationReloadStop, .reloadStop)]

/-- Source: `primary_semantic_nodes` -/
def primarySemanticNodes (window : WindowState) (controls : List PrimaryUiControlSnapshot)
    (tabs : List PrimaryUiTabSnapshot) (panel : Option PrimaryUiPanelSnapshot) :
    List PrimaryUiSemanticNode :=
  [⟨.page, .document, "Page content".toList, true, false, false,
      window.primaryUi.focus = .page, true⟩] ++
    (tabs.flatMap fun tab =>
      [⟨.tab tab.tab, .tab, tab.name, true, tab.selected, false, tab.focused, true⟩,
        ⟨.tabClose tab.tab, .button, boundedPrimaryLabel ("Close ".toList ++ tab.name),
          tab.closeEnabled, false, false, false, true⟩]) ++
    ((controls.filter fun control => control.visible).map fun control =>
      ⟨.control control.control,
        if control.control = .addressBar then .textField else .button, control.name,
        control.enabled, false, control.expanded, control.focused, true⟩) ++
    panel.elim [] fun panel =>
      let visibleEnd := min (panel.scrollOffset + panel.visibleCapacity) panel.items.length
      panel.items.zipIdx.map fun (item, index) =>
        ⟨.panelItem item.id, .menuItem, item.name, item.enabled, item.selected, item.expanded,
          item.focused, decide (panel.scrollOffset ≤ index ∧ index < visibleEnd)⟩

/-- The first row of a panel that is shown.
Source: `start` of `primary_panel_snapshot` -/
def panelStart (ui : PrimaryUiWindowState) (panel : PrimaryUiPanel) (totalRows : ℕ)
    (selected : Option ℕ) : ℕ :=
  let capacity := ui.layout.panelRowCapacity
  let start := if panel = .allTabs then min ui.allTabsScroll (totalRows - capacity) else 0
  match selected with
  | none => start
  | some selected =>
    if selected < start then selected
    else if start + capacity ≤ selected then selected + 1 - capacity
    else start

/-- Source: `reverse_direction` -/
def PrimaryUiMoveDirection.reverse : PrimaryUiMoveDirection → PrimaryUiMoveDirection
  | .forward => .backward
  | .backward => .forward

/-- The place after or before one, around the end of a list.
Source: `next_index` of `move_primary_focus` and `move_primary_panel_selection` -/
def nextIndex (current : Option ℕ) (direction : PrimaryUiMoveDirection) (length : ℕ) : ℕ :=
  match current, direction with
  | some index, .forward => (index + 1) % length
  | some 0, .backward => length - 1
  | none, .backward => length - 1
  | some (index + 1), .backward => index
  | none, .forward => 0

namespace BrowserSession

variable {E : Type} [EnginePort E]

/-- The value, or a panic without one.
Source: `.expect(..)` and indexing -/
def expect {α : Type} (value : Option α) (message : String) : SessionCall E α :=
  match value with
  | some a => pure a
  | none => fun _ => .halt (.panic message)

variable (snapshot : PrimaryUiSnapshot) (controls : List PrimaryUiControlSnapshot)
  (window : BrowserWindowId) (direction : PrimaryUiMoveDirection)

/-- Source: `control_snapshot` -/
def controlSnapshot (control : PrimaryUiControl) : SessionCall E PrimaryUiControlSnapshot :=
  expect (controls.find? fun candidate => candidate.control = control)
    "primary snapshot contains every fixed control"

/-- The rows of a panel for controls.
Source: the `ApplicationMenu` arm of `primary_panel_items` -/
def applicationMenuRow
    (focused : Option PrimaryUiPanelItemId) (row : PrimaryUiPanelItemId × PrimaryUiControl) :
    SessionCall E PrimaryUiPanelItemSnapshot := do
  let control ← controlSnapshot controls row.2
  pure (panelRow row.1 control.name control.enabled .invoke false focused
    (.invokeControl control.control))

/-- Source: the `Overflow` arm of `primary_panel_items`, which gives the row's selection the
control's expansion -/
def overflowRow (focused : Option PrimaryUiPanelItemId) (control : PrimaryUiControl) :
    SessionCall E PrimaryUiPanelItemSnapshot := do
  let snapshot ← controlSnapshot controls control
  pure (panelRow (.overflowControl control) snapshot.name snapshot.enabled snapshot.interaction
    snapshot.expanded focused (.invokeControl control))

/-- Source: `primary_panel_items` -/
def primaryPanelItems (window : WindowState) (panel : PrimaryUiPanel)
    (controls : List PrimaryUiControlSnapshot) (tabs : List PrimaryUiTabSnapshot) :
    SessionCall E (List PrimaryUiPanelItemSnapshot) := do
  reserve "could not reserve primary panel rows"
  let focused := window.primaryUi.panelSelected
  match panel with
  | .siteIdentity => do
    let identity ← controlSnapshot controls .siteIdentity
    pure [panelRow .identitySummary (identitySummary identity.siteIdentity) false .none false
      focused .none]
  | .allTabs => pure (tabs.map (allTabsRow focused))
  | .applicationMenu => do
    let rows ← Call.runAll (applicationMenuRow controls focused) applicationMenuControls
    pure (rows ++ [panelRow .applicationCloseTab "Close Tab".toList true .invoke false focused
      .closeActiveTab])
  | .overflow => Call.runAll (overflowRow controls focused) window.primaryUi.layout.overflowed.iter

/-- Source: `BrowserSession::primary_panel_snapshot` -/
def primaryPanelSnapshot (window : WindowState) (panel : PrimaryUiPanel)
    (controls : List PrimaryUiControlSnapshot) (tabs : List PrimaryUiTabSnapshot) :
    SessionCall E PrimaryUiPanelSnapshot := do
  let items ← primaryPanelItems window panel controls tabs
  let selected := window.primaryUi.panelSelected.bind fun selected =>
    items.findIdx? fun item => item.id = selected
  pure {
    panel := panel
    anchor := panel.anchor
    items := items
    selected := window.primaryUi.panelSelected
    scrollOffset := panelStart window.primaryUi panel items.length selected
    visibleCapacity := window.primaryUi.layout.panelRowCapacity
    totalRows := items.length }

/-- Source: `window.primary_ui.panel.map(..).transpose()` of `primary_ui_snapshot` -/
def openPanelSnapshot (window : WindowState) (controls : List PrimaryUiControlSnapshot)
    (tabs : List PrimaryUiTabSnapshot) : SessionCall E (Option PrimaryUiPanelSnapshot) :=
  match window.primaryUi.panel with
  | none => pure none
  | some panel => do
    let snapshot ← primaryPanelSnapshot window panel controls tabs
    pure (some snapshot)

/-- Source: the tab snapshot of `primary_ui_snapshot` -/
def tabSnapshotOf (window : WindowState) (tab : BrowserTabId) :
    SessionCall E PrimaryUiTabSnapshot := do
  let state ← getTab tab
  pure (snapshotTab window tab state)

/-- Source: `BrowserSession::primary_ui_snapshot` -/
def primaryUiSnapshot (windowId : BrowserWindowId) : SessionCall E PrimaryUiSnapshot := do
  let window ← getWindow windowId
  Call.check (validPrimaryFocus window.primaryUi.focus)
    (.invalidPrimaryUiFocus window.primaryUi.focus)
  let active ← getTab window.active
  let s ← Call.read
  reserve "could not reserve primary control snapshot"
  let controls := PrimaryUiControl.all.map
    (snapshotControl window (s.primaryControlFacts window active))
  reserve "could not reserve primary tab snapshot"
  let tabs ← Call.runAll (tabSnapshotOf window) window.tabs
  let panel ← openPanelSnapshot window controls tabs
  reserve "could not reserve primary semantic nodes"
  pure {
    window := windowId
    revision := window.primaryUi.revision
    direction := window.primaryUi.direction
    focus := window.primaryUi.focus
    controls := controls
    tabs := tabs
    panel := panel
    semantics := primarySemanticNodes window controls tabs panel }

/-! ## Direction and layout -/

/-- Source: `BrowserSession::set_primary_ui_direction` -/
def setPrimaryUiDirection (direction : PrimaryUiDirection) : SessionCall E PrimaryUiRevision := do
  ensureRunning
  let state ← getWindow window
  if state.primaryUi.direction = direction then pure state.primaryUi.revision
  else do
    modifyPrimaryUi window fun ui => { ui with direction := direction }
    bumpPrimaryUiRevision window

/-- The focus after a layout hid its control. -/
def relocateFocus (layout : PrimaryUiLayout) (focus : PrimaryUiFocus) : PrimaryUiFocus :=
  match focus with
  | .control control =>
    if control ∉ layout.visible then
      if .overflow ∈ layout.visible then .control .overflow else .page
    else focus
  | _ => focus

/-- The state under a new layout.
Source: the changes of `state` in `set_primary_ui_layout` -/
def withLayout (layout : PrimaryUiLayout) (ui : PrimaryUiWindowState) : PrimaryUiWindowState :=
  let closes := (ui.panel.any fun panel => panel.anchor ∉ layout.visible) ∨
    (ui.panel.isSome ∧ layout.panelRowCapacity = 0) ∨
    (ui.panel = some .overflow ∧ ui.layout.overflowed ≠ layout.overflowed)
  let ui := { ui with layout := layout }
  let ui := if closes then ui.closePanel .page else ui
  { ui with focus := relocateFocus layout ui.focus }

/-- Source: `BrowserSession::set_primary_ui_layout` -/
def setPrimaryUiLayout (layout : PrimaryUiLayout) : SessionCall E PrimaryUiRevision := do
  ensureRunning
  let state ← getWindow window
  if state.primaryUi.layout = layout then pure state.primaryUi.revision
  else do
    modifyPrimaryUi window (withLayout layout)
    bumpPrimaryUiRevision window

/-! ## Focus -/

/-- Source: `BrowserSession::active_tab` -/
def activeTab : SessionCall E BrowserTabId := do
  let state ← getWindow window
  pure state.active

/-- Source: `BrowserSession::set_active_tab_focus` -/
def setActiveTabFocus (focus : TabFocus) : SessionCall E Unit := do
  let tab ← activeTab window
  modifyTab tab fun state =>
    { state with
      focus := focus
      address := if focus = .content then state.address.clearPreedit else state.address }

/-- Source: `BrowserSession::active_tab_primary_focus` -/
def activeTabPrimaryFocus : SessionCall E PrimaryUiFocus := do
  let tab ← activeTab window
  let state ← getTab tab
  pure state.focus.primaryUiFocus

/-- Source: `BrowserSession::set_primary_focus` -/
def setPrimaryFocus (focus : PrimaryUiFocus) : SessionCall E Unit := do
  Call.check (validPrimaryFocus focus) (.invalidPrimaryUiFocus focus)
  setActiveTabFocus window (if focus = .addressBar then .address else .content)
  modifyPrimaryUi window fun ui => { ui with focus := focus }

/-- Source: `BrowserSession::window_contains_tab` -/
def windowContainsTab (tab : BrowserTabId) : SessionCall E Bool := do
  let state ← getWindow window
  pure (tab ∈ state.tabs)

/-! ## Panels -/

/-- Source: the `closing` branch of `toggle_primary_panel`; no panel is anchored at the address
bar, so the focus goes to the anchor -/
def closeOpenPanel (anchor : PrimaryUiControl) : SessionCall E PrimaryUiActionOutcome := do
  setActiveTabFocus window .content
  modifyPrimaryUi window fun ui =>
    ui.closePanel (if anchor = .addressBar then .addressBar else .control anchor)
  let _ ← bumpPrimaryUiRevision window
  pure (.panelChanged none)

/-- Open a panel with one of its rows selected.
Source: the second half of `toggle_primary_panel` -/
def openPanel (panel : PrimaryUiPanel)
    (items : List PrimaryUiPanelItemSnapshot) : SessionCall E PrimaryUiActionOutcome := do
  let active ← activeTab window
  let selected :=
    if panel = .allTabs then some (PrimaryUiPanelItemId.allTabsTab active)
    else (items.find? fun item => item.enabled).map PrimaryUiPanelItemSnapshot.id
  let index := selected.bind fun id => items.findIdx? fun item => item.id = id
  setActiveTabFocus window .content
  modifyPrimaryUi window fun ui =>
    { ui with
      panel := some panel
      panelSelected := selected
      allTabsScroll := index.elim 0 fun index => index + 1 - ui.layout.panelRowCapacity
      focus := selected.elim (.control panel.anchor) .panelItem }
  let _ ← bumpPrimaryUiRevision window
  pure (.panelChanged (some panel))

/-- Source: `BrowserSession::toggle_primary_panel` -/
def togglePrimaryPanel (panel : PrimaryUiPanel) : SessionCall E PrimaryUiActionOutcome := do
  let snapshot ← primaryUiSnapshot window
  let control ← expect (snapshot.controls.find? fun candidate => candidate.control = panel.anchor)
    "snapshot contains panel anchor"
  if ¬control.visible ∨ ¬control.enabled then pure (.disabled (.control panel.anchor))
  else if snapshot.panel.any fun shown => shown.panel = panel then
    closeOpenPanel window panel.anchor
  else do
    let state ← getWindow window
    let items ← primaryPanelItems state panel snapshot.controls snapshot.tabs
    openPanel window panel items

/-- Source: `BrowserSession::dismiss_primary_panel` -/
def dismissPrimaryPanel : SessionCall E PrimaryUiActionOutcome := do
  let state ← getWindow window
  match state.primaryUi.panel with
  | some panel => do
    modifyPrimaryUi window fun ui => ui.closePanel (.control panel.anchor)
    let _ ← bumpPrimaryUiRevision window
    pure (.panelChanged none)
  | none =>
    match state.primaryUi.focus with
    | .page => pure .noChange
    | .addressBar => pure .noChange
    | .panelItem _ => pure .noChange
    | previous => do
      modifyPrimaryUi window fun ui => { ui with focus := .page }
      setActiveTabFocus window .content
      let _ ← bumpPrimaryUiRevision window
      pure (.focusChanged previous .page)

/-- Source: `BrowserSession::close_primary_panel_after_command` -/
def closePrimaryPanelAfterCommand : SessionCall E Unit := do
  let s ← Call.read
  match s.windows.lookup window with
  | none => pure ()
  | some state => do
    let restored ← activeTabPrimaryFocus window
    if state.primaryUi.panel.isNone then pure ()
    else do
      modifyPrimaryUi window fun ui => ui.closePanel restored
      let _ ← bumpPrimaryUiRevision window
      pure ()

/-! ## Actions -/

/-- The command of a control that is enabled.
Source: the `match control` of `invoke_primary_control` -/
def commandControl (snapshot : PrimaryUiControlSnapshot)
    (tab : BrowserTabId) (control : PrimaryUiControl) : SessionCall E PrimaryUiActionOutcome :=
  match control with
  | .back => .command <$> goHistory tab false
  | .forward => .command <$> goHistory tab true
  | .reloadStop =>
    match snapshot.reloadStopMode with
    | some .reload => .command <$> reload tab
    | some .stop => .command <$> stop tab
    | none => pure (.disabled (.control control))
  | .siteIdentity => togglePrimaryPanel window .siteIdentity
  | .addressBar => .command <$> focusAddress window
  | .newTab => .command <$> openTab window
  | .allTabs => togglePrimaryPanel window .allTabs
  | .applicationMenu => togglePrimaryPanel window .applicationMenu
  | .overflow => togglePrimaryPanel window .overflow

/-- Source: `BrowserSession::invoke_primary_control` -/
def invokePrimaryControl (control : PrimaryUiControl)
    (fromPanel : Bool) : SessionCall E PrimaryUiActionOutcome := do
  let snapshot ← primaryUiSnapshot window
  let shown ← expect (snapshot.controls.find? fun candidate => candidate.control = control)
    "snapshot contains every fixed primary control"
  if ¬shown.enabled ∨ (¬shown.visible ∧ (¬fromPanel ∨ ¬shown.overflowed)) then
    pure (.disabled (.control control))
  else do
    let tab ← activeTab window
    commandControl window shown tab control

/-- A command on a tab that also closes the panel it came from. -/
def commandAndClosePanel
    (command : SessionCall E BrowserCommandOutcome) : SessionCall E PrimaryUiActionOutcome := do
  let outcome ← command
  closePrimaryPanelAfterCommand window
  pure (.command outcome)

/-- Source: the `match row.action` of `activate_primary_panel_item` -/
def performPanelItem (item : PrimaryUiPanelItemId)
    (action : PrimaryUiPanelItemAction) : SessionCall E PrimaryUiActionOutcome :=
  match action with
  | .none => pure (.disabled (.panelItem item))
  | .activateTab tab => commandAndClosePanel window (activateTab tab)
  | .invokeControl control => do
    let outcome ← invokePrimaryControl window control true
    if outcome.isCommand then do
      closePrimaryPanelAfterCommand window
      pure outcome
    else pure outcome
  | .closeActiveTab => do
    let tab ← activeTab window
    commandAndClosePanel window (closeTab tab)

/-- Source: `BrowserSession::activate_primary_panel_item` -/
def activatePrimaryPanelItem (item : PrimaryUiPanelItemId) :
    SessionCall E PrimaryUiActionOutcome := do
  let snapshot ← primaryUiSnapshot window
  match snapshot.panel with
  | none => pure (.disabled (.panelItem item))
  | some panel => do
    let state ← getWindow window
    let items ← primaryPanelItems state panel.panel snapshot.controls snapshot.tabs
    match items.find? fun candidate => candidate.id = item with
    | none => pure (.disabled (.panelItem item))
    | some row =>
      if row.enabled then performPanelItem window item row.action
      else pure (.disabled (.panelItem item))

/-- Source: `push_focusable_control` -/
def focusableControl (control : PrimaryUiControl) : SessionCall E (List PrimaryUiFocus) := do
  let shown ← controlSnapshot snapshot.controls control
  pure (if shown.visible ∧ shown.enabled then [.control shown.control] else [])

/-- Source: `primary_focus_candidates` -/
def primaryFocusCandidates (toolbarOnly : Bool) : SessionCall E (List PrimaryUiFocus) := do
  let active ← okOr (snapshot.tabs.find? fun tab => tab.selected)
    (.primaryUiResource "primary snapshot has no selected tab")
  reserve "could not reserve primary focus order"
  let tabStrip ← Call.runAll (focusableControl snapshot)
    (if toolbarOnly then [] else [.newTab, .allTabs])
  let buttons ← Call.runAll (focusableControl snapshot)
    [.back, .forward, .reloadStop, .siteIdentity]
  let address ← controlSnapshot snapshot.controls .addressBar
  let menus ← Call.runAll (focusableControl snapshot) [.overflow, .applicationMenu]
  pure ((if toolbarOnly then [] else [.tab active.tab]) ++ tabStrip.flatten ++ buttons.flatten ++
    (if address.visible ∧ address.enabled ∧ ¬toolbarOnly then [.addressBar] else []) ++
    menus.flatten ++ if toolbarOnly then [] else [.page])

/-- Source: `BrowserSession::move_primary_focus` -/
def movePrimaryFocus (toolbarOnly : Bool) : SessionCall E PrimaryUiActionOutcome := do
  let snapshot ← primaryUiSnapshot window
  let direction :=
    if toolbarOnly ∧ snapshot.direction = .rightToLeft then direction.reverse else direction
  let candidates ← primaryFocusCandidates snapshot toolbarOnly
  if candidates = [] then pure .noChange
  else do
    let index := candidates.findIdx? fun candidate => candidate = snapshot.focus
    let current ← expect candidates[nextIndex index direction candidates.length]?
      "swap_remove index out of range"
    if current = snapshot.focus then pure .noChange
    else do
      setPrimaryFocus window current
      let _ ← bumpPrimaryUiRevision window
      pure (.focusChanged snapshot.focus current)

/-- Source: `BrowserSession::move_primary_document_focus` -/
def movePrimaryDocumentFocus : SessionCall E PrimaryUiActionOutcome := do
  let state ← getWindow window
  let previous := state.primaryUi.focus
  let current := if previous = .page then PrimaryUiFocus.addressBar else .page
  setPrimaryFocus window current
  modifyPrimaryUi window fun ui => { ui with panel := none, panelSelected := none }
  let _ ← bumpPrimaryUiRevision window
  pure (.focusChanged previous current)

/-- The scroll position that shows a row.
Source: the adjustment of `all_tabs_scroll` in `move_primary_panel_selection` -/
def scrollTo (ui : PrimaryUiWindowState) (row : ℕ) : ℕ :=
  if row < ui.allTabsScroll then row
  else if ui.allTabsScroll + ui.layout.panelRowCapacity ≤ row then
    row + 1 - ui.layout.panelRowCapacity
  else ui.allTabsScroll

/-- Source: `BrowserSession::move_primary_panel_selection` -/
def movePrimaryPanelSelection : SessionCall E PrimaryUiActionOutcome := do
  let snapshot ← primaryUiSnapshot window
  match snapshot.panel with
  | none => pure .noChange
  | some panel => do
    let state ← getWindow window
    let items ← primaryPanelItems state panel.panel snapshot.controls snapshot.tabs
    let enabled := (items.filter fun item => item.enabled).map PrimaryUiPanelItemSnapshot.id
    if enabled = [] then pure .noChange
    else do
      let state ← getWindow window
      let previous := state.primaryUi.panelSelected
      let index := previous.bind fun item => enabled.findIdx? fun id => id = item
      let next ← expect enabled[nextIndex index direction enabled.length]?
        "index out of bounds"
      if previous = some next then pure .noChange
      else do
        let row ← expect (items.findIdx? fun item => item.id = next)
          "enabled item came from all panel rows"
        modifyPrimaryUi window fun ui =>
          { ui with
            panelSelected := some next
            focus := .panelItem next
            allTabsScroll := scrollTo ui row }
        let _ ← bumpPrimaryUiRevision window
        pure (.focusChanged (previous.elim (.control panel.anchor) .panelItem) (.panelItem next))

/-- The first row after a scroll, if it moves.
Source: `next` of `scroll_primary_panel` -/
def scrolledRow (state : WindowState) (direction : PrimaryUiMoveDirection) (rows : ℕ) : Option ℕ :=
  let capacity := state.primaryUi.layout.panelRowCapacity
  if state.primaryUi.panel ≠ some .allTabs ∨ capacity = 0 ∨ state.tabs.length ≤ capacity then none
  else
    let maximumStart := state.tabs.length - capacity
    let current := min state.primaryUi.allTabsScroll maximumStart
    let next :=
      match direction with
      | .forward => min (current + rows) maximumStart
      | .backward => current - rows
    if next = current then none else some next

/-- Source: `BrowserSession::scroll_primary_panel` -/
def scrollPrimaryPanel (rows : ℕ) : SessionCall E PrimaryUiActionOutcome := do
  if rows = 0 ∨ maxPrimaryUiScrollRows < rows then pure .noChange
  else do
    let state ← getWindow window
    match scrolledRow state direction rows with
    | none => pure .noChange
    | some next => do
      setActiveTabFocus window .content
      modifyPrimaryUi window fun ui =>
        { ui with allTabsScroll := next, panelSelected := none, focus := .control .allTabs }
      let _ ← bumpPrimaryUiRevision window
      pure (.panelScrolled .allTabs next)

/-- A command on a tab of the window, or its refusal for a tab of another one. -/
def ownTabCommand (tab : BrowserTabId) (element : PrimaryUiElementId)
    (command : SessionCall E BrowserCommandOutcome) : SessionCall E PrimaryUiActionOutcome := do
  if ← windowContainsTab window tab then commandAndClosePanel window command
  else pure (.disabled element)

/-- The action that activates what has the focus.
Source: the `ActivateFocused` arm of `dispatch_primary_ui_action` -/
def focusedAction : PrimaryUiFocus → Option PrimaryUiAction
  | .tab tab => some (.activateTab tab)
  | .control control => some (.invokeControl control)
  | .panelItem item => some (.activatePanelItem item)
  | .page => none
  | .addressBar => none

/-- Source: the `match action` of `dispatch_primary_ui_action`; `again` is its recursive call -/
def performPrimaryUiAction
    (again : PrimaryUiAction → SessionCall E PrimaryUiActionOutcome) (action : PrimaryUiAction) :
    SessionCall E PrimaryUiActionOutcome :=
  match action with
  | .focusPage => do
    let tab ← activeTab window
    .command <$> focusContent tab
  | .invokeControl control => invokePrimaryControl window control false
  | .activateTab tab => ownTabCommand window tab (.tab tab) (activateTab tab)
  | .closeTab tab => ownTabCommand window tab (.tabClose tab) (closeTab tab)
  | .activatePanelItem item => activatePrimaryPanelItem window item
  | .dismissPanel => dismissPrimaryPanel window
  | .moveDocumentFocus _ => movePrimaryDocumentFocus window
  | .moveFocus direction => do
    let state ← getWindow window
    if state.primaryUi.panel.isSome then movePrimaryPanelSelection window direction
    else movePrimaryFocus window direction false
  | .moveToolbarFocus direction => movePrimaryFocus window direction true
  | .movePanelSelection direction => movePrimaryPanelSelection window direction
  | .scrollPanel direction rows => scrollPrimaryPanel window direction rows
  | .activateFocused => do
    let state ← getWindow window
    match focusedAction state.primaryUi.focus with
    | none => pure .noChange
    | some action => again action

/-- The checks of a dispatch, and the action if they are passed. -/
def dispatchCurrent (expected : PrimaryUiRevision)
    (perform : SessionCall E PrimaryUiActionOutcome) : SessionCall E PrimaryUiActionOutcome := do
  ensureRunning
  let current ← primaryUiRevision window
  if current ≠ expected then pure (.stale expected current) else perform

/-- What has the focus is never activated by `activateFocused`, so the recursion of the source is
one level deep.
Source: `BrowserSession::dispatch_primary_ui_action` -/
def dispatchPrimaryUiAction (expected : PrimaryUiRevision)
    (action : PrimaryUiAction) : SessionCall E PrimaryUiActionOutcome :=
  dispatchCurrent window expected <|
    performPrimaryUiAction window
      (fun action => dispatchCurrent window expected <|
        performPrimaryUiAction window (fun _ => pure .noChange) action)
      action

/-- Source: `scroll_binding` of `dispatch_primary_ui_binding` -/
def scrollBinding : PrimaryUiAction → Option PrimaryUiActionBinding
  | .scrollPanel direction rows => snapshot.bindPanelScroll direction rows
  | _ => none

/-- Source: `BrowserSession::dispatch_primary_ui_binding` -/
def dispatchPrimaryUiBinding (binding : PrimaryUiActionBinding) :
    SessionCall E PrimaryUiActionOutcome := do
  let current ← primaryUiRevision binding.window
  if current ≠ binding.revision then pure (.stale binding.revision current)
  else do
    let snapshot ← primaryUiSnapshot binding.window
    if snapshot.bindAction binding.source ≠ some binding ∧
        snapshot.bindPanelDismissal ≠ some binding ∧
        scrollBinding snapshot binding.action ≠ some binding then
      pure (.disabled binding.source)
    else dispatchPrimaryUiAction binding.window binding.revision binding.action

end BrowserSession

end WildBuzzard.Ui
