import WildBuzzard.Ui.State

/-!
# What the chrome of a window offers, and the repair of its focus

Which controls of a window are enabled is computed from the window, its active tab and the session's
limits. Every visible change of a window ends in `bumpPrimaryUiRevision`: it repairs a focus that
lost its target and gives the window its next revision. **Without a next revision the session
fails**; no other step here can end it.
-/

namespace WildBuzzard.Ui

open Lib Engine

/-! ## Site identity -/

/-- Source: `http_authority_is_numeric_loopback`, the digits of a port -/
def isPort (port : List Char) : Bool := port ≠ [] ∧ port.all fun c => c.isDigit

/-- A decimal octet without leading zeros.
Source: `Ipv4Addr::from_str` of the standard library -/
def octet (digits : List Char) : Option ℕ :=
  if digits ≠ [] ∧ digits.length ≤ 3 ∧ digits.all (fun c => c.isDigit) ∧
      (digits.length = 1 ∨ digits.head? ≠ some '0') then
    let value := digits.foldl (fun n c => 10 * n + (c.toNat - '0'.toNat)) 0
    if value ≤ 255 then some value else none
  else none

/-- Source: `host.parse::<Ipv4Addr>().is_ok_and(|address| address.is_loopback())` -/
def isLoopbackIpv4 (host : List Char) : Bool :=
  match (host.splitOn '.').map octet with
  | [some first, some _, some _, some _] => first = 127
  | _ => false

/-- The text before the last occurrence of a character and the text after it.
Source: `str::rsplit_once` -/
def rsplitOnce (c : Char) (text : List Char) : Option (List Char × List Char) :=
  if c ∈ text then
    let after := (text.reverse.takeWhile fun d => d ≠ c).reverse
    some (text.take (text.length - after.length - 1), after)
  else none

/-- The text before the first occurrence of a character and the text after it.
Source: `str::split_once` -/
def splitOnce (c : Char) (text : List Char) : Option (List Char × List Char) :=
  if c ∈ text then
    let before := text.takeWhile fun d => d ≠ c
    some (before, text.drop (before.length + 1))
  else none

/-- Source: `http_authority_is_numeric_loopback` -/
def httpAuthorityIsNumericLoopback (address : List Char) : Bool :=
  if "http://".toList.isPrefixOf address then
    let afterScheme := address.drop 7
    let authority := afterScheme.takeWhile fun c => c ≠ '/' ∧ c ≠ '?' ∧ c ≠ '#'
    let hostAndPort := ((rsplitOnce '@' authority).map Prod.snd).getD authority
    match hostAndPort with
    | '[' :: bracketed =>
      match splitOnce ']' bracketed with
      | none => false
      | some (host, suffix) =>
        decide (host = "::1".toList) &&
          match suffix with
          | [] => true
          | ':' :: port => isPort port
          | _ => false
    | _ =>
      match rsplitOnce ':' hostAndPort with
      | some (host, port) =>
        if isPort port then isLoopbackIpv4 host else isLoopbackIpv4 hostAndPort
      | none => isLoopbackIpv4 hostAndPort
  else false

/-- Source: `classify_site_identity` -/
def classifySiteIdentity (page : Option HistoryEntry) : PrimarySiteIdentityKind :=
  match page with
  | none => .noPage
  | some entry =>
    if entry.commit.map HistoryCommitState.connectionSecurity = some .cleartext ∧
        "http://".toList.isPrefixOf entry.address then
      if httpAuthorityIsNumericLoopback entry.address then .loopbackHttp else .insecureHttp
    else .unverified

/-! ## Control facts -/

/-- Source: `PrimaryControlFacts` -/
structure PrimaryControlFacts where
  enabled : Bool
  interaction : PrimaryUiInteraction
  reloadStopMode : Option PrimaryReloadStopMode
  siteIdentity : Option PrimarySiteIdentityKind
  deriving DecidableEq, Repr

/-- The history entry of the page that is shown.
Source: `displayed_entry` of `primary_control_facts` -/
def TabRecord.displayedEntry (tab : TabRecord) : Option HistoryEntry :=
  tab.liveNavigation.bind fun navigation =>
    tab.history.find? fun entry => entry.navigation = navigation

namespace BrowserSession

variable {E : Type}

/-- Source: `BrowserSession::primary_control_facts` -/
def primaryControlFacts (s : BrowserSession E) (window : WindowState) (active : TabState) :
    PrimaryUiControl → PrimaryControlFacts :=
  let canBack := active.historyIndex.any fun index => 0 < index
  let canForward := active.historyIndex.any fun index => index + 1 < active.history.length
  let loading := active.loading.isSome
  let popupAvailable := window.primaryUi.layout.panelRowCapacity ≠ 0
  fun
  | .back => ⟨canBack, .invoke, none, none⟩
  | .forward => ⟨canForward, .invoke, none, none⟩
  | .reloadStop =>
    ⟨if loading then !active.stopRequested else active.historyIndex.isSome, .invoke,
      some (if loading then .stop else .reload), none⟩
  | .siteIdentity =>
    ⟨active.displayedEntry.isSome && !active.address.dirty && popupAvailable, .togglePanel, none,
      some (classifySiteIdentity active.displayedEntry)⟩
  | .addressBar => ⟨true, .edit, none, none⟩
  | .newTab =>
    ⟨window.tabs.length < s.limits.maxTabsPerWindow ∧ s.tabs.size < s.limits.maxTotalTabs,
      .invoke, none, none⟩
  | .allTabs => ⟨popupAvailable, .togglePanel, none, none⟩
  | .applicationMenu => ⟨popupAvailable, .togglePanel, none, none⟩
  | .overflow =>
    ⟨window.primaryUi.layout.overflowed.iter ≠ [] ∧ popupAvailable, .togglePanel, none, none⟩

end BrowserSession

/-- The rows of the application menu, in order. -/
def applicationMenuItems : List PrimaryUiPanelItemId :=
  [.applicationNewTab, .applicationBack, .applicationForward, .applicationReloadStop,
    .applicationCloseTab]

variable (window : WindowState) (panel : PrimaryUiPanel) (item : PrimaryUiPanelItemId)
  (facts : PrimaryUiControl → PrimaryControlFacts)

/-- Source: `primary_panel_item_is_enabled` -/
def primaryPanelItemIsEnabled : Bool :=
  match panel, item with
  | .allTabs, .allTabsTab tab => tab ∈ window.tabs
  | .applicationMenu, .applicationNewTab => (facts .newTab).enabled
  | .applicationMenu, .applicationCloseTab => window.tabs ≠ []
  | .applicationMenu, .applicationBack => (facts .back).enabled
  | .applicationMenu, .applicationForward => (facts .forward).enabled
  | .applicationMenu, .applicationReloadStop => (facts .reloadStop).enabled
  | .overflow, .overflowControl control =>
    control ∈ window.primaryUi.layout.overflowed ∧ (facts control).enabled
  | _, _ => false

/-- Source: `first_enabled_primary_panel_item` -/
def firstEnabledPrimaryPanelItem : Option PrimaryUiPanelItemId :=
  match panel with
  | .siteIdentity => none
  | .allTabs =>
    ((window.tabs.find? fun tab => tab = window.active).or window.tabs.head?).map .allTabsTab
  | .applicationMenu =>
    applicationMenuItems.find? fun item => primaryPanelItemIsEnabled window panel item facts
  | .overflow =>
    (window.primaryUi.layout.overflowed.iter.map PrimaryUiPanelItemId.overflowControl).find?
      fun item => primaryPanelItemIsEnabled window panel item facts

/-- Source: `primary_panel_item_index` -/
def primaryPanelItemIndex : Option ℕ :=
  match panel, item with
  | .siteIdentity, .identitySummary => some 0
  | .allTabs, .allTabsTab tab => window.tabs.findIdx? fun candidate => candidate = tab
  | .applicationMenu, item => applicationMenuItems.findIdx? fun candidate => candidate = item
  | .overflow, .overflowControl control =>
    window.primaryUi.layout.overflowed.iter.findIdx? fun candidate => candidate = control
  | _, _ => none

/-! ## Repair of the focus -/

/-- Source: `PrimaryFocusRepair` -/
inductive PrimaryFocusRepair where
  | none
  | content
  | page (closePanel : Bool)
  | panel (focus : PrimaryUiFocus) (selected : Option PrimaryUiPanelItemId) (allTabsScroll : ℕ)
  deriving DecidableEq, Repr

/-- The repair of a focus on a panel item.
Source: the `PanelItem` arm of `repair_primary_focus` -/
def panelItemRepair (item : PrimaryUiPanelItemId) : PrimaryFocusRepair :=
  match window.primaryUi.panel with
  | none => .page false
  | some panel =>
    if window.primaryUi.panelSelected = some item ∧
        primaryPanelItemIsEnabled window panel item facts then
      .none
    else
      let selected := firstEnabledPrimaryPanelItem window panel facts
      let index := selected.bind fun item => primaryPanelItemIndex window panel item
      .panel (selected.elim (.control panel.anchor) .panelItem) selected
        (index.elim 0 fun index => index + 1 - window.primaryUi.layout.panelRowCapacity)

/-- The repair of a focus whose target is gone.
Source: the `match window_state.primary_ui.focus` of `repair_primary_focus` -/
def targetRepair : PrimaryUiFocus → Except SessionError PrimaryFocusRepair
  | .control control =>
    if control = .addressBar then .error (.invalidPrimaryUiFocus (.control control))
    else if control ∉ window.primaryUi.layout.visible ∨ ¬(facts control).enabled then
      .ok (.page window.primaryUi.panel.isSome)
    else .ok .none
  | .panelItem item => .ok (panelItemRepair window facts item)
  | _ => .ok .none

/-- The repair a window needs.
Source: the block of `repair_primary_focus` -/
def focusRepair (active : TabState)
    (facts : PrimaryUiControl → PrimaryControlFacts) : Except SessionError PrimaryFocusRepair :=
  let ui := window.primaryUi
  if ui.focus = .addressBar ∧ active.focus ≠ .address then .ok (.page ui.panel.isSome)
  else if ui.focus ≠ .addressBar ∧ active.focus = .address then .ok .content
  else if ui.panel.any fun panel =>
      panel.anchor ∉ ui.layout.visible ∨ ¬(facts panel.anchor).enabled ∨
        ui.layout.panelRowCapacity = 0 then
    .ok (.page true)
  else targetRepair window facts ui.focus

namespace BrowserSession

variable {E : Type} [EnginePort E]

variable (window : BrowserWindowId)

/-- Source: `BrowserSession::primary_ui_revision` -/
def primaryUiRevision : SessionCall E PrimaryUiRevision := do
  let state ← getWindow window
  pure state.primaryUi.revision

/-- The tab gives up the keyboard and any composition. -/
def focusTabContent (state : TabState) : TabState :=
  { state with focus := .content, address := state.address.clearPreedit }

/-- The chrome with the focus on the page or a panel. -/
def takeFocus (focus : PrimaryUiFocus) (selected : Option PrimaryUiPanelItemId) (scroll : ℕ)
    (closePanel : Bool) (ui : PrimaryUiWindowState) : PrimaryUiWindowState :=
  { ui with
    focus := focus
    panelSelected := selected
    allTabsScroll := scroll
    panel := if closePanel then none else ui.panel }

/-- Give the focus to the page or a panel.
Source: the second half of `apply_primary_focus_repair` -/
def applyFocus (focus : PrimaryUiFocus)
    (selected : Option PrimaryUiPanelItemId) (scroll : ℕ) (closePanel : Bool) :
    SessionCall E Unit := do
  let state ← getWindow window
  modifyTab state.active focusTabContent
  modifyPrimaryUi window (takeFocus focus selected scroll closePanel)

/-- Source: `BrowserSession::apply_primary_focus_repair` -/
def applyPrimaryFocusRepair (repair : PrimaryFocusRepair) : SessionCall E Unit :=
  match repair with
  | .none => pure ()
  | .content => do
    let state ← getWindow window
    modifyTab state.active focusTabContent
  | .page closePanel => applyFocus window .page none 0 closePanel
  | .panel focus selected allTabsScroll => applyFocus window focus selected allTabsScroll false

/-- Source: `BrowserSession::repair_primary_focus` -/
def repairPrimaryFocus : SessionCall E Unit := do
  let state ← getWindow window
  let active ← getTab state.active
  let s ← Call.read
  let repair ← Call.ofExcept (focusRepair state active (s.primaryControlFacts state active))
  applyPrimaryFocusRepair window repair

/-- Source: `BrowserSession::bump_primary_ui_revision` -/
def bumpPrimaryUiRevision : SessionCall E PrimaryUiRevision := do
  repairPrimaryFocus window
  let state ← getWindow window
  match state.primaryUi.bump with
  | none => fail (.primaryUiRevisionExhausted window)
  | some bumped => do
    modifyPrimaryUi window fun _ => bumped
    primaryUiRevision window

/-- Source: `BrowserSession::bump_primary_ui_for_tab` -/
def bumpPrimaryUiForTab (tab : BrowserTabId) : SessionCall E PrimaryUiRevision := do
  let state ← getTab tab
  bumpPrimaryUiRevision state.window

end BrowserSession

end WildBuzzard.Ui
