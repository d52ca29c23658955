import Mathlib.Data.Finset.Basic
import WildBuzzard.Lib.Checked
import WildBuzzard.Lib.NonZero

/-!
# The primary user interface of a window

The fixed controls of the browser chrome, which of them a layout shows, the one panel that can be
open, who owns the keyboard focus, and the snapshot of all this that is drawn.

**A layout carries its own validity** (`PrimaryUiLayout`): the membership that `PrimaryUiLayout::new`
checks is a field, so a layout that hides the address bar, or shows the overflow button with nothing
behind it, cannot be built.
-/

namespace WildBuzzard.Ui

open Lib

/-- Source: `BrowserWindowId` -/
structure BrowserWindowId where
  id : NonZero ℕ
  deriving DecidableEq, Repr

/-- Source: `BrowserWindowId::new` -/
def BrowserWindowId.new (raw : ℕ) : Option BrowserWindowId := (NonZero.new raw).map .mk

/-- Source: `BrowserTabId` -/
structure BrowserTabId where
  id : NonZero ℕ
  deriving DecidableEq, Repr

/-- Source: `BrowserTabId::new` -/
def BrowserTabId.new (raw : ℕ) : Option BrowserTabId := (NonZero.new raw).map .mk

/-- Source: `MAX_PRIMARY_UI_PANEL_ROWS` -/
def maxPrimaryUiPanelRows : ℕ := 64

/-- Source: `MAX_PRIMARY_UI_LABEL_BYTES` -/
def maxPrimaryUiLabelBytes : ℕ := 256

/-- Source: `MAX_PRIMARY_UI_SCROLL_ROWS` -/
def maxPrimaryUiScrollRows : ℕ := 64

/-! ## Controls and layouts -/

/-- Source: `PrimaryUiDirection` -/
inductive PrimaryUiDirection where
  | leftToRight
  | rightToLeft
  deriving DecidableEq, Repr

/-- Source: `PrimaryUiControl` -/
inductive PrimaryUiControl where
  | back
  | forward
  | reloadStop
  | siteIdentity
  | addressBar
  | newTab
  | allTabs
  | applicationMenu
  | overflow
  deriving DecidableEq, Repr

/-- Source: `PrimaryUiControl::ALL` -/
def PrimaryUiControl.all : List PrimaryUiControl :=
  [.back, .forward, .reloadStop, .siteIdentity, .addressBar, .newTab, .allTabs, .applicationMenu,
    .overflow]

/-- Source: `PrimaryUiControlSet` -/
abbrev PrimaryUiControlSet : Type := Finset PrimaryUiControl

/-- The members in the order of the controls.
Source: `PrimaryUiControlSet::iter` -/
def PrimaryUiControlSet.iter (controls : PrimaryUiControlSet) : List PrimaryUiControl :=
  PrimaryUiControl.all.filter fun control => control ∈ controls

/-- Source: `PrimaryUiControlSet::wide_defaults` -/
def PrimaryUiControlSet.wideDefaults : PrimaryUiControlSet :=
  {.back, .forward, .reloadStop, .siteIdentity, .addressBar, .newTab, .allTabs, .applicationMenu}

/-- Source: `PrimaryUiLayoutError` -/
inductive PrimaryUiLayoutError where
  | overlappingMembership
  | missingControl (control : PrimaryUiControl)
  | missingRequiredControl
  | invalidOverflowMember
  | missingOverflowAnchor
  | spuriousOverflowAnchor
  | invalidPanelRowCapacity (actual maximum : ℕ)
  deriving DecidableEq, Repr

namespace PrimaryUiLayout

/-- The first check of the constructor that fails.
Source: `PrimaryUiLayout::new` -/
def refusal (visible overflowed : PrimaryUiControlSet) (panelRowCapacity : ℕ) :
    Option PrimaryUiLayoutError :=
  if (visible ∩ overflowed).Nonempty then some .overlappingMembership
  else
    match PrimaryUiControl.all.find? fun control =>
        control ≠ .overflow ∧ control ∉ visible ∧ control ∉ overflowed with
    | some control => some (.missingControl control)
    | none =>
      if ¬(.addressBar ∈ visible ∧ .allTabs ∈ visible ∧ .applicationMenu ∈ visible) then
        some .missingRequiredControl
      else if .addressBar ∈ overflowed ∨ .allTabs ∈ overflowed ∨ .applicationMenu ∈ overflowed ∨
          .overflow ∈ overflowed then
        some .invalidOverflowMember
      else if overflowed.Nonempty ∧ .overflow ∉ visible then some .missingOverflowAnchor
      else if ¬overflowed.Nonempty ∧ .overflow ∈ visible then some .spuriousOverflowAnchor
      else if maxPrimaryUiPanelRows < panelRowCapacity then
        some (.invalidPanelRowCapacity panelRowCapacity maxPrimaryUiPanelRows)
      else none

end PrimaryUiLayout

/-- A layout that the constructor let through.
Source: `PrimaryUiLayout` -/
structure PrimaryUiLayout where
  visible : PrimaryUiControlSet
  overflowed : PrimaryUiControlSet
  panelRowCapacity : ℕ
  membership : PrimaryUiLayout.refusal visible overflowed panelRowCapacity = none
  deriving DecidableEq

namespace PrimaryUiLayout

/-- Source: `PrimaryUiLayout::default` -/
def default : PrimaryUiLayout where
  visible := .wideDefaults
  overflowed := ∅
  panelRowCapacity := 16
  membership := by decide

end PrimaryUiLayout

/-! ## Panels and focus -/

/-- Source: `PrimaryUiPanel` -/
inductive PrimaryUiPanel where
  | siteIdentity
  | allTabs
  | applicationMenu
  | overflow
  deriving DecidableEq, Repr

/-- Source: `PrimaryUiPanel::anchor` -/
def PrimaryUiPanel.anchor : PrimaryUiPanel → PrimaryUiControl
  | .siteIdentity => .siteIdentity
  | .allTabs => .allTabs
  | .applicationMenu => .applicationMenu
  | .overflow => .overflow

/-- Source: `PrimaryUiPanelItemId` -/
inductive PrimaryUiPanelItemId where
  | identitySummary
  | allTabsTab (tab : BrowserTabId)
  | applicationNewTab
  | applicationCloseTab
  | applicationBack
  | applicationForward
  | applicationReloadStop
  | overflowControl (control : PrimaryUiControl)
  deriving DecidableEq, Repr

/-- Source: `PrimaryUiFocus` -/
inductive PrimaryUiFocus where
  | page
  | tab (tab : BrowserTabId)
  | control (control : PrimaryUiControl)
  | addressBar
  | panelItem (item : PrimaryUiPanelItemId)
  deriving DecidableEq, Repr

/-- Source: `PrimaryUiElementId` -/
inductive PrimaryUiElementId where
  | page
  | tab (tab : BrowserTabId)
  | tabClose (tab : BrowserTabId)
  | control (control : PrimaryUiControl)
  | panelItem (item : PrimaryUiPanelItemId)
  deriving DecidableEq, Repr

/-- Source: `PrimaryUiRevision` -/
structure PrimaryUiRevision where
  id : NonZero ℕ
  deriving DecidableEq, Repr

/-- Source: `PrimaryUiWindowState` -/
structure PrimaryUiWindowState where
  revision : PrimaryUiRevision
  direction : PrimaryUiDirection
  focus : PrimaryUiFocus
  panel : Option PrimaryUiPanel
  panelSelected : Option PrimaryUiPanelItemId
  allTabsScroll : ℕ
  layout : PrimaryUiLayout
  deriving DecidableEq

namespace PrimaryUiWindowState

/-- Source: `PrimaryUiWindowState::initial` -/
def initial : PrimaryUiWindowState where
  revision := ⟨⟨1, Nat.one_ne_zero⟩⟩
  direction := .leftToRight
  focus := .addressBar
  panel := none
  panelSelected := none
  allTabsScroll := 0
  layout := .default

/-- The state with the next revision, if there is one.
Source: `PrimaryUiWindowState::bump` -/
def bump (state : PrimaryUiWindowState) : Option PrimaryUiWindowState :=
  match checkedAdd state.revision.id.get 1 with
  | none => none
  | some next => (NonZero.new next).map fun id => { state with revision := ⟨id⟩ }

lemma focus_of_bump {state bumped : PrimaryUiWindowState} (h : state.bump = some bumped) :
    bumped.focus = state.focus := by
  unfold bump at h
  cases hnext : checkedAdd state.revision.id.get 1 with
  | none =>
    rw [hnext] at h
    simp at h
  | some next =>
    rw [hnext] at h
    obtain ⟨id, -, rfl⟩ := Option.map_eq_some_iff.mp h
    rfl

/-- The panel closed and the focus moved. -/
def closePanel (state : PrimaryUiWindowState) (focus : PrimaryUiFocus) : PrimaryUiWindowState :=
  { state with panel := none, panelSelected := none, focus := focus }

end PrimaryUiWindowState

/-! ## Actions -/

/-- Source: `PrimaryUiMoveDirection` -/
inductive PrimaryUiMoveDirection where
  | forward
  | backward
  deriving DecidableEq, Repr

/-- Source: `PrimaryUiAction` -/
inductive PrimaryUiAction where
  | focusPage
  | invokeControl (control : PrimaryUiControl)
  | activateTab (tab : BrowserTabId)
  | closeTab (tab : BrowserTabId)
  | activatePanelItem (item : PrimaryUiPanelItemId)
  | dismissPanel
  | moveDocumentFocus (direction : PrimaryUiMoveDirection)
  | moveFocus (direction : PrimaryUiMoveDirection)
  | moveToolbarFocus (direction : PrimaryUiMoveDirection)
  | movePanelSelection (direction : PrimaryUiMoveDirection)
  | scrollPanel (direction : PrimaryUiMoveDirection) (rows : ℕ)
  | activateFocused
  deriving DecidableEq, Repr

/-- Source: `PrimaryUiActionBinding` -/
structure PrimaryUiActionBinding where
  window : BrowserWindowId
  revision : PrimaryUiRevision
  source : PrimaryUiElementId
  action : PrimaryUiAction
  deriving DecidableEq, Repr

/-! ## Snapshots -/

/-- Source: `PrimaryReloadStopMode` -/
inductive PrimaryReloadStopMode where
  | reload
  | stop
  deriving DecidableEq, Repr

/-- Source: `PrimarySiteIdentityKind` -/
inductive PrimarySiteIdentityKind where
  | noPage
  | loopbackHttp
  | insecureHttp
  | unverified
  deriving DecidableEq, Repr

/-- Source: `PrimaryUiInteraction` -/
inductive PrimaryUiInteraction where
  | none
  | invoke
  | togglePanel
  | edit
  deriving DecidableEq, Repr

/-- Source: `PrimaryUiRole` -/
inductive PrimaryUiRole where
  | tab
  | button
  | textField
  | menu
  | menuItem
  | document
  | status
  deriving DecidableEq, Repr

/-- Source: `PrimaryUiControlSnapshot` -/
structure PrimaryUiControlSnapshot where
  control : PrimaryUiControl
  name : List Char
  enabled : Bool
  interaction : PrimaryUiInteraction
  visible : Bool
  overflowed : Bool
  expanded : Bool
  focused : Bool
  reloadStopMode : Option PrimaryReloadStopMode
  siteIdentity : Option PrimarySiteIdentityKind
  deriving DecidableEq, Repr

/-- Source: `PrimaryUiTabSnapshot` -/
structure PrimaryUiTabSnapshot where
  tab : BrowserTabId
  name : List Char
  selected : Bool
  loading : Bool
  focused : Bool
  closeEnabled : Bool
  deriving DecidableEq, Repr

/-- Source: `PrimaryUiPanelItemAction` -/
inductive PrimaryUiPanelItemAction where
  | none
  | activateTab (tab : BrowserTabId)
  | invokeControl (control : PrimaryUiControl)
  | closeActiveTab
  deriving DecidableEq, Repr

/-- Source: `PrimaryUiPanelItemSnapshot` -/
structure PrimaryUiPanelItemSnapshot where
  id : PrimaryUiPanelItemId
  name : List Char
  enabled : Bool
  interaction : PrimaryUiInteraction
  selected : Bool
  expanded : Bool
  focused : Bool
  action : PrimaryUiPanelItemAction
  deriving DecidableEq, Repr

/-- Source: `PrimaryUiPanelSnapshot` -/
structure PrimaryUiPanelSnapshot where
  panel : PrimaryUiPanel
  anchor : PrimaryUiControl
  items : List PrimaryUiPanelItemSnapshot
  selected : Option PrimaryUiPanelItemId
  scrollOffset : ℕ
  visibleCapacity : ℕ
  totalRows : ℕ
  deriving DecidableEq, Repr

/-- Source: `PrimaryUiSemanticNode` -/
structure PrimaryUiSemanticNode where
  id : PrimaryUiElementId
  role : PrimaryUiRole
  name : List Char
  enabled : Bool
  selected : Bool
  expanded : Bool
  focused : Bool
  visible : Bool
  deriving DecidableEq, Repr

/-- Source: `PrimaryUiSnapshot` -/
structure PrimaryUiSnapshot where
  window : BrowserWindowId
  revision : PrimaryUiRevision
  direction : PrimaryUiDirection
  focus : PrimaryUiFocus
  controls : List PrimaryUiControlSnapshot
  tabs : List PrimaryUiTabSnapshot
  panel : Option PrimaryUiPanelSnapshot
  semantics : List PrimaryUiSemanticNode
  deriving DecidableEq, Repr

namespace PrimaryUiSnapshot

variable (snapshot : PrimaryUiSnapshot)

/-- Whether a semantic node is offered for an element. -/
def offers (element : PrimaryUiElementId) : Bool :=
  snapshot.semantics.any fun node => node.id = element ∧ node.enabled ∧ node.visible

/-- The action of an offered element.
Source: the `match` of `PrimaryUiSnapshot::bind_action` -/
def actionOf : PrimaryUiElementId → Option PrimaryUiAction
  | .page => some .focusPage
  | .tab tab => some (.activateTab tab)
  | .tabClose tab => some (.closeTab tab)
  | .control control => some (.invokeControl control)
  | .panelItem item => do
    let panel ← snapshot.panel
    let row ← panel.items.find? fun candidate => candidate.id = item
    if row.action = .none then none else some (.activatePanelItem item)

/-- Source: `PrimaryUiSnapshot::bind_action` -/
def bindAction (element : PrimaryUiElementId) : Option PrimaryUiActionBinding :=
  if snapshot.offers element then
    (snapshot.actionOf element).map fun action =>
      ⟨snapshot.window, snapshot.revision, element, action⟩
  else none

/-- Source: `PrimaryUiSnapshot::bind_panel_dismissal` -/
def bindPanelDismissal : Option PrimaryUiActionBinding := do
  let panel ← snapshot.panel
  let source := PrimaryUiElementId.control panel.anchor
  if snapshot.offers source then
    some ⟨snapshot.window, snapshot.revision, source, .dismissPanel⟩
  else none

/-- Source: `PrimaryUiSnapshot::bind_panel_scroll` -/
def bindPanelScroll (direction : PrimaryUiMoveDirection)
    (rows : ℕ) : Option PrimaryUiActionBinding := do
  if rows = 0 ∨ maxPrimaryUiScrollRows < rows then none
  else
    let panel ← snapshot.panel
    if panel.panel ≠ .allTabs ∨ panel.visibleCapacity = 0 ∨
        panel.totalRows ≤ panel.visibleCapacity then
      none
    else
      let source := PrimaryUiElementId.control panel.anchor
      if snapshot.offers source then
        some ⟨snapshot.window, snapshot.revision, source, .scrollPanel direction rows⟩
      else none

end PrimaryUiSnapshot

end WildBuzzard.Ui
