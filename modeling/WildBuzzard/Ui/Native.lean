import WildBuzzard.Ui.Controller
import WildBuzzard.Ui.Events

/-!
# Native window events

The shell of a window reports its surface, its input and its end. Input is checked against the
window's surface and sequence, mapped to an action and performed; **an event in the wrong order ends
the session**.

What the session only passes on (pointer and scroll positions, sizes, the origin of an input) is
left out.
-/

namespace WildBuzzard.Ui

open Lib Engine

/-! ## Input -/

/-- Source: `InputMetadata`; modifiers are the bits of `Modifiers` -/
structure InputMetadata where
  sequence : ℕ
  surface : SurfaceId
  modifiers : BitVec 16
  deriving DecidableEq, Repr

/-- Source: `InputEvent` -/
inductive InputEvent where
  | pointer (metadata : InputMetadata)
  | scroll (metadata : InputMetadata)
  | key (metadata : InputMetadata) (physicalKey : ℕ) (down : Bool)
  | text (metadata : InputMetadata) (text : List Char)
  deriving DecidableEq, Repr

/-- Source: `metadata` of `handle_input` -/
def InputEvent.metadata : InputEvent → InputMetadata
  | .pointer metadata => metadata
  | .scroll metadata => metadata
  | .key metadata _ _ => metadata
  | .text metadata _ => metadata

/-- Source: `Modifiers::SHIFT` -/
def shift : BitVec 16 := 1

/-- Source: `Modifiers::CONTROL` -/
def control : BitVec 16 := 2

/-- Source: `Modifiers::ALT` -/
def alt : BitVec 16 := 4

/-- Source: `Modifiers::SUPER` -/
def super : BitVec 16 := 8

/-- Source: `ACTIVE_MODIFIERS` -/
def activeModifiers : BitVec 16 := shift ||| control ||| alt ||| super

/-- Source: `LinuxShortcut` -/
inductive LinuxShortcut where
  | newTab
  | closeTab
  | focusAddress
  | back
  | forward
  | reload
  | stop
  | nextTab
  | previousTab
  | activatePosition (oneBased : ℕ)
  deriving DecidableEq, Repr

/-- Source: `LinuxInputAction` -/
inductive LinuxInputAction where
  | shortcut (shortcut : LinuxShortcut)
  | primaryUi (action : PrimaryUiAction)
  | insertText (text : List Char)
  | selectAll
  | backspace
  | deleteForward
  | moveCursor (movement : CursorMove) (extend : Bool)
  | submitAddress
  | escape
  deriving DecidableEq, Repr

/-- Source: `PrimaryUiInputContext` -/
structure PrimaryUiInputContext where
  focus : PrimaryUiFocus
  panelOpen : Bool
  deriving DecidableEq, Repr

/-- Source: `PrimaryUiInputContext::new` -/
def PrimaryUiInputContext.new (focus : PrimaryUiFocus) (panelOpen : Bool) :
    Option PrimaryUiInputContext :=
  if focus = .control .addressBar then none else some ⟨focus, panelOpen⟩

/-- Source: the matches on `PrimaryUiFocus::Control(_) | PrimaryUiFocus::Tab(_)` -/
def PrimaryUiFocus.isChromeStop : PrimaryUiFocus → Bool
  | .control _ => true
  | .tab _ => true
  | _ => false

variable (physical : ℕ) (modifiers : BitVec 16)

/-- The keys of an open panel.
Source: the `context.panel_open` branch of `map_primary_key` -/
def mapPanelKey : Option PrimaryUiAction :=
  if physical = 1 ∧ modifiers = 0 then some .dismissPanel
  else if (physical = 15 ∨ physical = 108) ∧ modifiers = 0 then
    some (.movePanelSelection .forward)
  else if physical = 15 ∧ modifiers = shift then some (.movePanelSelection .backward)
  else if physical = 103 ∧ modifiers = 0 then some (.movePanelSelection .backward)
  else if (physical = 28 ∨ physical = 57) ∧ modifiers = 0 then some .activateFocused
  else none

/-- The keys of the toolbar.
Source: the last `match` of `map_primary_key` -/
def mapToolbarKey (focus : PrimaryUiFocus) : Option PrimaryUiAction :=
  if physical = 1 ∧ modifiers = 0 ∧ focus.isChromeStop then some .dismissPanel
  else if physical = 15 ∧ modifiers = 0 ∧ focus ≠ .page then some (.moveFocus .forward)
  else if physical = 15 ∧ modifiers = shift ∧ focus ≠ .page then some (.moveFocus .backward)
  else if physical = 105 ∧ modifiers = 0 ∧ focus.isChromeStop then
    some (.moveToolbarFocus .backward)
  else if physical = 106 ∧ modifiers = 0 ∧ focus.isChromeStop then some (.moveToolbarFocus .forward)
  else if (physical = 28 ∨ physical = 57) ∧ modifiers = 0 ∧ focus.isChromeStop then
    some .activateFocused
  else none

/-- Source: `map_primary_key` -/
def mapPrimaryKey (bits : BitVec 16) (context : PrimaryUiInputContext) : Option PrimaryUiAction :=
  let modifiers := bits &&& activeModifiers
  if physical = 15 ∧ modifiers = control ||| shift then some (.invokeControl .allTabs)
  else if physical = 64 ∧ (modifiers = 0 ∨ modifiers = shift) then
    some (.moveDocumentFocus (if modifiers = shift then .backward else .forward))
  else if context.panelOpen then mapPanelKey physical modifiers
  else mapToolbarKey physical modifiers context.focus

/-- Source: `shortcut` of `map_key` -/
def mapShortcut (addressFocused : Bool) : Option LinuxShortcut :=
  if physical = 20 ∧ modifiers = control then some .newTab
  else if (physical = 17 ∨ physical = 62) ∧ modifiers = control then some .closeTab
  else if physical = 38 ∧ modifiers = control then some .focusAddress
  else if physical = 32 ∧ modifiers = alt then some .focusAddress
  else if physical = 105 ∧ modifiers = alt then some .back
  else if physical = 106 ∧ modifiers = alt then some .forward
  else if physical = 19 ∧ modifiers = control then some .reload
  else if physical = 63 ∧ modifiers = 0 then some .reload
  else if physical = 1 ∧ modifiers = 0 ∧ ¬addressFocused then some .stop
  else if (physical = 15 ∨ physical = 109) ∧ modifiers = control then some .nextTab
  else if physical = 104 ∧ modifiers = control then some .previousTab
  else if 2 ≤ physical ∧ physical ≤ 9 ∧ modifiers = alt then
    some (.activatePosition (physical - 2 + 1))
  else if physical = 10 ∧ modifiers = alt then some (.activatePosition 9)
  else none

/-- The keys of the address editor.
Source: the last `match` of `map_key` -/
def mapAddressKey : Option LinuxInputAction :=
  let moves := modifiers = 0 ∨ modifiers = shift
  let extend := decide (modifiers = shift)
  if physical = 30 ∧ modifiers = control then some .selectAll
  else if physical = 28 ∧ modifiers = 0 then some .submitAddress
  else if physical = 1 ∧ modifiers = 0 then some .escape
  else if physical = 14 ∧ modifiers = 0 then some .backspace
  else if physical = 111 ∧ modifiers = 0 then some .deleteForward
  else if physical = 105 ∧ moves then some (.moveCursor .previous extend)
  else if physical = 106 ∧ moves then some (.moveCursor .next extend)
  else if physical = 102 ∧ moves then some (.moveCursor .start extend)
  else if physical = 107 ∧ moves then some (.moveCursor .atEnd extend)
  else none

/-- Source: `map_key` -/
def mapKey (bits : BitVec 16) (addressFocused : Bool) : Option LinuxInputAction :=
  let modifiers := bits &&& activeModifiers
  match mapShortcut physical modifiers addressFocused with
  | some shortcut => some (.shortcut shortcut)
  | none => if addressFocused then mapAddressKey physical modifiers else none

/-- Source: `map_linux_input` -/
def mapLinuxInput (event : InputEvent) (addressFocused : Bool) : Option LinuxInputAction :=
  match event with
  | .text _ text => if addressFocused then some (.insertText text) else none
  | .key metadata physical true => mapKey physical metadata.modifiers addressFocused
  | .key _ _ false => none
  | .pointer _ => none
  | .scroll _ => none

/-- Source: `map_linux_primary_input` -/
def mapLinuxPrimaryInput (event : InputEvent) (addressFocused : Bool)
    (context : PrimaryUiInputContext) : Option LinuxInputAction :=
  match event with
  | .key metadata physical true =>
    ((mapPrimaryKey physical metadata.modifiers context).map .primaryUi).or
      (mapLinuxInput event addressFocused)
  | _ => mapLinuxInput event addressFocused

/-! ## Events -/

/-- Source: `LinuxWindowEvent` -/
inductive LinuxWindowEvent where
  | ready (surface : SurfaceId)
  | resumed
  | suspended
  | resized (surface : SurfaceId)
  | scaleFactorChanged (surface : SurfaceId)
  | inputDeviceRemoved (surface : SurfaceId)
  | imeEnabled (surface : SurfaceId)
  | focusChanged (surface : SurfaceId) (focused : Bool)
  | input (event : InputEvent)
  | imePreedit (surface : SurfaceId) (text : List Char) (selection : Option AddressSelection)
  | imeDisabled (surface : SurfaceId)
  | redrawRequested (surface : SurfaceId)
  | wakeRequested
  | closeRequested (surface : SurfaceId)
  | destroyed (surface : SurfaceId)
  | stopped (reason : LinuxStopReason)
  deriving DecidableEq, Repr

/-- Source: `matches!(&event, LinuxWindowEvent::Stopped(_))` -/
def LinuxWindowEvent.isStopped : LinuxWindowEvent → Bool
  | .stopped _ => true
  | _ => false

/-- Source: `LinuxEventOutcome` -/
inductive LinuxEventOutcome where
  | ignored
  | nativeStateChanged
  | addressEdited (tab : BrowserTabId)
  | primaryUi (outcome : PrimaryUiActionOutcome)
  | command (outcome : BrowserCommandOutcome)
  | enginePumped (processed : ℕ) (more : Bool)
  | redrawRequested (window : BrowserWindowId) (surface : SurfaceId)
  | contentInputUnrouted (window : BrowserWindowId) (tab : BrowserTabId) (event : InputEvent)
  | chromeInputUnmapped (window : BrowserWindowId) (tab : BrowserTabId) (event : InputEvent)
  deriving DecidableEq, Repr

namespace BrowserSession

variable {E : Type} [EnginePort E] [UrlParser]

/-- Source: `BrowserSession::window_identity_was_allocated` -/
def windowIdentityWasAllocated (s : BrowserSession E) (window : BrowserWindowId) : Bool :=
  s.nextWindow.all fun next => window.id.get < next

/-- Fail because native events of a window are out of order. -/
def failOrder {α : Type} (window : BrowserWindowId) (fault : LinuxOrderFault) : SessionCall E α :=
  fail (.linuxEventOrder window fault)

variable (window : BrowserWindowId) (surface : SurfaceId) (tab : BrowserTabId)

/-- Source: `BrowserSession::validate_surface` -/
def validateSurface : SessionCall E Unit := do
  let state ← getWindow window
  let s ← Call.read
  if state.nativeState = .destroyed then failOrder window .surfaceEventAfterDestroyed
  else if state.surface ≠ some surface ∨ s.surfaces.lookup surface ≠ some window then
    fail (.linuxSurfaceMismatch window)
  else pure ()

/-- Source: `BrowserSession::validate_input_sequence` -/
def validateInputSequence (received : ℕ) : SessionCall E Unit := do
  let state ← getWindow window
  match state.lastInputSequence.filter fun previous => received ≤ previous with
  | some previous => fail (.linuxInputSequence window previous received)
  | none => modifyWindow window fun state => { state with lastInputSequence := some received }

/-- Source: `BrowserSession::current_address` -/
def currentAddress : SessionCall E (List Char) := do
  let state ← getTab tab
  pure (state.currentEntry.elim [] HistoryEntry.address)

/-! ## Shortcuts -/

/-- Source: `BrowserSession::activate_relative` -/
def activateRelative (delta : ℤ) : SessionCall E BrowserCommandOutcome := do
  let state ← getWindow window
  let index ← orFail (state.tabs.findIdx? fun tab => tab = state.active) .activeTabMissing
  let length := state.tabs.length
  if length = 0 then fail (.engineContract (.internal .windowWithoutTabs))
  else if delta = 1 then do
    let target ← expect state.tabs[(index + 1) % length]? "index out of bounds"
    activateTab target
  else if delta = -1 then do
    let target ← expect state.tabs[(index + length - 1) % length]? "index out of bounds"
    activateTab target
  else fail (.engineContract (.internal .unsupportedDelta))

/-- Source: the `ActivatePosition` arm of `apply_shortcut` -/
def activatePosition (oneBased : ℕ) : SessionCall E BrowserCommandOutcome := do
  let state ← getWindow window
  Call.assert (1 ≤ oneBased) "attempt to subtract with overflow"
  match if oneBased = 9 then state.tabs.getLast? else state.tabs[oneBased - 1]? with
  | some target => activateTab target
  | none => pure .noChange

/-- Source: `BrowserSession::apply_shortcut` -/
def applyShortcut (shortcut : LinuxShortcut) : SessionCall E BrowserCommandOutcome :=
  match shortcut with
  | .newTab => openTab window
  | .closeTab => closeTab tab
  | .focusAddress => focusAddress window
  | .back => goHistory tab false
  | .forward => goHistory tab true
  | .reload => reload tab
  | .stop => stop tab
  | .nextTab => activateRelative window 1
  | .previousTab => activateRelative window (-1)
  | .activatePosition oneBased => activatePosition window oneBased

/-! ## Input -/

/-- An edit of the address that always succeeds. -/
def editAddress (edit : AddressEditState → AddressEditState) : SessionCall E LinuxEventOutcome := do
  modifyTab tab fun state => { state with address := edit state.address }
  let _ ← bumpPrimaryUiForTab tab
  pure (.addressEdited tab)

/-- An edit of the address that may be refused.
Source: the `.map_err(SessionError::Address)?` of `InsertText` and `ImePreedit` -/
def tryEditAddress (edit : AddressEditState → Except AddressEditError AddressEditState) :
    SessionCall E LinuxEventOutcome := do
  let state ← getTab tab
  let address ← Call.ofExcept ((edit state.address).mapError .address)
  editAddress tab fun _ => address

/-- Source: the `Escape` arm of `apply_input_action` -/
def escapeAddress : SessionCall E LinuxEventOutcome := do
  let state ← getTab tab
  if state.address.dirty ∨ state.address.preedit.isSome then do
    let baseline ← currentAddress tab
    editAddress tab fun address => address.revertTo baseline
  else .command <$> stop tab

/-- Source: `BrowserSession::apply_input_action` -/
def applyInputAction (action : LinuxInputAction) : SessionCall E LinuxEventOutcome :=
  match action with
  | .shortcut shortcut => .command <$> applyShortcut window tab shortcut
  | .primaryUi action => do
    let revision ← primaryUiRevision window
    .primaryUi <$> dispatchPrimaryUiAction window revision action
  | .insertText text => tryEditAddress tab fun address => address.insert text
  | .selectAll => editAddress tab AddressEditState.selectAll
  | .backspace => editAddress tab AddressEditState.backspace
  | .deleteForward => editAddress tab AddressEditState.deleteForward
  | .moveCursor movement extend => editAddress tab fun address => address.moveCursor movement extend
  | .submitAddress => .command <$> submitAddress tab
  | .escape => escapeAddress tab

/-- Source: `BrowserSession::handle_input` -/
def handleInput (event : InputEvent) : SessionCall E LinuxEventOutcome := do
  validateSurface window event.metadata.surface
  validateInputSequence window event.metadata.sequence
  let tab ← activeTab window
  let state ← getTab tab
  let owner ← getWindow window
  let addressFocused := decide (state.focus = .address)
  let context ← okOr
    (PrimaryUiInputContext.new owner.primaryUi.focus owner.primaryUi.panel.isSome)
    (.invalidPrimaryUiFocus owner.primaryUi.focus)
  match mapLinuxPrimaryInput event addressFocused context with
  | some action => applyInputAction window tab action
  | none =>
    if addressFocused then pure (.chromeInputUnmapped window tab event)
    else pure (.contentInputUnrouted window tab event)

/-! ## Window events -/

/-- A window with its surface.
Source: the `Ready` arm of `handle_linux_event` -/
def handleReady : SessionCall E LinuxEventOutcome := do
  let s ← Call.read
  if ¬(s.windows.lookup window).any fun state =>
      state.surface.isNone ∧ (state.nativeState = .starting ∨ state.nativeState = .running) then
    failOrder window .readyOrder
  else if surface ∈ s.surfaces then failOrder window .surfaceReused
  else do
    Call.modify fun s =>
      { s with
        surfaces := s.surfaces.insert surface window
        windows := s.windows.update window fun state =>
          { state with surface := some surface, nativeState := .running } }
    pure .nativeStateChanged

/-- Source: the `Resumed` and `Suspended` arms of `handle_linux_event` -/
def changeNativeState (allowed : List NativeWindowState)
    (next : NativeWindowState) (fault : LinuxOrderFault) : SessionCall E LinuxEventOutcome := do
  let state ← getWindow window
  if state.nativeState ∈ allowed then do
    modifyWindow window fun state => { state with nativeState := next }
    pure .nativeStateChanged
  else failOrder window fault

/-- Source: the `ImePreedit` arm of `handle_linux_event` -/
def handlePreedit (text : List Char)
    (selection : Option AddressSelection) : SessionCall E LinuxEventOutcome := do
  let tab ← activeTab window
  let state ← getTab tab
  if state.focus ≠ .address then pure .ignored
  else tryEditAddress tab fun address => address.setPreedit text selection

/-- Source: the `ImeDisabled` arm of `handle_linux_event` -/
def handleImeDisabled : SessionCall E LinuxEventOutcome := do
  let tab ← activeTab window
  let _ ← editAddress tab AddressEditState.clearPreedit
  pure .nativeStateChanged

/-- Source: the `WakeRequested` arm of `handle_linux_event` -/
def handleWake : SessionCall E LinuxEventOutcome := do
  let s ← Call.read
  match ← pumpEngine s.limits.maxEngineEventsPerPump with
  | .batch processed more => pure (.enginePumped processed more)
  | .empty => fail (.engineContract (.internal .pumpReturnedEmpty))
  | _ => fail (.engineContract (.internal .pumpReturnedSingle))

/-- Source: the `Destroyed` arm of `handle_linux_event` -/
def handleDestroyed : SessionCall E LinuxEventOutcome := do
  let s ← Call.read
  Call.modify fun s => { s with surfaces := s.surfaces.erase surface }
  if s.surfaces.lookup surface ≠ some window then failOrder window .destroyedNotRetired
  else do
    modifyWindow window fun state => { state with nativeState := .destroyed }
    pure .nativeStateChanged

/-- Source: the `match event` of `handle_linux_event` -/
def applyLinuxEvent (event : LinuxWindowEvent) : SessionCall E LinuxEventOutcome :=
  match event with
  | .ready surface => handleReady window surface
  | .resumed => changeNativeState window [.starting, .suspended] .running .resumedOrder
  | .suspended => changeNativeState window [.running] .suspended .suspendedOrder
  | .resized surface => do
    validateSurface window surface
    pure .nativeStateChanged
  | .scaleFactorChanged surface => do
    validateSurface window surface
    pure .nativeStateChanged
  | .inputDeviceRemoved surface => do
    validateSurface window surface
    pure .nativeStateChanged
  | .imeEnabled surface => do
    validateSurface window surface
    pure .nativeStateChanged
  | .focusChanged surface focused => do
    validateSurface window surface
    modifyWindow window fun state => { state with nativeFocused := focused }
    pure .nativeStateChanged
  | .input event => handleInput window event
  | .imePreedit surface text selection => do
    validateSurface window surface
    handlePreedit window text selection
  | .imeDisabled surface => do
    validateSurface window surface
    handleImeDisabled window
  | .redrawRequested surface => do
    validateSurface window surface
    pure (.redrawRequested window surface)
  | .wakeRequested => handleWake
  | .closeRequested surface => do
    validateSurface window surface
    .command <$> closeWindow window
  | .destroyed surface => do
    validateSurface window surface
    handleDestroyed window surface
  | .stopped reason => fail (.linuxStopped window reason)

/-- Source: `BrowserSession::handle_linux_event` -/
def handleLinuxEvent (event : LinuxWindowEvent) : SessionCall E LinuxEventOutcome := do
  ensureRunning
  let s ← Call.read
  match s.windows.lookup window with
  | none =>
    if s.windowIdentityWasAllocated window then pure .ignored
    else Call.fail (.unknownWindow window)
  | some state =>
    if state.nativeState = .destroyed ∧ ¬event.isStopped then
      failOrder window .eventAfterDestroyed
    else applyLinuxEvent window event

end BrowserSession

end WildBuzzard.Ui
