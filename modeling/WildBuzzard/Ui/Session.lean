import WildBuzzard.Ui.Native

/-!
# Sessions and what can be asked of them

A session is made with one window and one blank tab. Its owner can dispatch commands, edit an
address, deliver native events, poll the engine, drive the primary user interface and take frames
and results; `SessionAction` is the list of all of them, and `Reachable` the states any sequence of
them can lead to. **Between two actions the engine may do anything**: it is replaced by any other
state of its type, and any reservation of memory may be refused.
-/

namespace WildBuzzard.Ui

open Lib Engine

/-- Source: `SessionPresentationError`; the conversion of a scene by the graphics library is not
modelled -/
inductive SessionPresentationError where
  | session (error : SessionError)
  | notPresentationOutput
  | candidateIdentityMismatch
  deriving DecidableEq, Repr

/-- Source: the tuple of `presentation_candidate_labels` -/
structure PresentationLabels where
  navigation : NavigationId
  document : EngineDocumentVersion
  lease : EnginePortFrameLeaseId
  sceneRevision : ℕ
  deriving DecidableEq, Repr

/-- A method of the session that hands out a scene. -/
abbrev PresentationCall (E α : Type) : Type :=
  Call (BrowserSession E) SessionPresentationError α

namespace BrowserSession

variable {E : Type} [EnginePort E] [UrlParser]

/-! ## Construction -/

/-- The session before its first window. -/
def bare (engine : E) (limits : SessionLimits) (navigationMode : BrowserNavigationMode)
    (reservations : List Bool) : BrowserSession E where
  engine := some engine
  limits := limits
  navigationMode := navigationMode
  lifecycle := .running
  windows := ∅
  tabs := ∅
  contexts := ∅
  closingContexts := ∅
  surfaces := ∅
  nextWindow := some 1
  nextTab := some 1
  nextContext := some 1
  historyBytes := 0
  retainedFrameBytes := 0
  navigationLedgerEntries := 0
  lastEngineSequence := none
  reservations := reservations

/-- Source: `BrowserSession::new_with_navigation_mode` -/
def newWithNavigationMode (engine : E) (limits : SessionLimits)
    (navigationMode : BrowserNavigationMode) (reservations : List Bool) :
    Except SessionError (BrowserSession E) :=
  match openWindowInternal (bare engine limits navigationMode reservations) with
  | .ok _ session => .ok session
  | .err error _ => .error error
  | .halt _ => .error .notRunning

/-! ## Transfers to the owner -/

variable (tab : BrowserTabId)

/-- Source: `BrowserSession::take_frame` -/
def takeFrame : SessionCall E (Option EngineFrameLease) := do
  let state ← getTab tab
  let s ← Call.read
  let retainedAfter ← orFail (checkedSub s.retainedFrameBytes state.frameBytes) .transferUnderflow
  Call.modify fun s =>
    { s with
      tabs := s.tabs.update tab fun state => { state with frame := none }
      retainedFrameBytes := retainedAfter }
  pure state.frame

/-- The labels of a candidate, or the disagreement among them.
Source: the checks of `presentation_candidate_labels` -/
def candidateLabels (state : TabState) (frame : EngineFrameLease)
    (scene : EnginePresentationDescriptor) :
    Except SessionPresentationError PresentationLabels :=
  match state.liveNavigation, state.engineDocument, frame.documentVersion with
  | some navigation, some document, some frameDocument =>
    if document.navigation ≠ navigation ∨ document.frameVersion ≠ frameDocument ∨
        frame.navigation ≠ navigation ∨ scene.documentVersion ≠ frameDocument then
      .error .candidateIdentityMismatch
    else .ok ⟨navigation, frameDocument, frame.lease, scene.sceneRevision⟩
  | _, _, _ => .error .candidateIdentityMismatch

/-- Source: `BrowserSession::presentation_candidate_labels` -/
def presentationCandidateLabels : PresentationCall E (Option PresentationLabels) := do
  let state ← Call.mapError .session (getTab tab)
  match state.frame with
  | none => pure none
  | some frame =>
    match frame.descriptor.presentationScene with
    | none => pure none
    | some scene => do
      let labels ← Call.ofExcept (candidateLabels state frame scene)
      pure (some labels)

/-- Whether a candidate is the one that is expected.
Source: the comparison of `take_presentation_scene` -/
def isCandidate (frame : EngineFrameLease) (scene : EnginePresentationDescriptor)
    (navigation : NavigationId) (document : EngineDocumentState)
    (expectedNavigation : NavigationId) (expectedDocument : EngineDocumentVersion)
    (expectedSceneRevision : ℕ) : Bool :=
  document.navigation = navigation ∧ navigation = expectedNavigation ∧
    document.frameVersion = expectedDocument ∧ frame.navigation = navigation ∧
    frame.documentVersion = some document.frameVersion ∧
    scene.documentVersion = document.frameVersion ∧ scene.sceneRevision = expectedSceneRevision

/-- Source: `BrowserSession::take_presentation_scene` up to the conversion of the scene -/
def takePresentationScene (expectedNavigation : NavigationId)
    (expectedDocument : EngineDocumentVersion) (expectedSceneRevision : ℕ) :
    PresentationCall E (Option EngineFrameLease) := do
  let state ← Call.mapError .session (getTab tab)
  match state.frame with
  | none => pure none
  | some frame =>
    match frame.descriptor.presentationScene, state.liveNavigation, state.engineDocument with
    | none, _, _ => Call.fail .notPresentationOutput
    | some scene, some navigation, some document =>
      if isCandidate frame scene navigation document expectedNavigation expectedDocument
          expectedSceneRevision then
        Call.mapError .session (takeFrame tab)
      else Call.fail .candidateIdentityMismatch
    | some _, _, _ => Call.fail .candidateIdentityMismatch

/-- Source: `BrowserSession::take_exact_presentation_scene` -/
def takeExactPresentationScene (expected : PresentationLabels) :
    PresentationCall E (Option EngineFrameLease) := do
  match ← presentationCandidateLabels tab with
  | none => pure none
  | some actual =>
    if actual ≠ expected then Call.fail .candidateIdentityMismatch
    else takePresentationScene tab expected.navigation expected.document expected.sceneRevision

/-- Source: `BrowserSession::request_presentation_rerender` -/
def requestPresentationRerender : SessionCall E DocumentOperationId := do
  ensureRunning
  let state ← getTab tab
  let navigation ← okOr state.liveNavigation .historyUnavailable
  let document ← okOr state.engineDocument .historyUnavailable
  if document.navigation ≠ navigation then fail (.engineContract (.internal .rerenderLabels))
  else do
    let operation ← callEngine "request presentation rerender"
      (EnginePort.requestRerender navigation document.liveVersion)
    modifyTab tab fun state => { state with lastPresentationRerender := none }
    pure operation

/-- Source: `BrowserSession::take_mutation_result` -/
def takeMutationResult : SessionCall E (Option EngineMutationResultLease) := do
  let state ← getTab tab
  modifyTab tab fun state => { state with mutationResult := none }
  pure state.mutationResult

/-- Source: a method called through `BrowserSession::address_mut` -/
def addressMut (edit : AddressEdit) : SessionCall E Unit := do
  ensureRunning
  let state ← getTab tab
  let address ← Call.ofExcept ((state.address.apply edit).mapError .address)
  modifyTab tab fun state => { state with address := address }

end BrowserSession

/-! ## Actions and runs -/

/-- What the owner of a session can do with it. -/
inductive SessionAction where
  | dispatch (command : BrowserCommand)
  | addressMut (tab : BrowserTabId) (edit : AddressEdit)
  | handleLinuxEvent (window : BrowserWindowId) (event : LinuxWindowEvent)
  | pollEngineOnce
  | pumpEngine (maximum : ℕ)
  | primaryUiSnapshot (window : BrowserWindowId)
  | setPrimaryUiDirection (window : BrowserWindowId) (direction : PrimaryUiDirection)
  | setPrimaryUiLayout (window : BrowserWindowId) (layout : PrimaryUiLayout)
  | dispatchPrimaryUiAction (window : BrowserWindowId) (expected : PrimaryUiRevision)
      (action : PrimaryUiAction)
  | dispatchPrimaryUiBinding (binding : PrimaryUiActionBinding)
  | takeFrame (tab : BrowserTabId)
  | takePresentationScene (tab : BrowserTabId) (navigation : NavigationId)
      (document : EngineDocumentVersion) (sceneRevision : ℕ)
  | takeExactPresentationScene (tab : BrowserTabId) (expected : PresentationLabels)
  | requestPresentationRerender (tab : BrowserTabId)
  | takeMutationResult (tab : BrowserTabId)
  | shutdown

namespace BrowserSession

variable {E : Type} [EnginePort E] [UrlParser]

/-- A call without its value. -/
def quietly {α : Type} (m : SessionCall E α) : SessionCall E Unit := do
  let _ ← m
  pure ()

/-- The errors of a call that hands out a scene, as the session's own. -/
def presentationError : SessionPresentationError → SessionError
  | .session error => error
  | .notPresentationOutput => .historyUnavailable
  | .candidateIdentityMismatch => .historyUnavailable

/-- Carry out an action. -/
def perform (action : SessionAction) : SessionCall E Unit :=
  match action with
  | .dispatch command => quietly (dispatch command)
  | .addressMut tab edit => addressMut tab edit
  | .handleLinuxEvent window event => quietly (handleLinuxEvent window event)
  | .pollEngineOnce => quietly pollEngineOnce
  | .pumpEngine maximum => quietly (pumpEngine maximum)
  | .primaryUiSnapshot window => quietly (primaryUiSnapshot window)
  | .setPrimaryUiDirection window direction => quietly (setPrimaryUiDirection window direction)
  | .setPrimaryUiLayout window layout => quietly (setPrimaryUiLayout window layout)
  | .dispatchPrimaryUiAction window expected action =>
    quietly (dispatchPrimaryUiAction window expected action)
  | .dispatchPrimaryUiBinding binding => quietly (dispatchPrimaryUiBinding binding)
  | .takeFrame tab => quietly (takeFrame tab)
  | .takePresentationScene tab navigation document sceneRevision =>
    quietly (Call.mapError presentationError
      (takePresentationScene tab navigation document sceneRevision))
  | .takeExactPresentationScene tab expected =>
    quietly (Call.mapError presentationError (takeExactPresentationScene tab expected))
  | .requestPresentationRerender tab => quietly (requestPresentationRerender tab)
  | .takeMutationResult tab => quietly (takeMutationResult tab)
  | .shutdown => quietly shutdown

/-- One step of the world: the owner acts, or the engine and the allocator change. -/
inductive Step : BrowserSession E → BrowserSession E → Prop
  | act (s t : BrowserSession E) (action : SessionAction)
      (h : (perform action s).state? = some t) : Step s t
  | environment (s : BrowserSession E) (engine : E → E) (reservations : List Bool) :
      Step s { s with engine := s.engine.map engine, reservations := reservations }

/-- Any number of steps. -/
def Run : BrowserSession E → BrowserSession E → Prop := Relation.ReflTransGen Step

/-- The states a session can come to. -/
def Reachable (s : BrowserSession E) : Prop :=
  ∃ engine limits mode reservations start,
    newWithNavigationMode engine limits mode reservations = .ok start ∧ Run start s

end BrowserSession

end WildBuzzard.Ui
