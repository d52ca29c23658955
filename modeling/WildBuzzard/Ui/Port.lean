import WildBuzzard.Engine.Identity

/-!
# The engine port

What the browser session asks of an engine and what the engine tells it. The trait is a class over
the state of the engine: a method takes the state before the call and returns an answer with the
state after it. **Nothing is assumed of an implementation**, a method may return any answer and may
panic; the session catches panics at the port, so a panic is an answer here.

A frame descriptor carries the bound its constructors check, and the pixels of a frame, which the
session only passes on, are left out.
-/

namespace WildBuzzard.Ui

open Lib Engine

/-- Source: `MAX_UI_FRAME_CHARGE_BYTES` -/
def maxUiFrameChargeBytes : ℕ := 256 * 1024 * 1024

/-- Source: `EnginePortSequence` -/
structure EnginePortSequence where
  id : NonZero ℕ
  deriving DecidableEq, Repr

/-- Source: `EnginePortFrameLeaseId` -/
structure EnginePortFrameLeaseId where
  id : NonZero ℕ
  deriving DecidableEq, Repr

/-- Source: `EnginePortMutationLeaseId` -/
structure EnginePortMutationLeaseId where
  id : NonZero ℕ
  deriving DecidableEq, Repr

/-- Source: `EngineDocumentVersion` -/
structure EngineDocumentVersion where
  document : ℕ
  revision : ℕ
  deriving DecidableEq, Repr

/-! ## Frames and results -/

/-- Source: `EnginePresentationDescriptor` -/
structure EnginePresentationDescriptor where
  sceneRevision : ℕ
  documentVersion : EngineDocumentVersion
  retainedChargeBytes : ℕ
  deriving DecidableEq, Repr

/-- The two kinds of output a frame descriptor describes. -/
inductive EngineFrameOutput where
  | rgba8 (width height stride byteLen : ℕ)
  | presentation (descriptor : EnginePresentationDescriptor)
  deriving DecidableEq, Repr

/-- Source: `EngineFrameDescriptor::retained_charge_bytes` -/
def EngineFrameOutput.retainedChargeBytes : EngineFrameOutput → ℕ
  | .rgba8 _ _ _ byteLen => byteLen
  | .presentation descriptor => descriptor.retainedChargeBytes

/-- Source: `EngineFrameDescriptor`, whose constructors refuse a charge above the bound. -/
structure EngineFrameDescriptor where
  output : EngineFrameOutput
  charge_le : output.retainedChargeBytes ≤ maxUiFrameChargeBytes
  deriving DecidableEq, Repr

namespace EngineFrameDescriptor

/-- Source: `EngineFrameDescriptor::retained_charge_bytes` -/
def retainedChargeBytes (descriptor : EngineFrameDescriptor) : ℕ :=
  descriptor.output.retainedChargeBytes

/-- Source: `EngineFrameDescriptor::presentation_scene` -/
def presentationScene (descriptor : EngineFrameDescriptor) : Option EnginePresentationDescriptor :=
  match descriptor.output with
  | .rgba8 _ _ _ _ => none
  | .presentation scene => some scene

end EngineFrameDescriptor

/-- Source: `EngineFrameLease` -/
structure EngineFrameLease where
  navigation : NavigationId
  lease : EnginePortFrameLeaseId
  descriptor : EngineFrameDescriptor
  documentVersion : Option EngineDocumentVersion
  deriving DecidableEq, Repr

/-- Source: `EngineMutationResultLease` -/
structure EngineMutationResultLease where
  navigation : NavigationId
  operation : DocumentOperationId
  liveVersion : EngineDocumentVersion
  lease : EnginePortMutationLeaseId
  createdNodes : ℕ
  deriving DecidableEq, Repr

/-! ## Shutdown and failures -/

/-- Source: `EnginePortStopReason` -/
inductive EnginePortStopReason where
  | requested
  | eventReceiverDropped
  | eventQueueSaturated
  | eventOrderViolation
  | identityExhausted
  | executorPanicked
  | rendererUnavailable
  | executorContractViolation
  | portPanicked
  deriving DecidableEq, Repr

/-- Source: `EnginePortExecutorShutdown` -/
inductive EnginePortExecutorShutdown where
  | notStarted
  | clean
  | failed (failure : ExecutionFailure)
  | panicked
  deriving DecidableEq, Repr

/-- Source: `EnginePortShutdownStatus` -/
structure EnginePortShutdownStatus where
  reason : EnginePortStopReason
  executor : EnginePortExecutorShutdown
  deriving DecidableEq, Repr

/-- Source: `EnginePortShutdownStatus::port_panicked` -/
def EnginePortShutdownStatus.portPanicked : EnginePortShutdownStatus := ⟨.portPanicked, .panicked⟩

/-- Source: `EnginePortError` -/
inductive EnginePortError where
  | command (kind : CommandErrorKind)
  | receiverClosed (status : EnginePortShutdownStatus)
  | frameLease (error : LeaseError)
  | mutationLease (error : LeaseError)
  | navigationCommit (error : LeaseError)
  | leaseNavigationMismatch (expected bound : NavigationId)
  | contractViolation (detail : String)
  deriving DecidableEq, Repr

/-! ## Events -/

/-- Source: `EnginePortEventKind` -/
inductive EnginePortEventKind where
  | navigationStarted (navigation : NavigationId)
  | navigationCommitted (navigation : NavigationId) (httpStatus : ℕ)
  | frameReady (navigation : NavigationId) (lease : EnginePortFrameLeaseId)
      (descriptor : EngineFrameDescriptor) (documentVersion : Option EngineDocumentVersion)
  | navigationCancelled (navigation : NavigationId)
  | navigationFailed (navigation : NavigationId) (failure : ExecutionFailure)
  | documentMutationRendered (navigation : NavigationId) (operation : DocumentOperationId)
      (previousLiveVersion previousFrameVersion liveVersion : EngineDocumentVersion)
      (result : EnginePortMutationLeaseId) (createdNodes : ℕ) (frame : EnginePortFrameLeaseId)
      (descriptor : EngineFrameDescriptor)
  | documentMutationCommittedWithoutFrame (navigation : NavigationId)
      (operation : DocumentOperationId)
      (previousLiveVersion liveVersion frameVersion : EngineDocumentVersion)
      (result : EnginePortMutationLeaseId) (createdNodes : ℕ) (failure : DocumentOperationFailure)
  | documentMutationRejected (navigation : NavigationId) (operation : DocumentOperationId)
      (liveVersion frameVersion : Option EngineDocumentVersion) (failure : DocumentOperationFailure)
  | documentRerendered (navigation : NavigationId) (operation : DocumentOperationId)
      (liveVersion previousFrameVersion : EngineDocumentVersion) (frame : EnginePortFrameLeaseId)
      (descriptor : EngineFrameDescriptor)
  | documentRerenderRejected (navigation : NavigationId) (operation : DocumentOperationId)
      (liveVersion frameVersion : Option EngineDocumentVersion) (failure : DocumentOperationFailure)
  | contextClosed (navigation : NavigationId)
  | shutdownComplete (status : EnginePortShutdownStatus)
  deriving DecidableEq, Repr

/-- Source: `EnginePortEvent` -/
structure EnginePortEvent where
  sequence : EnginePortSequence
  kind : EnginePortEventKind
  deriving DecidableEq, Repr

/-! ## The port -/

/-- What a call of a port comes to where panics are caught. -/
inductive PortAnswer (α : Type) where
  | returned (result : Except EnginePortError α)
  | panicked

/-- Source: `EnginePort` -/
class EnginePort (E : Type) where
  navigate : TopLevelContextId → NavigationRequest → E → PortAnswer NavigationId × E
  cancelNavigation : NavigationId → E → PortAnswer Unit × E
  closeContext : NavigationId → E → PortAnswer Unit × E
  requestRerender : NavigationId → EngineDocumentVersion → E → PortAnswer DocumentOperationId × E :=
    fun _ _ engine =>
      (.returned (.error (.contractViolation
        "engine port does not support exact presentation rerender")), engine)
  pollEvent : E → PortAnswer (Option EnginePortEvent) × E
  takeNavigationCommit : NavigationId → E → PortAnswer (Option NavigationCommitMetadata) × E :=
    fun _ engine => (.returned (.ok none), engine)
  takeFrame : NavigationId → EnginePortFrameLeaseId → E → PortAnswer EngineFrameLease × E
  takeMutationResult : NavigationId → EnginePortMutationLeaseId → E →
    PortAnswer EngineMutationResultLease × E
  discardFrame : NavigationId → EnginePortFrameLeaseId → E → PortAnswer Unit × E :=
    fun navigation lease engine =>
      match takeFrame navigation lease engine with
      | (.returned (.ok _), engine) => (.returned (.ok ()), engine)
      | (.returned (.error (.frameLease .stale)), engine) => (.returned (.ok ()), engine)
      | (.returned (.error error), engine) => (.returned (.error error), engine)
      | (.panicked, engine) => (.panicked, engine)
  discardMutationResult : NavigationId → EnginePortMutationLeaseId → E → PortAnswer Unit × E :=
    fun navigation lease engine =>
      match takeMutationResult navigation lease engine with
      | (.returned (.ok _), engine) => (.returned (.ok ()), engine)
      | (.returned (.error (.mutationLease .stale)), engine) => (.returned (.ok ()), engine)
      | (.returned (.error error), engine) => (.returned (.error error), engine)
      | (.panicked, engine) => (.panicked, engine)
  /-- `none` if the call panics. -/
  shutdown : E → Option EnginePortShutdownStatus × E
  /-- Whether dropping the engine panics. -/
  dropPanics : E → Bool := fun _ => false

end WildBuzzard.Ui
