import Mathlib.Data.List.Range
import WildBuzzard.Lib.ClosingQueue
import WildBuzzard.Lib.NonZero

/-!
# Bounded event and task queues

`EventQueue` and `ManualTaskQueue` are shared between threads and take a lock for each access, so
what threads do to a queue is a sequence of steps, one for each time the lock is held. A task is
taken under the lock and run after it was released: the dispatches of a running task are steps of
their own, between those of other threads.

* `runQueue`, `runTasks`: a sequence of steps with the answer of each; any interleaving is one.
* `Keeps`: the flag, the items and the journal of answers agree; every step keeps that.
* `queues_lose_nothing`: **in every interleaving both queues keep the contract of a closing queue**,
  are `Closed` exactly when shutdown began and nothing is queued, and number tasks from 1 without a
  gap; a drain that runs alone returns the queued ids in order.
* `refused_while_draining`: **`Closed` is the answer to a producer from the shutdown on**, also while
  the queue still drains.

Nothing panics while a lock is held, so that no lock is ever poisoned; the `Poisoned` branches and
the wake-ups of the condition variable are left out.
-/

namespace WildBuzzard.Runtime

open Lib Outcome ClosingQueue Call List
open Lib.ClosingQueue (Entry Contract Began)

/-! ## Event queues -/

/-- Source: `QueueState`. -/
inductive QueueState where
  | opened
  | draining
  | closed
  deriving DecidableEq, Repr

/-- Source: `QueueTransitionOutcome`. -/
structure QueueTransitionOutcome where
  previous : QueueState
  current : QueueState
  changed : Bool
  deriving DecidableEq, Repr

/-- Source: `QueueError`. -/
inductive QueueError where
  | full (capacity : Nat)
  | closed
  deriving DecidableEq, Repr

/-- Source: `PopResult`. -/
inductive PopResult (T : Type) where
  | item (event : T)
  | empty
  | closed
  deriving DecidableEq, Repr

/-- Source: `QueueInner`. -/
structure QueueInner (T : Type) where
  state : QueueState
  events : List T
  deriving DecidableEq, Repr

/-- Source: `EventQueue`. -/
structure EventQueue (T : Type) where
  capacity : Nat
  capacity_pos : 0 < capacity
  inner : QueueInner T

/-- The transition of both `begin_shutdown` methods. -/
def shutdownState (state : QueueState) (isEmpty : Bool) : QueueState :=
  if state = .opened then (if isEmpty then .closed else .draining) else state

/-- The answer of both `begin_shutdown` methods. -/
def transition (previous current : QueueState) : QueueTransitionOutcome :=
  { previous := previous, current := current, changed := previous ≠ current }

/-- The state after an item was taken out. Source: `pop_locked` and `ManualTaskQueue::run_one`. -/
def stateAfterPop (state : QueueState) (isEmpty : Bool) : QueueState :=
  if isEmpty ∧ state = .draining then .closed else state

/-- Source: `pop_locked`. -/
def popLocked {T : Type} (inner : QueueInner T) : PopResult T × QueueInner T :=
  match inner.events with
  | event :: rest =>
    (.item event, { state := stateAfterPop inner.state rest.isEmpty, events := rest })
  | [] =>
    if inner.state = .opened then (.empty, inner)
    else (.closed, { inner with state := .closed })

namespace EventQueue

variable {T : Type}

/-- Source: `EventQueue::new`. -/
def new (T : Type) (capacity : Nat) (capacity_pos : 0 < capacity) : EventQueue T :=
  { capacity, capacity_pos, inner := { state := .opened, events := [] } }

/-- Source: `EventQueue::try_push`. -/
def tryPush (event : T) : Call (EventQueue T) QueueError Unit := fun q =>
  if q.inner.state ≠ .opened then .err .closed q
  else if q.inner.events.length = q.capacity then .err (.full q.capacity) q
  else .ok () { q with inner := { q.inner with events := q.inner.events ++ [event] } }

/-- Source: `EventQueue::try_pop`. -/
def tryPop : Call (EventQueue T) Empty (PopResult T) := fun q =>
  .ok (popLocked q.inner).1 { q with inner := (popLocked q.inner).2 }

/-- Source: `EventQueue::begin_shutdown`. -/
def beginShutdown : Call (EventQueue T) Empty QueueTransitionOutcome := fun q =>
  let current := shutdownState q.inner.state q.inner.events.isEmpty
  .ok (transition q.inner.state current) { q with inner := { q.inner with state := current } }

end EventQueue

/-! ## Task queues -/

/-- Source: `TaskId`. -/
structure TaskId where
  id : NonZero UInt64
  deriving DecidableEq, Repr

/-- A task with its identity. The closure is of an arbitrary type. Source: `ScheduledTask`. -/
structure ScheduledTask (F : Type) where
  id : TaskId
  run : F
  deriving DecidableEq, Repr

/-- Source: `DispatchError`. -/
inductive DispatchError where
  | full (capacity : Nat)
  | closed
  | idExhausted
  deriving DecidableEq, Repr

/-- Source: `RunResult`. -/
inductive RunResult where
  | ran (id : TaskId)
  | idle
  | closed
  deriving DecidableEq, Repr

/-- Source: `ManualTaskQueueInner`. -/
structure ManualTaskQueueInner (F : Type) where
  nextId : Option (NonZero UInt64)
  state : QueueState
  tasks : List (ScheduledTask F)
  deriving DecidableEq, Repr

/-- Source: `ManualTaskQueue`. -/
structure ManualTaskQueue (F : Type) where
  capacity : Nat
  capacity_pos : 0 < capacity
  inner : ManualTaskQueueInner F

namespace ManualTaskQueue

variable {F : Type}

/-- Source: `ManualTaskQueue::new`. -/
def new (F : Type) (capacity : Nat) (capacity_pos : 0 < capacity) : ManualTaskQueue F :=
  { capacity, capacity_pos
    inner := { nextId := some ⟨1, by decide⟩, state := .opened, tasks := [] } }

/-- Source: `ManualTaskQueue::dispatch`. -/
def dispatch (task : F) : Call (ManualTaskQueue F) DispatchError TaskId := fun q =>
  if q.inner.state ≠ .opened then .err .closed q
  else if q.inner.tasks.length = q.capacity then .err (.full q.capacity) q
  else
    match q.inner.nextId with
    | none => .err .idExhausted q
    | some id =>
      .ok ⟨id⟩
        { q with
          inner :=
            { q.inner with
              -- `wrapping_add`: after the largest identity there is none
              nextId := NonZero.new (id.get + 1)
              tasks := q.inner.tasks ++ [{ id := ⟨id⟩, run := task }] } }

/-- The part of `run_one` that holds the lock. Source: `ManualTaskQueue::run_one`. -/
def takeTask : Call (ManualTaskQueue F) Empty (PopResult (ScheduledTask F)) := fun q =>
  match q.inner.tasks with
  | task :: rest =>
    .ok (.item task)
      { q with
        inner :=
          { q.inner with state := stateAfterPop q.inner.state rest.isEmpty, tasks := rest } }
  | [] =>
    if q.inner.state = .opened then .ok .empty q
    else .ok .closed { q with inner := { q.inner with state := .closed } }

/-- Source: `ManualTaskQueue::begin_shutdown`. -/
def beginShutdown : Call (ManualTaskQueue F) Empty QueueTransitionOutcome := fun q =>
  let current := shutdownState q.inner.state q.inner.tasks.isEmpty
  .ok (transition q.inner.state current) { q with inner := { q.inner with state := current } }

/-- A closure that dispatches these tasks, one after another, and ignores the answers. -/
def runBody : List F → Call (ManualTaskQueue F) Empty Unit
  | [] => pure ()
  | task :: rest => do
    (dispatch task).settle (fun _ => ()) (fun _ => ())
    runBody rest

/-- `body` gives the dispatches a closure makes when it runs. Source: `ManualTaskQueue::run_one`,
with no other thread between its steps. -/
def runOne (body : F → List F) : Call (ManualTaskQueue F) Empty RunResult := do
  match ← takeTask with
  | .item task =>
    runBody (body task.run)
    pure (.ran task.id)
  | .empty => pure .idle
  | .closed => pure .closed

/-- Source: the loop of `ManualTaskQueue::shutdown_and_drain`. -/
def drainLoop (body : F → List F) : Nat → List TaskId → Call (ManualTaskQueue F) Empty (List TaskId)
  | 0, _ => fun _ => .halt .loop
  | fuel + 1, completed => do
    match ← runOne body with
    | .ran id => drainLoop body fuel (completed ++ [id])
    | .idle => fun _ => .halt (.panic "a draining task queue cannot become open and idle")
    | .closed => pure completed

/-- Source: `ManualTaskQueue::shutdown_and_drain`. -/
def shutdownAndDrain (body : F → List F) (fuel : Nat) :
    Call (ManualTaskQueue F) Empty (List TaskId) := do
  let _ ← beginShutdown
  drainLoop body fuel []

end ManualTaskQueue

/-! ## Interleavings -/

/-- A step of a thread that uses an event queue. -/
inductive QueueOp (T : Type) where
  | tryPush (event : T)
  | tryPop
  | beginShutdown
  deriving DecidableEq, Repr

/-- A step of a thread that uses a task queue; `runOne` is the step that takes the task. -/
inductive TaskOp (F : Type) where
  | dispatch (task : F)
  | runOne
  | beginShutdown
  deriving DecidableEq, Repr

/-- The journal entry for the answer of a pop. -/
def PopResult.entry {T : Type} : PopResult T → Entry T
  | .item event => .delivered event
  | .empty => .missed false
  | .closed => .missed true

/-- The journal entry for the answer of `begin_shutdown`. -/
def QueueTransitionOutcome.entry {T : Type} (outcome : QueueTransitionOutcome) : Entry T :=
  .shutDown (outcome.current = .closed)

/-- A step on an event queue, with its answer. -/
def QueueOp.call {T : Type} : QueueOp T → Call (EventQueue T) Empty (Entry T)
  | .tryPush event =>
    (EventQueue.tryPush event).settle (fun _ => .accepted event) (fun e => .refused (e = .closed))
  | .tryPop => PopResult.entry <$> EventQueue.tryPop
  | .beginShutdown => QueueTransitionOutcome.entry <$> EventQueue.beginShutdown

/-- A step on a task queue, with its answer. -/
def TaskOp.call {F : Type} : TaskOp F → Call (ManualTaskQueue F) Empty (Entry (ScheduledTask F))
  | .dispatch task =>
    (ManualTaskQueue.dispatch task).settle (fun id => .accepted { id := id, run := task })
      (fun e => .refused (e = .closed))
  | .runOne => PopResult.entry <$> ManualTaskQueue.takeTask
  | .beginShutdown => QueueTransitionOutcome.entry <$> ManualTaskQueue.beginShutdown

/-- The steps of all threads on an event queue, in the order in which they hold the lock. -/
def runQueue {T : Type} : List (QueueOp T) → Call (EventQueue T) Empty (List (Entry T)) :=
  Call.runAll QueueOp.call

/-- The steps of all threads on a task queue, in the order in which they hold the lock. -/
def runTasks {F : Type} :
    List (TaskOp F) → Call (ManualTaskQueue F) Empty (List (Entry (ScheduledTask F))) :=
  Call.runAll TaskOp.call

/-! ## What every step keeps -/

/-- The flag of a queue is what its journal and its items say. -/
structure Keeps {T : Type} (capacity : Nat) (journal : List (Entry T)) (state : QueueState)
    (queued : List T) : Prop extends Contract capacity journal queued where
  began_iff : Began journal ↔ state ≠ .opened
  closed_iff : state = .closed ↔ state ≠ .opened ∧ queued = []

namespace Keeps

variable {T : Type} {capacity : Nat} {journal : List (Entry T)} {state : QueueState}
  {queued : List T}

lemma start : Keeps capacity ([] : List (Entry T)) .opened [] where
  toContract := .start
  began_iff := by simp [not_began_nil]
  closed_iff := by simp

lemma accept (hk : Keeps capacity journal state queued) (hopen : state = .opened)
    (hroom : queued.length ≠ capacity) (item : T) :
    Keeps capacity (journal ++ [.accepted item]) state (queued ++ [item]) where
  toContract := by
    apply hk.toContract.accept
    · exact fun hbegan => hk.began_iff.mp hbegan hopen
    · exact Nat.lt_of_le_of_ne hk.bounded hroom
  began_iff := by
    rw [began_concat (by simp)]
    exact hk.began_iff
  closed_iff := by simp [hopen]

lemma refuse (hk : Keeps capacity journal state queued) {closed : Bool}
    (h : closed = true → state ≠ .opened) :
    Keeps capacity (journal ++ [.refused closed]) state queued where
  toContract := by
    apply hk.toContract.refuse
    exact fun hclosed => hk.began_iff.mpr (h hclosed)
  began_iff := by
    rw [began_concat (by simp)]
    exact hk.began_iff
  closed_iff := hk.closed_iff

lemma deliver {item : T} (hk : Keeps capacity journal state (item :: queued)) :
    Keeps capacity (journal ++ [.delivered item]) (stateAfterPop state queued.isEmpty) queued where
  toContract := hk.toContract.deliver
  began_iff := by
    rw [began_concat (by simp), hk.began_iff]
    cases state <;> simp [stateAfterPop]
    split_ifs <;> simp
  closed_iff := by
    -- an item was queued, so the queue was not closed
    have hclosed : state ≠ .closed := fun h => absurd (hk.closed_iff.mp h).2 (by simp)
    cases state <;> simp_all [stateAfterPop]

lemma miss (hk : Keeps capacity journal state []) (closed : Bool)
    (h : closed = true ↔ state ≠ .opened) :
    Keeps capacity (journal ++ [.missed closed]) state [] where
  toContract := by
    apply hk.toContract.miss
    exact fun hclosed => hk.began_iff.mpr (h.mp hclosed)
  began_iff := by
    rw [began_concat (by simp)]
    exact hk.began_iff
  closed_iff := hk.closed_iff

lemma shutDown (hk : Keeps capacity journal state queued) :
    Keeps capacity (journal ++ [.shutDown (shutdownState state queued.isEmpty = .closed)])
      (shutdownState state queued.isEmpty) queued where
  toContract := by
    apply hk.toContract.shutDown
    have hclosed := hk.closed_iff
    cases state <;> simp_all [shutdownState]
  began_iff := by
    simp only [began_shutDown, true_iff]
    cases state <;> simp [shutdownState]
    split_ifs <;> simp
  closed_iff := by
    have hclosed := hk.closed_iff
    cases state <;> simp_all [shutdownState]

/-- A queue that is shut down and empty is closed already when that is found out. -/
lemma closed_of_not_opened (hk : Keeps capacity journal state []) (h : state ≠ .opened) :
    state = .closed :=
  hk.closed_iff.mpr ⟨h, rfl⟩

end Keeps

/-! ## Event queues keep it -/

/-- The event queue agrees with its journal. -/
def EventQueue.Agrees {T : Type} (capacity : Nat) (journal : List (Entry T)) (q : EventQueue T) :
    Prop :=
  q.capacity = capacity ∧ Keeps capacity journal q.inner.state q.inner.events

namespace EventQueue

variable {T : Type} {capacity : Nat} {journal : List (Entry T)} {q : EventQueue T}

variable (h : q.Agrees capacity journal)
include h

lemma agrees_tryPush (event : T) :
    (tryPush event q).Ends (fun _ => Agrees capacity (journal ++ [.accepted event]))
      (fun e => Agrees capacity (journal ++ [.refused (e = .closed)])) := by
  obtain ⟨hcap, hk⟩ := h
  unfold tryPush
  split_ifs with hopen hfull
  · exact ⟨hcap, hk.refuse fun _ => hopen⟩
  · exact ⟨hcap, hk.refuse fun h => absurd h (by simp)⟩
  · rw [hcap] at hfull
    exact ⟨hcap, hk.accept (not_not.mp hopen) hfull event⟩

lemma agrees_tryPop :
    (tryPop q).Ends (fun r => Agrees capacity (journal ++ [r.entry])) (fun _ _ => False) := by
  obtain ⟨hcap, hk⟩ := h
  obtain ⟨c, hpos, state, events⟩ := q
  simp only [tryPop, sat_ok]
  cases events with
  | cons event rest => exact ⟨hcap, hk.deliver⟩
  | nil =>
    simp only [popLocked]
    split_ifs with hopen
    · exact ⟨hcap, hk.miss false (by simp [hopen])⟩
    · have hclosed : state = .closed := hk.closed_of_not_opened hopen
      subst hclosed
      exact ⟨hcap, hk.miss true (by simp)⟩

lemma agrees_beginShutdown :
    (beginShutdown q).Ends (fun r => Agrees capacity (journal ++ [r.entry])) (fun _ _ => False) :=
  ⟨h.1, h.2.shutDown⟩

lemma agrees_call (op : QueueOp T) :
    (op.call q).Ends (fun e => Agrees capacity (journal ++ [e])) (fun _ _ => False) := by
  cases op with
  | tryPush event => exact sat_settle.mpr (agrees_tryPush h event)
  | tryPop => exact sat_map.mpr (agrees_tryPop h)
  | beginShutdown => exact sat_map.mpr (agrees_beginShutdown h)

end EventQueue

/-! ## Task queues keep it, and number their tasks -/

/-- Tasks are numbered from 1 without a gap, and the next number is known while there is one. -/
def Numbered {F : Type} (accepted : List (ScheduledTask F)) (nextId : Option (NonZero UInt64)) :
    Prop :=
  accepted.map (fun task => task.id.id.get.toNat) = List.range' 1 accepted.length ∧
    ∀ id, nextId = some id → id.get.toNat = accepted.length + 1

lemma numbered_concat {F : Type} {accepted : List (ScheduledTask F)} {id : NonZero UInt64}
    (h : Numbered accepted (some id)) (run : F) :
    Numbered (accepted ++ [{ id := ⟨id⟩, run := run }]) (NonZero.new (id.get + 1)) := by
  have hid := h.2 id rfl
  refine ⟨?_, fun next hnext => ?_⟩
  · rw [map_append, h.1, length_append, length_singleton, range'_concat]
    simp [hid, Nat.add_comm]
  · -- the sum did not wrap, for otherwise it would be zero
    have hlt := id.get.toNat_lt
    have hsum : (id.get + 1).toNat = (id.get.toNat + 1) % 2 ^ 64 := by
      rfl
    unfold NonZero.new at hnext
    split_ifs at hnext with hne
    have hget : next.get = id.get + 1 := by rw [← Option.some.inj hnext]
    have hpos : (id.get + 1).toNat ≠ 0 := fun h0 => hne (UInt64.toNat_inj.mp h0)
    rw [hget, length_append, length_singleton]
    omega

/-- The task queue agrees with its journal. -/
def ManualTaskQueue.Agrees {F : Type} (capacity : Nat) (journal : List (Entry (ScheduledTask F)))
    (q : ManualTaskQueue F) : Prop :=
  q.capacity = capacity ∧ Keeps capacity journal q.inner.state q.inner.tasks ∧
    Numbered (ClosingQueue.accepted journal) q.inner.nextId

namespace ManualTaskQueue

variable {F : Type} {capacity : Nat} {journal : List (Entry (ScheduledTask F))}
  {q : ManualTaskQueue F}

section

variable (h : q.Agrees capacity journal)
include h

lemma agrees_dispatch (task : F) :
    (dispatch task q).Ends
      (fun id => Agrees capacity (journal ++ [.accepted { id := id, run := task }]))
      (fun e => Agrees capacity (journal ++ [.refused (e = .closed)])) := by
  obtain ⟨hcap, hk, hnum⟩ := h
  have hsame : ∀ closed, Numbered (accepted (journal ++ [.refused closed]))
      q.inner.nextId := by
    intro closed
    simpa [ClosingQueue.Entry.accepted?] using hnum
  unfold dispatch
  split_ifs with hopen hfull
  · exact ⟨hcap, hk.refuse fun _ => hopen, hsame _⟩
  · exact ⟨hcap, hk.refuse fun h => absurd h (by simp), hsame _⟩
  · split
    · exact ⟨hcap, hk.refuse fun h => absurd h (by simp), hsame _⟩
    · rename_i id hid
      rw [hcap] at hfull
      rw [hid] at hnum
      refine ⟨hcap, hk.accept (not_not.mp hopen) hfull _, ?_⟩
      simpa [ClosingQueue.Entry.accepted?] using numbered_concat hnum task

lemma agrees_takeTask :
    (takeTask q).Ends (fun r => Agrees capacity (journal ++ [r.entry])) (fun _ _ => False) := by
  obtain ⟨hcap, hk, hnum⟩ := h
  obtain ⟨c, hpos, nextId, state, tasks⟩ := q
  have hsame : ∀ r : PopResult (ScheduledTask F),
      Numbered (accepted (journal ++ [r.entry])) nextId := by
    intro r
    cases r <;> simpa [ClosingQueue.Entry.accepted?, PopResult.entry] using hnum
  cases tasks with
  | cons task rest => exact ⟨hcap, hk.deliver, hsame (.item task)⟩
  | nil =>
    simp only [takeTask]
    split_ifs with hopen
    · exact ⟨hcap, hk.miss false (by simp [hopen]), hsame .empty⟩
    · have hclosed : state = .closed := hk.closed_of_not_opened hopen
      subst hclosed
      exact ⟨hcap, hk.miss true (by simp), hsame .closed⟩

lemma agrees_beginShutdown :
    (beginShutdown q).Ends (fun r => Agrees capacity (journal ++ [r.entry])) (fun _ _ => False) := by
  refine ⟨h.1, h.2.1.shutDown, ?_⟩
  simpa [ClosingQueue.Entry.accepted?, QueueTransitionOutcome.entry] using h.2.2

lemma agrees_call (op : TaskOp F) :
    (op.call q).Ends (fun e => Agrees capacity (journal ++ [e])) (fun _ _ => False) := by
  cases op with
  | dispatch task => exact sat_settle.mpr (agrees_dispatch h task)
  | runOne => exact sat_map.mpr (agrees_takeTask h)
  | beginShutdown => exact sat_map.mpr (agrees_beginShutdown h)

end

/-! ## Running tasks -/

variable (body : F → List F)

/-- A closed queue turns every dispatch away and stays as it is. -/
lemma runBody_of_shut (h : q.inner.state ≠ .opened) (tasks : List F) :
    runBody tasks q = .ok () q := by
  induction tasks with
  | nil => rfl
  | cons task rest ih =>
    have hd : dispatch task q = .err .closed q := by
      unfold dispatch
      rw [if_pos h]
    simp only [runBody, bind_apply, settle, hd, andThen]
    exact ih

lemma stateAfterPop_ne_opened {state : QueueState} (h : state ≠ .opened) (isEmpty : Bool) :
    stateAfterPop state isEmpty ≠ .opened := by
  unfold stateAfterPop
  split_ifs
  · simp
  · exact h

/-- After shutdown began, the loop runs what is queued, in order, and ends. -/
lemma drainLoop_eq {fuel : Nat} (completed : List TaskId)
    (hstate : q.inner.state ≠ .opened) (hfuel : q.inner.tasks.length < fuel) :
    drainLoop body fuel completed q = .ok (completed ++ q.inner.tasks.map (·.id))
        { q with inner := { q.inner with state := .closed, tasks := [] } } := by
  induction fuel generalizing q completed with
  | zero => exact absurd hfuel (Nat.not_lt_zero _)
  | succ fuel ih =>
    obtain ⟨c, hpos, nextId, state, tasks⟩ := q
    cases tasks with
    | nil =>
      have htake : takeTask ⟨c, hpos, nextId, state, ([] : List (ScheduledTask F))⟩ =
          .ok .closed ⟨c, hpos, nextId, .closed, []⟩ := by
        simp only [takeTask]
        rw [if_neg hstate]
      simp [drainLoop, runOne, htake, andThen]
    | cons task rest =>
      have hnext := stateAfterPop_ne_opened hstate rest.isEmpty
      have hrun : runOne body ⟨c, hpos, nextId, state, task :: rest⟩ =
          .ok (.ran task.id) ⟨c, hpos, nextId, stateAfterPop state rest.isEmpty, rest⟩ := by
        have hbody := runBody_of_shut
          (q := ⟨c, hpos, nextId, stateAfterPop state rest.isEmpty, rest⟩) hnext
          (body task.run)
        simp [runOne, takeTask, andThen, hbody]
      have hrest := ih (q := ⟨c, hpos, nextId, stateAfterPop state rest.isEmpty, rest⟩)
        (completed ++ [task.id]) hnext (Nat.lt_of_succ_lt_succ hfuel)
      simp only [drainLoop, bind_apply, hrun, andThen, hrest]
      simp

lemma shutdownState_ne_opened (state : QueueState) (isEmpty : Bool) :
    shutdownState state isEmpty ≠ .opened := by
  unfold shutdownState
  split_ifs <;> simp_all

/-- A drain that runs alone runs what is queued and returns its identities in order. -/
lemma shutdownAndDrain_eq {fuel : Nat} (q : ManualTaskQueue F)
    (hfuel : q.inner.tasks.length < fuel) :
    shutdownAndDrain body fuel q = .ok (q.inner.tasks.map (·.id))
        { q with inner := { q.inner with state := .closed, tasks := [] } } := by
  have hloop := drainLoop_eq (q := { q with inner := { q.inner with
    state := shutdownState q.inner.state q.inner.tasks.isEmpty } }) body []
    (shutdownState_ne_opened _ _) hfuel
  simpa [shutdownAndDrain, beginShutdown, andThen] using hloop

end ManualTaskQueue

/-! ## Every interleaving -/

/-- **Bounded queues lose and reorder nothing.** For every interleaving of the steps of any threads
on a new event queue, and on a new task queue (the dispatches of running tasks among its steps):

* the queue keeps its contract: what was delivered and then what is queued is what was accepted, in
  order; the capacity bounds what is queued; nothing is accepted after shutdown began; and a call
  reports `Closed` only if shutdown began, to a consumer only if nothing is queued either;
* the state is `Closed` exactly when shutdown began and nothing is queued;
* the identities of the accepted tasks are 1, 2, 3 and so on;
* a drain that then runs alone, whatever its tasks dispatch, returns the queued identities in
  order. -/
theorem queues_lose_nothing (T F : Type) (capacity : Nat) (hpos : 0 < capacity)
    (steps : List (QueueOp T)) (taskSteps : List (TaskOp F)) :
    (∃ journal q, runQueue steps (EventQueue.new T capacity hpos) = .ok journal q ∧
      Contract capacity journal q.inner.events ∧
      (q.inner.state = .closed ↔ Began journal ∧ q.inner.events = [])) ∧
    ∃ journal q, runTasks taskSteps (ManualTaskQueue.new F capacity hpos) = .ok journal q ∧
      Contract capacity journal q.inner.tasks ∧
      (q.inner.state = .closed ↔ Began journal ∧ q.inner.tasks = []) ∧
      (ClosingQueue.accepted journal).map (fun task => task.id.id.get.toNat) =
        List.range' 1 (ClosingQueue.accepted journal).length ∧
      ∀ (body : F → List F) (fuel : Nat), q.inner.tasks.length < fuel →
        ∃ q', ManualTaskQueue.shutdownAndDrain body fuel q = .ok (q.inner.tasks.map (·.id)) q' := by
  constructor
  · have hnew : EventQueue.Agrees capacity [] (EventQueue.new T capacity hpos) := ⟨rfl, .start⟩
    have hsat := Call.sat_runAll (I := EventQueue.Agrees capacity)
      (fun _ _ op h => EventQueue.agrees_call h op) hnew steps
    obtain ⟨journal, q, hrun, _, hk⟩ := hsat.exists_ok
    refine ⟨journal, q, hrun, hk.toContract, ?_⟩
    rw [List.nil_append] at hk
    rw [hk.began_iff]
    exact hk.closed_iff
  · have hnew : ManualTaskQueue.Agrees capacity [] (ManualTaskQueue.new F capacity hpos) := by
      refine ⟨rfl, .start, rfl, ?_⟩
      rintro id hid
      rw [← Option.some.inj hid]
      rfl
    have hsat := Call.sat_runAll (I := ManualTaskQueue.Agrees capacity)
      (fun _ _ op h => ManualTaskQueue.agrees_call h op) hnew taskSteps
    obtain ⟨journal, q, hrun, _, hk, hnum⟩ := hsat.exists_ok
    refine ⟨journal, q, hrun, hk.toContract, ?_, hnum.1, ?_⟩
    · rw [List.nil_append] at hk
      rw [hk.began_iff]
      exact hk.closed_iff
    · intro body fuel hfuel
      exact ⟨_, ManualTaskQueue.shutdownAndDrain_eq body q hfuel⟩

/-- Queues with one place: an event queue is shut down while it holds an item, and a task queue is
drained after a task was refused for lack of room. -/
theorem queues_lose_nothing_one_place :
    (∃ journal q, runQueue [.tryPush 3, .tryPush 4, .beginShutdown, .tryPop, .tryPop]
        (EventQueue.new Nat 1 Nat.one_pos) = .ok journal q ∧
      journal = [.accepted 3, .refused false, .shutDown false, .delivered 3, .missed true] ∧
      Contract 1 journal q.inner.events ∧ q.inner.state = .closed) ∧ ∃ journal q,
      runTasks [.dispatch 5, .dispatch 6, .runOne, .dispatch 7]
        (ManualTaskQueue.new Nat 1 Nat.one_pos) = .ok journal q ∧
      (ClosingQueue.accepted journal).map (fun task => task.id.id.get.toNat) = [1, 2] ∧
      ∃ q', ManualTaskQueue.shutdownAndDrain (fun n => [n, n]) 2 q =
        .ok (q.inner.tasks.map (·.id)) q' := by
  obtain ⟨⟨journal, q, hrun, hcontract, hclosed⟩, taskJournal, tasks, htasks, _, _, hids, hdrain⟩ :=
    queues_lose_nothing Nat Nat 1 Nat.one_pos
      [.tryPush 3, .tryPush 4, .beginShutdown, .tryPop, .tryPop]
      [.dispatch 5, .dispatch 6, .runOne, .dispatch 7]
  have hevents : runQueue [.tryPush 3, .tryPush 4, .beginShutdown, .tryPop, .tryPop]
      (EventQueue.new Nat 1 Nat.one_pos) =
      .ok [.accepted 3, .refused false, .shutDown false, .delivered 3, .missed true]
        ⟨1, Nat.one_pos, .closed, []⟩ := rfl
  have hfound : runTasks [.dispatch 5, .dispatch 6, .runOne, .dispatch 7]
      (ManualTaskQueue.new Nat 1 Nat.one_pos) =
      .ok [.accepted ⟨⟨⟨1, by decide⟩⟩, 5⟩, .refused false, .delivered ⟨⟨⟨1, by decide⟩⟩, 5⟩,
          .accepted ⟨⟨⟨2, by decide⟩⟩, 7⟩]
        ⟨1, Nat.one_pos, some ⟨3, by decide⟩, .opened, [⟨⟨⟨2, by decide⟩⟩, 7⟩]⟩ := rfl
  obtain ⟨rfl, rfl⟩ := Outcome.ok.inj (hevents.symm.trans hrun)
  obtain ⟨rfl, rfl⟩ := Outcome.ok.inj (hfound.symm.trans htasks)
  refine ⟨⟨_, _, hevents, rfl, hcontract, hclosed.mpr ⟨⟨false, by simp⟩, rfl⟩⟩, ?_⟩
  exact ⟨_, _, hfound, hids, hdrain _ 2 (by decide)⟩

/-- **A producer is told `Closed` while an item is still queued.** -/
theorem refused_while_draining :
    ∃ q, runQueue [.tryPush 3, .beginShutdown, .tryPush 4] (EventQueue.new Nat 2 Nat.two_pos) =
        .ok [.accepted 3, .shutDown false, .refused true] q ∧
      q.inner.state = .draining ∧ q.inner.events = [3] :=
  ⟨_, rfl, rfl, rfl⟩

end WildBuzzard.Runtime
