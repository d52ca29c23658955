import WildBuzzard.Ui.View

/-!
# Handling an event

An event that is applied leaves a running session (`Handles`); **an error ends the session or comes
from the engine's port**. Handling is closed under sequencing, and the parts that events are put
together from handle: demands on the engine, transfers from it, finding the tab of a navigation,
moving a navigation to its next phase.
-/

namespace WildBuzzard.Ui

open Lib Engine

namespace BrowserSession

variable {E α β : Type} {s t u : BrowserSession E} {tab : BrowserTabId} {a : TabState}
  {navigation : NavigationId}

/-! ## Handling -/

/-- A call that goes on with a running session and a property of what it returned, or whose error
ended the session or came from the port. -/
def Handles (s : BrowserSession E) (Q : α → BrowserSession E → Prop)
    (o : Outcome (BrowserSession E) SessionError α) : Prop :=
  o.Sat (fun a t => Alive t ∧ Extends s t ∧ Q a t)
    (fun e t => After s t ∧ Proper e ∧ (t.lifecycle = .running → FromPort e)) fun _ => False

variable {m : SessionCall E α} {f : α → SessionCall E β} {Q : α → BrowserSession E → Prop}
  {R : β → BrowserSession E → Prop} {o : Outcome (BrowserSession E) SessionError α}

lemma Handles.imp {Q' : α → BrowserSession E → Prop} (h : Handles s Q o)
    (hQ : ∀ a t, Q a t → Q' a t) : Handles s Q' o :=
  Outcome.Sat.imp h fun a t ht => ⟨ht.1, ht.2.1, hQ a t ht.2.2⟩

/-- **A sequence handles when its first call does and the rest does from there.** -/
theorem Handles.bind (hm : Handles s Q (m s))
    (hf : ∀ a t, Alive t → Q a t → Handles t R (f a t)) : Handles s R ((m >>= f) s) := by
  refine Call.sat_bind.mpr (Outcome.Sat.mono hm ?_ (fun _ _ h => h) fun _ => id)
  rintro a t ⟨halive, hids, hQ⟩
  exact (hf a t halive hQ).imp₂ (fun _ _ h => ⟨h.1, hids.trans h.2.1, h.2.2⟩) fun _ _ h =>
    ⟨⟨h.1.inv, hids.trans h.1.ids⟩, h.2⟩

/-- A sequence whose first call is known. -/
lemma Handles.step {a : α} (hm : m s = .ok a t) (hids : Extends s t)
    (hf : Handles t R (f a t)) : Handles s R ((m >>= f) s) := by
  rw [Call.bind_of_ok hm]
  exact hf.imp₂ (fun _ _ h => ⟨h.1, hids.trans h.2.1, h.2.2⟩) fun _ _ h =>
    ⟨⟨h.1.inv, hids.trans h.1.ids⟩, h.2⟩

lemma Handles.look {a : α} (hm : m s = .ok a s) (hf : Handles s R (f a s)) :
    Handles s R ((m >>= f) s) := .step hm (.refl s) hf

lemma Handles.read {g : BrowserSession E → SessionCall E β} (h : Handles s R (g s s)) :
    Handles s R ((Call.read >>= g) s) := h

lemma Handles.pure (hs : Alive s) {a : α} (ha : Q a s) :
    Handles s Q ((Pure.pure a : SessionCall E α) s) := ⟨hs, .refl s, ha⟩

/-- A call that changed the session. -/
lemma Handles.of_after (ht : After s t) (hr : t.lifecycle = .running) {a : α} (hQ : Q a t)
    (hm : m s = .ok a t) : Handles s Q (m s) := by
  rw [hm]
  exact ⟨ht.inv.alive_of_running hr, ht.ids, hQ⟩

/-- An outcome of one event. -/
def Single : EnginePumpOutcome → Prop
  | .batch _ _ => False
  | _ => True

/-- The outcome of one event that leaves these views. -/
def Settles (views : Table BrowserTabId (List HistoryEntry × Option ℕ × List Char))
    (outcome : EnginePumpOutcome) (t : BrowserSession E) : Prop :=
  Single outcome ∧ t.views = views

/-! ## Changes of one tab -/

/-- The session with a navigation in its next phase runs on. -/
lemma Alive.enterPhase (hs : Alive s) (ha : s.tabs.lookup tab = some a)
    {phase : NavigationPhase} (hphase : a.navigationPhases.lookup navigation = some phase)
    (hready : phase ≠ .ready) (next : NavigationPhase) :
    After s (s.withTab tab (enterPhase navigation next)) := by
  refine hs.updateTab ha ?_
  exact
    { TabChange.refl hs.sound ha with
      sound := tabSound_enterPhase (hs.sound.tab ha) hphase hready next
      ledgerSum := by rw [ledgerEntries_enterPhase hphase] }

/-- A change of a tab that no account is about and that shows nowhere. -/
def Soft (f : TabState → TabState) : Prop :=
  ∀ a, (f a).toTabRecord = a.toTabRecord ∧ (f a).address = a.address

lemma Soft.view {f : TabState → TabState} (h : Soft f) (a : TabState) : (f a).view = a.view := by
  unfold TabState.view
  rw [(h a).1, (h a).2]

lemma modifyTab_soft (hs : Alive s) (ha : s.tabs.lookup tab = some a) {f : TabState → TabState}
    (hf : Soft f) :
    Handles s (fun _ t => t.views = s.views ∧ ∃ b, t.tabs.lookup tab = some b)
      (modifyTab tab f s) := by
  refine .of_after (hs.softTab ha (hf a).1) hs.running ⟨?_, _, Table.lookup_update_self ha f⟩
    (modifyTab_eq ha f)
  exact views_withTab hf.view s tab

section Engine

variable [EnginePort E]

lemma fail_handles (hs : Alive s) {failure : SessionFailure} (hp : ProperFailure failure) :
    Handles s Q ((fail failure : SessionCall E α) s) := by
  unfold fail
  rw [if_neg (by simp [hs.running])]
  exact ⟨after_failed hp _, proper_terminal hp, fun hr => absurd hr (by simp [ended])⟩

lemma blame_handles (hs : Alive s) (fault : EngineFault) :
    Handles s Q ((blame fault : SessionCall E α) s) := by
  have hp : ProperFailure (.engineContract (.engine fault)) := trivial
  exact fail_handles hs hp

lemma demand_handles (hs : Alive s) (c : Prop) [Decidable c] (fault : EngineFault) :
    Handles s (fun _ t => t = s ∧ c) ((demand c fault : SessionCall E Unit) s) := by
  unfold demand
  split_ifs with hc
  · exact .pure hs ⟨rfl, hc⟩
  · exact blame_handles hs fault

/-- A demand that is not met ends the session. -/
lemma sat_demand_bind (hs : Alive s) {c : Prop} [Decidable c] {fault : EngineFault}
    {f : Unit → SessionCall E β} {F : SessionError → BrowserSession E → Prop} {H : Halt → Prop}
    (hok : c → (f () s).Sat R F H)
    (herr : ¬c → ∀ e t, After s t → Proper e → t.lifecycle ≠ .running → F e t) :
    ((demand c fault >>= f) s).Sat R F H := by
  have hp : ProperFailure (.engineContract (.engine fault)) := trivial
  refine Call.sat_bind.mpr ?_
  unfold demand
  split_ifs with hc
  · exact hok hc
  · unfold blame fail
    rw [if_neg (by simp [hs.running])]
    exact herr hc _ _ (after_failed hp _) (proper_terminal hp) (by simp [ended])

/-! ## Transfers from the engine -/

lemma resolveEngineResult_handles (hs : Alive s) (result : Except EnginePortError α) :
    Handles s (fun _ t => t = s) (resolveEngineResult result s) := by
  refine (resolveEngineResult_sat hs result).imp₂ ?_ ?_
  · rintro _ t ⟨-, rfl⟩
    exact ⟨hs, .refl t, rfl⟩
  · exact fun e t ht => ⟨ht.1, ht.2.1, fun hr => (ht.2.2 hr).2⟩

lemma callEngine_handles (hs : Alive s) (operation : String) (call : E → PortAnswer α × E) :
    Handles s
      (fun value t => ∃ later, Answers s call value later ∧ t = { s with engine := some later })
      (callEngine operation call s) := by
  refine (callEngine_sat hs operation call).imp₂ ?_ ?_
  · rintro value t ⟨later, hanswer, rfl⟩
    have hafter := hs.withEngine later
    exact ⟨hafter.inv.alive_of_running hs.running, hafter.ids, later, hanswer, rfl⟩
  · exact fun e t ht => ⟨ht.1, ht.2.1, fun hr => (ht.2.2 hr).2⟩

/-- A transfer changes nothing but the engine. -/
lemma transfer_handles (hs : Alive s) (missing : InternalFault) (operation : String)
    (stale : EnginePortError) (call : E → PortAnswer α × E) :
    Handles s (fun _ t => EngineOnly s t) (transfer missing operation stale call s) := by
  obtain ⟨engine, -, hanswer⟩ := onEngine_eq hs missing call
  have hafter := hs.withEngine (call engine).2
  have halive : Alive { s with engine := some (call engine).2 } :=
    hafter.inv.alive_of_running hs.running
  refine .step hanswer hafter.ids ?_
  have hp : ProperFailure (.enginePanicked operation) := trivial
  cases (call engine).1 with
  | panicked => exact fail_handles halive hp
  | returned result =>
    cases result with
    | ok value => exact .pure halive ⟨_, rfl⟩
    | error error =>
      simp only [settleTransfer]
      split_ifs
      · exact .pure halive ⟨_, rfl⟩
      · refine Call.sat_map.mpr ((resolveEngineResult_handles halive _).imp ?_)
        rintro _ t rfl
        exact ⟨_, rfl⟩

section

variable (hs : Alive s) (navigation : NavigationId)
include hs

/-- A frame that was transferred is the announced one. -/
lemma takeCheckedFrame_handles (lease : EnginePortFrameLeaseId)
    (descriptor : EngineFrameDescriptor) :
    Handles s (fun frame t => EngineOnly s t ∧ ∀ f ∈ frame, f.descriptor = descriptor)
      (takeCheckedFrame navigation lease descriptor s) := by
  refine (transfer_handles hs _ _ _ _).bind fun frame t ht hengine => ?_
  cases frame with
  | none => exact .pure ht ⟨hengine, by simp⟩
  | some frame =>
    refine (demand_handles ht _ _).bind fun _ u hu => ?_
    rintro ⟨rfl, -, -, hdescriptor⟩
    refine .pure hu ⟨hengine, ?_⟩
    rintro _ ⟨rfl⟩
    exact hdescriptor

lemma discardStaleFrame_handles (lease : EnginePortFrameLeaseId) :
    Handles s (fun _ t => EngineOnly s t) (discardStaleFrame navigation lease s) :=
  (transfer_handles hs _ _ _ _).bind fun _ _ ht hengine => .pure ht hengine

lemma discardStaleResult_handles (lease : EnginePortMutationLeaseId) :
    Handles s (fun _ t => EngineOnly s t) (discardStaleResult navigation lease s) :=
  (transfer_handles hs _ _ _ _).bind fun _ _ ht hengine => .pure ht hengine

end

/-! ## Finding the tab of an event -/

/-- Where the events of a navigation belong: to the tab of its context, whose ledger knows it, or
nowhere. -/
def Located (s : BrowserSession E) (navigation : NavigationId) : Option BrowserTabId → Prop
  | none => s.contexts.lookup navigation.context = none
  | some tab => ∃ a phase, s.tabs.lookup tab = some a ∧ a.context = navigation.context ∧
      a.navigationPhases.lookup navigation = some phase

lemma tabForKnownNavigation_handles (hs : Alive s) (navigation : NavigationId)
    (fault : EngineFault) :
    Handles s (fun found t => t = s ∧ Located s navigation found)
      (tabForKnownNavigation navigation fault s) := by
  refine .read ?_
  cases hx : s.contexts.lookup navigation.context with
  | none =>
    split_ifs
    · exact .pure hs ⟨rfl, hx⟩
    · exact blame_handles hs fault
  | some tab =>
    obtain ⟨a, ha, hcontext⟩ := hs.sound.contextTab hx
    refine .look (getTab_eq ha) ?_
    by_cases hmem : navigation ∈ a.navigationPhases
    · obtain ⟨phase, hphase⟩ := Table.lookup_some_of_mem hmem
      rw [if_pos hmem]
      exact .pure hs ⟨rfl, a, phase, ha, hcontext, hphase⟩
    · rw [if_neg hmem]
      exact blame_handles hs fault

/-- An event of a document belongs to the page of a tab, or nowhere. -/
lemma tabForLiveDocumentEvent_handles (hs : Alive s) (navigation : NavigationId) :
    Handles s (fun found t => t = s ∧ ∀ tab ∈ found, ∃ a, s.tabs.lookup tab = some a ∧
        a.liveNavigation = some navigation) (tabForLiveDocumentEvent navigation s) := by
  refine (tabForKnownNavigation_handles hs navigation _).bind fun found t ht => ?_
  rintro ⟨rfl, hlocated⟩
  cases found with
  | none => exact .pure ht ⟨rfl, by simp⟩
  | some tab =>
    obtain ⟨a, phase, ha, -, -⟩ := hlocated
    refine .look (getTab_eq ha) ((demand_handles ht _ _).bind fun _ u hu => ?_)
    rintro ⟨rfl, hlive⟩
    refine (demand_handles hu _ _).bind fun _ v hv => ?_
    rintro ⟨rfl, -⟩
    refine .pure hv ⟨rfl, ?_⟩
    rintro _ ⟨rfl⟩
    exact ⟨a, ha, hlive⟩

/-! ## Phases -/

/-- A navigation goes on from an allowed phase to the next one. -/
lemma requireNavigationPhase_handles (hs : Alive s) (ha : s.tabs.lookup tab = some a)
    {phase : NavigationPhase} (hphase : a.navigationPhases.lookup navigation = some phase)
    {allowed : List NavigationPhase} (hready : .ready ∉ allowed) (next : NavigationPhase)
    (fault : EngineFault) :
    Handles s (fun _ t => phase ∈ allowed ∧ t = s.withTab tab (enterPhase navigation next))
      (requireNavigationPhase tab navigation allowed next fault s) := by
  refine .look (getTab_eq ha) ?_
  rw [hphase, okOr_some]
  refine .look (Call.pure_apply phase s) ((demand_handles hs _ _).bind fun _ t _ => ?_)
  rintro ⟨rfl, hallowed⟩
  have hne : phase ≠ .ready := fun heq => hready (heq ▸ hallowed)
  exact .of_after (hs.enterPhase ha hphase hne next) hs.running ⟨hallowed, rfl⟩
    (modifyTab_eq ha _)

lemma bumpPrimaryUiForTab_handles (hs : Alive s) (ha : s.tabs.lookup tab = some a) :
    Handles s (fun _ t => t.views = s.views) (bumpPrimaryUiForTab tab s) := by
  refine (bumpPrimaryUiForTab_sat hs ha).imp₂ ?_ ?_
  · rintro _ t ⟨ht, hquiet⟩
    have hr : t.lifecycle = .running := by
      rw [hquiet.rest]
      exact hs.running
    exact ⟨ht.inv.alive_of_running hr, ht.ids, hquiet.views_eq⟩
  · exact fun e t ht => ⟨ht.1, ht.2.2, fun hr => absurd hr ht.2.1⟩

end Engine

end BrowserSession

end WildBuzzard.Ui
