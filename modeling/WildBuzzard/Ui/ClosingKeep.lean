import WildBuzzard.Ui.CommandsKeep

/-!
# Closing tabs and windows

A tab that is closed leaves the window that lists it, or takes the window with it, and then the
session with its last window. The checks a close starts with all hold in a sound session
(`closePreflight_looks`), so **a close is refused only for want of a tombstone or by the engine**,
and after the engine admitted it nothing is missing (`dropTab_sat`).
-/

namespace WildBuzzard.Ui

open Lib Engine Call Table Option

namespace BrowserSession

variable {E : Type} {s t : BrowserSession E} {tab : BrowserTabId} {window : BrowserWindowId}
  {a : TabState} {A : WindowState}

/-! ## The window of a closed tab -/

variable {index : ℕ}

/-- The tabs that are left. -/
lemma mem_removeTab (hnodup : A.tabs.Nodup)
    (hindex : A.tabs.findIdx? (fun candidate => candidate = tab) = some index) (t : BrowserTabId) :
    t ∈ (removeTab tab index A).tabs ↔ t ≠ tab ∧ t ∈ A.tabs := by
  show t ∈ A.tabs.eraseIdx index ↔ _
  rw [eraseIdx_of_findIdx? hindex]
  exact hnodup.mem_erase_iff

/-- The active tab is one of those that are left. -/
lemma active_removeTab (hnodup : A.tabs.Nodup) (hactive : A.active ∈ A.tabs)
    (hindex : A.tabs.findIdx? (fun candidate => candidate = tab) = some index)
    (hleft : (removeTab tab index A).tabs ≠ []) :
    (removeTab tab index A).active ∈ (removeTab tab index A).tabs := by
  have hmem := mem_removeTab hnodup hindex
  by_cases hclosed : A.active = tab
  · have heq : (removeTab tab index A).active =
        (A.tabs.eraseIdx index).getD (min index ((A.tabs.eraseIdx index).length - 1)) A.active :=
      if_pos hclosed
    have hpos : 0 < (A.tabs.eraseIdx index).length := List.length_pos_of_ne_nil hleft
    have hlt : min index ((A.tabs.eraseIdx index).length - 1) < (A.tabs.eraseIdx index).length := by
      omega
    rw [heq, List.getD_eq_getElem?_getD, List.getElem?_eq_getElem hlt, getD_some]
    exact List.getElem_mem _
  · have heq : (removeTab tab index A).active = A.active := if_neg hclosed
    rw [heq]
    exact (hmem A.active).mpr ⟨hclosed, hactive⟩

section

variable (h : Sound s) (hA : s.windows.lookup a.window = some A)
variable (hindex : A.tabs.findIdx? (fun candidate => candidate = tab) = some index)
include h hA hindex

/-- A window that still has tabs. -/
lemma lostTab_update (hleft : (removeTab tab index A).tabs ≠ []) :
    LostTab s tab a (s.windows.update a.window (removeTab tab index)) s.surfaces := by
  have hnodup := h.nodup hA
  have hmem := mem_removeTab hnodup hindex
  have hself := lookup_update_self hA (removeTab tab index)
  have hwindow : ∀ B, (s.windows.update a.window (removeTab tab index)).lookup a.window = some B →
      removeTab tab index A = B := fun B hB => some.inj (hself.symm.trans hB)
  constructor
  case others => exact fun w hw => lookup_update_of_ne hw _
  case id =>
    intro B hB
    rw [← hwindow B hB]
    exact (h.windowId hA :)
  case nodup =>
    intro B hB
    rw [← hwindow B hB]
    exact hnodup.sublist (List.eraseIdx_sublist _ _)
  case active =>
    intro B hB
    rw [← hwindow B hB]
    exact active_removeTab hnodup (h.active hA) hindex hleft
  case listed =>
    intro B t hB ht
    rw [← hwindow B hB] at ht
    obtain ⟨hne, ht⟩ := (hmem t).mp ht
    exact ⟨hne, h.listed hA ht⟩
  case left =>
    intro t T hT hTw hne
    obtain ⟨W, hW, ht⟩ := h.owned hT
    rw [hTw] at hW
    obtain rfl := some.inj (hA.symm.trans hW)
    exact ⟨_, hself, (hmem t).mpr ⟨hne, ht⟩⟩
  case focus =>
    intro B hB
    rw [← hwindow B hB]
    exact (h.focus hA :)
  case surface =>
    intro B f hB hf hd
    rw [← hwindow B hB] at hf hd
    exact h.surface hA hf hd
  case surfaces => exact fun _ _ _ hf => hf

/-- A window that lost its last tab and is gone. -/
lemma lostTab_erase (hleft : (removeTab tab index A).tabs = [])
    {surfaces : Table SurfaceId BrowserWindowId}
    (hsurfaces : ∀ f w, w ≠ a.window → s.surfaces.lookup f = some w → surfaces.lookup f = some w) :
    LostTab s tab a ((s.windows.update a.window (removeTab tab index)).erase a.window)
      surfaces := by
  have hgone : ((s.windows.update a.window (removeTab tab index)).erase a.window).lookup a.window =
      none := by
    rw [lookup_erase_eq, if_pos rfl]
  have hnone : ∀ {B}, ((s.windows.update a.window (removeTab tab index)).erase a.window).lookup
      a.window ≠ some B := by
    intro B hB
    exact absurd (hgone.symm.trans hB) (by simp)
  constructor
  case others =>
    intro w hw
    rw [lookup_erase_eq, if_neg hw]
    exact lookup_update_of_ne hw _
  case id => exact fun B hB => absurd hB hnone
  case nodup => exact fun B hB => absurd hB hnone
  case active => exact fun B hB => absurd hB hnone
  case listed => exact fun B t hB => absurd hB hnone
  case left =>
    intro t T hT hTw hne
    obtain ⟨W, hW, ht⟩ := h.owned hT
    rw [hTw] at hW
    obtain rfl := some.inj (hA.symm.trans hW)
    have hleftover := (mem_removeTab (h.nodup hA) hindex t).mpr ⟨hne, ht⟩
    rw [hleft] at hleftover
    simp at hleftover
  case focus => exact fun B hB => absurd hB hnone
  case surface => exact fun B f hB => absurd hB hnone
  case surfaces => exact hsurfaces

end

/-! ## The steps of a close -/

variable [EnginePort E]

/-- The checks of references and accounts all hold. -/
lemma closePreflight_looks (h : Sound s) (ha : s.tabs.lookup tab = some a) :
    Looks s (fun _ => True) (closePreflight tab a.toTabRecord s) := by
  obtain ⟨A, hA, hmem⟩ := h.owned ha
  have hlisted : ¬¬((s.windows.lookup a.window).any fun owner => tab ∈ owner.tabs) = true := by
    simp [hA, hmem]
  have hcontext : ¬(s.contexts.lookup a.context ≠ some tab ∨ a.context ∈ s.closingContexts) := by
    rintro (hx | hx)
    · exact hx (h.context ha)
    · obtain ⟨k, hk⟩ := lookup_some_of_mem hx
      exact absurd ((h.not_closing ha).symm.trans hk) (by simp)
  have hhistory : a.historyBytes ≤ s.historyBytes := by
    rw [h.historySum]
    exact Table.le_total ha fun T => T.historyBytes
  have hframe : a.frameBytes ≤ s.retainedFrameBytes := by
    rw [h.frameSum]
    exact Table.le_total ha fun T => T.frameBytes
  have hledger : a.ledgerEntries ≤ s.navigationLedgerEntries := by
    rw [h.ledgerSum]
    exact Table.le_total ha fun T => T.ledgerEntries
  refine Looks.read ?_
  rw [if_neg hlisted, if_neg hcontext, checkedSub_of_le hhistory, checkedSub_of_le hframe,
    checkedSub_of_le hledger]
  exact Outcome.Sat.imp (Looks.check trivial) fun _ _ ht => ⟨ht.1, trivial⟩

/-- The engine is asked about a tab that navigated; nothing else changes. -/
lemma closeEngineContext_sat (hs : Alive s) (latest : Option NavigationId) :
    (closeEngineContext latest s).Ends
      (fun _ t => After s t ∧ ∃ engine, t = { s with engine := engine })
      (Declined s) := by
  cases latest with
  | none => exact ⟨.refl (.inl hs), s.engine, rfl⟩
  | some navigation =>
    refine (callEngine_sat hs _ _).imp₂ ?_ ?_
    · rintro _ t ⟨engine, -, rfl⟩
      exact ⟨hs.withEngine engine, some engine, rfl⟩
    · rintro e t ⟨ht, he, hrunning⟩
      exact ⟨ht, he, fun hr => (hrunning hr).1⟩

/-- A window is retired with its surface, and the other surfaces stay. -/
lemma retireWindow_eq (hA : s.windows.lookup window = some A)
    (hsurface : ∀ f, A.surface = some f → A.nativeState ≠ .destroyed →
      s.surfaces.lookup f = some window) :
    ∃ surfaces, retireWindow window s =
        .ok () { s with windows := s.windows.erase window, surfaces := surfaces } ∧
      ∀ f w, w ≠ window → s.surfaces.lookup f = some w → surfaces.lookup f = some w := by
  unfold retireWindow
  rw [bind_of_ok (show read s = .ok s s from rfl), hA, okOr_some,
    bind_of_ok (pure_apply A s), bind_of_ok (show Call.modify _ s = .ok () _ from rfl)]
  cases hf : A.surface with
  | none => exact ⟨s.surfaces, rfl, fun _ _ _ h => h⟩
  | some f =>
    by_cases hd : A.nativeState = .destroyed
    · refine ⟨s.surfaces, ?_, fun _ _ _ h => h⟩
      simp only [hd, if_true]
      rfl
    · have hlive := hsurface f hf hd
      refine ⟨s.surfaces.erase f, ?_, ?_⟩
      · simp only [if_neg hd]
        show (if s.surfaces.lookup f ≠ some window then _ else _ : SessionCall E Unit) _ = _
        rw [if_neg (by simp [hlive])]
        rfl
      · intro f' w hw hf'
        rw [lookup_erase_eq, if_neg]
        · exact hf'
        · rintro rfl
          exact hw (some.inj (hf'.symm.trans hlive))

lemma refocusWindow_keeps (window : BrowserWindowId) : Keeps (E := E) (refocusWindow window) := by
  refine (getWindow_keeps window).bind fun owner => (getTab_keeps owner.active).bind fun active => ?_
  refine Keeps.bind (modifyPrimaryUi_keeps window ?_) fun _ => ?_
  · intro ui _
    cases active.focus <;> exact PrimaryUiFocus.noConfusion
  · exact (bumpPrimaryUiRevision_keeps window).bind fun _ => .pure _

/-- **A tab whose close was admitted is removed**, and with the last one of its window the window.
Only the session may then be left without windows. -/
theorem dropTab_sat (hs : Alive s) (ha : s.tabs.lookup tab = some a) :
    (dropTab tab a.toTabRecord s).Ends
      (fun _ t => After s t ∨ t.windows.size = 0 ∧ t.lifecycle = .running ∧ Extends s t)
      (fun e t => After s t ∧ Proper e) := by
  have h := hs.sound
  obtain ⟨A, hA, hmem⟩ := h.owned ha
  have hcontext : ¬s.contexts.lookup a.context ≠ some tab := by simp [h.context ha]
  have htombstone : ¬(a.latestNavigation.isSome ∧ a.context ∈ s.closingContexts) := by
    rintro ⟨-, hx⟩
    obtain ⟨k, hk⟩ := lookup_some_of_mem hx
    exact absurd ((h.not_closing ha).symm.trans hk) (by simp)
  obtain ⟨index, hindex⟩ :
      ∃ index, A.tabs.findIdx? (fun candidate => candidate = tab) = some index := by
    apply isSome_iff_exists.mp
    rw [List.findIdx?_isSome, List.any_eq_true]
    exact ⟨tab, hmem, by simp⟩
  refine sat_read_bind.mpr ?_
  rw [ha, orFail_some, bind_of_ok (pure_apply a s), if_neg hcontext, if_neg htombstone,
    hA, orFail_some, bind_of_ok (pure_apply A s), hindex, orFail_some,
    bind_of_ok (pure_apply index s)]
  refine sat_modify_bind.mpr ?_
  have hself := lookup_update_self hA (removeTab tab index)
  by_cases hleft : (removeTab tab index A).tabs = []
  · rw [if_pos hleft]
    set u : BrowserSession E := { s.withoutTab tab a.toTabRecord with
      windows := s.windows.update a.window (removeTab tab index) } with hu
    have hretired : ∀ f, (removeTab tab index A).surface = some f →
        (removeTab tab index A).nativeState ≠ .destroyed → u.surfaces.lookup f = some a.window :=
      fun f hf hd => h.surface hA hf hd
    obtain ⟨surfaces, hretire, hothers⟩ := retireWindow_eq (s := u) hself hretired
    have hlost := lostTab_erase h hA hindex hleft hothers
    have hsound := h.dropTab ha hlost
    have hids := Extends.dropTab h ha hlost
    rw [bind_of_ok hretire]
    rcases Nat.eq_zero_or_pos (size (u.windows.erase a.window)) with hsize | hsize
    · exact .inr ⟨hsize, hs.running, hids⟩
    · exact .inl ⟨.inl ⟨hs.running, hs.engine, hsize, hsound⟩, hids⟩
  · rw [if_neg hleft]
    have hlost := lostTab_update h hA hindex hleft
    have hafter : After s (s.withLostTab tab a
        (s.windows.update a.window (removeTab tab index)) s.surfaces) :=
      ⟨.inl ⟨hs.running, hs.engine, size_pos_of_lookup hself, h.dropTab ha hlost⟩,
        Extends.dropTab h ha hlost⟩
    have hrest := (refocusWindow_keeps (E := E) a.window).bind (fun _ => Keeps.pure false) _
      hafter.inv
    exact (hrest.after hafter).imp₂ (fun _ _ ht => .inl ht) (fun _ _ ht => ⟨ht.1, ht.2.1⟩)

/-- A running session is shut down. -/
lemma shutdown_sat (hr : s.lifecycle = .running) :
    (shutdown s).Ends (fun _ t => Inv t ∧ Extends s t) (fun _ _ => False) := by
  have hstatus : s.lifecycle.shutdownStatus = none := by
    rw [hr]
    rfl
  unfold shutdown
  rw [hstatus]
  refine ⟨.inr (cleared_ended ?_ ?_), extends_ended _⟩
  · split_ifs <;> simp
  · intro failure status hfailed
    split_ifs at hfailed
    rw [← (SessionLifecycle.failed.inj hfailed).1]
    trivial

lemma shutdown_keeps : Keeps (E := E) shutdown := by
  rintro s (hs | hs)
  · exact (shutdown_sat hs.running).imp₂ (fun _ _ ht => ⟨ht.1, ht.2⟩) (fun _ _ => False.elim)
  · -- A session that ended keeps the status it ended with.
    unfold shutdown
    cases hstatus : s.lifecycle.shutdownStatus with
    | none =>
      refine absurd ?_ hs.stopped
      cases hlifecycle : s.lifecycle <;> simp_all [SessionLifecycle.shutdownStatus]
    | some status => exact .refl (.inr hs)

/-! ## The commands -/

lemma closeTab_keeps (tab : BrowserTabId) : Keeps (E := E) (closeTab tab) := by
  refine .running fun s hs => ?_
  refine (getTab_looks tab).kept_bind (.inl hs) fun a ha => ?_
  refine (closePreflight_looks hs.sound ha).kept_bind (.inl hs) fun _ _ => ?_
  refine Kept.bind (Declined.kept (closeEngineContext_sat hs a.latestNavigation))
    fun _ u hok hu => ?_
  obtain ⟨-, engine, rfl⟩ := (closeEngineContext_sat hs a.latestNavigation).of_ok hok
  have halive : Alive { s with engine := engine } := hu.inv.alive_of_tab ha
  refine sat_seq (dropTab_sat halive ha) ?_ ?_
  · intro windowClosed t ht
    refine sat_read_bind.mpr ?_
    rcases ht with ht | ⟨hempty, hr, hids⟩
    · refine Kept.after ht (Keeps.ite (fun _ => ?_) (fun _ => .pure _) t ht.inv)
      exact shutdown_keeps.bind fun _ => .pure _
    · rw [if_pos hempty]
      refine sat_seq (shutdown_sat hr) ?_ (fun _ _ => False.elim)
      exact fun _ v hv => ⟨hv.1, hids.trans hv.2⟩
  · exact fun e t ht => ⟨ht.1, ht.2, fun _ => trivial⟩

lemma closeTabs_keeps (window : BrowserWindowId) (tabs : List BrowserTabId) (closed : ℕ) :
    Keeps (E := E) (closeTabs window tabs closed) := by
  induction tabs generalizing closed with
  | nil => exact .pure _
  | cons tab rest ih =>
    intro s hs
    refine Kept.settle (closeTab_keeps tab s hs) fun answer t ht hproper => ?_
    cases answer with
    | ok outcome => exact Keeps.ite (fun _ => .pure _) (fun _ => ih _) t ht.inv
    | error e =>
      refine Kept.read ?_
      refine Keeps.ite (fun _ => .error (hproper e rfl)) (fun _ => ?_) t ht.inv
      have hp : ProperFailure (.engineContract (.engine .partialWindowClose)) := trivial
      exact fail_keeps hp

lemma closeWindow_keeps (window : BrowserWindowId) : Keeps (E := E) (closeWindow window) := by
  refine ensureRunning_keeps.bind fun _ => (getWindow_keeps window).bind fun state => ?_
  refine .read fun s => .bind (.okOr trivial) fun projected => .bind (.check trivial) fun _ => ?_
  exact closeTabs_keeps window state.tabs 0

/-- **Every command keeps the session.** -/
theorem dispatch_keeps (command : BrowserCommand) : Keeps (E := E) (dispatch command) := by
  cases command with
  | newWindow => exact openWindow_keeps
  | newTab window => exact openTab_keeps window
  | closeWindow window => exact closeWindow_keeps window
  | closeTab tab => exact closeTab_keeps tab
  | activateTab tab => exact activateTab_keeps tab
  | navigate tab address =>
    exact .guarded fun _ hs => Declined.kept (navigateNew_sat hs tab address)
  | submitAddress tab => exact submitAddress_keeps tab
  | back tab => exact goHistory_keeps tab false
  | forward tab => exact goHistory_keeps tab true
  | reload tab => exact reload_keeps tab
  | stop tab => exact stop_keeps tab
  | focusAddress window => exact focusAddress_keeps window
  | focusContent tab => exact focusContent_keeps tab

end BrowserSession

end WildBuzzard.Ui
