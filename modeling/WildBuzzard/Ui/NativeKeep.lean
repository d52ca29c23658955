import WildBuzzard.Ui.ControllerKeep
import WildBuzzard.Ui.EventsKeep

/-!
# Native events keep a session sound

**Every event of a native window keeps the session** (`handleLinuxEvent_keeps`): one in the wrong
order, or for a surface the window does not have, ends the session for a proper reason, and the
surface of a window that is not destroyed stays its own.
-/

namespace WildBuzzard.Ui

open Lib Engine

/-! ## Positions -/

variable {addressFocused : Bool} {oneBased : ℕ}

lemma mapShortcut_position {physical : ℕ} {modifiers : BitVec 16}
    (h : mapShortcut physical modifiers addressFocused = some (.activatePosition oneBased)) :
    1 ≤ oneBased := by
  unfold mapShortcut at h
  repeat
    rw [ite_eq_iff] at h
    rcases h with ⟨-, h⟩ | ⟨-, h⟩
    · first
      | cases h; done
      | cases h; exact Nat.le_add_left 1 _
  cases h

lemma mapKey_position {physical : ℕ} {bits : BitVec 16}
    (h : mapKey physical bits addressFocused = some (.shortcut (.activatePosition oneBased))) :
    1 ≤ oneBased := by
  unfold mapKey at h
  simp only at h
  split at h
  · rename_i shortcut hshortcut
    cases h
    exact mapShortcut_position hshortcut
  · split_ifs at h
    unfold mapAddressKey at h
    repeat
      rw [ite_eq_iff] at h
      rcases h with ⟨-, h⟩ | ⟨-, h⟩
      · cases h
    cases h

/-- A key that activates a tab counts from one. -/
lemma mapLinuxPrimaryInput_position {event : InputEvent} {context : PrimaryUiInputContext}
    (h : mapLinuxPrimaryInput event addressFocused context =
      some (.shortcut (.activatePosition oneBased))) : 1 ≤ oneBased := by
  cases event with
  | key metadata physical down =>
    cases down with
    | true =>
      obtain h | ⟨-, h⟩ := Option.or_eq_some_iff.mp h
      · obtain ⟨action, -, haction⟩ := Option.map_eq_some_iff.mp h
        cases haction
      · exact mapKey_position h
    | false => cases h
  | text metadata text =>
    change (if addressFocused then _ else none) = _ at h
    split_ifs at h
    cases h
  | _ => cases h

namespace BrowserSession

variable {E : Type} {s : BrowserSession E} {window : BrowserWindowId} {A : WindowState}

/-- What follows a call that was handled starts from a running session. -/
lemma Handles.kept_bind {α β : Type} {m : SessionCall E α} {f : α → SessionCall E β}
    {Q : α → BrowserSession E → Prop} (hm : Handles s Q (m s))
    (hf : ∀ a t, Alive t → Q a t → Kept AnyError t (f a t)) : Kept AnyError s ((m >>= f) s) := by
  refine Call.sat_bind.mpr (Outcome.Sat.mono hm ?_ (fun _ _ h => ?_) fun _ => id)
  · rintro a t ⟨halive, hids, hQ⟩
    exact (hf a t halive hQ).after ⟨.inl halive, hids⟩
  · exact ⟨h.1, h.2.1, fun _ => trivial⟩

lemma currentAddress_keeps (tab : BrowserTabId) : Keeps (E := E) (currentAddress tab) :=
  (getTab_keeps tab).bind fun _ => .pure _

variable [EnginePort E] (window) (tab : BrowserTabId)

lemma failOrder_keeps {α : Type} (fault : LinuxOrderFault) :
    Keeps (failOrder window fault : SessionCall E α) := by
  have hp : ProperFailure (.linuxEventOrder window fault) := trivial
  exact fail_keeps hp

variable {window} in
/-- A surface that is the window's own. -/
lemma validateSurface_handles (hs : Alive s) (hA : s.windows.lookup window = some A)
    (surface : SurfaceId) :
    Handles s (fun _ t => t = s ∧ s.surfaces.lookup surface = some window)
      (validateSurface window surface s) := by
  refine .look (getWindow_eq hA) (.read ?_)
  split_ifs with hdestroyed hsurface
  · have hp : ProperFailure (.linuxEventOrder window .surfaceEventAfterDestroyed) := trivial
    exact fail_handles hs hp
  · have hp : ProperFailure (.linuxSurfaceMismatch window) := trivial
    exact fail_handles hs hp
  · obtain ⟨-, h⟩ := not_or.mp hsurface
    exact .pure hs ⟨rfl, not_not.mp h⟩

variable {window} in
/-- What follows a check of the surface. -/
lemma validateSurface_kept {β : Type} {m : SessionCall E β} (hs : Alive s)
    (hA : s.windows.lookup window = some A) {surface : SurfaceId}
    (hm : s.surfaces.lookup surface = some window → Kept AnyError s (m s)) :
    Kept AnyError s ((validateSurface window surface >>= fun _ => m) s) := by
  refine (validateSurface_handles hs hA surface).kept_bind ?_
  rintro _ _ - ⟨rfl, hsurface⟩
  exact hm hsurface

lemma validateInputSequence_keeps (received : ℕ) :
    Keeps (E := E) (validateInputSequence window received) := by
  refine (getWindow_keeps window).bind fun state => ?_
  split
  · rename_i previous _
    have hp : ProperFailure (.linuxInputSequence window previous received) := trivial
    exact fail_keeps hp
  · exact modifyWindow_keeps window (fun _ => rfl) fun _ h => h

/-! ## Shortcuts -/

lemma activateRelative_keeps {delta : ℤ} (hdelta : delta = 1 ∨ delta = -1) :
    Keeps (E := E) (activateRelative window delta) := by
  intro s hs
  refine (getWindow_looks window).kept_bind hs fun W hW => ?_
  have hactive := (hs.alive_of_window hW).sound.active hW
  have hlength : 0 < W.tabs.length := List.length_pos_of_mem hactive
  have hactivate (index : ℕ) (message : String) : Kept AnyError s
      ((expect W.tabs[index % W.tabs.length]? message >>= activateTab :
        SessionCall E BrowserCommandOutcome) s) := by
    have hlt := Nat.mod_lt index hlength
    refine (expect_peeks (List.getElem?_eq_getElem hlt) message).kept_bind hs fun tab t ht _ => ?_
    exact activateTab_keeps tab t (ht.after hs).inv
  obtain ⟨index, hindex⟩ : ∃ index, (W.tabs.findIdx? fun tab => tab = W.active) = some index := by
    rw [← Option.isSome_iff_exists, List.findIdx?_isSome, List.any_eq_true]
    exact ⟨W.active, hactive, decide_eq_true rfl⟩
  rw [hindex, orFail_some]
  refine Kept.look rfl ?_
  simp only [if_neg hlength.ne']
  rcases hdelta with rfl | rfl
  · exact hactivate (index + 1) _
  · exact hactivate (index + W.tabs.length - 1) _

lemma activatePosition_keeps {oneBased : ℕ} (h : 1 ≤ oneBased) :
    Keeps (E := E) (activatePosition window oneBased) := by
  refine (getWindow_keeps window).bind fun state => ?_
  rw [Call.assert_eq_pure h]
  refine .bind (.pure ()) fun _ => ?_
  split
  · exact activateTab_keeps _
  · exact .pure _

lemma applyShortcut_keeps {shortcut : LinuxShortcut}
    (h : ∀ n, shortcut = .activatePosition n → 1 ≤ n) :
    Keeps (E := E) (applyShortcut window tab shortcut) := by
  cases shortcut with
  | newTab => exact openTab_keeps window
  | closeTab => exact closeTab_keeps tab
  | focusAddress => exact focusAddress_keeps window
  | back => exact goHistory_keeps tab false
  | forward => exact goHistory_keeps tab true
  | reload => exact reload_keeps tab
  | stop => exact stop_keeps tab
  | nextTab => exact activateRelative_keeps window (.inl rfl)
  | previousTab => exact activateRelative_keeps window (.inr rfl)
  | activatePosition oneBased => exact activatePosition_keeps window (h oneBased rfl)

/-! ## Input -/

lemma editAddress_keeps (edit : AddressEditState → AddressEditState) :
    Keeps (E := E) (editAddress tab edit) := by
  refine (modifyTab_keeps tab fun _ => ?_).bind fun _ => ?_
  · rfl
  · exact (bumpPrimaryUiForTab_keeps tab).bind fun _ => .pure _

lemma tryEditAddress_keeps (edit : AddressEditState → Except AddressEditError AddressEditState) :
    Keeps (E := E) (tryEditAddress tab edit) := by
  refine (getTab_keeps tab).bind fun state => ?_
  refine (Keeps.ofExcept fun e he => ?_).bind fun address => editAddress_keeps tab _
  cases hedit : edit state.address with
  | ok address => simp [hedit, Except.mapError] at he
  | error error =>
    rw [hedit] at he
    obtain rfl := Except.error.inj he
    trivial

lemma escapeAddress_keeps : Keeps (E := E) (escapeAddress tab) := by
  refine (getTab_keeps tab).bind fun state => .ite (fun _ => ?_) fun _ => (stop_keeps tab).map
  exact (currentAddress_keeps tab).bind fun _ => editAddress_keeps tab _

lemma applyInputAction_keeps {action : LinuxInputAction}
    (h : ∀ n, action = .shortcut (.activatePosition n) → 1 ≤ n) :
    Keeps (E := E) (applyInputAction window tab action) := by
  cases action with
  | shortcut shortcut =>
    exact (applyShortcut_keeps window tab fun n hn => h n (congrArg _ hn)).map
  | primaryUi action =>
    refine .bind ((getWindow_keeps window).bind fun _ => .pure _) fun revision => ?_
    exact (dispatchPrimaryUiAction_keeps window revision action).map
  | insertText text => exact tryEditAddress_keeps tab fun address => address.insert text
  | moveCursor movement extend =>
    exact editAddress_keeps tab fun address => address.moveCursor movement extend
  | submitAddress => exact (submitAddress_keeps tab).map
  | escape => exact escapeAddress_keeps tab
  | _ => exact editAddress_keeps tab _

variable {window} in
lemma handleInput_keeps (hs : Alive s) (hA : s.windows.lookup window = some A)
    (event : InputEvent) :
    Kept AnyError s ((handleInput window event : SessionCall E LinuxEventOutcome) s) := by
  refine validateSurface_kept hs hA fun _ => ?_
  refine Keeps.kept ?_ (.inl hs)
  refine (validateInputSequence_keeps window _).bind fun _ => ?_
  refine (activeTab_keeps window).bind fun tab => (getTab_keeps tab).bind fun state t ht => ?_
  refine (getWindow_looks window).kept_bind ht fun owner howner => ?_
  rw [PrimaryUiInputContext.new, if_neg ((ht.alive_of_window howner).sound.focus howner), okOr_some]
  refine Kept.look rfl (Keeps.kept ?_ ht)
  split
  · rename_i action haction
    refine applyInputAction_keeps window tab fun n hn => ?_
    exact mapLinuxPrimaryInput_position (haction.trans (congrArg some hn))
  · exact .ite (fun _ => .pure _) fun _ => .pure _

/-! ## Window events -/

/-- A window with a surface of its own. -/
lemma handleReady_keeps (surface : SurfaceId) : Keeps (E := E) (handleReady window surface) := by
  intro s hs
  refine .read ?_
  split_ifs with hstate hsurface
  · exact failOrder_keeps window _ s hs
  · obtain ⟨A, hA⟩ : ∃ A, s.windows.lookup window = some A := by
      cases hA : s.windows.lookup window with
      | none => simp [hA] at hstate
      | some A => exact ⟨A, rfl⟩
    have halive := hs.alive_of_window hA
    refine halive.updateWindow hA ?_
    have hnew : s.surfaces.lookup surface = none := Finmap.lookup_eq_none.mpr hsurface
    exact
      { WindowChange.of_record_eq halive.sound hA rfl (halive.sound.focus hA) with
        surface := by
          rintro _ ⟨rfl⟩ -
          exact Finmap.lookup_insert _
        others := fun f w _ hf => by
          have hne : f ≠ surface := by
            rintro rfl
            simp [hnew] at hf
          rw [Finmap.lookup_insert_of_ne _ hne]
          exact hf }
  · exact failOrder_keeps window _ s hs

lemma changeNativeState_keeps {allowed : List NativeWindowState}
    (hallowed : .destroyed ∉ allowed) (next : NativeWindowState) (fault : LinuxOrderFault) :
    Keeps (E := E) (changeNativeState window allowed next fault) := by
  intro s hs
  refine (getWindow_looks window).kept_bind hs fun A hA => ?_
  have halive := hs.alive_of_window hA
  by_cases hmem : A.nativeState ∈ allowed
  · rw [if_pos hmem]
    have hafter : After s (s.withWindowState window fun state =>
        { state with nativeState := next }) :=
      halive.updateWindow hA
        { WindowChange.of_record_eq halive.sound hA rfl (halive.sound.focus hA) with
          surface := fun f hf _ =>
            halive.sound.surface hA hf fun hd => hallowed (hd ▸ hmem) }
    exact .step (modifyWindow_eq hA _) hafter (.pure hafter.inv _)
  · rw [if_neg hmem]
    exact failOrder_keeps window fault s hs

lemma handlePreedit_keeps (text : List Char) (selection : Option AddressSelection) :
    Keeps (E := E) (handlePreedit window text selection) := by
  refine (activeTab_keeps window).bind fun tab => (getTab_keeps tab).bind fun state => ?_
  exact .ite (fun _ => .pure _) fun _ => tryEditAddress_keeps tab _

lemma handleImeDisabled_keeps : Keeps (E := E) (handleImeDisabled window) :=
  (activeTab_keeps window).bind fun tab => (editAddress_keeps tab _).bind fun _ => .pure _

variable {window} in
/-- The surface of a window that is destroyed is given up. -/
lemma handleDestroyed_kept (hs : Alive s) (hA : s.windows.lookup window = some A)
    {surface : SurfaceId} (hsurface : s.surfaces.lookup surface = some window) :
    Kept AnyError s ((handleDestroyed window surface : SessionCall E LinuxEventOutcome) s) := by
  have hafter : After s { s with
      windows := s.windows.update window fun state => { state with nativeState := .destroyed }
      surfaces := s.surfaces.erase surface } :=
    hs.updateWindow hA
      { WindowChange.of_record_eq hs.sound hA rfl (hs.sound.focus hA) with
        surface := fun _ _ hd => absurd rfl hd
        others := fun f w hw hf => by
          have hne : f ≠ surface := by
            rintro rfl
            exact hw (Option.some.inj (hf.symm.trans hsurface))
          rw [Finmap.lookup_erase_ne hne]
          exact hf }
  have hrun : (handleDestroyed window surface : SessionCall E LinuxEventOutcome) s =
      .ok .nativeStateChanged { s with
        windows := s.windows.update window fun state => { state with nativeState := .destroyed }
        surfaces := s.surfaces.erase surface } := by
    refine (Call.bind_of_ok rfl).trans ?_
    rw [if_neg (by simp [hsurface])]
    exact Call.bind_of_ok (modifyWindow_eq
      (s := { s with surfaces := s.surfaces.erase surface }) hA _)
  rw [hrun]
  exact hafter

variable [UrlParser]

/-- Pumping the engine returns a batch. -/
lemma exists_batch_of_pumpEvents {t : BrowserSession E} {remaining processed : ℕ}
    {outcome : EnginePumpOutcome}
    (hok : pumpEvents remaining processed s = .ok outcome t) : ∃ n more, outcome = .batch n more := by
  induction remaining generalizing processed s with
  | zero => exact ⟨_, _, (Outcome.ok.inj hok).1.symm⟩
  | succ remaining ih =>
    obtain ⟨polled, u, -, hok⟩ := Call.bind_eq_ok.mp hok
    cases polled with
    | empty => exact ⟨_, _, (Outcome.ok.inj hok).1.symm⟩
    | batch n more =>
      simp only [fail] at hok
      split_ifs at hok
    | _ => exact ih hok

lemma handleWake_keeps : Keeps (E := E) handleWake := by
  refine .read fun s t ht => ?_
  refine (pumpEngine_keeps _ t ht).bind fun outcome u hok hu => ?_
  obtain ⟨_, _, -, hpump⟩ := Call.bind_eq_ok.mp hok
  obtain ⟨n, more, rfl⟩ := exists_batch_of_pumpEvents hpump
  exact .pure hu.inv _

variable {window} in
/-- **Every event of a window that is there keeps the session.** -/
theorem applyLinuxEvent_kept (hs : Alive s) (hA : s.windows.lookup window = some A)
    (event : LinuxWindowEvent) :
    Kept AnyError s ((applyLinuxEvent window event : SessionCall E LinuxEventOutcome) s) := by
  have hchanged {surface : SurfaceId} (outcome : LinuxEventOutcome) :
      Kept AnyError s ((do validateSurface window surface; pure outcome : SessionCall E _) s) :=
    validateSurface_kept hs hA fun _ => .pure (.inl hs) _
  cases event with
  | ready surface => exact handleReady_keeps window surface s (.inl hs)
  | resumed => exact changeNativeState_keeps window (by decide) _ _ s (.inl hs)
  | suspended => exact changeNativeState_keeps window (by decide) _ _ s (.inl hs)
  | focusChanged surface focused =>
    refine validateSurface_kept hs hA fun _ => Keeps.kept ?_ (.inl hs)
    refine (modifyWindow_keeps window (fun _ => ?_) fun _ h => ?_).bind fun _ => .pure _
    · rfl
    · exact h
  | input event => exact handleInput_keeps hs hA event
  | imePreedit surface text selection =>
    exact validateSurface_kept hs hA fun _ => handlePreedit_keeps window _ _ s (.inl hs)
  | imeDisabled surface =>
    exact validateSurface_kept hs hA fun _ => handleImeDisabled_keeps window s (.inl hs)
  | wakeRequested => exact handleWake_keeps s (.inl hs)
  | closeRequested surface =>
    exact validateSurface_kept hs hA fun _ => (closeWindow_keeps window).map s (.inl hs)
  | destroyed surface =>
    exact validateSurface_kept hs hA fun hsurface => handleDestroyed_kept hs hA hsurface
  | stopped reason =>
    have hp : ProperFailure (.linuxStopped window reason) := trivial
    exact fail_kept hs.running hp
  | _ => exact hchanged _

/-- **Every native event keeps the session.** -/
theorem handleLinuxEvent_keeps (event : LinuxWindowEvent) :
    Keeps (E := E) (handleLinuxEvent window event) := by
  refine .running fun s hs => .read ?_
  cases hA : s.windows.lookup window with
  | none =>
    refine Keeps.kept (.ite (fun _ => .pure _) fun _ => .error ?_) (.inl hs)
    trivial
  | some A =>
    by_cases hdestroyed : A.nativeState = .destroyed ∧ ¬event.isStopped
    · simp only [if_pos hdestroyed]
      exact failOrder_keeps window _ s (.inl hs)
    · simp only [if_neg hdestroyed]
      exact applyLinuxEvent_kept hs hA event

end BrowserSession

end WildBuzzard.Ui
