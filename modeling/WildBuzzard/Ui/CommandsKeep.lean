import WildBuzzard.Ui.Admission

/-!
# Commands keep a session sound

**Every command of the session keeps it** (`dispatch_keeps`). A new tab has an identity that was
never given out; a closed one leaves the window that listed it, or takes the window with it.
-/

namespace WildBuzzard.Ui

open Lib Engine

namespace BrowserSession

variable {E α : Type} {s t : BrowserSession E} {tab : BrowserTabId} {window : BrowserWindowId}
  {a : TabState} {A : WindowState}

/-! ## Opening and activating -/

variable {context : TopLevelContextId}

/-- The next identity, if there is one. -/
lemma okOr_new_looks {ι : Type} {next : Option ℕ} {wrap : NonZero ℕ → ι} {get : ι → ℕ}
    {e : SessionError} (hget : ∀ id, get (wrap id) = id.get) (hp : Proper e) :
    Looks s (fun x => next = some (get x))
      ((okOr (next.bind fun raw => (NonZero.new raw).map wrap) e : SessionCall E ι) s) := by
  refine Outcome.Sat.imp (Looks.okOr hp) fun x t ⟨ht, hnext⟩ => ⟨ht, ?_⟩
  obtain ⟨raw, hraw, hnew⟩ := Option.bind_eq_some_iff.mp hnext
  obtain ⟨id, hid, rfl⟩ := Option.map_eq_some_iff.mp hnew
  rw [hraw, hget, NonZero.get_of_new hid]

lemma peekWindowId_looks :
    Looks s (fun window => s.nextWindow = some window.id.get) (peekWindowId s) :=
  okOr_new_looks (fun _ => rfl) trivial

lemma peekTabId_looks : Looks s (fun tab => s.nextTab = some tab.id.get) (peekTabId s) :=
  okOr_new_looks (fun _ => rfl) trivial

lemma peekContextId_looks :
    Looks s (fun context => s.nextContext = some context.get) (peekContextId s) :=
  okOr_new_looks (fun _ => rfl) trivial

/-- A session with room for a tab. -/
lemma ensureTabCapacity_looks (window : Option BrowserWindowId) :
    Looks s (fun _ => s.tabs.size + s.closingContexts.size < s.limits.maxTotalTabs ∧
        ∀ w ∈ window, ∃ A, s.windows.lookup w = some A) (ensureTabCapacity window s) := by
  refine Looks.read (Looks.bind (Looks.okOr trivial) fun owned howned => ?_)
  obtain ⟨-, rfl⟩ := checkedAdd_eq_some.mp howned
  refine Looks.bind (Looks.check trivial) fun _ hroom => ?_
  cases window with
  | none => exact .pure ⟨hroom, by simp⟩
  | some window =>
    refine (getWindow_looks window).bind fun A hA => ?_
    refine Outcome.Sat.imp (Looks.check trivial) fun _ _ ht => ⟨ht.1, hroom, ?_⟩
    rintro _ ⟨rfl⟩
    exact ⟨A, hA⟩

/-- A new window has a new tab. -/
lemma newTab_withWindow (h : Sound s)
    (hw : s.nextWindow = some window.id.get) (ht : s.nextTab = some tab.id.get)
    (hx : s.nextContext = some context.get)
    (hroom : s.tabs.size + s.closingContexts.size < s.limits.maxTotalTabs) :
    NewTab s (commitId s.nextWindow) window (.blank window tab) tab context [] where
  tabNext := ht
  contextNext := hx
  room := hroom
  id := rfl
  tabs := rfl
  active := rfl
  nodup := List.nodup_nil
  listed _ hmem := absurd hmem (by simp)
  owned t T hT hTw := by
    obtain ⟨W, hW, -⟩ := h.owned hT
    rw [hTw] at hW
    exact absurd (h.windowAllocated hW) (not_allocated_next hw)
  focus := PrimaryUiFocus.noConfusion
  surface f hf := absurd hf (by simp [WindowState.blank])
  windowIds _ hn := allocated_commitId hn
  allocated := by
    rw [hw]
    exact allocated_commitId_self _
  windowFresh := .inr (not_allocated_next hw)

/-- The session with a new tab runs on. -/
lemma Alive.addTab (hs : Alive s) {nextWindow : Option ℕ} {B : WindowState}
    {old : List BrowserTabId} (hc : NewTab s nextWindow window B tab context old) :
    After s (s.withNewTab nextWindow window B tab context) := by
  refine ⟨.inl ⟨hs.running, hs.engine, ?_, hs.sound.addTab hc⟩, .addTab hc⟩
  have hB : (s.windows.insert window B).lookup window = some B := Finmap.lookup_insert s.windows
  exact Table.size_pos_of_lookup hB

/-- **A window opened in a session with room for it has a new tab.** -/
theorem openWindowInternal_sat (h : Sound s) :
    (openWindowInternal s).Ends
      (fun opened t => ∃ context, t = s.withWindow opened.1 opened.2 context ∧
        NewTab s (commitId s.nextWindow) opened.1 (.blank opened.1 opened.2) opened.2 context [])
      (fun e t => t = s ∧ Proper e) := by
  have hrefused : ∀ e, Proper e → s = s ∧ Proper e := fun e he => ⟨rfl, he⟩
  refine Call.sat_read_bind.mpr (Looks.sat_bind (Looks.check trivial) hrefused fun _ _ => ?_)
  refine (ensureTabCapacity_looks none).sat_bind hrefused fun _ ⟨hroom, _⟩ => ?_
  refine peekWindowId_looks.sat_bind hrefused fun window hw => ?_
  refine peekTabId_looks.sat_bind hrefused fun tab ht => ?_
  refine peekContextId_looks.sat_bind hrefused fun context hx => ?_
  exact ⟨context, rfl, newTab_withWindow h hw ht hx hroom⟩

lemma openWindow_keeps [EnginePort E] : Keeps (E := E) openWindow := by
  refine .running fun s hs => ?_
  refine Kept.bind (m := openWindowInternal) ?_ fun _ t _ ht => .pure ht.inv _
  refine (openWindowInternal_sat hs.sound).imp₂ ?_ ?_
  · rintro opened t ⟨context, rfl, hnew⟩
    exact hs.addTab hnew
  · rintro e t ⟨rfl, he⟩
    exact ⟨.refl (.inl hs), he, fun _ => trivial⟩

/-- A window with a new tab. -/
lemma newTab_appendTab (h : Sound s) (hA : s.windows.lookup window = some A)
    (ht : s.nextTab = some tab.id.get) (hx : s.nextContext = some context.get)
    (hroom : s.tabs.size + s.closingContexts.size < s.limits.maxTotalTabs) :
    NewTab s s.nextWindow window (appendTab tab A) tab context A.tabs where
  tabNext := ht
  contextNext := hx
  room := hroom
  id := show A.id = window from h.windowId hA
  tabs := rfl
  active := rfl
  nodup := h.nodup hA
  listed _ hmem := h.listed hA hmem
  owned t T hT hTw := by
    obtain ⟨W, hW, hmem⟩ := h.owned hT
    rw [hTw] at hW
    rw [Option.some.inj (hA.symm.trans hW)]
    exact hmem
  focus := PrimaryUiFocus.noConfusion
  surface _ hf hd := h.surface hA hf hd
  windowIds _ hn := hn
  allocated := h.windowAllocated hA
  windowFresh := .inl (Table.mem_of_lookup hA)

/-- The tab whose history was appended to is there. -/
lemma Appended.lookup {address : List Char} {navigation : NavigationId}
    (h : Appended s t tab address navigation) : ∃ a, t.tabs.lookup tab = some a := by
  obtain ⟨a, engine, bytes, ha, -, hquiet⟩ := h
  obtain ⟨b, hb, -⟩ := hquiet.lookup_tab
    (Table.lookup_update_self (lookup_admitted_self (s := { s with engine := some engine }) ha _) _)
  exact ⟨b, hb⟩

lemma closePanel_keeps (window : BrowserWindowId) {focus : PrimaryUiFocus}
    (hfocus : focus ≠ .control .addressBar) :
    Keeps (E := E) (modifyPrimaryUi window fun ui => ui.closePanel focus) :=
  modifyPrimaryUi_keeps window fun _ _ => hfocus

section

variable [EnginePort E]

lemma openTab_keeps (window : BrowserWindowId) : Keeps (E := E) (openTab window) := by
  refine .running fun s hs => ?_
  refine (ensureTabCapacity_looks (some window)).kept_bind (.inl hs) fun _ ⟨hroom, hwindow⟩ => ?_
  refine peekTabId_looks.kept_bind (.inl hs) fun tab ht => ?_
  refine peekContextId_looks.kept_bind (.inl hs) fun context hx => ?_
  obtain ⟨A, hA⟩ := hwindow window rfl
  have hnew := newTab_appendTab hs.sound hA ht hx hroom
  have hafter := hs.addTab hnew
  have hstate : { s with
      nextTab := commitId s.nextTab
      nextContext := commitId s.nextContext
      windows := s.windows.update window (appendTab tab)
      tabs := s.tabs.insert tab (.blank tab window context s.limits.maxAddressBytes)
      contexts := s.contexts.insert context tab } =
      s.withNewTab s.nextWindow window (appendTab tab A) tab context := by
    rw [Table.update_eq_insert hA]
    rfl
  refine Call.sat_modify_bind.mpr (Call.sat_bind.mpr ?_)
  rw [getWindow_eq (s := { s with
    nextTab := commitId s.nextTab, nextContext := commitId s.nextContext }) hA]
  refine Call.sat_modify_bind.mpr ?_
  rw [hstate]
  refine Kept.after hafter ?_
  exact (bumpPrimaryUiRevision_keeps window).bind (fun _ => .pure _) _ hafter.inv

lemma activateTab_keeps (tab : BrowserTabId) : Keeps (E := E) (activateTab tab) := by
  refine .running fun s hs => ?_
  refine (getTab_looks tab).kept_bind (.inl hs) fun a ha => ?_
  refine (getWindow_looks a.window).kept_bind (.inl hs) fun A hA => ?_
  split_ifs
  · exact .pure (.inl hs) _
  · obtain ⟨A', hA', hmem⟩ := hs.sound.owned ha
    obtain rfl := Option.some.inj (hA.symm.trans hA')
    have hchange : WindowChange s a.window A
        { A with
          active := tab
          primaryUi := A.primaryUi.closePanel a.focus.primaryUiFocus } s.surfaces := by
      refine ⟨rfl, rfl, hmem, ?_, fun f hf hd => hs.sound.surface hA hf hd, fun _ _ _ hf => hf⟩
      cases a.focus <;> exact PrimaryUiFocus.noConfusion
    refine .step (modifyWindow_eq hA _) (hs.updateWindow hA hchange) ?_
    exact (bumpPrimaryUiRevision_keeps a.window).bind (fun _ => .pure _) _
      (hs.updateWindow hA hchange).inv

/-! ## Navigating from the address bar, stopping and focus -/

variable (tab : BrowserTabId)

lemma submitAddress_keeps : Keeps (E := E) (submitAddress tab) := by
  refine .running fun s hs => ?_
  refine (getTab_looks tab).kept_bind (.inl hs) fun a _ => ?_
  refine Kept.bind (Declined.kept (navigateNew_sat hs tab a.address.text)) fun outcome t hok ht => ?_
  obtain ⟨-, navigation, -, happended⟩ := (navigateNew_sat hs tab a.address.text).of_ok hok
  obtain ⟨b, hb⟩ := happended.lookup
  refine .read ?_
  rw [hb, orFail_some, Call.bind_of_ok (Call.pure_apply b t)]
  refine Keeps.bind (modifyTab_keeps tab ?_) (fun _ => ?_) t ht.inv
  · exact fun _ => rfl
  · refine (closePanel_keeps b.window PrimaryUiFocus.noConfusion).bind fun _ => ?_
    exact (bumpPrimaryUiRevision_keeps b.window).bind fun _ => .pure _

lemma stopAnswered_keeps (navigation : NavigationId) {answer : Except SessionError Unit}
    (h : ∀ e, answer = .error e → Proper e) :
    Keeps (E := E) (stopAnswered tab navigation answer) := by
  unfold stopAnswered
  split
  · refine Keeps.bind (modifyTab_keeps tab ?_) fun _ => ?_
    · exact fun _ => rfl
    · exact (bumpPrimaryUiForTab_keeps tab).bind fun _ => .pure _
  · exact .pure _
  · exact .error (h _ rfl)

lemma stop_keeps : Keeps (E := E) (stop tab) := by
  refine .running fun s hs => ?_
  refine (getTab_looks tab).kept_bind (.inl hs) fun a _ => ?_
  cases a.loading with
  | none => exact .pure (.inl hs) _
  | some navigation =>
    refine Kept.settle (callEngine_kept hs (fun _ => trivial) _ _) fun answer t ht hproper => ?_
    exact stopAnswered_keeps tab navigation hproper t ht.inv

lemma focusAddress_keeps (window : BrowserWindowId) : Keeps (E := E) (focusAddress window) := by
  refine ensureRunning_keeps.bind fun _ => (getWindow_keeps window).bind fun state => ?_
  refine Keeps.bind (modifyTab_keeps state.active ?_) fun _ => ?_
  · exact fun _ => rfl
  · refine (closePanel_keeps window PrimaryUiFocus.noConfusion).bind fun _ => ?_
    exact (bumpPrimaryUiRevision_keeps window).bind fun _ => .pure _

lemma focusContent_keeps : Keeps (E := E) (focusContent tab) := by
  refine ensureRunning_keeps.bind fun _ => Keeps.bind (modifyTab_keeps tab ?_) fun _ => ?_
  · exact fun _ => rfl
  · refine (getTab_keeps tab).bind fun state => ?_
    refine (closePanel_keeps state.window PrimaryUiFocus.noConfusion).bind fun _ => ?_
    exact (bumpPrimaryUiRevision_keeps state.window).bind fun _ => .pure _

end

end BrowserSession

end WildBuzzard.Ui
