import WildBuzzard.Ui.ClosingKeep
import WildBuzzard.Ui.Snapshot

/-!
# The primary user interface keeps a session sound

**Every action on the chrome keeps the session** (`dispatchPrimaryUiAction_keeps`): its controls are
found, its rows are in range, and the focus never goes to the address bar as to a button.
-/

namespace WildBuzzard.Ui

open Lib Engine List

/-- A place after or before another is in the list. -/
lemma nextIndex_lt {current : Option ℕ} {length : ℕ} (hlength : 0 < length)
    (hcurrent : ∀ index ∈ current, index < length) (direction : PrimaryUiMoveDirection) :
    nextIndex current direction length < length := by
  unfold nextIndex
  cases current with
  | none => cases direction <;> simp <;> omega
  | some index =>
    have hindex := hcurrent index rfl
    cases direction with
    | forward => exact Nat.mod_lt _ hlength
    | backward => cases index <;> simp <;> omega

namespace BrowserSession

variable {E : Type} {s : BrowserSession E} (window : BrowserWindowId)

/-- What is after or before a place that was found in a list is in the list. -/
lemma expectNext_peeks {α : Type} {l : List α} (hl : l ≠ []) {current : Option ℕ}
    (hcurrent : ∀ index ∈ current, ∃ p, l.findIdx? p = some index)
    (direction : PrimaryUiMoveDirection) (message : String) :
    Peeks s (fun next => next ∈ l)
      ((expect l[nextIndex current direction l.length]? message : SessionCall E α) s) := by
  have hlt : nextIndex current direction l.length < l.length := by
    refine nextIndex_lt (length_pos_iff.mpr hl) (fun index hindex => ?_) direction
    obtain ⟨p, hp⟩ := hcurrent index hindex
    exact (findIdx?_eq_some_iff_getElem.mp hp).1
  refine (expect_peeks (getElem?_eq_getElem hlt) message).imp fun next hnext => ?_
  rw [hnext]
  exact getElem_mem hlt

lemma activeTab_keeps : Keeps (E := E) (activeTab window) :=
  (getWindow_keeps window).bind fun _ => .pure _

lemma setActiveTabFocus_keeps (focus : TabFocus) :
    Keeps (E := E) (setActiveTabFocus window focus) :=
  (activeTab_keeps window).bind fun tab => modifyTab_keeps tab fun _ => rfl

variable {focus : PrimaryUiFocus} (layout : PrimaryUiLayout)
variable {command : SessionCall E BrowserCommandOutcome}

variable {window} in
lemma setPrimaryFocus_keeps (h : focus ≠ .control .addressBar) :
    Keeps (E := E) (setPrimaryFocus window focus) := by
  unfold setPrimaryFocus
  rw [Call.check_eq_pure (show validPrimaryFocus focus = true from decide_eq_true h)]
  refine (setActiveTabFocus_keeps window _).bind fun _ => ?_
  exact modifyPrimaryUi_keeps window fun _ _ => h

/-- The focus of a tab is on the page or in the address bar. -/
lemma activeTabPrimaryFocus_looks :
    Looks s (fun focus => focus ≠ .control .addressBar) (activeTabPrimaryFocus window s) := by
  refine Looks.bind ((getWindow_looks window).bind fun W _ => Looks.pure (Q := fun _ => True)
    trivial) fun tab _ => ?_
  refine (getTab_looks tab).bind fun a _ => Looks.pure ?_
  cases a.focus <;> decide

variable (expected : PrimaryUiRevision) (panel : PrimaryUiPanel) (item : PrimaryUiPanelItemId)
variable (direction : PrimaryUiMoveDirection)

lemma dispatchCurrent_keeps {perform : SessionCall E PrimaryUiActionOutcome} (h : Keeps perform) :
    Keeps (dispatchCurrent window expected perform) := by
  refine ensureRunning_keeps.bind fun _ => ?_
  refine .bind ((getWindow_keeps window).bind fun _ => .pure _) fun current => ?_
  exact .ite (fun _ => .pure _) fun _ => h

/-! ## The order of the focus -/

/-- The focus of a control that can take it. -/
def controlFocus (snapshot : PrimaryUiControlSnapshot) : List PrimaryUiFocus :=
  if snapshot.visible ∧ snapshot.enabled then [.control snapshot.control] else []

/-- The places the focus moves between. -/
def focusOrder (shown : PrimaryUiControl → PrimaryUiControlSnapshot) (active : BrowserTabId)
    (toolbarOnly : Bool) : List PrimaryUiFocus :=
  let stops (controls : List PrimaryUiControl) :=
    controls.flatMap fun control => controlFocus (shown control)
  (if toolbarOnly then [] else [.tab active]) ++
    stops (if toolbarOnly then [] else [.newTab, .allTabs]) ++
    stops [.back, .forward, .reloadStop, .siteIdentity] ++
    (if (shown .addressBar).visible ∧ (shown .addressBar).enabled ∧ ¬toolbarOnly then
      [.addressBar] else []) ++
    stops [.overflow, .applicationMenu] ++ if toolbarOnly then [] else [.page]

lemma focusOrder_ne {shown : PrimaryUiControl → PrimaryUiControlSnapshot}
    (hshown : ∀ control, (shown control).control = control) {active : BrowserTabId}
    {toolbarOnly : Bool} (h : focus ∈ focusOrder shown active toolbarOnly) :
    focus ≠ .control .addressBar := by
  have hstop {control : PrimaryUiControl} (hne : control ≠ .addressBar)
      (hmem : focus ∈ controlFocus (shown control)) : focus ≠ .control .addressBar := by
    unfold controlFocus at hmem
    split_ifs at hmem
    · rw [mem_singleton.mp hmem, hshown]
      exact fun h => hne (PrimaryUiFocus.control.inj h)
    · simp at hmem
  simp only [focusOrder, mem_append, mem_flatMap] at h
  rcases h with ((((h | ⟨control, hmem, h⟩) | ⟨control, hmem, h⟩) | h) | ⟨control, hmem, h⟩) | h
  · cases toolbarOnly <;> simp_all
  · refine hstop ?_ h
    rintro rfl
    cases toolbarOnly <;> simp at hmem
  · refine hstop ?_ h
    rintro rfl
    simp at hmem
  · split_ifs at h <;> simp_all
  · refine hstop ?_ h
    rintro rfl
    simp at hmem
  · cases toolbarOnly <;> simp_all

section Candidates

variable {shown : PrimaryUiControl → PrimaryUiControlSnapshot} {snapshot : PrimaryUiSnapshot}

variable (hshown : ∀ control, (shown control).control = control)
variable (hcontrols : snapshot.controls = PrimaryUiControl.all.map shown)
include hshown hcontrols

lemma focusableControl_peeks (control : PrimaryUiControl) :
    Peeks s (fun found => some (controlFocus (shown control)) = some found)
      (focusableControl snapshot control s) := by
  unfold focusableControl
  rw [hcontrols]
  refine (controlSnapshot_peeks hshown control).bind fun found t _ hfound => ?_
  obtain rfl := Option.some.inj hfound
  exact .pure rfl

lemma focusableControls_peeks (controls : List PrimaryUiControl) :
    Peeks s (fun found => found = controls.map fun control => controlFocus (shown control))
      (Call.runAll (focusableControl snapshot) controls s) := by
  refine (Peeks.runAll (fun t _ control => focusableControl_peeks hshown hcontrols control)
    controls).imp fun found hfound => ?_
  rw [hfound, filterMap_eq_map']

lemma primaryFocusCandidates_peeks (toolbarOnly : Bool) :
    Peeks s (fun candidates => ∃ active ∈ snapshot.tabs, active.selected ∧
        candidates = focusOrder shown active.tab toolbarOnly)
      (primaryFocusCandidates snapshot toolbarOnly s) := by
  have hp : Proper (.primaryUiResource "primary snapshot has no selected tab") := trivial
  refine (Looks.okOr hp).peeks_bind fun active hactive => ?_
  refine (reserve_peeks _).bind fun _ _ _ _ => ?_
  refine (focusableControls_peeks hshown hcontrols _).bind fun tabStrip _ _ htabStrip => ?_
  refine (focusableControls_peeks hshown hcontrols _).bind fun buttons _ _ hbuttons => ?_
  rw [hcontrols]
  refine (controlSnapshot_peeks hshown .addressBar).bind fun address _ _ haddress => ?_
  refine (focusableControls_peeks hshown hcontrols _).bind fun menus _ _ hmenus => ?_
  obtain rfl := Option.some.inj haddress
  refine .pure ⟨active, mem_of_find?_eq_some hactive, ?_, ?_⟩
  · simpa using find?_some hactive
  · rw [htabStrip, hbuttons, hmenus]
    simp only [focusOrder, flatMap_def]

end Candidates

variable [EnginePort E]

variable {window} in
/-- A change of the chrome and its next revision. -/
lemma changePrimaryUi_keeps {f : PrimaryUiWindowState → PrimaryUiWindowState}
    (hf : ∀ ui : PrimaryUiWindowState, ui.focus ≠ .control .addressBar →
      (f ui).focus ≠ .control .addressBar) {α : Type} (g : PrimaryUiRevision → α) :
    Keeps (do
      modifyPrimaryUi window f
      let revision ← bumpPrimaryUiRevision window
      pure (g revision) : SessionCall E α) := by
  refine (modifyPrimaryUi_keeps window hf).bind fun _ => ?_
  exact (bumpPrimaryUiRevision_keeps window).bind fun _ => .pure _

/-! ## Direction and layout -/

lemma setPrimaryUiDirection_keeps (direction : PrimaryUiDirection) :
    Keeps (E := E) (setPrimaryUiDirection window direction) := by
  refine ensureRunning_keeps.bind fun _ => (getWindow_keeps window).bind fun state => ?_
  refine .ite (fun _ => .pure _) fun _ => ?_
  refine (modifyPrimaryUi_keeps window ?_).bind fun _ => bumpPrimaryUiRevision_keeps window
  exact fun _ h => h

lemma relocateFocus_ne (h : focus ≠ .control .addressBar) :
    relocateFocus layout focus ≠ .control .addressBar := by
  cases focus with
  | control control =>
    unfold relocateFocus
    simp only
    split_ifs
    · exact h
    · decide
    · exact PrimaryUiFocus.noConfusion
  | _ => exact h

lemma withLayout_focus_ne {ui : PrimaryUiWindowState} (h : ui.focus ≠ .control .addressBar) :
    (withLayout layout ui).focus ≠ .control .addressBar := by
  apply relocateFocus_ne
  split_ifs
  · exact PrimaryUiFocus.noConfusion
  · exact h

lemma setPrimaryUiLayout_keeps (layout : PrimaryUiLayout) :
    Keeps (E := E) (setPrimaryUiLayout window layout) := by
  refine ensureRunning_keeps.bind fun _ => (getWindow_keeps window).bind fun state => ?_
  refine .ite (fun _ => .pure _) fun _ => ?_
  refine (modifyPrimaryUi_keeps window fun _ h => withLayout_focus_ne layout h).bind fun _ => ?_
  exact bumpPrimaryUiRevision_keeps window

/-! ## Panels -/

lemma closeOpenPanel_keeps (anchor : PrimaryUiControl) :
    Keeps (E := E) (closeOpenPanel window anchor) := by
  refine (setActiveTabFocus_keeps window _).bind fun _ => changePrimaryUi_keeps ?_ _
  intro ui _
  show (if anchor = .addressBar then PrimaryUiFocus.addressBar else .control anchor) ≠ _
  split_ifs with hanchor
  · decide
  · exact fun h => hanchor (PrimaryUiFocus.control.inj h)

lemma openPanel_keeps (items : List PrimaryUiPanelItemSnapshot) :
    Keeps (E := E) (openPanel window panel items) := by
  refine (activeTab_keeps window).bind fun active => ?_
  refine (setActiveTabFocus_keeps window _).bind fun _ => changePrimaryUi_keeps ?_ _
  intro ui _
  generalize (if panel = .allTabs then some (PrimaryUiPanelItemId.allTabsTab active) else _) =
    selected
  cases selected with
  | none => exact panel.anchor_ne_addressBar
  | some item => exact PrimaryUiFocus.noConfusion

lemma togglePrimaryPanel_keeps : Keeps (E := E) (togglePrimaryPanel window panel) := by
  intro s hs
  refine (primaryUiSnapshot_peeks hs window).keeps_bind hs ?_
  rintro _ ⟨W, active, -, -, rfl⟩ t ht
  refine (expect_peeks (find?_shownControl s W active panel.anchor) _).keeps_bind ht fun _ _ => ?_
  refine .ite (fun _ => .pure _) fun _ => .ite (fun _ => closeOpenPanel_keeps window _) fun _ => ?_
  refine (getWindow_keeps window).bind fun state v hv => ?_
  exact (primaryPanelItems_peeks (fun _ => rfl) panel _).keeps_bind hv fun items _ =>
    openPanel_keeps window panel items

lemma dismissPrimaryPanel_keeps : Keeps (E := E) (dismissPrimaryPanel window) := by
  refine (getWindow_keeps window).bind fun state => ?_
  have hleave (previous : PrimaryUiFocus) : Keeps (do
      modifyPrimaryUi window fun ui => { ui with focus := .page }
      setActiveTabFocus window .content
      let _ ← bumpPrimaryUiRevision window
      pure (.focusChanged previous .page) : SessionCall E PrimaryUiActionOutcome) := by
    refine (modifyPrimaryUi_keeps window fun _ _ => PrimaryUiFocus.noConfusion).bind fun _ => ?_
    refine (setActiveTabFocus_keeps window _).bind fun _ => ?_
    exact (bumpPrimaryUiRevision_keeps window).bind fun _ => .pure _
  split
  · exact changePrimaryUi_keeps (fun _ _ => PrimaryUiPanel.anchor_ne_addressBar _) _
  · split
    · exact .pure _
    · exact .pure _
    · exact .pure _
    · exact hleave _

lemma closePrimaryPanelAfterCommand_keeps :
    Keeps (E := E) (closePrimaryPanelAfterCommand window) := by
  refine .read fun s => ?_
  split
  · exact .pure ()
  · intro t ht
    refine (activeTabPrimaryFocus_looks window).kept_bind ht fun restored hrestored => ?_
    refine Keeps.kept (.ite (fun _ => .pure ()) fun _ => ?_) ht
    exact changePrimaryUi_keeps (fun _ _ => hrestored) fun _ => ()

/-! ## Controls -/

lemma commandControl_keeps (shown : PrimaryUiControlSnapshot) (tab : BrowserTabId)
    (control : PrimaryUiControl) :
    Keeps (E := E) (commandControl window shown tab control) := by
  cases control with
  | back => exact (goHistory_keeps tab false).map
  | forward => exact (goHistory_keeps tab true).map
  | reloadStop =>
    unfold commandControl
    simp only
    split
    · exact (reload_keeps tab).map
    · exact (stop_keeps tab).map
    · exact .pure _
  | addressBar => exact (focusAddress_keeps window).map
  | newTab => exact (openTab_keeps window).map
  | _ => exact togglePrimaryPanel_keeps window _

lemma invokePrimaryControl_keeps (control : PrimaryUiControl) (fromPanel : Bool) :
    Keeps (E := E) (invokePrimaryControl window control fromPanel) := by
  intro s hs
  refine (primaryUiSnapshot_peeks hs window).keeps_bind hs ?_
  rintro _ ⟨W, active, -, -, rfl⟩ t ht
  refine (expect_peeks (find?_shownControl s W active control) _).keeps_bind ht fun shown _ => ?_
  refine .ite (fun _ => .pure _) fun _ => (activeTab_keeps window).bind fun tab => ?_
  exact commandControl_keeps window shown tab control

lemma commandAndClosePanel_keeps (h : Keeps command) :
    Keeps (commandAndClosePanel window command) :=
  h.bind fun _ => (closePrimaryPanelAfterCommand_keeps window).bind fun _ => .pure _

lemma performPanelItem_keeps (action : PrimaryUiPanelItemAction) :
    Keeps (E := E) (performPanelItem window item action) := by
  cases action with
  | none => exact .pure _
  | activateTab tab => exact commandAndClosePanel_keeps window (activateTab_keeps tab)
  | invokeControl control =>
    refine (invokePrimaryControl_keeps window control true).bind fun outcome => ?_
    refine .ite (fun _ => ?_) fun _ => .pure _
    exact (closePrimaryPanelAfterCommand_keeps window).bind fun _ => .pure _
  | closeActiveTab =>
    refine (activeTab_keeps window).bind fun tab => ?_
    exact commandAndClosePanel_keeps window (closeTab_keeps tab)

lemma activatePrimaryPanelItem_keeps : Keeps (E := E) (activatePrimaryPanelItem window item) := by
  intro s hs
  refine (primaryUiSnapshot_peeks hs window).keeps_bind hs ?_
  rintro _ ⟨W, active, -, -, rfl⟩
  split
  · exact .pure _
  · refine (getWindow_keeps window).bind fun state v hv => ?_
    refine (primaryPanelItems_peeks (fun _ => rfl) _ _).keeps_bind hv fun items _ => ?_
    split
    · exact .pure _
    · exact .ite (fun _ => performPanelItem_keeps window item _) fun _ => .pure _

/-! ## Moving the focus -/

lemma movePrimaryFocus_keeps (toolbarOnly : Bool) :
    Keeps (E := E) (movePrimaryFocus window direction toolbarOnly) := by
  intro s hs
  refine (primaryUiSnapshot_peeks hs window).keeps_bind hs ?_
  rintro _ ⟨W, active, -, -, rfl⟩ t ht
  refine (primaryFocusCandidates_peeks (fun _ => rfl) rfl toolbarOnly).keeps_bind ht ?_
  rintro candidates ⟨tab, -, -, hcandidates⟩
  refine .ite (fun _ => .pure _) fun hne v hv => ?_
  refine (expectNext_peeks hne (fun _ h => ⟨_, h⟩) _ _).keeps_bind hv fun current hmem => ?_
  rw [hcandidates] at hmem
  refine .ite (fun _ => .pure _) fun _ => ?_
  refine (setPrimaryFocus_keeps (focusOrder_ne (fun _ => rfl) hmem)).bind fun _ => ?_
  exact (bumpPrimaryUiRevision_keeps window).bind fun _ => .pure _

lemma movePrimaryDocumentFocus_keeps : Keeps (E := E) (movePrimaryDocumentFocus window) := by
  refine (getWindow_keeps window).bind fun state => ?_
  refine (setPrimaryFocus_keeps ?_).bind fun _ => ?_
  · split_ifs
    · exact PrimaryUiFocus.noConfusion
    · exact PrimaryUiFocus.noConfusion
  · refine changePrimaryUi_keeps ?_ fun _ => _
    exact fun _ h => h

/-- A row that can be selected is a row. -/
lemma findIdx?_of_enabled {items : List PrimaryUiPanelItemSnapshot} {id : PrimaryUiPanelItemId}
    (h : id ∈ (items.filter fun item => item.enabled).map PrimaryUiPanelItemSnapshot.id) :
    ∃ row, (items.findIdx? fun item => item.id = id) = some row := by
  obtain ⟨item, hitem, rfl⟩ := mem_map.mp h
  rw [← Option.isSome_iff_exists, findIdx?_isSome, any_eq_true]
  exact ⟨item, (mem_filter.mp hitem).1, decide_eq_true rfl⟩

lemma movePrimaryPanelSelection_keeps :
    Keeps (E := E) (movePrimaryPanelSelection window direction) := by
  intro s hs
  refine (primaryUiSnapshot_peeks hs window).keeps_bind hs ?_
  rintro _ ⟨W, active, -, -, rfl⟩
  split
  · exact .pure _
  · refine (getWindow_keeps window).bind fun state v hv => ?_
    refine (primaryPanelItems_peeks (fun _ => rfl) _ _).keeps_bind hv fun items _ => ?_
    refine .ite (fun _ => .pure _) fun hne => (getWindow_keeps window).bind fun state v hv => ?_
    refine (expectNext_peeks hne ?_ _ _).keeps_bind hv fun next hnext => ?_
    · intro index hindex
      obtain ⟨item, -, hitem⟩ := Option.bind_eq_some_iff.mp hindex
      exact ⟨_, hitem⟩
    refine .ite (fun _ => .pure _) fun _ v hv => ?_
    obtain ⟨row, hrow⟩ := findIdx?_of_enabled hnext
    refine (expect_peeks hrow _).keeps_bind hv fun row _ => ?_
    exact changePrimaryUi_keeps (fun _ _ => PrimaryUiFocus.noConfusion) _

lemma scrollPrimaryPanel_keeps (rows : ℕ) :
    Keeps (E := E) (scrollPrimaryPanel window direction rows) := by
  refine .ite (fun _ => .pure _) fun _ => (getWindow_keeps window).bind fun state => ?_
  split
  · exact .pure _
  · refine (setActiveTabFocus_keeps window _).bind fun _ => ?_
    exact changePrimaryUi_keeps (fun _ _ => PrimaryUiPanel.allTabs.anchor_ne_addressBar) _

/-! ## Actions -/

lemma ownTabCommand_keeps (tab : BrowserTabId) (element : PrimaryUiElementId) (h : Keeps command) :
    Keeps (ownTabCommand window tab element command) := by
  refine .bind ((getWindow_keeps window).bind fun _ => .pure _) fun contained => ?_
  exact .ite (fun _ => commandAndClosePanel_keeps window h) fun _ => .pure _

lemma performPrimaryUiAction_keeps {again : PrimaryUiAction → SessionCall E PrimaryUiActionOutcome}
    (hagain : ∀ action, Keeps (again action)) (action : PrimaryUiAction) :
    Keeps (performPrimaryUiAction window again action) := by
  cases action with
  | focusPage => exact (activeTab_keeps window).bind fun tab => (focusContent_keeps tab).map
  | invokeControl control => exact invokePrimaryControl_keeps window control false
  | activateTab tab => exact ownTabCommand_keeps window tab _ (activateTab_keeps tab)
  | closeTab tab => exact ownTabCommand_keeps window tab _ (closeTab_keeps tab)
  | activatePanelItem item => exact activatePrimaryPanelItem_keeps window item
  | dismissPanel => exact dismissPrimaryPanel_keeps window
  | moveDocumentFocus _ => exact movePrimaryDocumentFocus_keeps window
  | moveFocus direction =>
    refine (getWindow_keeps window).bind fun state => .ite (fun _ => ?_) fun _ => ?_
    · exact movePrimaryPanelSelection_keeps window direction
    · exact movePrimaryFocus_keeps window direction false
  | moveToolbarFocus direction => exact movePrimaryFocus_keeps window direction true
  | movePanelSelection direction => exact movePrimaryPanelSelection_keeps window direction
  | scrollPanel direction rows => exact scrollPrimaryPanel_keeps window direction rows
  | activateFocused =>
    refine (getWindow_keeps window).bind fun state => ?_
    split
    · exact .pure _
    · exact hagain _

/-- **Every action keeps the session.** -/
theorem dispatchPrimaryUiAction_keeps (action : PrimaryUiAction) :
    Keeps (E := E) (dispatchPrimaryUiAction window expected action) := by
  refine dispatchCurrent_keeps window expected (performPrimaryUiAction_keeps window ?_ action)
  intro action
  refine dispatchCurrent_keeps window expected (performPrimaryUiAction_keeps window ?_ action)
  exact fun _ => .pure _

lemma dispatchPrimaryUiBinding_keeps (binding : PrimaryUiActionBinding) :
    Keeps (E := E) (dispatchPrimaryUiBinding binding) := by
  refine .bind ((getWindow_keeps binding.window).bind fun _ => .pure _) fun current => ?_
  refine .ite (fun _ => .pure _) fun _ s hs => ?_
  refine (primaryUiSnapshot_peeks hs binding.window).keeps_bind hs fun snapshot _ => ?_
  refine .ite (fun _ => .pure _) fun _ => ?_
  exact dispatchPrimaryUiAction_keeps binding.window binding.revision binding.action

end BrowserSession

end WildBuzzard.Ui
