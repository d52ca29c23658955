import WildBuzzard.Ui.Keeps

/-!
# The revision of a window

Almost every method ends by giving a window its next revision, which first repairs the focus. What
that can do is said once here: **windows keep their records, tabs at most give up the keyboard**
(`Quiet`), and the session goes on if the window has a next revision and fails otherwise
(`bumpPrimaryUiRevision_sat`). The one error of the repair, a focus on the address bar as a button,
does not occur in a sound session.
-/

namespace WildBuzzard.Ui

open Lib Engine Call

/-- The panels of the chrome hang on buttons. -/
lemma PrimaryUiPanel.anchor_ne_addressBar (panel : PrimaryUiPanel) :
    PrimaryUiFocus.control panel.anchor ≠ .control .addressBar := by
  cases panel <;> decide

/-- The focus a repair gives is a possible one. -/
def PrimaryFocusRepair.Valid : PrimaryFocusRepair → Prop
  | .panel focus _ _ => focus ≠ .control .addressBar
  | _ => True

section

variable (window : WindowState) (facts : PrimaryUiControl → PrimaryControlFacts)

lemma panelItemRepair_valid (item : PrimaryUiPanelItemId) :
    (panelItemRepair window facts item).Valid := by
  unfold panelItemRepair
  cases window.primaryUi.panel with
  | none => trivial
  | some panel =>
    simp only
    split_ifs
    · trivial
    · cases firstEnabledPrimaryPanelItem window panel facts with
      | none => exact panel.anchor_ne_addressBar
      | some item => exact PrimaryUiFocus.noConfusion

lemma targetRepair_eq_ok {focus : PrimaryUiFocus} (h : focus ≠ .control .addressBar) :
    ∃ repair, targetRepair window facts focus = .ok repair ∧ repair.Valid := by
  cases focus with
  | control control =>
    have hne : control ≠ .addressBar := fun hc => h (congrArg _ hc)
    unfold targetRepair
    simp only [if_neg hne]
    split_ifs
    · exact ⟨_, rfl, trivial⟩
    · exact ⟨_, rfl, trivial⟩
  | panelItem item => exact ⟨_, rfl, panelItemRepair_valid window facts item⟩
  | _ => exact ⟨_, rfl, trivial⟩

end

/-- A window with a possible focus has a repair, which gives a possible focus. -/
lemma focusRepair_eq_ok {window : WindowState} (active : TabState)
    (facts : PrimaryUiControl → PrimaryControlFacts)
    (h : window.primaryUi.focus ≠ .control .addressBar) :
    ∃ repair, focusRepair window active facts = .ok repair ∧ repair.Valid := by
  unfold focusRepair
  simp only
  split_ifs
  · exact ⟨_, rfl, trivial⟩
  · exact ⟨_, rfl, trivial⟩
  · exact ⟨_, rfl, trivial⟩
  · exact targetRepair_eq_ok window facts h

namespace BrowserSession

variable {E : Type} {s t u : BrowserSession E}

/-! ## Quiet changes -/

/-- The windows keep their records and the tabs at most give up the keyboard. -/
structure Quiet (s t : BrowserSession E) : Prop where
  rest : t = { s with windows := t.windows, tabs := t.tabs }
  windows : ∀ w, (t.windows.lookup w).map WindowState.toWindowRecord =
    (s.windows.lookup w).map WindowState.toWindowRecord
  tabs : ∀ tab, t.tabs.lookup tab = s.tabs.lookup tab ∨
    t.tabs.lookup tab = (s.tabs.lookup tab).map focusTabContent

lemma Quiet.refl (s : BrowserSession E) : Quiet s s := ⟨rfl, fun _ => rfl, fun _ => .inl rfl⟩

lemma Quiet.trans (h : Quiet s t) (h' : Quiet t u) : Quiet s u where
  rest := by
    rw [h'.rest, h.rest]
  windows w := (h'.windows w).trans (h.windows w)
  tabs tab := by
    rcases h'.tabs tab with h' | h' <;> rcases h.tabs tab with h | h
    · exact .inl (h'.trans h)
    · exact .inr (h'.trans h)
    · exact .inr (h'.trans (congrArg _ h))
    · refine .inr (h'.trans ?_)
      rw [h, Option.map_map]
      rfl

/-- What a quiet change does to a tab. -/
lemma Quiet.lookup_tab (h : Quiet s t) {tab : BrowserTabId} {a : TabState}
    (ha : s.tabs.lookup tab = some a) :
    ∃ b, t.tabs.lookup tab = some b ∧ (b = a ∨ b = focusTabContent a) := by
  rcases h.tabs tab with hb | hb
  · exact ⟨a, hb.trans ha, .inl rfl⟩
  · rw [ha] at hb
    exact ⟨focusTabContent a, hb, .inr rfl⟩

lemma quiet_withTab (s : BrowserSession E) (tab : BrowserTabId) :
    Quiet s (s.withTab tab focusTabContent) where
  rest := rfl
  windows _ := rfl
  tabs t := by
    have hlookup := Table.lookup_update s.tabs tab focusTabContent t
    split_ifs at hlookup
    · exact .inr hlookup
    · exact .inl hlookup

lemma quiet_mapUi (s : BrowserSession E) (window : BrowserWindowId)
    (f : PrimaryUiWindowState → PrimaryUiWindowState) :
    Quiet s (s.withWindowState window (WindowState.mapUi f)) where
  rest := rfl
  windows w := by
    show ((s.windows.update window _).lookup w).map _ = _
    rw [Table.lookup_update]
    split_ifs
    · rw [Option.map_map]
      rfl
    · rfl
  tabs _ := .inl rfl

/-! ## The repair -/

variable {window : BrowserWindowId} {W : WindowState}

/-- A window and its active tab, in a sound session. -/
lemma Sound.activeTab (h : Sound s) (hW : s.windows.lookup window = some W) :
    ∃ a, s.tabs.lookup W.active = some a ∧ a.window = window := h.listed hW (h.active hW)

/-- What is left after a repair of the focus. -/
structure Repaired (s t : BrowserSession E) (window : BrowserWindowId) (W : WindowState) :
    Prop where
  after : After s t
  quiet : Quiet s t
  revision : ∃ W', t.windows.lookup window = some W' ∧ W'.toWindowRecord = W.toWindowRecord ∧
    W'.primaryUi.revision = W.primaryUi.revision

lemma applyFocus_eq (hs : Alive s) (hW : s.windows.lookup window = some W)
    {focus : PrimaryUiFocus} (hfocus : focus ≠ .control .addressBar)
    (selected : Option PrimaryUiPanelItemId) (scroll : ℕ) (closePanel : Bool) :
    ∃ t, applyFocus window focus selected scroll closePanel s = .ok () t ∧
      Repaired s t window W := by
  obtain ⟨a, ha, -⟩ := hs.sound.activeTab hW
  have hcalm := hs.softTab ha (f := focusTabContent) rfl
  have halive : Alive _ := hcalm.inv.alive_of_running hs.running
  have hrepair := halive.softWindow hW
    (g := WindowState.mapUi (takeFocus focus selected scroll closePanel)) rfl hfocus
  refine ⟨_, ?_, ⟨hcalm.trans hrepair, (quiet_withTab s W.active).trans (quiet_mapUi _ window _), _,
    Table.lookup_update_self hW _, rfl, rfl⟩⟩
  unfold applyFocus
  rw [bind_of_ok (getWindow_eq hW), bind_of_ok (modifyTab_eq ha _)]
  exact modifyWindow_eq (s := s.withTab W.active focusTabContent) hW _

/-- **The repair of a focus succeeds and is quiet.** -/
theorem repairPrimaryFocus_eq (hs : Alive s) (hW : s.windows.lookup window = some W) :
    ∃ t, repairPrimaryFocus window s = .ok () t ∧ Repaired s t window W := by
  obtain ⟨a, ha, -⟩ := hs.sound.activeTab hW
  obtain ⟨repair, hrepair, hvalid⟩ :=
    focusRepair_eq_ok a (s.primaryControlFacts W a) (hs.sound.focus hW)
  have hstart : repairPrimaryFocus window s = applyPrimaryFocusRepair window repair s := by
    unfold repairPrimaryFocus
    rw [bind_of_ok (getWindow_eq hW), bind_of_ok (getTab_eq ha),
      bind_of_ok (show Call.read s = .ok s s from rfl), hrepair]
    rfl
  rw [hstart]
  cases repair with
  | none => exact ⟨s, rfl, .refl (.inl hs), .refl s, W, hW, rfl, rfl⟩
  | content =>
    refine ⟨_, ?_, ⟨hs.softTab ha (f := focusTabContent) rfl, quiet_withTab s W.active, W, hW,
      rfl, rfl⟩⟩
    show (getWindow window >>= fun state => modifyTab state.active focusTabContent) s = _
    rw [bind_of_ok (getWindow_eq hW)]
    exact modifyTab_eq ha _
  | page closePanel => exact applyFocus_eq hs hW PrimaryUiFocus.noConfusion none 0 closePanel
  | panel focus selected scroll => exact applyFocus_eq hs hW hvalid selected scroll false

/-! ## The next revision -/

variable [EnginePort E]

/-- **A window gets its next revision quietly, and the session fails without one.** -/
theorem bumpPrimaryUiRevision_sat (hs : Alive s) (hW : s.windows.lookup window = some W) :
    (bumpPrimaryUiRevision window s).Ends
      (fun _ t => After s t ∧ Quiet s t ∧ W.primaryUi.bump ≠ none)
      (fun e t => After s t ∧ t.lifecycle ≠ .running ∧ Proper e ∧ W.primaryUi.bump = none) := by
  obtain ⟨t, ht, hrepaired⟩ := repairPrimaryFocus_eq hs hW
  obtain ⟨W', hW', -, hrevision⟩ := hrepaired.revision
  have halive : Alive t := hrepaired.after.inv.alive_of_window hW'
  have hsame : W'.primaryUi.bump = none ↔ W.primaryUi.bump = none := by
    unfold PrimaryUiWindowState.bump
    rw [hrevision]
    cases checkedAdd W.primaryUi.revision.id.get 1 with
    | none => simp
    | some next => simp
  unfold bumpPrimaryUiRevision
  rw [bind_of_ok ht, bind_of_ok (getWindow_eq hW')]
  cases hbump : W'.primaryUi.bump with
  | none =>
    have hp : ProperFailure (.primaryUiRevisionExhausted window) := trivial
    show Outcome.Sat (fail _ t) _ _ _
    unfold fail
    rw [if_neg (by simp [halive.running])]
    exact ⟨hrepaired.after.trans (after_failed hp _), by simp [ended], trivial, hsame.mp hbump⟩
  | some bumped =>
    have hfocus : bumped.focus ≠ .control .addressBar := by
      rw [PrimaryUiWindowState.focus_of_bump hbump]
      exact halive.sound.focus hW'
    have hafter := halive.softWindow hW' (g := WindowState.mapUi fun _ => bumped) rfl hfocus
    refine sat_bind.mpr ?_
    rw [modifyPrimaryUi, modifyWindow_eq hW']
    refine sat_bind.mpr ?_
    rw [getWindow_eq (Table.lookup_update_self hW' _)]
    exact ⟨hrepaired.after.trans hafter, hrepaired.quiet.trans (quiet_mapUi _ window _),
      fun h => absurd (hsame.mpr h) (by simp [hbump])⟩

variable {P : SessionError → Prop} {tab : BrowserTabId} {a : TabState}

/-- The next revision of a window that is there keeps the session, in whatever condition. -/
lemma bumpPrimaryUiRevision_kept (hs : Alive s) (hW : s.windows.lookup window = some W) :
    Kept P s (bumpPrimaryUiRevision window s) :=
  (bumpPrimaryUiRevision_sat hs hW).imp₂ (fun _ _ h => h.1) fun _ _ h =>
    ⟨h.1, h.2.2.1, fun hr => absurd hr h.2.1⟩

/-- The next revision of the window of a tab, which is there. -/
lemma bumpPrimaryUiForTab_sat (hs : Alive s) (ha : s.tabs.lookup tab = some a) :
    (bumpPrimaryUiForTab tab s).Ends (fun _ t => After s t ∧ Quiet s t)
      (fun e t => After s t ∧ t.lifecycle ≠ .running ∧ Proper e) := by
  obtain ⟨W, hW, -⟩ := hs.sound.owned ha
  refine sat_bind.mpr ?_
  rw [getTab_eq ha]
  exact (bumpPrimaryUiRevision_sat hs hW).imp₂ (fun _ _ h => ⟨h.1, h.2.1⟩) fun _ _ h =>
    ⟨h.1, h.2.1, h.2.2.1⟩

lemma bumpPrimaryUiRevision_keeps (window : BrowserWindowId) :
    Keeps (E := E) (bumpPrimaryUiRevision window) := by
  intro s hs
  cases hW : s.windows.lookup window with
  | some W => exact bumpPrimaryUiRevision_kept (hs.alive_of_window hW) hW
  | none =>
    -- The repair starts by looking the window up.
    have herr : bumpPrimaryUiRevision window s = .err (.unknownWindow window) s := by
      unfold bumpPrimaryUiRevision repairPrimaryFocus getWindow
      simp only [Call.bind_apply, Call.read, Outcome.andThen, hW, okOr, Call.fail]
    rw [herr]
    exact ⟨.refl hs, trivial, fun _ => trivial⟩

lemma bumpPrimaryUiForTab_keeps (tab : BrowserTabId) : Keeps (E := E) (bumpPrimaryUiForTab tab) :=
  (getTab_keeps tab).bind fun a => bumpPrimaryUiRevision_keeps a.window

end BrowserSession

end WildBuzzard.Ui
