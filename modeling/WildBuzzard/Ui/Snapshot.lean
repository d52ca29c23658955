import WildBuzzard.Ui.Repair

/-!
# What a snapshot is

`primaryUiSnapshot` looks up windows, tabs and controls and reserves memory on the way. What it
returns is a function of the session alone, `snapshotOf`: **a snapshot that is returned is that
value** (`primaryUiSnapshot_peeks`), every control is found in it, and nothing of the session changes
but the answers to later reservations (`Reserved`).
-/

namespace WildBuzzard.Ui

open Lib Engine PrimaryUiControl

/-- A control is found among the snapshots of all controls. -/
lemma find?_map_all {shown : PrimaryUiControl → PrimaryUiControlSnapshot}
    (hshown : ∀ control, (shown control).control = control) (control : PrimaryUiControl) :
    ((all.map shown).find? fun candidate => candidate.control = control) =
      some (shown control) := by
  have hfind : (all.find? fun candidate => decide (candidate = control)) =
      some control := by
    cases control <;> decide
  rw [List.find?_map]
  simp only [Function.comp_def, hshown, hfind, Option.map_some]

namespace BrowserSession

variable {E α β : Type} {s t u : BrowserSession E}

/-! ## Reservations -/

/-- Nothing but the answers to later reservations changed. -/
def Reserved (s t : BrowserSession E) : Prop :=
  ∃ reservations, t = { s with reservations := reservations }

lemma Reserved.refl (s : BrowserSession E) : Reserved s s := ⟨s.reservations, rfl⟩

lemma Reserved.trans (h : Reserved s t) (h' : Reserved t u) : Reserved s u := by
  obtain ⟨_, rfl⟩ := h
  obtain ⟨rest, rfl⟩ := h'
  exact ⟨rest, rfl⟩

lemma Alive.reserved (h : Alive s) (hst : Reserved s t) : Alive t := by
  obtain ⟨_, rfl⟩ := hst
  exact ⟨h.running, h.engine, h.windows, { h.sound with }⟩

lemma Reserved.after (hst : Reserved s t) (h : Inv s) : After s t := by
  refine ⟨h.imp (fun hs => hs.reserved hst) fun hs => ?_, ?_⟩
  · obtain ⟨_, rfl⟩ := hst
    exact { hs with }
  · obtain ⟨_, rfl⟩ := hst
    exact { Extends.refl s with }

/-- The outcome of a call that at most reserves memory, with a property of its value. -/
def Peeks (s : BrowserSession E) (Q : α → Prop)
    (o : Outcome (BrowserSession E) SessionError α) : Prop :=
  o.Sat (fun a t => Reserved s t ∧ Q a) (fun e t => Reserved s t ∧ Proper e) fun _ => False

section Peeks

variable {P : SessionError → Prop} {Q : α → Prop} {R : β → Prop} {m : SessionCall E α}
  {f : α → SessionCall E β} {o : Outcome (BrowserSession E) SessionError α}

lemma Peeks.of_reserved (hst : Reserved s t) (h : Peeks t Q o) : Peeks s Q o :=
  h.imp₂ (fun _ _ hu => ⟨hst.trans hu.1, hu.2⟩) (fun _ _ hu => ⟨hst.trans hu.1, hu.2⟩)

lemma Peeks.imp {Q' : α → Prop} (h : Peeks s Q o) (hQ : ∀ a, Q a → Q' a) : Peeks s Q' o :=
  Outcome.Sat.imp h fun a _ ht => ⟨ht.1, hQ a ht.2⟩

lemma Looks.peeks (h : Looks s Q o) : Peeks s Q o :=
  h.imp₂ (fun _ _ ⟨ht, ha⟩ => ⟨ht ▸ .refl s, ha⟩) (fun _ _ ⟨ht, he⟩ => ⟨ht ▸ .refl s, he⟩)

lemma Peeks.bind (hm : Peeks s Q (m s)) (hf : ∀ a t, Reserved s t → Q a → Peeks t R (f a t)) :
    Peeks s R ((m >>= f) s) :=
  Call.sat_seq hm (fun a t ht => (hf a t ht.1 ht.2).of_reserved ht.1) (fun _ _ => id)

lemma Looks.peeks_bind (hm : Looks s Q (m s)) (hf : ∀ a, Q a → Peeks s R (f a s)) :
    Peeks s R ((m >>= f) s) := hm.sat_bind (fun _ he => ⟨.refl s, he⟩) hf

lemma Peeks.read {g : BrowserSession E → SessionCall E β} (h : Peeks s R (g s s)) :
    Peeks s R ((Call.read >>= g) s) := h

lemma Peeks.pure {a : α} (ha : Q a) : Peeks s Q ((Pure.pure a : SessionCall E α) s) :=
  ⟨.refl s, ha⟩

/-- What follows a peek starts from a state that differs in the reservations only. -/
lemma Peeks.kept_bind (hm : Peeks s Q (m s)) (hs : Inv s)
    (hf : ∀ a t, Reserved s t → Q a → Kept AnyError t (f a t)) : Kept AnyError s ((m >>= f) s) :=
  Call.sat_seq hm (fun a t ht => (hf a t ht.1 ht.2).after (ht.1.after hs))
    fun _ _ ht => ⟨ht.1.after hs, ht.2, fun _ => trivial⟩

lemma Peeks.keeps_bind (hm : Peeks s Q (m s)) (hs : Inv s) (hf : ∀ a, Q a → Keeps (f a)) :
    Kept AnyError s ((m >>= f) s) :=
  hm.kept_bind hs fun a t ht ha => hf a ha t (ht.after hs).inv

lemma Peeks.kept (h : Peeks s Q o) (hs : Inv s) : Kept AnyError s o :=
  h.imp₂ (fun _ _ ht => ht.1.after hs) (fun _ _ ht => ⟨ht.1.after hs, ht.2, fun _ => trivial⟩)

/-- A list of peeks collects the values that each of them returns. -/
lemma Peeks.runAll {step : α → SessionCall E β} {value : α → Option β}
    (h : ∀ t, Reserved s t → ∀ op, Peeks t (fun b => value op = some b) (step op t))
    (ops : List α) : Peeks s (fun answers => answers = ops.filterMap value)
      (Call.runAll step ops s) := by
  induction ops generalizing s with
  | nil => exact .pure rfl
  | cons op rest ih =>
    refine (h s (.refl s) op).bind fun b t ht hb => ?_
    refine (ih fun u hu => h u (ht.trans hu)).bind fun answers u _ hanswers => ?_
    refine .pure ?_
    rw [List.filterMap_cons_some hb, hanswers]

lemma reserve_peeks (detail : String) : Peeks s (fun _ => True) (reserve detail s) := by
  refine Peeks.read ?_
  cases s.reservations with
  | nil => exact .pure trivial
  | cons granted rest =>
    refine Peeks.bind (Q := fun _ => True) ⟨⟨rest, rfl⟩, trivial⟩ fun _ t _ _ => ?_
    have hp : Proper (.primaryUiResource detail) := trivial
    exact (Looks.check hp).peeks.imp fun _ _ => trivial

lemma expect_peeks {value : Option α} {a : α} (h : value = some a) (message : String) :
    Peeks s (fun b => b = a) ((expect value message : SessionCall E α) s) := by
  subst h
  exact .pure rfl

end Peeks

/-! ## The value of a snapshot -/

/-- What is shown of a control. -/
def shownControl (s : BrowserSession E) (W : WindowState) (active : TabState) :
    PrimaryUiControl → PrimaryUiControlSnapshot :=
  snapshotControl W (s.primaryControlFacts W active)

lemma find?_shownControl (s : BrowserSession E) (W : WindowState) (active : TabState)
    (control : PrimaryUiControl) :
    ((all.map (s.shownControl W active)).find? fun candidate =>
      candidate.control = control) = some (s.shownControl W active control) :=
  find?_map_all (fun _ => rfl) control

/-- What is shown of the tabs of a window. -/
def shownTabs (s : BrowserSession E) (W : WindowState) : List PrimaryUiTabSnapshot :=
  W.tabs.filterMap fun tab => (s.tabs.lookup tab).map (snapshotTab W tab)

/-- The rows of a panel. -/
def panelItems (W : WindowState) (panel : PrimaryUiPanel)
    (shown : PrimaryUiControl → PrimaryUiControlSnapshot) (tabs : List PrimaryUiTabSnapshot) :
    List PrimaryUiPanelItemSnapshot :=
  let focused := W.primaryUi.panelSelected
  match panel with
  | .siteIdentity =>
    [panelRow .identitySummary (identitySummary (shown .siteIdentity).siteIdentity) false .none
      false focused .none]
  | .allTabs => tabs.map (allTabsRow focused)
  | .applicationMenu =>
    (applicationMenuControls.map fun row =>
      panelRow row.1 (shown row.2).name (shown row.2).enabled .invoke false focused
        (.invokeControl (shown row.2).control)) ++
      [panelRow .applicationCloseTab "Close Tab".toList true .invoke false focused
        .closeActiveTab]
  | .overflow =>
    W.primaryUi.layout.overflowed.iter.map fun control =>
      panelRow (.overflowControl control) (shown control).name (shown control).enabled
        (shown control).interaction (shown control).expanded focused (.invokeControl control)

/-- A panel with its rows. -/
def panelOf (W : WindowState) (panel : PrimaryUiPanel)
    (items : List PrimaryUiPanelItemSnapshot) : PrimaryUiPanelSnapshot where
  panel := panel
  anchor := panel.anchor
  items := items
  selected := W.primaryUi.panelSelected
  scrollOffset := panelStart W.primaryUi panel items.length
    (W.primaryUi.panelSelected.bind fun selected => items.findIdx? fun item => item.id = selected)
  visibleCapacity := W.primaryUi.layout.panelRowCapacity
  totalRows := items.length

/-- The panel that is open. -/
def shownPanel (s : BrowserSession E) (W : WindowState) (active : TabState) :
    Option PrimaryUiPanelSnapshot :=
  W.primaryUi.panel.map fun panel =>
    panelOf W panel (panelItems W panel (s.shownControl W active) (s.shownTabs W))

/-- **The snapshot of a window.** -/
def snapshotOf (s : BrowserSession E) (window : BrowserWindowId) (W : WindowState)
    (active : TabState) : PrimaryUiSnapshot where
  window := window
  revision := W.primaryUi.revision
  direction := W.primaryUi.direction
  focus := W.primaryUi.focus
  controls := PrimaryUiControl.all.map (s.shownControl W active)
  tabs := s.shownTabs W
  panel := s.shownPanel W active
  semantics := primarySemanticNodes W (PrimaryUiControl.all.map (s.shownControl W active))
    (s.shownTabs W) (s.shownPanel W active)

/-! ## What is returned -/

section Returned

variable {W : WindowState} {shown : PrimaryUiControl → PrimaryUiControlSnapshot}

section

variable (hshown : ∀ control, (shown control).control = control)
include hshown

lemma controlSnapshot_peeks (control : PrimaryUiControl) :
    Peeks s (fun found => some (shown control) = some found)
      (controlSnapshot (all.map shown) control s) :=
  (expect_peeks (find?_map_all hshown control) _).imp fun _ h => congrArg some h.symm

lemma applicationMenuRow_peeks (focused : Option PrimaryUiPanelItemId)
    (row : PrimaryUiPanelItemId × PrimaryUiControl) :
    Peeks s
      (fun found => some (panelRow row.1 (shown row.2).name (shown row.2).enabled .invoke false
        focused (.invokeControl (shown row.2).control)) = some found)
      (applicationMenuRow (all.map shown) focused row s) := by
  refine (controlSnapshot_peeks hshown row.2).bind fun found t _ hfound => ?_
  obtain rfl := Option.some.inj hfound
  exact .pure rfl

lemma overflowRow_peeks (focused : Option PrimaryUiPanelItemId) (control : PrimaryUiControl) :
    Peeks s (fun found => some (panelRow (.overflowControl control) (shown control).name
        (shown control).enabled (shown control).interaction (shown control).expanded focused
        (.invokeControl control)) = some found)
      (overflowRow (all.map shown) focused control s) := by
  refine (controlSnapshot_peeks hshown control).bind fun found t _ hfound => ?_
  obtain rfl := Option.some.inj hfound
  exact .pure rfl

lemma primaryPanelItems_peeks (panel : PrimaryUiPanel) (tabs : List PrimaryUiTabSnapshot) :
    Peeks s (fun items => items = panelItems W panel shown tabs)
      (primaryPanelItems W panel (all.map shown) tabs s) := by
  refine (reserve_peeks _).bind fun _ t _ _ => ?_
  cases panel with
  | siteIdentity =>
    refine (controlSnapshot_peeks hshown .siteIdentity).bind fun found u _ hfound => ?_
    obtain rfl := Option.some.inj hfound
    exact .pure rfl
  | allTabs => exact .pure rfl
  | applicationMenu =>
    refine (Peeks.runAll (fun u _ row => applicationMenuRow_peeks hshown _ row) _).bind
      fun rows u _ hrows => ?_
    refine .pure ?_
    rw [hrows, List.filterMap_eq_map']
    rfl
  | overflow =>
    refine (Peeks.runAll (fun u _ control => overflowRow_peeks hshown _ control) _).imp
      fun rows hrows => ?_
    rw [hrows, List.filterMap_eq_map']
    rfl

lemma primaryPanelSnapshot_peeks (panel : PrimaryUiPanel) (tabs : List PrimaryUiTabSnapshot) :
    Peeks s (fun found => found = panelOf W panel (panelItems W panel shown tabs))
      (primaryPanelSnapshot W panel (all.map shown) tabs s) := by
  refine (primaryPanelItems_peeks hshown panel tabs).bind fun items t _ hitems => ?_
  subst hitems
  exact .pure rfl

lemma openPanelSnapshot_peeks (tabs : List PrimaryUiTabSnapshot) :
    Peeks s
      (fun found => found = W.primaryUi.panel.map fun panel =>
        panelOf W panel (panelItems W panel shown tabs))
      (openPanelSnapshot W (all.map shown) tabs s) := by
  unfold openPanelSnapshot
  cases W.primaryUi.panel with
  | none => exact .pure rfl
  | some panel =>
    refine (primaryPanelSnapshot_peeks hshown panel tabs).bind fun found t _ hfound => ?_
    subst hfound
    exact .pure rfl

end

lemma tabSnapshotOf_peeks (tab : BrowserTabId) :
    Peeks s (fun found => (s.tabs.lookup tab).map (snapshotTab W tab) = some found)
      (tabSnapshotOf W tab s) := by
  refine (getTab_looks tab).peeks.bind fun a t _ ha => ?_
  exact .pure (by rw [ha, Option.map_some])

/-- The window and active tab a snapshot was taken of. -/
def SnapshotAt (s : BrowserSession E) (window : BrowserWindowId) (snapshot : PrimaryUiSnapshot) :
    Prop :=
  ∃ W active, s.windows.lookup window = some W ∧ s.tabs.lookup W.active = some active ∧
    snapshot = s.snapshotOf window W active

/-- **A snapshot that is returned is the snapshot of the window.** -/
theorem primaryUiSnapshot_peeks (hs : Inv s) (window : BrowserWindowId) :
    Peeks s (SnapshotAt s window) (primaryUiSnapshot window s) := by
  refine (getWindow_looks window).peeks_bind fun W hW => ?_
  have hvalid : validPrimaryFocus W.primaryUi.focus = true :=
    decide_eq_true ((hs.alive_of_window hW).sound.focus hW)
  rw [Call.check_eq_pure hvalid]
  refine (getTab_looks W.active).peeks_bind fun active hactive => Peeks.read ?_
  refine (reserve_peeks _).bind fun _ t ⟨_, ht⟩ _ => ?_
  refine (reserve_peeks _).bind fun _ u ⟨_, hu⟩ _ => ?_
  have htabs (v : BrowserSession E) (hv : Reserved u v) (tab : BrowserTabId) :
      Peeks v (fun found => (s.tabs.lookup tab).map (snapshotTab W tab) = some found)
        (tabSnapshotOf W tab v) := by
    obtain ⟨_, rfl⟩ := hv
    subst hu ht
    exact tabSnapshotOf_peeks tab
  refine (Peeks.runAll htabs W.tabs).bind fun tabs v _ htabs => ?_
  refine (openPanelSnapshot_peeks (fun _ => rfl) tabs).bind fun panel _ _ hpanel => ?_
  refine (reserve_peeks _).bind fun _ _ _ _ => .pure ⟨W, active, hW, hactive, ?_⟩
  rw [hpanel, htabs]
  rfl

end Returned

end BrowserSession

end WildBuzzard.Ui
