import WildBuzzard.Ui.Admission

/-!
# What a session shows of its tabs

The history of a tab, the position in it and the visible address are its view. What an event does is
said about the views of all tabs at once: **the entry of its navigation changes, wherever it is, and
nothing else** (`relabelView`, `commitView`). Since navigations of one context are in the history of
one tab, changing that tab is all it takes (`views_update_only`).
-/

namespace WildBuzzard.Ui

open Lib Engine Option Table

/-- The history of a tab, its position and the visible address. -/
def TabState.view (tab : TabState) : List HistoryEntry × Option ℕ × List Char :=
  (tab.history, tab.historyIndex, tab.address.text)

namespace BrowserSession

variable {E : Type} {s t : BrowserSession E} {tab : BrowserTabId} {a : TabState}
  {navigation : NavigationId}

/-! ## Views -/

variable {f : TabState → TabState} {g : TabState → List HistoryEntry × Option ℕ × List Char}

/-- What the tabs show. -/
def views (s : BrowserSession E) : Table BrowserTabId (List HistoryEntry × Option ℕ × List Char) :=
  s.tabs.mapValues TabState.view

/-- A change of a tab that keeps its view. -/
lemma views_withTab (hf : ∀ a, (f a).view = a.view)
    (s : BrowserSession E) (tab : BrowserTabId) : (s.withTab tab f).views = s.views :=
  mapValues_update_of_eq fun a _ => hf a

lemma view_focusTabContent (a : TabState) : (focusTabContent a).view = a.view := rfl

lemma Quiet.views_eq (h : Quiet s t) : t.views = s.views := by
  apply Finmap.ext_lookup
  intro tab
  unfold views
  rw [lookup_mapValues, lookup_mapValues]
  rcases h.tabs tab with htab | htab
  · rw [htab]
  · rw [htab, map_map]
    exact congrArg (Option.map · _) (funext view_focusTabContent)

/-- The view of a session in which one tab changed is the one in which each tab changed, if the
other tabs look unchanged. -/
lemma views_update (hself : ∀ a, s.tabs.lookup tab = some a → (f a).view = g a)
    (hother : ∀ t T, t ≠ tab → s.tabs.lookup t = some T → g T = T.view) :
    (s.tabs.update tab f).mapValues TabState.view = s.tabs.mapValues g := by
  apply Finmap.ext_lookup
  intro t
  rw [lookup_mapValues, lookup_mapValues, lookup_update]
  split_ifs with ht
  · subst ht
    cases hT : s.tabs.lookup t with
    | none => rfl
    | some T => exact congrArg some (hself T hT)
  · cases hT : s.tabs.lookup t with
    | none => rfl
    | some T => exact congrArg some (hother t T ht hT).symm

/-! ## What events do to views -/

/-- A view in which the entry of a navigation was changed. -/
def relabelView (navigation : NavigationId) (f : HistoryEntry → HistoryEntry) (a : TabState) :
    List HistoryEntry × Option ℕ × List Char :=
  (a.history.map (onEntry navigation f), a.historyIndex, a.address.text)

/-- The navigation of the current entry. -/
def currentNavigation (a : TabRecord) : Option NavigationId :=
  a.historyIndex.bind fun index => a.history[index]?.map HistoryEntry.navigation

/-- An entry that was committed: to the final URL that the engine hands out, or to the requested one
if a loopback engine hands out none. -/
def committed (httpStatus : ℕ) (answer : Option NavigationCommitMetadata) (entry : HistoryEntry) :
    HistoryEntry :=
  match answer with
  | some commitment => commitEntry httpStatus commitment entry
  | none => { entry with state := .committed httpStatus, commit := some ⟨.cleartext, 0, false⟩ }

/-- A view in which the entry of a navigation was committed: the visible address follows if the
entry is current and the draft is neither dirty nor being composed. -/
def commitView (navigation : NavigationId) (httpStatus : ℕ)
    (answer : Option NavigationCommitMetadata) (a : TabState) :
    List HistoryEntry × Option ℕ × List Char :=
  (a.history.map (onEntry navigation (committed httpStatus answer)), a.historyIndex,
    if currentNavigation a.toTabRecord = some navigation ∧ ¬a.address.dirty ∧
        a.address.preedit.isNone then
      a.currentEntry.elim a.address.text fun e => (committed httpStatus answer e).address
    else a.address.text)

/-- A change of views that is about one navigation only. -/
def Only (navigation : NavigationId)
    (g : TabState → List HistoryEntry × Option ℕ × List Char) : Prop :=
  ∀ a : TabState, (∀ e ∈ a.history, e.navigation ≠ navigation) → g a = a.view

lemma only_relabelView (navigation : NavigationId) (f : HistoryEntry → HistoryEntry) :
    Only navigation (relabelView navigation f) := by
  intro a ha
  unfold relabelView TabState.view
  rw [map_onEntry_of_forall_ne ha]

lemma only_commitView (navigation : NavigationId) (httpStatus : ℕ)
    (answer : Option NavigationCommitMetadata) :
    Only navigation (commitView navigation httpStatus answer) := by
  intro a ha
  unfold commitView TabState.view
  rw [map_onEntry_of_forall_ne ha, if_neg]
  rintro ⟨hcurrent, -⟩
  obtain ⟨index, -, hentry⟩ := bind_eq_some_iff.mp hcurrent
  obtain ⟨e, he, hn⟩ := map_eq_some_iff.mp hentry
  exact ha e (List.mem_of_getElem? he) hn

section

variable (h : Sound s) (ha : s.tabs.lookup tab = some a) (hcontext : a.context = navigation.context)
include h ha hcontext

/-- The navigations of a context are in the history of its tab only. -/
lemma Sound.not_visited {t : BrowserTabId} {T : TabState} (hT : s.tabs.lookup t = some T)
    (hne : t ≠ tab) : ∀ e ∈ T.history, e.navigation ≠ navigation := by
  rintro e he rfl
  have hissued := ((h.tab hT).visited e he).1
  have hsame : T.context = a.context := hissued.symm.trans hcontext.symm
  exact hne (some.inj ((hsame ▸ h.context hT).symm.trans (h.context ha)))

/-- The views of a session in which the tab of a navigation changed. -/
lemma views_update_only (hg : Only navigation g) (hf : (f a).view = g a) :
    (s.tabs.update tab f).mapValues TabState.view = s.tabs.mapValues g := by
  refine views_update (fun b hb => ?_) fun t T hne hT => hg T (h.not_visited ha hcontext hT hne)
  rw [← some.inj (ha.symm.trans hb)]
  exact hf

end

/-- An event of a navigation that belongs nowhere changes nothing. -/
lemma views_of_unlocated (h : Sound s) (hnone : s.contexts.lookup navigation.context = none)
    (hg : Only navigation g) : s.views = s.tabs.mapValues g := by
  apply Finmap.ext_lookup
  intro t
  unfold views
  rw [lookup_mapValues, lookup_mapValues]
  cases hT : s.tabs.lookup t with
  | none => rfl
  | some T =>
    refine congrArg some (hg T ?_).symm
    rintro e he rfl
    have hissued := ((h.tab hT).visited e he).1
    rw [hissued, h.context hT] at hnone
    simp at hnone

/-- The label of an entry. -/
def labelled (label : HistoryEntryState) (entry : HistoryEntry) : HistoryEntry :=
  { entry with state := label }

/-- The view that an event leaves of a tab, with what the engine hands out for a commit. -/
def eventView (answer : Option NavigationCommitMetadata) (event : EnginePortEventKind) :
    TabState → List HistoryEntry × Option ℕ × List Char :=
  match event with
  | .navigationStarted navigation => relabelView navigation (labelled .loading)
  | .navigationCommitted navigation httpStatus => commitView navigation httpStatus answer
  | .navigationCancelled navigation => relabelView navigation (labelled .cancelled)
  | .navigationFailed navigation failure => relabelView navigation (labelled (.failed failure))
  | _ => TabState.view

/-- What an engine hands out for the commit that an event reports. -/
def HandsOut [EnginePort E] (engine : E) (event : EnginePortEventKind)
    (answer : Option NavigationCommitMetadata) : Prop :=
  match event with
  | .navigationCommitted navigation _ =>
    ∃ later, EnginePort.takeNavigationCommit navigation engine = (.returned (.ok answer), later)
  | _ => True

/-- The phase of a navigation is not part of a view. -/
lemma mapValues_enterPhase {f : HistoryEntry → HistoryEntry} (next : NavigationPhase) :
    (s.withTab tab (enterPhase navigation next)).tabs.mapValues (relabelView navigation f) =
      s.tabs.mapValues (relabelView navigation f) :=
  mapValues_update_of_eq fun _ _ => rfl

/-- The current entry is the one at the index. -/
lemma currentNavigation_eq_some {limits : SessionLimits} {a : TabRecord} (h : TabSound limits a)
    {i : ℕ} {entry : HistoryEntry} (hentry : a.history[i]? = some entry) :
    currentNavigation a = some entry.navigation ↔ a.historyIndex = some i := by
  constructor
  · intro hcurrent
    obtain ⟨j, hj, hmap⟩ := bind_eq_some_iff.mp hcurrent
    have hi : (a.history.map HistoryEntry.navigation)[i]? = some entry.navigation := by
      rw [List.getElem?_map, hentry, map_some]
    have hj' : (a.history.map HistoryEntry.navigation)[j]? = some entry.navigation := by
      rw [List.getElem?_map]
      exact hmap
    have hlt : j < (a.history.map HistoryEntry.navigation).length :=
      (List.getElem?_eq_some_iff.mp hj').1
    rw [hj, (List.getElem?_inj hlt h.distinct).mp (hj'.trans hi.symm)]
  · intro hindex
    unfold currentNavigation
    rw [hindex, bind_some, hentry, map_some]

end BrowserSession

end WildBuzzard.Ui
