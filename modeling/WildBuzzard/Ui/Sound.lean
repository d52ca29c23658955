import WildBuzzard.Ui.Session

/-!
# What holds of a running session

`Sound` collects the structure of a running session: which windows, tabs and contexts there are and
how they refer to each other, what the three accounts add up to, and what each tab knows about its
own history (`TabSound`). `Extends` says how the identities of two states of one session are
related: **what is there later was there before, or was not yet allocated**.

The lemmas here are about changes of the state, one for each kind of change the methods make: one
tab replaced (`Sound.updateTab`), one window replaced, a tab added, a tab removed. The methods are
put together from them elsewhere.
-/

namespace WildBuzzard.Ui

open Lib Engine Table TabState Option

/-! ## Tabs -/

/-- A navigation that was admitted for a tab. -/
def TabRecord.Issued (tab : TabRecord) (navigation : NavigationId) : Prop :=
  navigation.context = tab.context ∧
    ∃ latest, tab.latestNavigation = some latest ∧
      navigation.generation.get ≤ latest.generation.get

/-- What holds of the history, the ledger and the page of a tab. -/
structure TabSound (limits : SessionLimits) (tab : TabRecord) : Prop where
  entries : tab.history.length ≤ limits.maxHistoryEntries
  distinct : (tab.history.map HistoryEntry.navigation).Nodup
  index : ∀ i, tab.historyIndex = some i → i < tab.history.length
  indexed : tab.history ≠ [] → tab.historyIndex ≠ none
  addresses : ∀ entry ∈ tab.history, AdmissibleUrl entry.address
  visited : ∀ entry ∈ tab.history, tab.Issued entry.navigation
  ledger : ∀ navigation phase, tab.navigationPhases.lookup navigation = some phase →
    tab.Issued navigation
  latest : ∀ navigation, tab.latestNavigation = some navigation →
    navigation.context = tab.context
  live : ∀ navigation, tab.liveNavigation = some navigation →
    tab.navigationPhases.lookup navigation = some .ready
  document : ∀ document, tab.engineDocument = some document →
    tab.liveNavigation = some document.navigation

/-- The identities below the next one; all of them when there is no next one.
Source: `context_identity_was_allocated`, `window_identity_was_allocated` -/
def Allocated (next : Option ℕ) (id : ℕ) : Prop := ∀ n, next = some n → id < n

/-! ## Sessions -/

namespace BrowserSession

variable {E : Type}

/-- The structure and the accounts of a running session. -/
structure Sound (s : BrowserSession E) : Prop where
  windowId : ∀ {w W}, s.windows.lookup w = some W → W.id = w
  windowAllocated : ∀ {w W}, s.windows.lookup w = some W → Allocated s.nextWindow w.id.get
  nodup : ∀ {w W}, s.windows.lookup w = some W → W.tabs.Nodup
  active : ∀ {w W}, s.windows.lookup w = some W → W.active ∈ W.tabs
  listed : ∀ {w W t}, s.windows.lookup w = some W → t ∈ W.tabs →
    ∃ T, s.tabs.lookup t = some T ∧ T.window = w
  surface : ∀ {w W f}, s.windows.lookup w = some W → W.surface = some f →
    W.nativeState ≠ .destroyed → s.surfaces.lookup f = some w
  focus : ∀ {w W}, s.windows.lookup w = some W → W.primaryUi.focus ≠ .control .addressBar
  tabId : ∀ {t T}, s.tabs.lookup t = some T → T.id = t
  tabAllocated : ∀ {t T}, s.tabs.lookup t = some T → Allocated s.nextTab t.id.get
  owned : ∀ {t T}, s.tabs.lookup t = some T →
    ∃ W, s.windows.lookup T.window = some W ∧ t ∈ W.tabs
  context : ∀ {t T}, s.tabs.lookup t = some T → s.contexts.lookup T.context = some t
  contextTab : ∀ {x t}, s.contexts.lookup x = some t →
    ∃ T, s.tabs.lookup t = some T ∧ T.context = x
  contextAllocated : ∀ {x t}, s.contexts.lookup x = some t → Allocated s.nextContext x.get
  closing : ∀ {x k}, s.closingContexts.lookup x = some k → s.contexts.lookup x = none
  closingAllocated : ∀ {x k}, s.closingContexts.lookup x = some k → Allocated s.nextContext x.get
  tab : ∀ {t T}, s.tabs.lookup t = some T → TabSound s.limits T.toTabRecord
  tabLimit : s.tabs.size + s.closingContexts.size ≤ s.limits.maxTotalTabs
  historySum : s.historyBytes = s.tabs.total fun T => T.historyBytes
  frameSum : s.retainedFrameBytes = s.tabs.total fun T => T.frameBytes
  ledgerSum : s.navigationLedgerEntries = s.tabs.total fun T => T.ledgerEntries
  historyLimit : s.historyBytes ≤ s.limits.maxTotalHistoryBytes
  frameLimit : s.retainedFrameBytes ≤ s.limits.maxTotalFrameBytes
  ledgerLimit : s.navigationLedgerEntries ≤ maxNavigationLedgerEntries

/-- How the identities of a later state are related to those of an earlier one. -/
structure Extends (s t : BrowserSession E) : Prop where
  windowIds : ∀ n, Allocated s.nextWindow n → Allocated t.nextWindow n
  tabIds : ∀ n, Allocated s.nextTab n → Allocated t.nextTab n
  contextIds : ∀ n, Allocated s.nextContext n → Allocated t.nextContext n
  windows : ∀ w, w ∈ t.windows → w ∈ s.windows ∨ ¬Allocated s.nextWindow w.id.get
  tabs : ∀ tab, tab ∈ t.tabs → tab ∈ s.tabs ∨ ¬Allocated s.nextTab tab.id.get
  contexts : ∀ x, x ∈ t.contexts → x ∈ s.contexts ∨ ¬Allocated s.nextContext x.get
  closing : ∀ x, x ∈ t.closingContexts →
    x ∈ s.contexts ∨ x ∈ s.closingContexts ∨ ¬Allocated s.nextContext x.get

variable {s t u : BrowserSession E}

lemma Extends.refl (s : BrowserSession E) : Extends s s where
  windowIds _ h := h
  tabIds _ h := h
  contextIds _ h := h
  windows _ h := .inl h
  tabs _ h := .inl h
  contexts _ h := .inl h
  closing _ h := .inr (.inl h)

lemma Extends.trans (h : Extends s t) (h' : Extends t u) : Extends s u where
  windowIds n hn := h'.windowIds n (h.windowIds n hn)
  tabIds n hn := h'.tabIds n (h.tabIds n hn)
  contextIds n hn := h'.contextIds n (h.contextIds n hn)
  windows w hw := by
    rcases h'.windows w hw with hw | hw
    · exact h.windows w hw
    · exact .inr fun hn => hw (h.windowIds _ hn)
  tabs tab ht := by
    rcases h'.tabs tab ht with ht | ht
    · exact h.tabs tab ht
    · exact .inr fun hn => ht (h.tabIds _ hn)
  contexts x hx := by
    rcases h'.contexts x hx with hx | hx
    · exact h.contexts x hx
    · exact .inr fun hn => hx (h.contextIds _ hn)
  closing x hx := by
    rcases h'.closing x hx with hx | hx | hx
    · rcases h.contexts x hx with hx | hx
      · exact .inl hx
      · exact .inr (.inr hx)
    · exact h.closing x hx
    · exact .inr (.inr fun hn => hx (h.contextIds _ hn))

/-- A change that adds no identity. -/
lemma Extends.of_subset (hw : ∀ w, w ∈ t.windows → w ∈ s.windows)
    (ht : ∀ tab, tab ∈ t.tabs → tab ∈ s.tabs) (hx : ∀ x, x ∈ t.contexts → x ∈ s.contexts)
    (hk : ∀ x, x ∈ t.closingContexts → x ∈ s.contexts ∨ x ∈ s.closingContexts)
    (hnw : t.nextWindow = s.nextWindow) (hnt : t.nextTab = s.nextTab)
    (hnx : t.nextContext = s.nextContext) : Extends s t where
  windowIds n hn := hnw ▸ hn
  tabIds n hn := hnt ▸ hn
  contextIds n hn := hnx ▸ hn
  windows w h := .inl (hw w h)
  tabs tab h := .inl (ht tab h)
  contexts x h := .inl (hx x h)
  closing x h := by
    rcases hk x h with h | h
    · exact .inl h
    · exact .inr (.inl h)

/-! ## One tab replaced -/

/-- A tab `a` of the session may become `b`, with new values of the three accounts. -/
structure TabChange (s : BrowserSession E) (a b : TabState) (history frame ledger : ℕ) : Prop where
  id : b.id = a.id
  window : b.window = a.window
  context : b.context = a.context
  sound : TabSound s.limits b.toTabRecord
  historySum : history + a.historyBytes = s.historyBytes + b.historyBytes
  historyLimit : history ≤ s.limits.maxTotalHistoryBytes
  frameSum : frame + a.frameBytes = s.retainedFrameBytes + b.frameBytes
  frameLimit : frame ≤ s.limits.maxTotalFrameBytes
  ledgerSum : ledger + a.ledgerEntries = s.navigationLedgerEntries + b.ledgerEntries
  ledgerLimit : ledger ≤ maxNavigationLedgerEntries

variable {tab : BrowserTabId} {a b : TabState} {f : TabState → TabState} {history frame ledger : ℕ}

/-- A tab that stays as it is. -/
lemma TabChange.refl (h : Sound s) (ha : s.tabs.lookup tab = some a) :
    TabChange s a a s.historyBytes s.retainedFrameBytes s.navigationLedgerEntries where
  id := rfl
  window := rfl
  context := rfl
  sound := h.tab ha
  historySum := rfl
  historyLimit := h.historyLimit
  frameSum := rfl
  frameLimit := h.frameLimit
  ledgerSum := rfl
  ledgerLimit := h.ledgerLimit

/-- Only the record of a tab counts. -/
lemma TabChange.congr (hc : TabChange s a b history frame ledger) {b' : TabState}
    (hb : b'.toTabRecord = b.toTabRecord) : TabChange s a b' history frame ledger :=
  { hc with
    id := hb ▸ hc.id
    window := hb ▸ hc.window
    context := hb ▸ hc.context
    sound := hb ▸ hc.sound
    historySum := hb ▸ hc.historySum
    frameSum := hb ▸ hc.frameSum
    ledgerSum := hb ▸ hc.ledgerSum }

/-- The account of a table after one tab was replaced. -/
lemma total_after_update {account : ℕ} {q : TabState → ℕ} {before : ℕ}
    (hsum : before = s.tabs.total q) (ha : s.tabs.lookup tab = some a)
    (h : account + q a = before + q (f a)) : account = (s.tabs.update tab f).total q := by
  have hupdate := total_update ha f q
  omega

/-- **A session stays sound when one of its tabs is replaced and the accounts follow.** -/
theorem Sound.updateTab (h : Sound s) (ha : s.tabs.lookup tab = some a)
    (hc : TabChange s a (f a) history frame ledger) :
    Sound { s with
      tabs := s.tabs.update tab f
      historyBytes := history
      retainedFrameBytes := frame
      navigationLedgerEntries := ledger } :=
  { h with
    listed hW ht := exists_update ha hc.window.trans (h.listed hW ht)
    tabId := forall_update ha (hc.id.trans (h.tabId ha)) fun _ => h.tabId
    tabAllocated := forall_update ha (h.tabAllocated ha) fun _ => h.tabAllocated
    owned := forall_update ha (hc.window ▸ h.owned ha) fun _ => h.owned
    context := forall_update ha (hc.context ▸ h.context ha) fun _ => h.context
    contextTab hx := exists_update ha hc.context.trans (h.contextTab hx)
    tab := forall_update ha hc.sound fun _ => h.tab
    tabLimit := by
      rw [size_update]
      exact h.tabLimit
    historySum := total_after_update h.historySum ha hc.historySum
    frameSum := total_after_update h.frameSum ha hc.frameSum
    ledgerSum := total_after_update h.ledgerSum ha hc.ledgerSum
    historyLimit := hc.historyLimit
    frameLimit := hc.frameLimit
    ledgerLimit := hc.ledgerLimit }

lemma Extends.updateTab (s : BrowserSession E) (tab : BrowserTabId) (f : TabState → TabState)
    (history frame ledger : ℕ) :
    Extends s { s with
      tabs := s.tabs.update tab f
      historyBytes := history
      retainedFrameBytes := frame
      navigationLedgerEntries := ledger } :=
  .of_subset (fun _ h => h) (fun _ h => mem_of_mem_update h) (fun _ h => h)
    (fun _ h => .inr h) rfl rfl rfl

/-! ## One window replaced -/

/-- A window `A` of the session may become `B`, with a new table of surfaces. -/
structure WindowChange (s : BrowserSession E) (window : BrowserWindowId) (A B : WindowState)
    (surfaces : Table SurfaceId BrowserWindowId) : Prop where
  id : B.id = A.id
  tabs : B.tabs = A.tabs
  active : B.active ∈ A.tabs
  focus : B.primaryUi.focus ≠ .control .addressBar
  surface : ∀ f, B.surface = some f → B.nativeState ≠ .destroyed → surfaces.lookup f = some window
  others : ∀ f w, w ≠ window → s.surfaces.lookup f = some w → surfaces.lookup f = some w

variable {window : BrowserWindowId} {A B : WindowState} {g : WindowState → WindowState}
  {surfaces : Table SurfaceId BrowserWindowId}

/-- A change of what the references are not about. -/
lemma WindowChange.of_record_eq (h : Sound s) (hA : s.windows.lookup window = some A)
    (hAB : B.toWindowRecord = A.toWindowRecord)
    (hfocus : B.primaryUi.focus ≠ .control .addressBar) :
    WindowChange s window A B s.surfaces where
  id := congrArg WindowRecord.id hAB
  tabs := congrArg WindowRecord.tabs hAB
  active := by
    rw [hAB]
    exact h.active hA
  focus := hfocus
  surface f hf hd := by
    rw [hAB] at hf hd
    exact h.surface hA hf hd
  others _ _ _ hf := hf

/-- **A session stays sound when one of its windows is replaced and keeps its tabs.** -/
theorem Sound.updateWindow (h : Sound s) (hA : s.windows.lookup window = some A)
    (hc : WindowChange s window A (g A) surfaces) :
    Sound { s with windows := s.windows.update window g, surfaces := surfaces } :=
  { h with
    windowId := forall_update hA (hc.id.trans (h.windowId hA)) fun _ => h.windowId
    windowAllocated := forall_update hA (h.windowAllocated hA) fun _ => h.windowAllocated
    nodup := forall_update hA (hc.tabs ▸ h.nodup hA) fun _ => h.nodup
    active := forall_update hA (hc.tabs.symm ▸ hc.active) fun _ => h.active
    listed {_ _ t} hW :=
      forall_update (P := fun w W => t ∈ W.tabs → ∃ T, s.tabs.lookup t = some T ∧ T.window = w)
        hA (fun ht => h.listed hA (hc.tabs ▸ ht)) (fun _ => h.listed) hW
    surface {_ _ f} hW :=
      forall_update (P := fun w W => W.surface = some f → W.nativeState ≠ .destroyed →
        surfaces.lookup f = some w) hA (hc.surface f)
        (fun hne hW hf hd => hc.others f _ hne (h.surface hW hf hd)) hW
    focus := forall_update hA hc.focus fun _ => h.focus
    owned {t _} hT :=
      exists_update (Q := fun W => t ∈ W.tabs) hA (fun ht => hc.tabs ▸ ht) (h.owned hT) }

lemma Extends.updateWindow (s : BrowserSession E) (window : BrowserWindowId)
    (g : WindowState → WindowState) (surfaces : Table SurfaceId BrowserWindowId) :
    Extends s { s with windows := s.windows.update window g, surfaces := surfaces } :=
  .of_subset (fun _ h => mem_of_mem_update h) (fun _ h => h) (fun _ h => h)
    (fun _ h => .inr h) rfl rfl rfl

/-! ## A tab added -/

lemma allocated_commitId {next : Option ℕ} {n : ℕ} (h : Allocated next n) :
    Allocated (commitId next) n := by
  intro k hk
  obtain ⟨m, hm, hadd⟩ := bind_eq_some_iff.mp hk
  obtain ⟨-, rfl⟩ := checkedAdd_eq_some.mp hadd
  exact Nat.lt_succ_of_lt (h m hm)

/-- The next identity is allocated by taking it. -/
lemma allocated_commitId_self (n : ℕ) : Allocated (commitId (some n)) n := by
  intro k hk
  obtain ⟨m, hm, hadd⟩ := bind_eq_some_iff.mp hk
  obtain ⟨-, rfl⟩ := checkedAdd_eq_some.mp hadd
  rw [← some.inj hm]
  exact Nat.lt_succ_self n

lemma not_allocated_next {next : Option ℕ} {n : ℕ} (h : next = some n) : ¬Allocated next n :=
  fun hn => absurd (hn n h) (Nat.lt_irrefl n)

lemma tabSound_blank (limits : SessionLimits) (tab : BrowserTabId) (window : BrowserWindowId)
    (context : TopLevelContextId) (maxAddressBytes : ℕ) :
    TabSound limits (blank tab window context maxAddressBytes).toTabRecord where
  entries := Nat.zero_le _
  distinct := List.nodup_nil
  index _ h := absurd h (by simp [blank])
  indexed h := absurd rfl h
  addresses _ h := absurd h (by simp [blank])
  visited _ h := absurd h (by simp [blank])
  ledger _ _ h := absurd h (by simp [blank])
  latest _ h := absurd h (by simp [blank])
  live _ h := absurd h (by simp [blank])
  document _ h := absurd h (by simp [blank])

/-- A window `B` with the tabs `old` and a new one. -/
structure NewTab (s : BrowserSession E) (nextWindow : Option ℕ) (window : BrowserWindowId)
    (B : WindowState) (tab : BrowserTabId) (context : TopLevelContextId)
    (old : List BrowserTabId) : Prop where
  tabNext : s.nextTab = some tab.id.get
  contextNext : s.nextContext = some context.get
  room : s.tabs.size + s.closingContexts.size < s.limits.maxTotalTabs
  id : B.id = window
  tabs : B.tabs = old ++ [tab]
  active : B.active = tab
  nodup : old.Nodup
  listed : ∀ t ∈ old, ∃ T, s.tabs.lookup t = some T ∧ T.window = window
  owned : ∀ t T, s.tabs.lookup t = some T → T.window = window → t ∈ old
  focus : B.primaryUi.focus ≠ .control .addressBar
  surface : ∀ f, B.surface = some f → B.nativeState ≠ .destroyed →
    s.surfaces.lookup f = some window
  windowIds : ∀ n, Allocated s.nextWindow n → Allocated nextWindow n
  allocated : Allocated nextWindow window.id.get
  windowFresh : window ∈ s.windows ∨ ¬Allocated s.nextWindow window.id.get

/-- The session with a new blank tab. -/
def withNewTab (s : BrowserSession E) (nextWindow : Option ℕ) (window : BrowserWindowId)
    (B : WindowState) (tab : BrowserTabId) (context : TopLevelContextId) : BrowserSession E :=
  { s with
    nextWindow := nextWindow
    nextTab := commitId s.nextTab
    nextContext := commitId s.nextContext
    windows := s.windows.insert window B
    tabs := s.tabs.insert tab (.blank tab window context s.limits.maxAddressBytes)
    contexts := s.contexts.insert context tab }

variable {nextWindow : Option ℕ} {context : TopLevelContextId} {old : List BrowserTabId}

lemma Sound.tab_fresh (h : Sound s) (hn : s.nextTab = some tab.id.get) :
    s.tabs.lookup tab = none := by
  cases hT : s.tabs.lookup tab with
  | none => rfl
  | some T => exact absurd (h.tabAllocated hT) (not_allocated_next hn)

lemma Sound.context_fresh (h : Sound s) (hn : s.nextContext = some context.get) :
    s.contexts.lookup context = none := by
  cases hT : s.contexts.lookup context with
  | none => rfl
  | some T => exact absurd (h.contextAllocated hT) (not_allocated_next hn)

/-- **A session stays sound when it gets a new tab.** -/
theorem Sound.addTab (h : Sound s) (hc : NewTab s nextWindow window B tab context old) :
    Sound (s.withNewTab nextWindow window B tab context) := by
  have htab := h.tab_fresh hc.tabNext
  have hcontext := h.context_fresh hc.contextNext
  have hnew : tab ∉ old := by
    intro hold
    obtain ⟨T, hT, -⟩ := hc.listed tab hold
    exact absurd (htab.symm.trans hT) (by simp)
  have hne : ∀ {t T}, s.tabs.lookup t = some T → t ≠ tab := by
    rintro t T hT rfl
    exact absurd (htab.symm.trans hT) (by simp)
  have hother : ∀ {t T}, s.tabs.lookup t = some T →
      (s.tabs.insert tab (.blank tab window context s.limits.maxAddressBytes)).lookup t =
        some T := by
    intro t T hT
    rw [lookup_insert_eq, if_neg (hne hT), hT]
  -- a blank tab has no share in any account
  have hblank (q : TabState → ℕ) (hq : q (.blank tab window context s.limits.maxAddressBytes) = 0) :
      s.tabs.total q = total q
        (s.tabs.insert tab (.blank tab window context s.limits.maxAddressBytes)) := by
    rw [total_insert htab, hq, Nat.zero_add]
  unfold withNewTab
  constructor
  case windowId =>
    refine forall_insert ?_ fun _ => h.windowId
    exact hc.id
  case windowAllocated =>
    refine forall_insert ?_ fun _ hW => hc.windowIds _ (h.windowAllocated hW)
    exact hc.allocated
  case nodup =>
    refine forall_insert ?_ fun _ => h.nodup
    rw [hc.tabs]
    exact hc.nodup.append (List.nodup_singleton tab) (by simpa using hnew)
  case active =>
    refine forall_insert ?_ fun _ => h.active
    rw [hc.active, hc.tabs]
    simp
  case listed =>
    intro w W t hW ht
    rcases lookup_insert_cases hW with ⟨rfl, rfl⟩ | ⟨-, hW⟩
    · rw [hc.tabs, List.mem_append, List.mem_singleton] at ht
      rcases ht with ht | rfl
      · obtain ⟨T, hT, hw⟩ := hc.listed t ht
        exact ⟨T, hother hT, hw⟩
      · exact ⟨_, (lookup_insert_eq ..).trans (if_pos rfl), rfl⟩
    · obtain ⟨T, hT, hw⟩ := h.listed hW ht
      exact ⟨T, hother hT, hw⟩
  case surface =>
    intro w W f hW hf hd
    rcases lookup_insert_cases hW with ⟨rfl, rfl⟩ | ⟨-, hW⟩
    · exact hc.surface f hf hd
    · exact h.surface hW hf hd
  case focus =>
    refine forall_insert ?_ fun _ => h.focus
    exact hc.focus
  case tabId =>
    refine forall_insert ?_ fun _ => h.tabId
    rfl
  case tabAllocated =>
    refine forall_insert ?_ fun _ hT => allocated_commitId (h.tabAllocated hT)
    rw [hc.tabNext]
    exact allocated_commitId_self _
  case owned =>
    intro t T hT
    rw [lookup_insert_eq]
    rcases lookup_insert_cases hT with ⟨rfl, rfl⟩ | ⟨-, hT⟩
    · refine ⟨B, if_pos rfl, ?_⟩
      rw [hc.tabs]
      simp
    · by_cases hw : T.window = window
      · refine ⟨B, if_pos hw, ?_⟩
        rw [hc.tabs]
        exact List.mem_append_left _ (hc.owned t T hT hw)
      · obtain ⟨W, hW, ht⟩ := h.owned hT
        exact ⟨W, (if_neg hw).trans hW, ht⟩
  case context =>
    intro t T hT
    rw [lookup_insert_eq]
    rcases lookup_insert_cases hT with ⟨rfl, rfl⟩ | ⟨-, hT⟩
    · exact if_pos rfl
    · refine (if_neg ?_).trans (h.context hT)
      intro hx
      exact absurd (hcontext.symm.trans (hx ▸ h.context hT)) (by simp)
  case contextTab =>
    intro x t hx
    rcases lookup_insert_cases hx with ⟨rfl, rfl⟩ | ⟨-, hx⟩
    · exact ⟨_, (lookup_insert_eq ..).trans (if_pos rfl), rfl⟩
    · obtain ⟨T, hT, hTx⟩ := h.contextTab hx
      exact ⟨T, hother hT, hTx⟩
  case contextAllocated =>
    refine forall_insert ?_ fun _ hx => allocated_commitId (h.contextAllocated hx)
    rw [hc.contextNext]
    exact allocated_commitId_self _
  case closing =>
    intro x k hx
    rw [lookup_insert_eq, if_neg ?_]
    · exact h.closing hx
    · rintro rfl
      exact not_allocated_next hc.contextNext (h.closingAllocated hx)
  case closingAllocated => exact fun hx => allocated_commitId (h.closingAllocated hx)
  case tab =>
    refine forall_insert ?_ fun _ => h.tab
    exact tabSound_blank ..
  case tabLimit =>
    show size (s.tabs.insert tab _) + s.closingContexts.size ≤ s.limits.maxTotalTabs
    rw [size_insert htab]
    have := hc.room
    omega
  case historySum => exact h.historySum.trans (hblank _ rfl)
  case frameSum => exact h.frameSum.trans (hblank _ rfl)
  case ledgerSum => exact h.ledgerSum.trans (hblank _ rfl)
  case historyLimit => exact h.historyLimit
  case frameLimit => exact h.frameLimit
  case ledgerLimit => exact h.ledgerLimit

lemma Extends.addTab (hc : NewTab s nextWindow window B tab context old) :
    Extends s (s.withNewTab nextWindow window B tab context) where
  windowIds := hc.windowIds
  tabIds _ hn := allocated_commitId hn
  contextIds _ hn := allocated_commitId hn
  windows w hw := by
    rcases Finmap.mem_insert.mp hw with rfl | hw
    · exact hc.windowFresh
    · exact .inl hw
  tabs t ht := by
    rcases Finmap.mem_insert.mp ht with rfl | ht
    · exact .inr (not_allocated_next hc.tabNext)
    · exact .inl ht
  contexts x hx := by
    rcases Finmap.mem_insert.mp hx with rfl | hx
    · exact .inr (not_allocated_next hc.contextNext)
    · exact .inl hx
  closing _ hx := .inr (.inl hx)

/-! ## A tab removed -/

/-- The windows after one of them lost the tab `a`. -/
structure LostTab (s : BrowserSession E) (tab : BrowserTabId) (a : TabState)
    (windows : Table BrowserWindowId WindowState) (surfaces : Table SurfaceId BrowserWindowId) :
    Prop where
  others : ∀ w, w ≠ a.window → windows.lookup w = s.windows.lookup w
  id : ∀ B, windows.lookup a.window = some B → B.id = a.window
  nodup : ∀ B, windows.lookup a.window = some B → B.tabs.Nodup
  active : ∀ B, windows.lookup a.window = some B → B.active ∈ B.tabs
  listed : ∀ B t, windows.lookup a.window = some B → t ∈ B.tabs →
    t ≠ tab ∧ ∃ T, s.tabs.lookup t = some T ∧ T.window = a.window
  left : ∀ t T, s.tabs.lookup t = some T → T.window = a.window → t ≠ tab →
    ∃ B, windows.lookup a.window = some B ∧ t ∈ B.tabs
  focus : ∀ B, windows.lookup a.window = some B → B.primaryUi.focus ≠ .control .addressBar
  surface : ∀ B f, windows.lookup a.window = some B → B.surface = some f →
    B.nativeState ≠ .destroyed → surfaces.lookup f = some a.window
  surfaces : ∀ f w, w ≠ a.window → s.surfaces.lookup f = some w → surfaces.lookup f = some w

/-- The session without a tab. -/
def withLostTab (s : BrowserSession E) (tab : BrowserTabId) (a : TabState)
    (windows : Table BrowserWindowId WindowState) (surfaces : Table SurfaceId BrowserWindowId) :
    BrowserSession E :=
  { s.withoutTab tab a.toTabRecord with windows := windows, surfaces := surfaces }

variable {windows : Table BrowserWindowId WindowState}

variable (h : Sound s) (ha : s.tabs.lookup tab = some a)
include h ha

/-- The tombstone of a tab does not take the place of another one. -/
lemma Sound.not_closing : s.closingContexts.lookup a.context = none := by
  cases hk : s.closingContexts.lookup a.context with
  | none => rfl
  | some k => exact absurd ((h.closing hk).symm.trans (h.context ha)) (by simp)

omit h ha in
/-- A closing context is an old one or the tab's own. -/
lemma lookup_withTombstone {x : TopLevelContextId} {k : ClosingContext}
    (hk : (s.withTombstone tab a.toTabRecord).lookup x = some k) :
    x = a.context ∨ x ≠ a.context ∧ s.closingContexts.lookup x = some k := by
  by_cases hx : x = a.context
  · exact .inl hx
  · refine .inr ⟨hx, ?_⟩
    unfold withTombstone at hk
    cases hlatest : a.latestNavigation with
    | none =>
      rw [hlatest] at hk
      exact hk
    | some navigation =>
      rw [hlatest] at hk
      rcases lookup_insert_cases hk with ⟨rfl, -⟩ | ⟨-, hk⟩
      · exact absurd rfl hx
      · exact hk

lemma Sound.size_withTombstone :
    (s.withTombstone tab a.toTabRecord).size ≤ s.closingContexts.size + 1 := by
  unfold withTombstone
  cases a.latestNavigation with
  | none => exact Nat.le_succ _
  | some navigation => exact (size_insert (h.not_closing ha) _).le

/-- **A session stays sound when it loses a tab, except that it may have lost its last window.** -/
theorem Sound.dropTab (hc : LostTab s tab a windows surfaces) :
    Sound (s.withLostTab tab a windows surfaces) := by
  have hkept : ∀ {t T}, s.tabs.lookup t = some T → t ≠ tab →
      (s.tabs.erase tab).lookup t = some T := by
    intro t T hT ht
    rw [lookup_erase_eq, if_neg ht, hT]
  have hcontext : ∀ {t T}, s.tabs.lookup t = some T → t ≠ tab → T.context ≠ a.context := by
    intro t T hT ht hx
    have hsame := hx ▸ h.context hT
    exact ht (some.inj (hsame.symm.trans (h.context ha)))
  have hshare {q : TabState → ℕ} {account : ℕ} (hsum : account = s.tabs.total q) :
      account - q a = total q (s.tabs.erase tab) := by
    rw [hsum, total_erase ha]
    exact Nat.add_sub_cancel_left _ _
  -- a window is the one that lost the tab, or as it was
  have hwindow {P : BrowserWindowId → WindowState → Prop}
      (hself : ∀ B, windows.lookup a.window = some B → P a.window B)
      (hothers : ∀ {w W}, s.windows.lookup w = some W → P w W) {w : BrowserWindowId}
      {W : WindowState} (hW : windows.lookup w = some W) : P w W := by
    by_cases hw : w = a.window
    · subst hw
      exact hself W hW
    · exact hothers ((hc.others w hw).symm.trans hW)
  constructor
  case windowId => exact hwindow hc.id h.windowId
  case windowAllocated =>
    refine hwindow (fun _ _ => ?_) h.windowAllocated
    obtain ⟨A, hA, -⟩ := h.owned ha
    exact h.windowAllocated hA
  case nodup => exact hwindow hc.nodup h.nodup
  case active => exact hwindow hc.active h.active
  case listed =>
    intro w W t hW ht
    by_cases hw : w = a.window
    · subst hw
      obtain ⟨hne, T, hT, hTw⟩ := hc.listed W t hW ht
      exact ⟨T, hkept hT hne, hTw⟩
    · obtain ⟨T, hT, hTw⟩ := h.listed ((hc.others w hw).symm.trans hW) ht
      refine ⟨T, hkept hT ?_, hTw⟩
      rintro rfl
      obtain rfl := some.inj (ha.symm.trans hT)
      exact hw hTw.symm
  case surface =>
    intro w W f hW hf hd
    by_cases hw : w = a.window
    · subst hw
      exact hc.surface W f hW hf hd
    · exact hc.surfaces f w hw (h.surface ((hc.others w hw).symm.trans hW) hf hd)
  case focus => exact hwindow hc.focus h.focus
  case tabId => exact fun hT => h.tabId (lookup_of_lookup_erase hT).2
  case tabAllocated => exact fun hT => h.tabAllocated (lookup_of_lookup_erase hT).2
  case owned =>
    intro t T hT
    obtain ⟨ht, hT⟩ := lookup_of_lookup_erase hT
    by_cases hw : T.window = a.window
    · show ∃ W, windows.lookup T.window = some W ∧ t ∈ W.tabs
      rw [hw]
      exact hc.left t T hT hw ht
    · obtain ⟨W, hW, hmem⟩ := h.owned hT
      exact ⟨W, (hc.others _ hw).trans hW, hmem⟩
  case context =>
    intro t T hT
    obtain ⟨ht, hT⟩ := lookup_of_lookup_erase hT
    show (s.contexts.erase a.context).lookup T.context = some t
    rw [lookup_erase_eq, if_neg (hcontext hT ht)]
    exact h.context hT
  case contextTab =>
    intro x t hx
    obtain ⟨hne, hx⟩ := lookup_of_lookup_erase hx
    obtain ⟨T, hT, hTx⟩ := h.contextTab hx
    refine ⟨T, hkept hT ?_, hTx⟩
    rintro rfl
    obtain rfl := some.inj (ha.symm.trans hT)
    exact hne hTx.symm
  case contextAllocated => exact fun hx => h.contextAllocated (lookup_of_lookup_erase hx).2
  case closing =>
    intro x k hk
    show (s.contexts.erase a.context).lookup x = none
    rw [lookup_erase_eq]
    rcases lookup_withTombstone hk with hx | ⟨hx, hk⟩
    · exact if_pos hx
    · rw [if_neg hx]
      exact h.closing hk
  case closingAllocated =>
    intro x k hk
    rcases lookup_withTombstone hk with rfl | ⟨-, hk⟩
    · exact h.contextAllocated (h.context ha)
    · exact h.closingAllocated hk
  case tab => exact fun hT => h.tab (lookup_of_lookup_erase hT).2
  case tabLimit =>
    show size (s.tabs.erase tab) + (s.withTombstone tab a.toTabRecord).size ≤
      s.limits.maxTotalTabs
    have hsize := size_erase ha
    have htombstone := h.size_withTombstone ha
    have hlimit := h.tabLimit
    omega
  case historySum => exact hshare h.historySum
  case frameSum => exact hshare h.frameSum
  case ledgerSum => exact hshare h.ledgerSum
  case historyLimit => exact (Nat.sub_le _ _).trans h.historyLimit
  case frameLimit => exact (Nat.sub_le _ _).trans h.frameLimit
  case ledgerLimit => exact (Nat.sub_le _ _).trans h.ledgerLimit

lemma Extends.dropTab (hc : LostTab s tab a windows surfaces) :
    Extends s (s.withLostTab tab a windows surfaces) := by
  refine .of_subset ?_ ?_ ?_ ?_ rfl rfl rfl
  · intro w hw
    obtain ⟨W, hW⟩ := lookup_some_of_mem hw
    by_cases hwindow : w = a.window
    · subst hwindow
      obtain ⟨A, hA, -⟩ := h.owned ha
      exact mem_of_lookup hA
    · exact mem_of_lookup ((hc.others w hwindow).symm.trans hW)
  · intro t ht
    obtain ⟨T, hT⟩ := lookup_some_of_mem ht
    exact mem_of_lookup (lookup_of_lookup_erase hT).2
  · intro x hx
    obtain ⟨t, ht⟩ := lookup_some_of_mem hx
    exact mem_of_lookup (lookup_of_lookup_erase ht).2
  · intro x hx
    obtain ⟨k, hk⟩ := lookup_some_of_mem hx
    rcases lookup_withTombstone hk with rfl | ⟨-, hk⟩
    · exact .inl (mem_of_lookup (h.context ha))
    · exact .inr (mem_of_lookup hk)

end BrowserSession

end WildBuzzard.Ui
