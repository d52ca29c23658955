import WildBuzzard.Ui.Sound

/-!
# Changes of one tab

Each change a method makes to the record of a tab, with what it does to the tab's soundness and to
its share of the accounts: the ledger is pruned and grows by an admission, the history is appended
to, revisited, relabelled and committed, the page is published.

**A navigation the engine admits is new to the tab** (`not_issued_expected`): its generation is the
one after the latest, so it is in no history entry and not in the ledger.
-/

namespace WildBuzzard.Ui

open Lib Engine List Table

variable {limits : SessionLimits} {tab : TabRecord} {navigation : NavigationId}

/-! ## Admissions -/

variable {generation : NavigationGeneration}

section

variable (h : BrowserSession.expectedGeneration tab.latestNavigation = some generation)
include h

/-- **A navigation with the expected generation was not issued before.** -/
theorem not_issued_expected : ¬tab.Issued ⟨tab.context, generation⟩ := by
  rintro ⟨-, latest, hlatest, hle⟩
  rw [hlatest] at h
  have hnext := NavigationGeneration.get_of_checkedNext h
  simp only at hle
  omega

/-- What was issued stays issued when the next generation is. -/
lemma TabRecord.Issued.later (hn : tab.Issued navigation) {later : TabRecord}
    (hcontext : later.context = tab.context)
    (hlatest : later.latestNavigation = some ⟨tab.context, generation⟩) :
    later.Issued navigation := by
  obtain ⟨hctx, latest, hl, hle⟩ := hn
  refine ⟨hctx.trans hcontext.symm, _, hlatest, ?_⟩
  rw [hl] at h
  have hnext := NavigationGeneration.get_of_checkedNext h
  simp only
  omega

end

namespace BrowserSession

variable {a : TabState} {history : List HistoryEntry} {f : HistoryEntry → HistoryEntry}
  {phase : NavigationPhase} {entry : HistoryEntry}

/-- A ledger without its terminal entries. -/
lemma tabSound_pruneLedger (h : TabSound limits a.toTabRecord) :
    TabSound limits (pruneLedger a).toTabRecord :=
  { h with
    ledger n phase hn := by
      have hn : (a.navigationPhases.retain _).lookup n = some phase := hn
      rw [lookup_retain, Option.filter_eq_some_iff] at hn
      exact h.ledger n phase hn.1
    live n hn := by
      show (a.navigationPhases.retain _).lookup n = some .ready
      rw [lookup_retain, h.live n hn]
      have hlive : a.liveNavigation = some n := hn
      simp [prunable, hlive] }

section

variable (h : TabSound limits a.toTabRecord)
variable (hg : expectedGeneration a.latestNavigation = some generation)
include h hg

/-- A tab with its newest navigation. -/
lemma tabSound_admitNavigation :
    TabSound limits (admitNavigation ⟨a.context, generation⟩ a).toTabRecord :=
  { h with
    visited entry hentry := (h.visited entry hentry).later hg rfl rfl
    ledger n phase hn := by
      rcases lookup_insert_cases hn with ⟨rfl, -⟩ | ⟨-, hn⟩
      · exact ⟨rfl, _, rfl, le_rfl⟩
      · exact (h.ledger n phase hn).later hg rfl rfl
    latest n hn := by
      rw [← Option.some.inj hn]
      rfl
    live n hn := by
      have hlive := h.live n hn
      refine ((lookup_insert_eq ..).trans (if_neg ?_)).trans hlive
      rintro rfl
      exact not_issued_expected hg (h.ledger _ _ hlive) }

lemma ledgerEntries_admitNavigation :
    (admitNavigation ⟨a.context, generation⟩ a).ledgerEntries = a.ledgerEntries + 1 := by
  refine size_insert ?_ _
  cases hphase : a.navigationPhases.lookup ⟨a.context, generation⟩ with
  | none => rfl
  | some phase => exact absurd (h.ledger _ _ hphase) (not_issued_expected hg)

end

/-! ## History -/

lemma historyBytes_eq_entryBytes (tab : TabRecord) :
    tab.historyBytes = entryBytes tab.history := rfl

lemma entryBytes_append (xs ys : List HistoryEntry) :
    entryBytes (xs ++ ys) = entryBytes xs + entryBytes ys := by
  simp [entryBytes]

/-- The kept entries and the forward ones. -/
lemma entryBytes_take_add_drop (tab : TabRecord) :
    entryBytes (tab.history.take (keptEntries tab)) +
      entryBytes (tab.history.drop (keptEntries tab)) = tab.historyBytes := by
  rw [← entryBytes_append, take_append_drop, historyBytes_eq_entryBytes]

lemma keptEntries_le (h : TabSound limits tab) : keptEntries tab ≤ tab.history.length := by
  unfold keptEntries
  cases hindex : tab.historyIndex with
  | none => exact Nat.zero_le _
  | some i => exact h.index i hindex

/-- The entries before the oldest one may have been dropped. -/
def appended (tab : TabRecord) (entry : HistoryEntry) : List HistoryEntry :=
  tab.history.take (keptEntries tab) ++ [entry]

section

variable (h : TabSound limits tab) (entry : HistoryEntry)
include h

lemma length_appended : (appended tab entry).length = keptEntries tab + 1 := by
  rw [appended, length_append, length_take, Nat.min_eq_left (keptEntries_le h)]
  rfl

lemma appendEntry_eq (maxEntries : ℕ) :
    appendEntry maxEntries tab entry =
      if maxEntries < keptEntries tab + 1 then (appended tab entry).tail else appended tab entry := by
  rw [← length_appended h entry]
  rfl

lemma length_appendEntry :
    (appendEntry limits.maxHistoryEntries tab entry).length ≤ limits.maxHistoryEntries := by
  have hkept := keptEntries_le h
  have hentries := h.entries
  have hlength := length_appended h entry
  rw [appendEntry_eq h]
  split_ifs with hfull
  · rw [length_tail]
    omega
  · omega

/-- **The history after an append ends in the new entry.** -/
theorem appendEntry_eq_concat :
    ∃ before, appendEntry limits.maxHistoryEntries tab entry = before ++ [entry] ∧
      before.Sublist tab.history := by
  rw [appendEntry_eq h]
  split_ifs with hfull
  · refine ⟨(tab.history.take (keptEntries tab)).tail, ?_, ?_⟩
    · have hpos : 0 < keptEntries tab := by
        have := limits.historyEntries.1
        omega
      rw [appended, tail_append_of_ne_nil]
      rw [Ne, take_eq_nil_iff, not_or]
      refine ⟨hpos.ne', ?_⟩
      intro hnil
      have hle := keptEntries_le h
      rw [hnil] at hle
      exact absurd hle (by simp; omega)
    · exact (tail_sublist _).trans (take_sublist _ _)
  · exact ⟨_, rfl, take_sublist _ _⟩

end

lemma entryBytes_appendEntry {E : Type} {s : BrowserSession E} (h : TabSound s.limits tab)
    (entry : HistoryEntry) :
    entryBytes (appendEntry s.limits.maxHistoryEntries tab entry) + s.oldestBytes tab =
      entryBytes (tab.history.take (keptEntries tab)) + byteLen entry.address := by
  have hall : entryBytes (appended tab entry) =
      entryBytes (tab.history.take (keptEntries tab)) + byteLen entry.address := by
    rw [appended, entryBytes_append]
    simp [entryBytes]
  rw [appendEntry_eq h, oldestBytes]
  split_ifs with hfull
  · rw [← hall]
    -- The oldest entry is the first of the kept ones, since a full history keeps at least one.
    have hpos : 0 < keptEntries tab := by
      have := s.limits.historyEntries.1
      omega
    have hlt : 0 < tab.history.length := lt_of_lt_of_le hpos (keptEntries_le h)
    obtain ⟨first, rest, hhistory⟩ := exists_cons_of_length_pos hlt
    obtain ⟨k, hk⟩ := Nat.exists_eq_succ_of_ne_zero hpos.ne'
    rw [appended, hhistory, hk]
    simp [entryBytes]
    omega
  · exact hall

/-- A tab with a new current entry. -/
lemma tabSound_appendToHistory (h : TabSound limits a.toTabRecord)
    (entry : HistoryEntry) (hadmissible : AdmissibleUrl entry.address)
    (hissued : a.Issued entry.navigation)
    (hfresh : ∀ e ∈ a.history, e.navigation ≠ entry.navigation) (accepted : List Char) :
    TabSound limits (appendToHistory limits.maxHistoryEntries entry accepted a).toTabRecord := by
  obtain ⟨before, happend, hsub⟩ := appendEntry_eq_concat h entry
  have hhistory : (appendToHistory limits.maxHistoryEntries entry accepted a).history =
      before ++ [entry] := happend
  have hmem : ∀ e ∈ before ++ [entry], e ∈ a.history ∨ e = entry := by
    intro e he
    rcases mem_append.mp he with he | he
    · exact .inl (hsub.subset he)
    · exact .inr (mem_singleton.mp he)
  constructor
  case entries => exact length_appendEntry h entry
  case distinct =>
    rw [hhistory, map_append]
    refine Nodup.append ((hsub.map _).nodup h.distinct) (nodup_singleton _) ?_
    intro n hn hentry
    obtain ⟨e, he, rfl⟩ := mem_map.mp hn
    exact hfresh e (hsub.subset he) (by simpa using hentry)
  case index =>
    intro i hi
    obtain ⟨hpos, rfl⟩ := checkedSub_eq_some.mp hi
    exact Nat.sub_lt hpos Nat.one_pos
  case indexed =>
    intro hne
    show checkedSub (appendEntry limits.maxHistoryEntries a.toTabRecord entry).length 1 ≠ none
    rw [Ne, checkedSub_eq_none, Nat.lt_one_iff, length_eq_zero_iff]
    exact hne
  case addresses =>
    intro e he
    rw [hhistory] at he
    rcases hmem e he with he | rfl
    · exact h.addresses e he
    · exact hadmissible
  case visited =>
    intro e he
    rw [hhistory] at he
    rcases hmem e he with he | rfl
    · exact h.visited e he
    · exact hissued
  case ledger => exact h.ledger
  case latest => exact h.latest
  case live => exact h.live
  case document => exact h.document

/-! ## Entries changed in place -/

/-- A change of one entry that keeps its length of address. -/
lemma entryBytes_modify {i : ℕ} (hentry : history[i]? = some entry) :
    entryBytes (history.modify i f) + byteLen entry.address =
      entryBytes history + byteLen (f entry).address := by
  induction history generalizing i with
  | nil => simp at hentry
  | cons e rest ih =>
    cases i with
    | zero =>
      obtain rfl : e = entry := by simpa using hentry
      simp [entryBytes]
      omega
    | succ i =>
      have hrest := ih (i := i) (by simpa using hentry)
      simp [entryBytes] at hrest ⊢
      omega

/-- A tab with one entry of its history changed; the entry keeps its navigation or gets a new one. -/
lemma tabSound_modifyEntry {a b : TabState} (h : TabSound limits a.toTabRecord) {i : ℕ}
    (hb : b.toTabRecord =
      { a.toTabRecord with history := a.history.modify i f, historyIndex := b.historyIndex })
    (hindex : ∀ j, b.historyIndex = some j → j < a.history.length)
    (hindexed : a.history ≠ [] → b.historyIndex ≠ none)
    (hadmissible : ∀ e, a.history[i]? = some e → AdmissibleUrl (f e).address)
    (hissued : ∀ e, a.history[i]? = some e → a.Issued (f e).navigation)
    (hnew : ∀ e, a.history[i]? = some e →
      (f e).navigation = e.navigation ∨ (f e).navigation ∉ a.history.map HistoryEntry.navigation) :
    TabSound limits b.toTabRecord := by
  rw [hb]
  constructor
  case entries =>
    rw [length_modify]
    exact h.entries
  case distinct => exact nodup_map_modify h.distinct hnew
  case index =>
    intro j hj
    rw [length_modify]
    exact hindex j hj
  case indexed =>
    intro hne
    apply hindexed
    intro hnil
    apply hne
    simp [hnil]
  case addresses =>
    intro e he
    rcases mem_modify he with he | ⟨y, hy, rfl⟩
    · exact h.addresses e he
    · exact hadmissible y hy
  case visited =>
    intro e he
    rcases mem_modify he with he | ⟨y, hy, rfl⟩
    · exact h.visited e he
    · exact hissued y hy
  case ledger => exact h.ledger
  case latest => exact h.latest
  case live => exact h.live
  case document => exact h.document

/-! ## The entry of a navigation -/

/-- A change of the entries of one navigation. -/
def onEntry (navigation : NavigationId) (f : HistoryEntry → HistoryEntry) (entry : HistoryEntry) :
    HistoryEntry :=
  if entry.navigation = navigation then f entry else entry

lemma onEntry_of_ne
    (h : entry.navigation ≠ navigation) : onEntry navigation f entry = entry := if_neg h

lemma map_onEntry_of_forall_ne
    (h : ∀ e ∈ history, e.navigation ≠ navigation) : history.map (onEntry navigation f) = history := by
  rw [map_congr_left fun e he => onEntry_of_ne (h e he)]
  exact map_id history

section

variable (h : (history.map HistoryEntry.navigation).Nodup)
include h

/-- **Where navigations are distinct, the first entry of one is its only entry.** -/
theorem setHistoryState_eq_map (label : HistoryEntryState) :
    setHistoryState navigation label history =
      history.map (onEntry navigation fun entry => { entry with state := label }) := by
  induction history with
  | nil => rfl
  | cons entry rest ih =>
    rw [map_cons, nodup_cons] at h
    unfold setHistoryState
    rw [map_cons, onEntry]
    split_ifs with hn
    · rw [map_onEntry_of_forall_ne]
      rintro e he heq
      exact h.1 (mem_map.mpr ⟨e, he, heq.trans hn.symm⟩)
    · rw [ih h.2]

/-- A change of the entry at an index is a change of the entry of its navigation. -/
lemma modify_eq_map {i : ℕ} (hentry : history[i]? = some entry)
    (f : HistoryEntry → HistoryEntry) :
    history.modify i f = history.map (onEntry entry.navigation f) := by
  induction history generalizing i with
  | nil => simp at hentry
  | cons e rest ih =>
    rw [map_cons, nodup_cons] at h
    cases i with
    | zero =>
      obtain rfl : e = entry := by simpa using hentry
      rw [modify_zero_cons, map_cons, onEntry, if_pos rfl, map_onEntry_of_forall_ne]
      rintro e' he' heq
      exact h.1 (mem_map.mpr ⟨e', he', heq⟩)
    | succ i =>
      have hrest : rest[i]? = some entry := by simpa using hentry
      rw [modify_succ_cons, map_cons, ih h.2 hrest, onEntry_of_ne]
      rintro heq
      exact h.1 (mem_map.mpr ⟨entry, mem_of_getElem? hrest, heq.symm⟩)

omit h in
/-- A tab with the entry of a navigation changed. -/
lemma tabSound_onEntry {a b : TabState} (h : TabSound limits a.toTabRecord)
    (hb : b.toTabRecord = { a.toTabRecord with history := a.history.map (onEntry navigation f) })
    (hf : ∀ e, (f e).navigation = e.navigation)
    (hadmissible : ∀ e ∈ a.history, e.navigation = navigation → AdmissibleUrl (f e).address) :
    TabSound limits b.toTabRecord := by
  have hnavigation : ∀ e, (onEntry navigation f e).navigation = e.navigation := by
    intro e
    unfold onEntry
    split_ifs
    · exact hf e
    · rfl
  rw [hb]
  constructor
  case entries =>
    rw [length_map]
    exact h.entries
  case distinct =>
    rw [map_map, show HistoryEntry.navigation ∘ onEntry navigation f =
      HistoryEntry.navigation from funext hnavigation]
    exact h.distinct
  case index =>
    intro j hj
    rw [length_map]
    exact h.index j hj
  case indexed =>
    intro hne
    apply h.indexed
    rintro hnil
    exact hne (by simp [hnil])
  case addresses =>
    intro e hmem
    obtain ⟨old, hold, rfl⟩ := mem_map.mp hmem
    unfold onEntry
    split_ifs with hn
    · exact hadmissible old hold hn
    · exact h.addresses old hold
  case visited =>
    intro e hmem
    obtain ⟨old, hold, rfl⟩ := mem_map.mp hmem
    rw [hnavigation]
    exact h.visited old hold
  case ledger => exact h.ledger
  case latest => exact h.latest
  case live => exact h.live
  case document => exact h.document

/-- The places of a navigation: none, or one. -/
lemma entriesOf_cases (navigation : NavigationId) :
    (entriesOf navigation history = [] ∧ ∀ e ∈ history, e.navigation ≠ navigation) ∨
      ∃ i e, entriesOf navigation history = [(i, e)] ∧ history[i]? = some e ∧
        e.navigation = navigation := by
  have hgeneral : ∀ k, (((history.zipIdx k).map fun p => (p.2, p.1)).filter
        (fun p => p.2.navigation = navigation) = [] ∧ ∀ e ∈ history, e.navigation ≠ navigation) ∨
      ∃ i e, ((history.zipIdx k).map fun p => (p.2, p.1)).filter
          (fun p => p.2.navigation = navigation) = [(k + i, e)] ∧ history[i]? = some e ∧
        e.navigation = navigation := by
    induction history with
    | nil => exact fun k => .inl ⟨rfl, by simp⟩
    | cons e rest ih =>
      intro k
      rw [map_cons, nodup_cons] at h
      rw [zipIdx_cons, map_cons, filter_cons]
      by_cases hn : e.navigation = navigation
      · have hrest : ∀ e' ∈ rest, e'.navigation ≠ navigation := by
          rintro e' he' heq
          exact h.1 (mem_map.mpr ⟨e', he', heq.trans hn.symm⟩)
        rcases ih h.2 (k + 1) with ⟨hnone, -⟩ | ⟨i, e', -, he', hn'⟩
        · refine .inr ⟨0, e, ?_, rfl, hn⟩
          rw [if_pos (by simpa using hn), hnone]
          rfl
        · exact absurd hn' (hrest e' (mem_of_getElem? he'))
      · rw [if_neg (by simpa using hn)]
        rcases ih h.2 (k + 1) with ⟨hnone, hall⟩ | ⟨i, e', hone, he', hn'⟩
        · exact .inl ⟨hnone, by simpa using ⟨hn, hall⟩⟩
        · refine .inr ⟨i + 1, e', ?_, by simpa using he', hn'⟩
          rw [hone, Nat.add_right_comm, Nat.add_assoc]
  rcases hgeneral 0 with hnone | ⟨i, e, hone, he, hn⟩
  · exact .inl hnone
  · exact .inr ⟨i, e, by simpa [entriesOf] using hone, he, hn⟩

end

/-! ## Phases and pages -/

lemma endLoading_record (navigation : NavigationId) (a : TabState) :
    (endLoading navigation a).toTabRecord = a.toTabRecord := by
  unfold endLoading
  split_ifs <;> rfl

/-- A navigation that is not the page's enters its next phase. -/
lemma tabSound_enterPhase (h : TabSound limits a.toTabRecord)
    (hphase : a.navigationPhases.lookup navigation = some phase)
    (hready : phase ≠ .ready) (next : NavigationPhase) :
    TabSound limits (enterPhase navigation next a).toTabRecord :=
  { h with
    ledger n p hp := by
      rcases lookup_insert_cases hp with ⟨rfl, -⟩ | ⟨-, hp⟩
      · exact h.ledger n phase hphase
      · exact h.ledger n p hp
    live n hn := by
      have hlive := h.live n hn
      refine ((lookup_insert_eq ..).trans (if_neg ?_)).trans hlive
      rintro rfl
      exact hready (Option.some.inj (hphase.symm.trans hlive)) }

lemma ledgerEntries_enterPhase
    (hphase : a.navigationPhases.lookup navigation = some phase) (next : NavigationPhase) :
    (enterPhase navigation next a).ledgerEntries = a.ledgerEntries := by
  show size (a.navigationPhases.insert navigation next) = a.navigationPhases.size
  rw [← update_eq_insert hphase fun _ => next, size_update]

/-- The ledger of a tab whose page is replaced. -/
lemma lookup_publishPage {version : EngineDocumentVersion} {n : NavigationId}
    (hn : (publishPage navigation version a).navigationPhases.lookup n = some phase) :
    a.navigationPhases.lookup n = some phase := by
  rw [publishPage, endLoading_record] at hn
  cases hlive : a.liveNavigation with
  | none => simpa only [hlive] using hn
  | some prior =>
    simp only [hlive] at hn
    split_ifs at hn
    · exact (lookup_of_lookup_erase hn).2
    · exact hn

lemma lookup_publishPage_self (navigation : NavigationId) (version : EngineDocumentVersion)
    (a : TabState) :
    (publishPage navigation version a).navigationPhases.lookup navigation =
      a.navigationPhases.lookup navigation := by
  rw [publishPage, endLoading_record]
  cases a.liveNavigation with
  | none => rfl
  | some prior =>
    simp only
    split_ifs with hne
    · rw [lookup_erase_eq, if_neg hne.symm]
    · rfl

/-- A tab with a new page. -/
lemma tabSound_publishPage (h : TabSound limits a.toTabRecord)
    (hready : a.navigationPhases.lookup navigation = some .ready)
    (version : EngineDocumentVersion) :
    TabSound limits (publishPage navigation version a).toTabRecord := by
  have hledger : ∀ n phase,
      (publishPage navigation version a).navigationPhases.lookup n = some phase →
        a.navigationPhases.lookup n = some phase := fun _ _ => lookup_publishPage
  have hself := lookup_publishPage_self navigation version a
  rw [publishPage, endLoading_record] at hledger hself ⊢
  exact
    { h with
      ledger := fun n phase hn => h.ledger n phase (hledger n phase hn)
      live := by
        rintro n ⟨rfl⟩
        exact hself.trans hready
      document := by
        rintro document ⟨rfl⟩
        rfl }

/-- Without a page to replace the ledger stays. -/
lemma ledgerEntries_publishPage_none
    (hprior : (a.liveNavigation.filter fun prior => prior ≠ navigation) = none)
    (version : EngineDocumentVersion) :
    (publishPage navigation version a).ledgerEntries = a.ledgerEntries := by
  rw [publishPage, endLoading_record]
  cases hlive : a.liveNavigation with
  | none => rfl
  | some prior =>
    have heq : prior = navigation := by simpa [hlive] using hprior
    simp [TabRecord.ledgerEntries, heq]

/-- The page that is replaced leaves the ledger. -/
lemma ledgerEntries_publishPage_some {prior : NavigationId}
    (hprior : (a.liveNavigation.filter fun prior => prior ≠ navigation) = some prior)
    (hphase : a.navigationPhases.lookup prior = some phase) (version : EngineDocumentVersion) :
    (publishPage navigation version a).ledgerEntries + 1 = a.ledgerEntries := by
  obtain ⟨hlive, hne⟩ := Option.filter_eq_some_iff.mp hprior
  have hne : prior ≠ navigation := by simpa using hne
  rw [publishPage, endLoading_record]
  simp only [TabRecord.ledgerEntries, hlive]
  rw [if_pos hne]
  exact (size_erase hphase).symm

end BrowserSession

end WildBuzzard.Ui
