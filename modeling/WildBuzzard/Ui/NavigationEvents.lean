import WildBuzzard.Ui.Handling

/-!
# Navigation events

A start, a cancellation and a failure relabel the entry of their navigation
(`applyNavigationStarted_handles`, `applyNavigationEnded_handles`). **A commit rewrites it**, if the
session can retain the final URL (`Committable`), and the visible address with it if the entry is
current and the draft is not being edited (`applyNavigationCommit_sat`).
-/

namespace WildBuzzard.Ui

open Lib Engine List Call Table

namespace BrowserSession

variable {E : Type} {s : BrowserSession E} {tab : BrowserTabId} {a : TabState}
  {navigation : NavigationId}

/-! ## Entries relabelled and committed -/

variable {entry : HistoryEntry}

variable {f : HistoryEntry → HistoryEntry} {g : TabState → TabState} {limits : SessionLimits}

lemma entryBytes_map_onEntry (hf : ∀ e, (f e).address = e.address) (history : List HistoryEntry) :
    entryBytes (history.map (onEntry navigation f)) = entryBytes history := by
  unfold entryBytes
  rw [map_map]
  refine congrArg sum (map_congr_left fun e _ => ?_)
  show byteLen (onEntry navigation f e).address = _
  unfold onEntry
  split_ifs
  · rw [hf]
  · rfl

/-- The session with the entry of a navigation relabelled runs on. -/
lemma Alive.relabel (hs : Alive s) (ha : s.tabs.lookup tab = some a)
    (hn : ∀ e, (f e).navigation = e.navigation) (haddress : ∀ e, (f e).address = e.address)
    (hg : (g a).toTabRecord =
      { a.toTabRecord with history := a.history.map (onEntry navigation f) }) :
    After s (s.withTab tab g) := by
  have hsound := hs.sound.tab ha
  refine hs.updateTab ha (.congr (b := { a with history := a.history.map (onEntry navigation f) })
    { TabChange.refl hs.sound ha with sound := ?sound, historySum := ?historySum } hg)
  case sound =>
    refine tabSound_onEntry hsound rfl hn fun e he _ => ?_
    rw [haddress]
    exact hsound.addresses e he
  case historySum =>
    exact congrArg (s.historyBytes + ·) (entryBytes_map_onEntry haddress a.history).symm

/-- A final URL that the session can retain for the entry of a navigation. -/
def Committable (s : BrowserSession E) (a : TabRecord) (navigation : NavigationId)
    (url : List Char) : Prop :=
  byteLen url ≤ s.limits.maxAddressBytes ∧
    ∀ e ∈ a.history, e.navigation = navigation →
      s.historyBytes - byteLen e.address + byteLen url ≤ s.limits.maxTotalHistoryBytes

lemma byteLen_le_historyBytes {a : TabRecord} (h : entry ∈ a.history) :
    byteLen entry.address ≤ a.historyBytes := by
  obtain ⟨before, after, hsplit⟩ := append_of_mem h
  rw [historyBytes_eq_entryBytes, hsplit, entryBytes_append]
  simp only [entryBytes, map_cons, sum_cons]
  omega

lemma commitHistory_record (h : TabSound limits a.toTabRecord) {i : ℕ}
    (hentry : a.history[i]? = some entry) (httpStatus : ℕ) (commitment : NavigationCommitMetadata) :
    (commitHistory i httpStatus commitment a).toTabRecord =
      { a.toTabRecord with
        history := a.history.map (onEntry entry.navigation (commitEntry httpStatus commitment)) } := by
  rw [← modify_eq_map h.distinct hentry]
  rfl

/-- **The session with an entry committed to a URL it can retain runs on.** -/
theorem Alive.commit (hs : Alive s) (ha : s.tabs.lookup tab = some a) {i : ℕ}
    (hentry : a.history[i]? = some entry) (httpStatus : ℕ) (commitment : NavigationCommitMetadata)
    (hle : s.historyBytes - byteLen entry.address + byteLen commitment.finalUrl ≤
      s.limits.maxTotalHistoryBytes) :
    After s { s with
      tabs := s.tabs.update tab (commitHistory i httpStatus commitment)
      historyBytes := s.historyBytes - byteLen entry.address + byteLen commitment.finalUrl } := by
  have hsound := hs.sound.tab ha
  have hrecord := commitHistory_record hsound hentry httpStatus commitment
  have hretained : byteLen entry.address ≤ s.historyBytes := by
    rw [hs.sound.historySum]
    exact (byteLen_le_historyBytes (mem_of_getElem? hentry)).trans
      (Table.le_total ha fun T => T.historyBytes)
  refine hs.updateTab ha
    { TabChange.refl hs.sound ha with
      sound := ?sound, historySum := ?historySum, historyLimit := hle }
  case sound =>
    exact tabSound_onEntry hsound hrecord (fun _ => rfl) fun _ _ _ => commitment.admissible
  case historySum =>
    have hbytes := entryBytes_modify (f := commitEntry httpStatus commitment) hentry
    show _ = s.historyBytes +
      entryBytes (a.history.modify i (commitEntry httpStatus commitment))
    have haddress : byteLen (commitEntry httpStatus commitment entry).address =
      byteLen commitment.finalUrl := rfl
    have hold := historyBytes_eq_entryBytes a.toTabRecord
    omega

lemma view_commitHistory (h : TabSound limits a.toTabRecord) {i : ℕ}
    (hentry : a.history[i]? = some entry) {httpStatus : ℕ}
    {answer : Option NavigationCommitMetadata} {commitment : NavigationCommitMetadata}
    (hcommit : committed httpStatus answer entry = commitEntry httpStatus commitment entry) :
    (commitHistory i httpStatus commitment a).view =
      commitView entry.navigation httpStatus answer a := by
  have hhistory : a.history.map (onEntry entry.navigation (commitEntry httpStatus commitment)) =
      a.history.map (onEntry entry.navigation (committed httpStatus answer)) := by
    refine map_congr_left fun e he => ?_
    unfold onEntry
    split_ifs with hn
    · rw [inj_on_of_nodup_map h.distinct he (mem_of_getElem? hentry) hn, hcommit]
    · rfl
  unfold TabState.view commitView
  rw [commitHistory_record h hentry, hhistory]
  simp only [currentNavigation_eq_some h hentry]
  refine Prod.ext rfl (Prod.ext rfl ?_)
  unfold commitHistory TabRecord.currentEntry
  split_ifs with hcurrent
  · rw [hcurrent.1, Option.bind_some, hentry, Option.elim_some, hcommit]
    rfl
  · rfl

lemma modifyTab_relabel (hs : Alive s) (ha : s.tabs.lookup tab = some a)
    (hcontext : a.context = navigation.context) (label : HistoryEntryState)
    (hg : (g a).toTabRecord =
      { a.toTabRecord with history := setHistoryState navigation label a.history })
    (htext : (g a).address.text = a.address.text) :
    Handles s
      (fun _ t => t.views = s.tabs.mapValues (relabelView navigation (labelled label)) ∧
        ∃ b, t.tabs.lookup tab = some b) (modifyTab tab g s) := by
  rw [setHistoryState_eq_map (hs.sound.tab ha).distinct] at hg
  have hafter := hs.relabel ha (f := labelled label) (fun _ => rfl) (fun _ => rfl) hg
  refine .of_after hafter hs.running ⟨?_, _, lookup_update_self ha g⟩ (modifyTab_eq ha g)
  refine views_update_only hs.sound ha hcontext (only_relabelView navigation (labelled label)) ?_
  unfold TabState.view relabelView
  rw [htext, hg]
  rfl

/-! ## The events -/

section Engine

variable [EnginePort E]

lemma applyNavigationStarted_handles (hs : Alive s) (navigation : NavigationId) :
    Handles s (Settles (s.tabs.mapValues (relabelView navigation (labelled .loading))))
      (applyNavigationStarted navigation s) := by
  refine (tabForKnownNavigation_handles hs navigation _).bind fun found u hu => ?_
  rintro ⟨rfl, hlocated⟩
  cases found with
  | none => exact .pure hu ⟨trivial, views_of_unlocated hu.sound hlocated (only_relabelView _ _)⟩
  | some tab =>
    obtain ⟨a, phase, ha, hcontext, hphase⟩ := hlocated
    refine (requireNavigationPhase_handles hu ha hphase (by decide) _ _).bind fun _ v hv => ?_
    rintro ⟨-, rfl⟩
    refine (modifyTab_relabel hv (lookup_update_self ha _) hcontext _ rfl rfl).bind
      fun _ t ht hviews => .pure ht ⟨trivial, ?_⟩
    rw [hviews.1, mapValues_enterPhase]

lemma applyNavigationEnded_handles (hs : Alive s) (navigation : NavigationId)
    (unknown order : EngineFault) {allowed : List NavigationPhase} (hready : .ready ∉ allowed)
    (next : NavigationPhase) (label : HistoryEntryState) :
    Handles s (Settles (s.tabs.mapValues (relabelView navigation (labelled label))))
      (applyNavigationEnded navigation unknown allowed next order label s) := by
  refine (tabForKnownNavigation_handles hs navigation _).bind fun found u hu => ?_
  rintro ⟨rfl, hlocated⟩
  cases found with
  | none => exact .pure hu ⟨trivial, views_of_unlocated hu.sound hlocated (only_relabelView _ _)⟩
  | some tab =>
    obtain ⟨a, phase, ha, hcontext, hphase⟩ := hlocated
    refine (requireNavigationPhase_handles hu ha hphase hready _ _).bind fun _ v hv => ?_
    rintro ⟨-, rfl⟩
    have hrecord (b : TabState) : (labelHistory navigation label
        (endLoading navigation b)).toTabRecord =
        { b.toTabRecord with history := setHistoryState navigation label b.history } := by
      unfold labelHistory
      rw [endLoading_record]
    have htext (b : TabState) : (labelHistory navigation label
        (endLoading navigation b)).address.text = b.address.text := by
      unfold labelHistory endLoading
      split_ifs <;> rfl
    refine (modifyTab_relabel hv (lookup_update_self ha _) hcontext label
      (g := fun state => labelHistory navigation label (endLoading navigation state))
      (hrecord _) (htext _)).bind ?_
    rintro _ w hw ⟨hviews, b, hb⟩
    refine (bumpPrimaryUiForTab_handles hw hb).bind fun _ t ht hquiet => .pure ht ⟨trivial, ?_⟩
    rw [hquiet, hviews, mapValues_enterPhase]

/-! ## Commits -/

/-- The commitment of a navigation is the engine's, or follows from the requested address. -/
lemma resolveNavigationCommit_handles (hs : Alive s) (tab : BrowserTabId)
    (navigation : NavigationId) (commitment : Option NavigationCommitMetadata) :
    Handles s (fun resolved t => t = s ∧ ∀ a e, s.tabs.lookup tab = some a → e ∈ a.history →
        e.navigation = navigation → ∀ httpStatus,
          committed httpStatus commitment e = commitEntry httpStatus resolved e)
      (resolveNavigationCommit tab navigation commitment s) := by
  cases commitment with
  | some commitment => exact .pure hs ⟨rfl, fun _ _ _ _ _ _ => rfl⟩
  | none =>
    refine .read ?_
    split_ifs
    · exact blame_handles hs _
    · cases hfound : (s.tabs.lookup tab).bind fun state =>
          state.history.find? fun entry => entry.navigation = navigation with
      | none => exact blame_handles hs _
      | some entry =>
        -- An address of a history is admissible, so it makes a commitment.
        obtain ⟨a, ha, hentry⟩ := Option.bind_eq_some_iff.mp hfound
        have hadmissible := (hs.sound.tab ha).addresses entry (mem_of_find?_eq_some hentry)
        simp only [NavigationCommitMetadata.new, checkUrl_of_admissible hadmissible, Except.map]
        refine .pure hs ⟨rfl, ?_⟩
        intro b e hb he hn httpStatus
        obtain rfl := Option.some.inj (ha.symm.trans hb)
        have hfirst : entry.navigation = navigation := by simpa using find?_some hentry
        rw [inj_on_of_nodup_map (hs.sound.tab ha).distinct he
          (mem_of_find?_eq_some hentry) (hn.trans hfirst.symm)]
        rfl

section

variable [UrlParser]

/-- **A commit rewrites the entry of its navigation, if the session can retain the final URL**, and
ends the session if it cannot. -/
theorem applyNavigationCommit_sat (hs : Alive s) (ha : s.tabs.lookup tab = some a)
    (hcontext : a.context = navigation.context) {httpStatus : ℕ}
    {answer : Option NavigationCommitMetadata} {commitment : NavigationCommitMetadata}
    (hcommit : ∀ e ∈ a.history, e.navigation = navigation →
      committed httpStatus answer e = commitEntry httpStatus commitment e) :
    (applyNavigationCommit tab navigation httpStatus commitment s).Ends
      (fun _ t => After s t ∧ t.lifecycle = .running ∧
        Committable s a.toTabRecord navigation commitment.finalUrl ∧
        t.views = s.tabs.mapValues (commitView navigation httpStatus answer) ∧
        t.windows = s.windows ∧ ∃ b, t.tabs.lookup tab = some b ∧ b.window = a.window)
      (fun e t => After s t ∧ Proper e ∧ t.lifecycle ≠ .running ∧
        ((s.navigationMode = .generalWeb → commitment.validateGeneralWeb = .ok ()) →
          ¬Committable s a.toTabRecord navigation commitment.finalUrl)) := by
  have hsound := hs.sound.tab ha
  have honly := only_commitView navigation httpStatus answer
  refine sat_read_bind.mpr (sat_demand_bind hs (fun _ => ?_)
    fun hinvalid _ _ ht he hr => ⟨ht, he, hr, fun hvalid => absurd hvalid hinvalid⟩)
  refine sat_demand_bind hs (fun hbound => ?_)
    fun hlong _ _ ht he hr => ⟨ht, he, hr, fun _ h => hlong ⟨commitment.admissible.1, h.1⟩⟩
  rw [bind_of_ok (getTab_eq ha)]
  rcases entriesOf_cases hsound.distinct navigation with ⟨hnone, hall⟩ | ⟨i, e, hone, he, hn⟩
  · rw [hnone]
    refine ⟨.refl (.inl hs), hs.running, ⟨hbound.2, fun e he hn => absurd hn (hall e he)⟩, ?_, rfl,
      a, ha, rfl⟩
    have hviews := views_update_only hs.sound ha hcontext honly (f := id)
      (honly a hall).symm
    rwa [show s.tabs.update tab id = s.tabs from update_id _ _] at hviews
  · subst hn
    have hretained : byteLen e.address ≤ s.historyBytes := by
      rw [hs.sound.historySum]
      exact (byteLen_le_historyBytes (mem_of_getElem? he)).trans
        (Table.le_total ha fun T => T.historyBytes)
    have hfits : s.historyBytes - byteLen e.address + byteLen commitment.finalUrl < 2 ^ 64 := by
      have hlimit := hs.sound.historyLimit
      have hmax := s.limits.totalHistoryBytes.2
      have hurl := commitment.admissible.2
      unfold maxNavigationUrlBytes at hurl
      omega
    rw [hone]
    simp only [checkedSub_of_le hretained, Option.bind_some, checkedAdd_of_lt hfits, orFail_some]
    refine sat_demand_bind hs (fun hle => ?_) fun hmore _ _ ht he' hr =>
      ⟨ht, he', hr, fun _ h => hmore (h.2 e (mem_of_getElem? he) rfl)⟩
    rw [bind_of_ok (getTab_eq ha), he, okOr_some, bind_of_ok (pure_apply e s),
      bind_of_ok (congrFun (check_eq_pure rfl) s)]
    refine ⟨hs.commit ha he httpStatus commitment hle, hs.running, ⟨hbound.2, ?_⟩, ?_, rfl, _,
      lookup_update_self ha _, rfl⟩
    · intro e' he' hn
      rw [inj_on_of_nodup_map hsound.distinct he' (mem_of_getElem? he) hn]
      exact hle
    · exact views_update_only hs.sound ha hcontext honly
        (view_commitHistory hsound he (hcommit e (mem_of_getElem? he) rfl))

lemma applyNavigationCommitted_handles (hs : Alive s) (navigation : NavigationId) (httpStatus : ℕ) :
    Handles s (fun outcome t => ∃ answer,
        (∃ later, Answers s (EnginePort.takeNavigationCommit navigation) answer later) ∧
          Settles (s.tabs.mapValues (commitView navigation httpStatus answer)) outcome t)
      (applyNavigationCommitted navigation httpStatus s) := by
  refine (demand_handles hs _ _).bind fun _ t ht => ?_
  rintro ⟨rfl, -⟩
  refine (callEngine_handles ht _ _).bind fun answer u hu => ?_
  rintro ⟨engine, hanswer, rfl⟩
  refine (tabForKnownNavigation_handles hu navigation _).bind fun found v hv => ?_
  rintro ⟨rfl, hlocated⟩
  cases found with
  | none =>
    exact .pure hv ⟨answer, ⟨engine, hanswer⟩, trivial,
      views_of_unlocated hv.sound hlocated (only_commitView _ _ _)⟩
  | some tab =>
    obtain ⟨a, phase, ha, hcontext, hphase⟩ := hlocated
    refine (resolveNavigationCommit_handles hv tab navigation answer).bind fun commitment w hw => ?_
    rintro ⟨rfl, hcommit⟩
    refine (requireNavigationPhase_handles hw ha hphase (by decide) _ _).bind fun _ x hx => ?_
    rintro ⟨-, rfl⟩
    have happly : Handles _ _ (applyNavigationCommit tab navigation httpStatus commitment _) :=
      (applyNavigationCommit_sat hx (lookup_update_self ha _) hcontext
        fun e he hn => hcommit a e ha he hn httpStatus).mono
        (fun _ _ h => ⟨h.1.inv.alive_of_running h.2.1, h.1.ids, h.2.2⟩)
        (fun _ _ h => ⟨h.1, h.2.1, fun hr => absurd hr h.2.2.1⟩) fun _ => id
    refine happly.bind ?_
    rintro _ y hy ⟨-, hviews, -, b, hb, -⟩
    refine (bumpPrimaryUiForTab_handles hy hb).bind fun _ z hz hquiet => .pure hz ?_
    refine ⟨answer, ⟨engine, hanswer⟩, trivial, hquiet.trans (hviews.trans ?_)⟩
    exact mapValues_update_of_eq fun _ _ => rfl

end

end Engine

end BrowserSession

end WildBuzzard.Ui
