import WildBuzzard.Ui.Repair
import WildBuzzard.Ui.SoundTab

/-!
# Navigations a session admits

Navigating, moving in the history and reloading ask the engine for a navigation. They are described
exactly, because the history is about them: **an admitted navigation is new, the ledgers are pruned
and the tab's grows by it** (`sendNavigation_sat`); a new address is appended to the history
(`navigateNew_sat`), an entry of it is visited again (`revisitEntry_sat`). **A refused command leaves
everything but the engine as it was**, if the session still runs (`Declined`).
-/

namespace WildBuzzard.Ui

open Lib Engine Call Table Option NavigationRequest

namespace BrowserSession

variable {E α : Type} {s t : BrowserSession E} {tab : BrowserTabId} {a : TabState}

/-! ## Admissions -/

variable {f : TabState → TabState} {limits : SessionLimits}

lemma lookup_mapValues_of_lookup (h : s.tabs.lookup tab = some a) :
    (s.tabs.mapValues f).lookup tab = some (f a) := by
  rw [lookup_mapValues, h, map_some]

/-- The entries that are pruned are entries. -/
lemma Sound.prunableEntries_add (h : Sound s) :
    s.prunableEntries + (s.tabs.mapValues pruneLedger).total (fun T => T.ledgerEntries) =
      s.navigationLedgerEntries := by
  rw [h.ledgerSum, total_mapValues, prunableEntries, ← total_add]
  exact total_congr fun _ T _ => size_retain_add T.navigationPhases (prunable T)

/-- The session with the ledgers of its tabs pruned. -/
def pruned (s : BrowserSession E) : BrowserSession E :=
  { s with
    tabs := s.tabs.mapValues pruneLedger
    navigationLedgerEntries := s.navigationLedgerEntries - s.prunableEntries }

/-- What holds of every tab when it is pruned holds of the tabs of the pruned session. -/
@[elab_as_elim]
lemma forall_pruned {P : BrowserTabId → TabState → Prop}
    (h : ∀ {t T}, s.tabs.lookup t = some T → P t (pruneLedger T)) {t : BrowserTabId} {T : TabState}
    (hT : s.pruned.tabs.lookup t = some T) : P t T := by
  rw [pruned, lookup_mapValues] at hT
  obtain ⟨T, hold, rfl⟩ := map_eq_some_iff.mp hT
  exact h hold

/-- **A session stays sound when the ledgers of its tabs are pruned.** -/
theorem Sound.prune (h : Sound s) : Sound s.pruned :=
  { h with
    listed := by
      intro w W t hW ht
      obtain ⟨T, hT, hw⟩ := h.listed hW ht
      exact ⟨pruneLedger T, lookup_mapValues_of_lookup hT, hw⟩
    tabId := fun hT => forall_pruned (fun hold => (h.tabId hold :)) hT
    tabAllocated := fun hT => forall_pruned (fun hold => h.tabAllocated hold) hT
    owned := fun hT => forall_pruned (fun hold => (h.owned hold :)) hT
    context := fun hT => forall_pruned (fun hold => (h.context hold :)) hT
    contextTab := by
      intro x t hx
      obtain ⟨T, hT, hTx⟩ := h.contextTab hx
      exact ⟨pruneLedger T, lookup_mapValues_of_lookup hT, hTx⟩
    tab := fun hT => forall_pruned (fun hold => tabSound_pruneLedger (h.tab hold)) hT
    tabLimit := by
      show size (s.tabs.mapValues pruneLedger) + _ ≤ _
      rw [size_mapValues]
      exact h.tabLimit
    historySum := by
      show s.historyBytes = total _ (s.tabs.mapValues pruneLedger)
      rw [total_mapValues]
      exact h.historySum
    frameSum := by
      show s.retainedFrameBytes = total _ (s.tabs.mapValues pruneLedger)
      rw [total_mapValues]
      exact h.frameSum
    ledgerSum := Nat.sub_eq_of_eq_add' h.prunableEntries_add.symm
    ledgerLimit := (Nat.sub_le _ _).trans h.ledgerLimit }

/-- The session after the engine admitted a navigation.
Source: the changes of `send_navigation` -/
def admitted (s : BrowserSession E) (tab : BrowserTabId) (navigation : NavigationId) :
    BrowserSession E :=
  { s with
    tabs := (s.tabs.mapValues pruneLedger).update tab (admitNavigation navigation)
    navigationLedgerEntries := s.navigationLedgerEntries - s.prunableEntries + 1 }

/-- The navigation that the engine must give a tab next. -/
def Next (a : TabState) (navigation : NavigationId) : Prop :=
  ∃ generation, expectedGeneration a.latestNavigation = some generation ∧
    navigation = ⟨a.context, generation⟩

variable {navigation : NavigationId}

lemma Next.not_issued (h : Next a navigation) : ¬a.Issued navigation := by
  obtain ⟨generation, hg, rfl⟩ := h
  exact not_issued_expected hg

/-- A tab of a session that admitted a navigation for it. -/
lemma lookup_admitted_self (ha : s.tabs.lookup tab = some a) (navigation : NavigationId) :
    (s.admitted tab navigation).tabs.lookup tab =
      some (admitNavigation navigation (pruneLedger a)) :=
  lookup_update_self (lookup_mapValues_of_lookup ha) _

/-- **A session that admits the next navigation of a tab runs on.** -/
theorem Alive.admission (hs : Alive s) (ha : s.tabs.lookup tab = some a) (hnext : Next a navigation)
    (hroom : s.navigationLedgerEntries - s.prunableEntries + 1 ≤ maxNavigationLedgerEntries) :
    After s (s.admitted tab navigation) := by
  obtain ⟨generation, hg, rfl⟩ := hnext
  have hpruned : Sound s.pruned := hs.sound.prune
  have hlookup : s.pruned.tabs.lookup tab = some (pruneLedger a) := lookup_mapValues_of_lookup ha
  have hsound := hpruned.tab hlookup
  have hchange : TabChange s.pruned (pruneLedger a)
      (admitNavigation ⟨a.context, generation⟩ (pruneLedger a)) s.historyBytes s.retainedFrameBytes
      (s.navigationLedgerEntries - s.prunableEntries + 1) :=
    { TabChange.refl hpruned hlookup with
      sound := tabSound_admitNavigation hsound hg
      ledgerSum := by
        have hledger := ledgerEntries_admitNavigation hsound hg
        show s.navigationLedgerEntries - s.prunableEntries + 1 + (pruneLedger a).ledgerEntries =
          s.navigationLedgerEntries - s.prunableEntries +
            (admitNavigation ⟨(pruneLedger a).context, generation⟩ (pruneLedger a)).ledgerEntries
        omega
      ledgerLimit := hroom }
  refine ⟨.inl ⟨hs.running, hs.engine, hs.windows, hpruned.updateTab hlookup hchange⟩, ?_⟩
  refine .of_subset (fun _ h => h) (fun t ht => ?_) (fun _ h => h) (fun _ h => .inr h) rfl rfl rfl
  obtain ⟨b, hb⟩ := lookup_some_of_mem (mem_of_mem_update ht)
  exact forall_pruned (fun hc => mem_of_lookup hc) hb

/-- What an error of a call leaves: a session that ended, or one in which the call was refused. -/
def Declined (s : BrowserSession E) (e : SessionError) (t : BrowserSession E) : Prop :=
  After s t ∧ Proper e ∧ (t.lifecycle = .running → EngineOnly s t)

lemma Declined.refl (hs : Inv s) {e : SessionError} (he : Proper e) : Declined s e s :=
  ⟨.refl hs, he, fun _ => .refl s⟩

/-- A call that ends the session was not a refusal. -/
lemma Declined.of_stopped {e : SessionError} (hafter : After s t) (he : Proper e)
    (hstopped : t.lifecycle ≠ .running) : Declined s e t :=
  ⟨hafter, he, fun hr => absurd hr hstopped⟩

lemma Declined.kept {o : Outcome (BrowserSession E) SessionError α}
    {Q : α → BrowserSession E → Prop}
    (h : o.Ends (fun a t => After s t ∧ Q a t) (Declined s)) : Kept AnyError s o :=
  h.imp₂ (fun _ _ ht => ht.1) (fun _ _ ht => ⟨ht.1, ht.2.1, fun _ => trivial⟩)

section

variable [EnginePort E]

lemma fail_declined (hafter : After s t) (hr : t.lifecycle = .running)
    {failure : SessionFailure} (hp : ProperFailure failure) {Q : α → BrowserSession E → Prop} :
    ((fail failure : SessionCall E α) t).Ends Q (Declined s) := by
  unfold fail
  rw [if_neg (by simp [hr])]
  exact .of_stopped (hafter.trans (after_failed hp _)) (proper_terminal hp) (by simp [ended])

/-- **The engine admits the next navigation of a tab, and refuses it without a change.** -/
theorem sendNavigation_sat (hs : Alive s) (tab : BrowserTabId) (request : NavigationRequest) :
    (sendNavigation tab request s).Ends
      (fun navigation t => After s t ∧ ∃ a engine, s.tabs.lookup tab = some a ∧
        Next a navigation ∧ t = ({ s with engine := some engine }).admitted tab navigation)
      (Declined s) := by
  have hinv : Inv s := .inl hs
  have hdeclined : ∀ e, Proper e → Declined s e s := fun e he => .refl hinv he
  refine (getTab_looks tab).sat_bind hdeclined fun a ha => ?_
  refine Looks.sat_bind (Looks.okOr trivial) hdeclined fun generation hg => ?_
  refine sat_read_bind.mpr ?_
  refine Looks.sat_bind (Looks.okOr trivial) hdeclined fun projected hprojected => ?_
  refine Looks.sat_bind (Looks.check trivial) hdeclined fun _ hroom => ?_
  obtain ⟨kept, hkept, hadd⟩ := bind_eq_some_iff.mp hprojected
  obtain ⟨-, rfl⟩ := checkedSub_eq_some.mp hkept
  obtain ⟨-, rfl⟩ := checkedAdd_eq_some.mp hadd
  refine sat_seq (callEngine_sat hs _ _) ?_ ?_
  swap
  · rintro e t ⟨ht, he, hrunning⟩
    exact ⟨ht, he, fun hr => (hrunning hr).1⟩
  rintro navigation _ ⟨engine, -, rfl⟩
  have hafter := hs.withEngine engine
  have halive : Alive { s with engine := some engine } := hafter.inv.alive_of_running hs.running
  split_ifs with hforeign
  · have hp : ProperFailure (.engineContract (.engine .foreignNavigation)) := trivial
    exact fail_declined hafter hs.running hp
  · rw [not_not] at hforeign
    have hnext : Next a navigation := ⟨generation, hg, hforeign⟩
    refine sat_bind.mpr ?_
    rw [getTab_eq (s := { s with engine := some engine }) ha]
    -- The ledger holds issued navigations only, and this one is new.
    have hnew : navigation ∉ (pruneLedger a).navigationPhases := by
      intro hmem
      obtain ⟨phase, hphase⟩ := lookup_some_of_mem hmem
      have hissued := (tabSound_pruneLedger (hs.sound.tab ha)).ledger navigation phase hphase
      exact hnext.not_issued hissued
    simp only [Outcome.sat_ok, if_neg hnew]
    have hadmit := halive.admission ha hnext hroom
    exact ⟨hafter.trans hadmit, a, engine, ha, hnext, rfl⟩

end

/-! ## A new entry -/

/-- The account of the histories after an append to one of them. -/
def appendedBytes (s : BrowserSession E) (a : TabRecord) (addressBytes : ℕ) : Option ℕ :=
  ((checkedSub s.historyBytes (entryBytes (a.history.drop (keptEntries a)))).bind fun bytes =>
    checkedAdd bytes addressBytes).bind fun bytes => checkedSub bytes (s.oldestBytes a)

/-- The session after an append to the history of a tab. -/
def withAppended (s : BrowserSession E) (tab : BrowserTabId) (address : List Char)
    (navigation : NavigationId) (bytes : ℕ) : BrowserSession E :=
  { s with
    tabs := s.tabs.update tab
      (appendToHistory s.limits.maxHistoryEntries (requestedEntry address navigation) address)
    historyBytes := bytes }

variable {address : List Char} {bytes : ℕ}

lemma forwardEntries_eq {a : TabRecord} (h : TabSound limits a) :
    forwardEntries a s = .ok (a.history.drop (keptEntries a)) s := by
  unfold forwardEntries
  rw [assert_eq_pure (keptEntries_le h)]
  rfl

lemma preflightHistoryAppend_looks (h : Sound s) (tab : BrowserTabId) (addressBytes : ℕ) :
    Looks s
      (fun _ => ∃ a bytes, s.tabs.lookup tab = some a ∧
        s.appendedBytes a.toTabRecord addressBytes = some bytes ∧
        bytes ≤ s.limits.maxTotalHistoryBytes) (preflightHistoryAppend tab addressBytes s) := by
  refine (getTab_looks tab).bind fun a ha => Looks.read ?_
  rw [bind_of_ok (forwardEntries_eq (h.tab ha))]
  refine Looks.bind (Looks.okOr trivial) fun retained hretained => ?_
  refine Looks.bind (Looks.okOr trivial) fun grown hgrown => ?_
  refine Looks.bind (Looks.okOr trivial) fun _ _ => ?_
  refine Looks.bind (Looks.okOr trivial) fun projected hprojected => ?_
  refine Outcome.Sat.imp (Looks.check trivial) fun _ t ht => ⟨ht.1, a, projected, ha, ?_, ht.2⟩
  unfold appendedBytes
  rw [hretained, bind_some, hgrown, bind_some, hprojected]

/-- What an append does to the account of the histories. -/
lemma appendedBytes_add (h : TabSound s.limits a.toTabRecord) (entry : HistoryEntry)
    (hbytes : s.appendedBytes a.toTabRecord (byteLen entry.address) = some bytes)
    (accepted : List Char) :
    bytes + a.historyBytes = s.historyBytes +
      (appendToHistory s.limits.maxHistoryEntries entry accepted a).historyBytes := by
  obtain ⟨grown, hgrown, hdropped⟩ := bind_eq_some_iff.mp hbytes
  obtain ⟨retained, hretained, hadded⟩ := bind_eq_some_iff.mp hgrown
  obtain ⟨hforward, rfl⟩ := checkedSub_eq_some.mp hretained
  obtain ⟨-, rfl⟩ := checkedAdd_eq_some.mp hadded
  obtain ⟨holdest, rfl⟩ := checkedSub_eq_some.mp hdropped
  have happended := entryBytes_appendEntry h entry
  have hsplit := entryBytes_take_add_drop a.toTabRecord
  show _ = s.historyBytes + entryBytes (appendEntry s.limits.maxHistoryEntries a.toTabRecord entry)
  omega

/-- **A session with a new entry in the history of a tab runs on.** -/
theorem Alive.append (hs : Alive s) (ha : s.tabs.lookup tab = some a)
    (hadmissible : AdmissibleUrl address) (hissued : a.Issued navigation)
    (hfresh : ∀ e ∈ a.history, e.navigation ≠ navigation)
    (hbytes : s.appendedBytes a.toTabRecord (byteLen address) = some bytes)
    (hle : bytes ≤ s.limits.maxTotalHistoryBytes) :
    After s (s.withAppended tab address navigation bytes) := by
  have hsound := hs.sound.tab ha
  exact hs.updateTab ha
    { TabChange.refl hs.sound ha with
      sound := tabSound_appendToHistory hsound (requestedEntry address navigation)
        hadmissible hissued hfresh address
      historySum := appendedBytes_add hsound (requestedEntry address navigation) hbytes address
      historyLimit := hle }

/-- The history of a tab was appended to, and what followed was quiet. -/
def Appended (s t : BrowserSession E) (tab : BrowserTabId) (address : List Char)
    (navigation : NavigationId) : Prop :=
  ∃ a engine bytes, s.tabs.lookup tab = some a ∧ Next a navigation ∧
    Quiet ((({ s with engine := some engine }).admitted tab navigation).withAppended tab address
      navigation bytes) t

lemma request_admissible {mode : BrowserNavigationMode} {request : NavigationRequest}
    (h : mode.request address = .ok request) : AdmissibleUrl address := by
  have hchecked : ∃ checked, checkUrl address = .ok checked := by
    cases hcheck : checkUrl address with
    | ok checked => exact ⟨checked, rfl⟩
    | error e =>
      cases mode <;>
        simp [BrowserNavigationMode.request, new, generalWeb,
          withNetworkCapability, hcheck, Except.map] at h
  obtain ⟨checked, -⟩ := hchecked
  exact checked.down

lemma request_looks (mode : BrowserNavigationMode) (address : List Char) :
    Looks s (fun request => mode.request address = .ok request)
      ((ofExcept ((mode.request address).mapError .navigationRequest) :
        SessionCall E NavigationRequest) s) := by
  cases mode.request address with
  | ok request => exact ⟨rfl, rfl⟩
  | error e => exact ⟨rfl, trivial⟩

lemma Next.issued (hnext : Next a navigation) :
    (admitNavigation navigation (pruneLedger a)).Issued navigation := by
  obtain ⟨generation, -, rfl⟩ := hnext
  exact ⟨rfl, _, rfl, le_rfl⟩

lemma Next.fresh (hnext : Next a navigation) (h : TabSound limits a.toTabRecord) :
    ∀ e ∈ a.history, e.navigation ≠ navigation := by
  rintro e he rfl
  exact hnext.not_issued (h.visited e he)

/-! ## An entry visited again -/

/-- A tab was sent to an entry of its history, and what followed was quiet. -/
def Revisited (s t : BrowserSession E) (tab : BrowserTabId) (target : ℕ) (address : List Char)
    (navigation : NavigationId) : Prop :=
  ∃ a engine, s.tabs.lookup tab = some a ∧ Next a navigation ∧
    Quiet ((({ s with engine := some engine }).admitted tab navigation).withTab tab
      (revisit target navigation address)) t

/-- **A session in which a tab visits an entry of its history again runs on.** -/
theorem Alive.revisit (hs : Alive s) (ha : s.tabs.lookup tab = some a) {target : ℕ}
    (htarget : target < a.history.length) (hissued : a.Issued navigation)
    (hfresh : ∀ e ∈ a.history, e.navigation ≠ navigation) (address : List Char) :
    After s (s.withTab tab (revisit target navigation address)) := by
  have hsound := hs.sound.tab ha
  refine hs.updateTab ha
    { TabChange.refl hs.sound ha with sound := ?sound, historySum := ?historySum }
  case sound =>
    refine tabSound_modifyEntry hsound (i := target) (f := renavigate navigation) rfl ?_ ?_ ?_ ?_ ?_
    · intro j hj
      rw [← some.inj hj]
      exact htarget
    · exact fun _ => some_ne_none target
    · exact fun e he => hsound.addresses e (List.mem_of_getElem? he)
    · exact fun _ _ => hissued
    · refine fun _ _ => .inr fun hmem => ?_
      obtain ⟨e, he, hn⟩ := List.mem_map.mp hmem
      exact hfresh e he hn
  case historySum =>
    have hbytes := entryBytes_modify (f := renavigate navigation)
      (List.getElem?_eq_getElem htarget)
    have hsame : entryBytes (a.history.modify target (renavigate navigation)) =
        entryBytes a.history := Nat.add_right_cancel hbytes
    exact congrArg (s.historyBytes + ·) hsame.symm

/-! ## The commands -/

section

variable [EnginePort E]

/-- An append that was preflighted succeeds. -/
lemma appendHistoryAfterAdmission_eq (h : Sound s) (ha : s.tabs.lookup tab = some a)
    (hbytes : s.appendedBytes a.toTabRecord (byteLen address) = some bytes)
    (hle : bytes ≤ s.limits.maxTotalHistoryBytes) (navigation : NavigationId) :
    appendHistoryAfterAdmission tab address navigation s =
      .ok () (s.withAppended tab address navigation bytes) := by
  have hsound := h.tab ha
  have hkept := keptEntries_le hsound
  have hentries := hsound.entries
  have hmax := s.limits.historyEntries.2
  obtain ⟨before, happend, -⟩ := appendEntry_eq_concat hsound (requestedEntry address navigation)
  have hcount : checkedAdd (keptEntries a.toTabRecord) 1 = some (keptEntries a.toTabRecord + 1) :=
    checkedAdd_of_lt (by omega)
  have hpolicy : ¬(s.limits.maxHistoryEntries + 1 < keptEntries a.toTabRecord + 1 ∨
      s.limits.maxTotalHistoryBytes < bytes) := by omega
  unfold appendHistoryAfterAdmission
  rw [bind_of_ok (show read s = .ok s s from rfl), ha, orFail_some,
    bind_of_ok (pure_apply a s), bind_of_ok (forwardEntries_eq hsound), hcount,
    orFail_some, bind_of_ok (pure_apply _ s)]
  unfold appendedBytes at hbytes
  rw [hbytes, orFail_some, bind_of_ok (pure_apply _ s), if_neg hpolicy, orFail_some,
    bind_of_ok (pure_apply a s)]
  simp only [happend, List.getLast?_concat, map_some, orFail_some]
  rfl

/-- **A new address is appended to the history of its tab.** -/
theorem navigateNew_sat (hs : Alive s) (tab : BrowserTabId) (address : List Char) :
    (navigateNew tab address s).Ends
      (fun outcome t => After s t ∧ ∃ navigation, outcome = .navigationQueued tab navigation ∧
        Appended s t tab address navigation) (Declined s) := by
  have hdeclined : ∀ e, Proper e → Declined s e s := fun e he => .refl (.inl hs) he
  unfold navigateNew
  rw [bind_of_ok (ensureRunning_eq hs)]
  refine sat_read_bind.mpr ?_
  refine Looks.sat_bind (Looks.check trivial) hdeclined fun _ _ => ?_
  refine (request_looks s.navigationMode address).sat_bind hdeclined fun request hrequest => ?_
  have hadmissible := request_admissible hrequest
  refine (preflightHistoryAppend_looks hs.sound tab _).sat_bind hdeclined ?_
  rintro _ ⟨a, bytes, ha, hbytes, hle⟩
  refine sat_seq (sendNavigation_sat hs tab request) ?_ (fun _ _ h => h)
  rintro navigation u ⟨hu, a', engine, ha', hnext, rfl⟩
  obtain rfl := some.inj (ha.symm.trans ha')
  -- The admission left the history and its account as they were preflighted.
  set u := ({ s with engine := some engine } : BrowserSession E).admitted tab navigation with hudef
  have hlookup : u.tabs.lookup tab = some (admitNavigation navigation (pruneLedger a)) :=
    lookup_admitted_self ha navigation
  have halive : Alive u := hu.inv.alive_of_tab hlookup
  have hbytes' : u.appendedBytes (admitNavigation navigation (pruneLedger a)).toTabRecord
      (byteLen address) = some bytes := hbytes
  have happend := halive.append hlookup hadmissible hnext.issued (hnext.fresh (hs.sound.tab ha))
    hbytes' hle
  have hfinal : (u.withAppended tab address navigation bytes).tabs.lookup tab = some _ :=
    lookup_update_self hlookup _
  rw [bind_of_ok (appendHistoryAfterAdmission_eq halive.sound hlookup hbytes' hle navigation)]
  refine sat_seq (bumpPrimaryUiForTab_sat (happend.inv.alive_of_tab hfinal) hfinal) ?_ ?_
  · rintro _ t ⟨ht, hquiet⟩
    exact ⟨(hu.trans happend).trans ht, navigation, rfl, a, engine, bytes, ha, hnext, hquiet⟩
  · rintro e t ⟨ht, hstopped, he⟩
    exact .of_stopped ((hu.trans happend).trans ht) he hstopped

lemma revisitEntry_sat (hs : Alive s) (ha : s.tabs.lookup tab = some a) {target : ℕ}
    {entry : HistoryEntry} (hentry : a.history[target]? = some entry)
    (lostTab lostEntry : InternalFault) :
    (revisitEntry tab target entry lostTab lostEntry s).Ends
      (fun outcome t => After s t ∧ ∃ navigation, outcome = .navigationQueued tab navigation ∧
        Revisited s t tab target entry.address navigation) (Declined s) := by
  have hdeclined : ∀ e, Proper e → Declined s e s := fun e he => .refl (.inl hs) he
  refine sat_read_bind.mpr ?_
  refine (request_looks s.navigationMode entry.address).sat_bind hdeclined fun request _ => ?_
  refine sat_seq (sendNavigation_sat hs tab request) ?_ (fun _ _ h => h)
  rintro navigation u ⟨hu, a', engine, ha', hnext, rfl⟩
  obtain rfl := some.inj (ha.symm.trans ha')
  set u := ({ s with engine := some engine } : BrowserSession E).admitted tab navigation with hudef
  have hlookup : u.tabs.lookup tab = some (admitNavigation navigation (pruneLedger a)) :=
    lookup_admitted_self ha navigation
  have halive : Alive u := hu.inv.alive_of_tab hlookup
  have hentry' : (admitNavigation navigation (pruneLedger a)).history[target]? = some entry := hentry
  have htarget : target < a.history.length := (List.getElem?_eq_some_iff.mp hentry).1
  have hrevisit := halive.revisit hlookup htarget hnext.issued
    (hnext.fresh (hs.sound.tab ha)) entry.address
  have hfinal : (u.withTab tab (revisit target navigation entry.address)).tabs.lookup tab = some _ :=
    lookup_update_self hlookup _
  refine sat_read_bind.mpr ?_
  rw [hlookup, orFail_some, bind_of_ok (pure_apply _ u), hentry', orFail_some,
    bind_of_ok (pure_apply _ u), bind_of_ok (modifyTab_eq hlookup _)]
  refine sat_seq (bumpPrimaryUiForTab_sat (hrevisit.inv.alive_of_tab hfinal) hfinal) ?_ ?_
  · rintro _ t ⟨ht, hquiet⟩
    exact ⟨(hu.trans hrevisit).trans ht, navigation, rfl, a, engine, ha, hnext, hquiet⟩
  · rintro e t ⟨ht, hstopped, he⟩
    exact .of_stopped ((hu.trans hrevisit).trans ht) he hstopped

lemma historyTarget_eq_some {a : TabRecord} {forward : Bool} {target : ℕ} {entry : HistoryEntry}
    (h : historyTarget a forward = some (target, entry)) : a.history[target]? = some entry := by
  obtain ⟨index, -, h⟩ := bind_eq_some_iff.mp h
  obtain ⟨_, -, h⟩ := bind_eq_some_iff.mp h
  obtain ⟨_, hentry, h⟩ := bind_eq_some_iff.mp h
  obtain ⟨rfl, rfl⟩ := Prod.mk.inj (some.inj h)
  exact hentry

/-- **A step in the history visits the entry it leads to, if there is one.** -/
theorem goHistory_sat (hs : Alive s) (tab : BrowserTabId) (forward : Bool) :
    (goHistory tab forward s).Ends (fun outcome t => After s t ∧ ∃ a, s.tabs.lookup tab = some a ∧
        (historyTarget a.toTabRecord forward = none ∧ outcome = .noChange ∧ t = s ∨
          ∃ target entry navigation, historyTarget a.toTabRecord forward = some (target, entry) ∧
            outcome = .navigationQueued tab navigation ∧
            Revisited s t tab target entry.address navigation)) (Declined s) := by
  unfold goHistory
  rw [bind_of_ok (ensureRunning_eq hs)]
  refine (getTab_looks tab).sat_bind (fun e he => .refl (.inl hs) he) fun a ha => ?_
  cases htarget : historyTarget a.toTabRecord forward with
  | none => exact ⟨.refl (.inl hs), a, ha, .inl ⟨htarget, rfl, rfl⟩⟩
  | some found =>
    obtain ⟨target, entry⟩ := found
    refine (revisitEntry_sat hs ha (historyTarget_eq_some htarget) _ _).imp ?_
    rintro _ t ⟨ht, navigation, houtcome, hrevisited⟩
    exact ⟨ht, a, ha, .inr ⟨target, entry, navigation, htarget, houtcome, hrevisited⟩⟩

/-- **A reload visits the current entry again, if there is one.** -/
theorem reload_sat (hs : Alive s) (tab : BrowserTabId) :
    (reload tab s).Ends (fun outcome t => After s t ∧ ∃ a, s.tabs.lookup tab = some a ∧
        (a.historyIndex = none ∧ outcome = .noChange ∧ t = s ∨
          ∃ index entry navigation, a.historyIndex = some index ∧
            a.history[index]? = some entry ∧ outcome = .navigationQueued tab navigation ∧
            Revisited s t tab index entry.address navigation)) (Declined s) := by
  have hdeclined : ∀ e, Proper e → Declined s e s := fun e he => .refl (.inl hs) he
  unfold reload
  rw [bind_of_ok (ensureRunning_eq hs)]
  refine (getTab_looks tab).sat_bind hdeclined fun a ha => ?_
  cases hindex : a.historyIndex with
  | none => exact ⟨.refl (.inl hs), a, ha, .inl ⟨hindex, rfl, rfl⟩⟩
  | some index =>
    refine Looks.sat_bind (Looks.okOr trivial) hdeclined fun entry hentry => ?_
    refine (revisitEntry_sat hs ha hentry _ _).imp ?_
    rintro _ t ⟨ht, navigation, houtcome, hrevisited⟩
    exact ⟨ht, a, ha, .inr ⟨index, entry, navigation, hindex, hentry, houtcome, hrevisited⟩⟩

/-! ## What the commands keep -/

lemma goHistory_keeps (tab : BrowserTabId) (forward : Bool) :
    Keeps (E := E) (goHistory tab forward) :=
  .guarded fun _ hs => Declined.kept (goHistory_sat hs tab forward)

lemma reload_keeps (tab : BrowserTabId) : Keeps (E := E) (reload tab) :=
  .guarded fun _ hs => Declined.kept (reload_sat hs tab)

end

end BrowserSession

end WildBuzzard.Ui
