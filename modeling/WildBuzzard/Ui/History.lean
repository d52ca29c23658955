import WildBuzzard.Lib.Zipper
import WildBuzzard.Ui.Structure

/-!
# The session history

The reference of a tab's history is a zipper of visits, which say for themselves what a command or
an event does to them. `Tracks` runs a session and the reference side by side: a command that is
accepted is a command of the reference, an event reports about the visit whose latest navigation it
names, and a refusal is nothing. **The history of the tab is the reference, in every such run**
(`tracks_history`). A step does nothing exactly at the ends, and the visible address changes with an
event only if it commits the current entry and nobody edits the address.
-/

namespace WildBuzzard.Ui

open Lib Engine Zipper Option

/-- The history of a tab, seen from its current entry. -/
def TabRecord.zipper (a : TabRecord) : Option (Zipper HistoryEntry) :=
  a.historyIndex.bind (Zipper.ofList a.history)

/-- A visit of the reference: the address it came to, the navigation that was started for it last,
how far that navigation is and what came with its commit. -/
structure Visit where
  address : List Char
  latest : NavigationId
  status : HistoryEntryState
  commit : Option HistoryCommitState

/-- What the reference knows of a history entry. -/
def HistoryEntry.visit (entry : HistoryEntry) : Visit :=
  ⟨entry.address, entry.navigation, entry.state, entry.commit⟩

/-- The visits of a tab, seen from its current entry. -/
def TabRecord.visits (a : TabRecord) : Option (Zipper Visit) := a.zipper.map (.map HistoryEntry.visit)

namespace Visit

/-- A visit to an address. -/
def first (address : List Char) (navigation : NavigationId) : Visit :=
  ⟨address, navigation, .requested, none⟩

/-- Another visit to the same address. -/
def again (navigation : NavigationId) (visit : Visit) : Visit := first visit.address navigation

/-- A commit, to the final URL that came with it if there is one. -/
def committed (httpStatus : ℕ) (answer : Option NavigationCommitMetadata) (visit : Visit) : Visit :=
  match answer with
  | some ⟨url, redirects, security, downgrade, _⟩ =>
    ⟨url, visit.latest, .committed httpStatus, some ⟨security, redirects, downgrade⟩⟩
  | none => ⟨visit.address, visit.latest, .committed httpStatus, some ⟨.cleartext, 0, false⟩⟩

/-- What an event reports about a visit: something only if it names its latest navigation. -/
def reported (answer : Option NavigationCommitMetadata) (event : EnginePortEventKind)
    (visit : Visit) : Visit :=
  match event with
  | .navigationStarted navigation =>
    if visit.latest = navigation then { visit with status := .loading } else visit
  | .navigationCommitted navigation httpStatus =>
    if visit.latest = navigation then visit.committed httpStatus answer else visit
  | .navigationCancelled navigation =>
    if visit.latest = navigation then { visit with status := .cancelled } else visit
  | .navigationFailed navigation failure =>
    if visit.latest = navigation then { visit with status := .failed failure } else visit
  | _ => visit

end Visit

namespace BrowserSession

variable {E : Type} {s t : BrowserSession E} {tab : BrowserTabId} {a : TabState}
  {navigation : NavigationId} {z : Option (Zipper Visit)}

/-! ## The reference -/

/-- A step to a visit that is then repeated; nothing at the ends. -/
def traverse (forward : Bool) (navigation : NavigationId) (z : Zipper Visit) : Zipper Visit :=
  ((z.step forward).map (.revise (.again navigation))).getD z

/-- What a command does to the reference, given what the session answered. -/
def reference (limit : ℕ) (command : BrowserCommand) (outcome : BrowserCommandOutcome)
    (z : Option (Zipper Visit)) : Option (Zipper Visit) :=
  match command, outcome with
  | .navigate _ address, .navigationQueued _ navigation =>
    some (.visit limit (.first address navigation) z)
  | .back _, .navigationQueued _ navigation => z.map (traverse false navigation)
  | .forward _, .navigationQueued _ navigation => z.map (traverse true navigation)
  | .reload _, .navigationQueued _ navigation => z.map (.revise (.again navigation))
  | _, _ => z

/-- The commands of the history of a tab. -/
inductive HistoryCommand (tab : BrowserTabId) : BrowserCommand → Prop
  | navigate (address : List Char) : HistoryCommand tab (.navigate tab address)
  | back : HistoryCommand tab (.back tab)
  | forward : HistoryCommand tab (.forward tab)
  | reload : HistoryCommand tab (.reload tab)

/-- A session and the reference of a tab's history, side by side. -/
inductive Tracks [EnginePort E] [UrlParser] (tab : BrowserTabId) :
    BrowserSession E → Option (Zipper Visit) → Prop
  | start (s : BrowserSession E) (a : TabState) (h : Reachable s)
      (ha : s.tabs.lookup tab = some a) : Tracks tab s a.visits
  | accepted (s t : BrowserSession E) (z : Option (Zipper Visit)) (command : BrowserCommand)
      (outcome : BrowserCommandOutcome) (h : Tracks tab s z) (hcommand : HistoryCommand tab command)
      (hok : dispatch command s = .ok outcome t) :
      Tracks tab t (reference s.limits.maxHistoryEntries command outcome z)
  | refused (s t : BrowserSession E) (z : Option (Zipper Visit)) (command : BrowserCommand)
      (error : SessionError) (h : Tracks tab s z) (hcommand : HistoryCommand tab command)
      (herr : dispatch command s = .err error t) : Tracks tab t z
  | polled (s t : BrowserSession E) (z : Option (Zipper Visit)) (event : EnginePortEvent)
      (later : E) (answer : Option NavigationCommitMetadata) (outcome : EnginePumpOutcome)
      (h : Tracks tab s z) (hevent : Answers s EnginePort.pollEvent (some event) later)
      (hanswer : HandsOut later event.kind answer) (hok : pollEngineOnce s = .ok outcome t) :
      Tracks tab t (z.map (.map (.reported answer event.kind)))
  | empty (s t : BrowserSession E) (z : Option (Zipper Visit)) (later : E)
      (outcome : EnginePumpOutcome) (h : Tracks tab s z)
      (hevent : Answers s EnginePort.pollEvent none later) (hok : pollEngineOnce s = .ok outcome t) :
      Tracks tab t z
  | unpolled (s t : BrowserSession E) (z : Option (Zipper Visit)) (error : SessionError)
      (h : Tracks tab s z) (herr : pollEngineOnce s = .err error t) : Tracks tab t z
  | environment (s : BrowserSession E) (z : Option (Zipper Visit)) (engine : E → E)
      (reservations : List Bool) (h : Tracks tab s z) :
      Tracks tab { s with engine := s.engine.map engine, reservations := reservations } z

/-! ## Histories as zippers -/

variable {limits : SessionLimits}

/-- **A new entry of a tab is a visit of the reference.** -/
theorem zipper_appendToHistory (h : TabSound limits a.toTabRecord) (entry : HistoryEntry)
    (accepted : List Char) :
    (appendToHistory limits.maxHistoryEntries entry accepted a).zipper =
      some (.visit limits.maxHistoryEntries entry a.zipper) := by
  have hkept := keptEntries_le h
  have hentries := h.entries
  have htrail : trail a.zipper = (a.history.take (keptEntries a.toTabRecord)).reverse := by
    unfold TabRecord.zipper keptEntries
    cases hindex : a.historyIndex with
    | none => rfl
    | some index => exact trail_ofList (h.index index hindex)
  obtain ⟨before, happend, -⟩ := appendEntry_eq_concat h entry
  have hbefore : before.reverse =
      (trail a.zipper).take (limits.maxHistoryEntries - 1) := by
    rw [htrail, List.take_reverse, List.length_take, Nat.min_eq_left hkept]
    refine congrArg List.reverse (List.append_cancel_right (happend.symm.trans ?_))
    rw [appendEntry_eq h, appended]
    split_ifs with hfull
    · -- A full history keeps all it may, so that the oldest entry is dropped.
      have hone : keptEntries a.toTabRecord - (limits.maxHistoryEntries - 1) = 1 := by
        have hpos := limits.historyEntries.1
        omega
      rw [hone, List.drop_one, List.tail_append_of_ne_nil]
      intro hnil
      have hlength := congrArg List.length hnil
      rw [List.length_take, Nat.min_eq_left hkept, List.length_nil] at hlength
      omega
    · rw [Nat.sub_eq_zero_of_le (by omega), List.drop_zero]
  unfold TabRecord.zipper appendToHistory visit
  simp only [happend, List.length_append, List.length_singleton]
  rw [checkedSub_of_le (Nat.le_add_left 1 _), Nat.add_sub_cancel, bind_some, ofList_concat, hbefore]
  rfl

/-- **A step in the history is a step of the reference.** -/
theorem step_zipper {a : TabRecord} (h : TabSound limits a) (forward : Bool) :
    a.zipper.bind (step forward) =
      (historyTarget a forward).bind fun found => ofList a.history found.1 := by
  unfold TabRecord.zipper historyTarget
  cases hindex : a.historyIndex with
  | none => rfl
  | some index =>
    have htarget (target : ℕ) : ofList a.history target =
        (a.history[target]?.bind fun entry => some (target, entry)).bind fun found =>
          ofList a.history found.1 := by
      cases hentry : a.history[target]? with
      | none => exact ofList_eq_none.mpr (List.getElem?_eq_none_iff.mp hentry)
      | some entry => rfl
    have hsome : ∃ z, ofList a.history index = some z :=
      ne_none_iff_exists'.mp fun hnone =>
        (h.index index hindex).not_ge (ofList_eq_none.mp hnone)
    obtain ⟨z, hz⟩ := hsome
    simp only [bind_some, hz, step_ofList hz, bind_eq_bind, pure_def, stepIndex]
    cases forward with
    | true => exact htarget (index + 1)
    | false =>
      cases index with
      | zero => rfl
      | succ index => exact htarget index

/-! ## One step -/

/-- What is shown of a tab in a session whose views are known. -/
lemma lookup_of_views {g : TabState → List HistoryEntry × Option ℕ × List Char}
    (h : t.views = s.tabs.mapValues g) (ha : s.tabs.lookup tab = some a) :
    ∃ b, t.tabs.lookup tab = some b ∧ b.view = g a := by
  have hlookup := congrArg (Finmap.lookup tab) h
  rw [views, Table.lookup_mapValues, Table.lookup_mapValues, ha] at hlookup
  exact map_eq_some_iff.mp hlookup

lemma visits_revise (navigation : NavigationId) (z : Zipper HistoryEntry) :
    (z.revise (renavigate navigation)).map HistoryEntry.visit =
      (z.map HistoryEntry.visit).revise (.again navigation) :=
  map_revise (k := HistoryEntry.visit) (fun _ => rfl) z

/-- A step is one of the visits. -/
lemma step_visits (a : TabRecord) (forward : Bool) :
    a.visits.bind (step forward) = (a.zipper.bind (step forward)).map (.map HistoryEntry.visit) := by
  unfold TabRecord.visits
  cases a.zipper with
  | none => rfl
  | some z => exact step_map _ _ z

lemma visits_of_view {a b : TabState} (h : b.view = a.view) : b.visits = a.visits := by
  obtain ⟨hhistory, hindex, -⟩ := Prod.mk.inj h |>.imp_right Prod.mk.inj
  unfold TabRecord.visits TabRecord.zipper
  rw [hhistory, hindex]

/-- What follows a change quietly shows the tab as the change left it. -/
lemma Quiet.visits (h : Quiet s t) (ha : s.tabs.lookup tab = some a) :
    ∃ b, t.tabs.lookup tab = some b ∧ b.visits = a.visits := by
  obtain ⟨b, hb, hview⟩ := lookup_of_views (g := TabState.view) h.views_eq ha
  exact ⟨b, hb, visits_of_view hview⟩

lemma Revisited.visits {target : ℕ} {address : List Char} (ha : s.tabs.lookup tab = some a)
    (h : Revisited s t tab target address navigation) :
    ∃ b, t.tabs.lookup tab = some b ∧ b.visits =
      ((ofList a.history target).map (.map HistoryEntry.visit)).map (.revise (.again navigation)) := by
  obtain ⟨_, engine, ha', -, hquiet⟩ := h
  obtain ⟨b, hb, hvisits⟩ := hquiet.visits
    (Table.lookup_update_self (lookup_admitted_self (s := { s with engine := some engine }) ha
      navigation) _)
  refine ⟨b, hb, hvisits.trans ?_⟩
  have hmodify := congrArg (Option.map (Zipper.map HistoryEntry.visit))
    (ofList_modify (renavigate navigation) a.history target)
  refine hmodify.trans ?_
  rw [map_map, map_map]
  exact congrArg (Option.map · _) (funext (visits_revise navigation))

section Engine

variable [EnginePort E] {command : BrowserCommand}

variable {outcome : BrowserCommandOutcome} {event : EnginePortEventKind}
variable {answer : Option NavigationCommitMetadata}

section

variable (hs : Alive s) (ha : s.tabs.lookup tab = some a)
include hs ha

lemma navigateNew_visits {address : List Char} (hok : navigateNew tab address s = .ok outcome t) :
    ∃ b, t.tabs.lookup tab = some b ∧ b.visits =
      reference s.limits.maxHistoryEntries (.navigate tab address) outcome a.visits := by
  obtain ⟨-, navigation, rfl, _, engine, bytes, ha', -, hquiet⟩ :=
    (navigateNew_sat hs tab address).of_ok hok
  obtain ⟨b, hb, hvisits⟩ := hquiet.visits
    (Table.lookup_update_self (lookup_admitted_self (s := { s with engine := some engine }) ha
      navigation) _)
  refine ⟨b, hb, hvisits.trans ?_⟩
  have happend :=
    zipper_appendToHistory (hs.sound.tab ha) (requestedEntry address navigation) address
  refine (congrArg (Option.map (Zipper.map HistoryEntry.visit)) happend).trans ?_
  exact congrArg some (map_visit ..)

/-- **A step in the history is one of the reference, and nothing exactly where it has none.** -/
theorem goHistory_visits {forward : Bool} (hok : goHistory tab forward s = .ok outcome t) :
    (outcome = .noChange ∧ a.visits.bind (step forward) = none ∧ t = s) ∨
      ∃ navigation w b, outcome = .navigationQueued tab navigation ∧
        a.visits.bind (step forward) = some w ∧ t.tabs.lookup tab = some b ∧
        b.visits = a.visits.map (traverse forward navigation) := by
  obtain ⟨-, _, ha', hcases⟩ := (goHistory_sat hs tab forward).of_ok hok
  obtain rfl := some.inj (ha.symm.trans ha')
  have hstep := step_visits a.toTabRecord forward
  rw [step_zipper (hs.sound.tab ha)] at hstep
  rcases hcases with ⟨hnone, houtcome, rfl⟩ | ⟨target, entry, navigation, hsome, houtcome, hgo⟩
  · refine .inl ⟨houtcome, ?_, rfl⟩
    rw [hstep, hnone]
    rfl
  · rw [hsome, bind_some] at hstep
    obtain ⟨b, hb, hvisits⟩ := hgo.visits ha
    have hlt : target < a.history.length :=
      (List.getElem?_eq_some_iff.mp (historyTarget_eq_some hsome)).1
    obtain ⟨w, hw⟩ : ∃ w, ofList a.history target = some w :=
      ne_none_iff_exists'.mp fun hnone => hlt.not_ge (ofList_eq_none.mp hnone)
    rw [hw] at hstep hvisits
    refine .inr ⟨navigation, _, b, houtcome, hstep, hb, hvisits.trans ?_⟩
    obtain ⟨z, hz, hzw⟩ := bind_eq_some_iff.mp hstep
    rw [hz, map_some, map_some, map_some, traverse, hzw]
    rfl

lemma reload_visits (hok : reload tab s = .ok outcome t) :
    ∃ b, t.tabs.lookup tab = some b ∧
      b.visits = reference s.limits.maxHistoryEntries (.reload tab) outcome a.visits := by
  obtain ⟨-, _, ha', hcases⟩ := (reload_sat hs tab).of_ok hok
  obtain rfl := some.inj (ha.symm.trans ha')
  rcases hcases with ⟨hnone, rfl, rfl⟩ | ⟨index, entry, navigation, hindex, -, rfl, hgo⟩
  · exact ⟨a, ha, rfl⟩
  · obtain ⟨b, hb, hvisits⟩ := hgo.visits ha
    refine ⟨b, hb, hvisits.trans ?_⟩
    unfold reference TabRecord.visits TabRecord.zipper
    rw [hindex, bind_some]

/-- An accepted command of the history is that of the reference. -/
lemma dispatch_visits (hcommand : HistoryCommand tab command)
    (hok : dispatch command s = .ok outcome t) :
    ∃ b, t.tabs.lookup tab = some b ∧
      b.visits = reference s.limits.maxHistoryEntries command outcome a.visits := by
  cases hcommand with
  | navigate address => exact navigateNew_visits hs ha hok
  | back =>
    rcases goHistory_visits hs ha hok with ⟨rfl, -, rfl⟩ | ⟨navigation, w, b, rfl, -, hb, hvisits⟩
    · exact ⟨a, ha, rfl⟩
    · exact ⟨b, hb, hvisits⟩
  | forward =>
    rcases goHistory_visits hs ha hok with ⟨rfl, -, rfl⟩ | ⟨navigation, w, b, rfl, -, hb, hvisits⟩
    · exact ⟨a, ha, rfl⟩
    · exact ⟨b, hb, hvisits⟩
  | reload => exact reload_visits hs ha hok

end

/-- A refused command of the history changes no tab. -/
lemma dispatch_declined (hs : Alive s)
    (hcommand : HistoryCommand tab command) {error : SessionError}
    (herr : dispatch command s = .err error t) : Declined s error t := by
  cases hcommand with
  | navigate address => exact (navigateNew_sat hs tab address).of_err herr
  | back => exact (goHistory_sat hs tab false).of_err herr
  | forward => exact (goHistory_sat hs tab true).of_err herr
  | reload => exact (reload_sat hs tab).of_err herr

/-- What is handed out for an event decides what it shows. -/
lemma eventView_unique {engine : E} {answer answer' : Option NavigationCommitMetadata}
    (h : HandsOut engine event answer) (h' : HandsOut engine event answer') :
    eventView answer event = eventView answer' event := by
  cases event with
  | navigationCommitted navigation httpStatus =>
    obtain ⟨later, hlater⟩ := h
    obtain ⟨later', hlater'⟩ := h'
    rw [hlater] at hlater'
    cases hlater'
    rfl
  | _ => rfl

/-- A change of one entry is a change of one visit. -/
lemma visit_onEntry {f : HistoryEntry → HistoryEntry} {entry : HistoryEntry} {visit : Visit}
    (h : (f entry).visit = visit) (navigation : NavigationId) :
    (onEntry navigation f entry).visit =
      if entry.visit.latest = navigation then visit else entry.visit := by
  unfold onEntry
  rw [apply_ite HistoryEntry.visit, h]
  rfl

/-- The history that an event shows. -/
lemma visits_of_eventView {a b : TabState} (h : b.view = eventView answer event a) :
    b.visits = a.visits.map (.map (.reported answer event)) := by
  have hmap {f : HistoryEntry → HistoryEntry}
      (hf : ∀ entry, (f entry).visit = entry.visit.reported answer event)
      (hhistory : b.history = a.history.map f) (hindex : b.historyIndex = a.historyIndex) :
      b.visits = a.visits.map (.map (.reported answer event)) := by
    unfold TabRecord.visits TabRecord.zipper
    rw [hhistory, hindex]
    cases a.historyIndex with
    | none => rfl
    | some index =>
      rw [bind_some, bind_some, ofList_map, map_map, map_map]
      exact congrArg (Option.map · _) (funext (map_map_of_comm hf))
  have hhistory := congrArg Prod.fst h
  have hindex := congrArg (fun view => view.2.1) h
  cases event with
  | navigationStarted navigation =>
    exact hmap (fun _ => visit_onEntry rfl navigation) hhistory hindex
  | navigationCommitted navigation httpStatus =>
    refine hmap (fun _ => visit_onEntry ?_ navigation) hhistory hindex
    cases answer <;> rfl
  | navigationCancelled navigation =>
    exact hmap (fun _ => visit_onEntry rfl navigation) hhistory hindex
  | navigationFailed navigation failure =>
    exact hmap (fun _ => visit_onEntry rfl navigation) hhistory hindex
  | _ => exact hmap (fun _ => rfl) (hhistory.trans (List.map_id _).symm) hindex

/-- The visible address follows a commit of the current entry that nobody edits, and no other
event. -/
lemma address_of_eventView {a b : TabState} {kind : EnginePortEventKind}
    (h : b.view = eventView answer kind a) (hne : b.address.text ≠ a.address.text) :
    ∃ navigation httpStatus, kind = .navigationCommitted navigation httpStatus ∧
      currentNavigation a.toTabRecord = some navigation ∧ ¬a.address.dirty ∧
      a.address.preedit.isNone := by
  have htext := congrArg (fun view => view.2.2) h
  cases kind with
  | navigationCommitted navigation httpStatus =>
    refine ⟨navigation, httpStatus, rfl, ?_⟩
    by_contra hcurrent
    exact hne (htext.trans (if_neg hcurrent))
  | _ => exact absurd htext hne

/-- A session that has ended takes no command. -/
lemma dispatch_ended (hs : s.lifecycle ≠ .running)
    (hcommand : HistoryCommand tab command) : dispatch command s = .err .notRunning s := by
  cases hcommand <;> exact ensureRunning_bind_ended hs _

section Poll

variable [UrlParser] {event : EnginePortEvent} {later : E} {outcome : EnginePumpOutcome}

/-- A poll does what the engine's answer says. -/
lemma polled_of_ok (hs : Alive s) {polled : Option EnginePortEvent}
    (hevent : Answers s EnginePort.pollEvent polled later)
    (hok : pollEngineOnce s = .ok outcome t) :
    polled.elim (t.views = s.views) fun event =>
      Shows event.kind { s with engine := some later } t := by
  obtain ⟨-, -, answered, later', ⟨engine, hengine, hcall⟩, hshown⟩ :=
    (pollEngineOnce_sat hs).of_ok hok
  obtain ⟨engine', hengine', hcall'⟩ := hevent
  obtain rfl := some.inj (hengine.symm.trans hengine')
  rw [hcall] at hcall'
  cases hcall'
  exact hshown

/-- **A poll shows what its event does.** -/
theorem poll_shows (hs : Alive s) {answer : Option NavigationCommitMetadata}
    (hevent : Answers s EnginePort.pollEvent (some event) later)
    (hanswer : HandsOut later event.kind answer) (hok : pollEngineOnce s = .ok outcome t) :
    t.views = s.tabs.mapValues (eventView answer event.kind) := by
  obtain ⟨engine, answer', ⟨rfl⟩, hanswer', hviews⟩ := polled_of_ok hs hevent hok
  rw [eventView_unique hanswer hanswer']
  exact hviews

/-! ## Every run -/

lemma Tracks.inv (h : Tracks tab s z) : Inv s := by
  induction h with
  | start s a h ha => exact h.inv
  | accepted s t z command outcome _ hcommand hok ih =>
    exact ((dispatch_keeps command s ih).of_ok hok).inv
  | refused s t z command error _ hcommand herr ih =>
    exact ((dispatch_keeps command s ih).of_err herr).1.inv
  | polled s t z event later answer outcome _ hevent hanswer hok ih =>
    exact ((pollEngineOnce_keeps s ih).of_ok hok).inv
  | empty s t z later outcome _ hevent hok ih => exact ((pollEngineOnce_keeps s ih).of_ok hok).inv
  | unpolled s t z error _ herr ih => exact ((pollEngineOnce_keeps s ih).of_err herr).1.inv
  | environment s z engine reservations _ ih => exact (after_environment ih engine reservations).inv

/-- **The history of a tab is the reference.** -/
theorem Tracks.visits_eq (h : Tracks tab s z) (hr : s.lifecycle = .running) :
    ∃ a, s.tabs.lookup tab = some a ∧ a.visits = z := by
  -- A call of a session that has ended is refused, so what runs after a step ran before it.
  have hkept {s t : BrowserSession E} {z : Option (Zipper Visit)} (hviews : t.views = s.views)
      (ih : ∃ a, s.tabs.lookup tab = some a ∧ a.visits = z) :
      ∃ a, t.tabs.lookup tab = some a ∧ a.visits = z := by
    obtain ⟨a, ha, hz⟩ := ih
    obtain ⟨b, hb, hview⟩ := lookup_of_views (g := TabState.view) hviews ha
    exact ⟨b, hb, (visits_of_view hview).trans hz⟩
  induction h with
  | start s a h ha => exact ⟨a, ha, rfl⟩
  | accepted s t z command outcome h hcommand hok ih =>
    by_cases hrunning : s.lifecycle = .running
    · obtain ⟨a, ha, rfl⟩ := ih hrunning
      exact dispatch_visits (h.inv.alive_of_running hrunning) ha hcommand hok
    · cases (dispatch_ended hrunning hcommand).symm.trans hok
  | refused s t z command error h hcommand herr ih =>
    by_cases hrunning : s.lifecycle = .running
    · have hdeclined := dispatch_declined (h.inv.alive_of_running hrunning) hcommand herr
      obtain ⟨engine, rfl⟩ := hdeclined.2.2 hr
      exact ih hrunning
    · cases (dispatch_ended hrunning hcommand).symm.trans herr
      exact absurd hr hrunning
  | polled s t z event later answer outcome h hevent hanswer hok ih =>
    by_cases hrunning : s.lifecycle = .running
    · obtain ⟨a, ha, rfl⟩ := ih hrunning
      have hviews := poll_shows (h.inv.alive_of_running hrunning) hevent hanswer hok
      obtain ⟨b, hb, hview⟩ := lookup_of_views hviews ha
      exact ⟨b, hb, visits_of_eventView hview⟩
    · cases (ensureRunning_bind_ended hrunning _).symm.trans hok
  | empty s t z later outcome h hevent hok ih =>
    by_cases hrunning : s.lifecycle = .running
    · exact hkept (polled_of_ok (h.inv.alive_of_running hrunning) hevent hok) (ih hrunning)
    · cases (ensureRunning_bind_ended hrunning _).symm.trans hok
  | unpolled s t z error h herr ih =>
    by_cases hrunning : s.lifecycle = .running
    · have herror := (pollEngineOnce_sat (h.inv.alive_of_running hrunning)).of_err herr
      exact hkept (herror.2.2 hr) (ih hrunning)
    · cases (ensureRunning_bind_ended hrunning _).symm.trans herr
      exact absurd hr hrunning
  | environment s z engine reservations _ ih => exact ih hr

/-- **The history of a tab is the standard back and forward list**, in every run of its commands and
of the engine's events; a step does nothing exactly at the ends, and an event changes the visible
address only if it commits the current entry and the draft is neither dirty nor being composed. -/
theorem tracks_history (h : Tracks tab s z) (hr : s.lifecycle = .running) :
    ∃ a, s.tabs.lookup tab = some a ∧ a.visits = z ∧
      (∀ forward outcome t, goHistory tab forward s = .ok outcome t →
        (outcome = .noChange ↔ z.bind (Zipper.step forward) = none) ∧
          (outcome = .noChange → t = s)) ∧
      ∀ event later outcome t b, Answers s EnginePort.pollEvent (some event) later →
        pollEngineOnce s = .ok outcome t → t.tabs.lookup tab = some b →
        b.address.text ≠ a.address.text →
        ∃ navigation httpStatus, event.kind = .navigationCommitted navigation httpStatus ∧
          currentNavigation a.toTabRecord = some navigation ∧ ¬a.address.dirty ∧
          a.address.preedit.isNone := by
  have hs := h.inv.alive_of_running hr
  obtain ⟨a, ha, rfl⟩ := h.visits_eq hr
  refine ⟨a, ha, rfl, ?_, ?_⟩
  · intro forward outcome t hok
    rcases goHistory_visits hs ha hok with ⟨rfl, hstep, rfl⟩ | ⟨navigation, w, b, rfl, hstep, -⟩
    · simp [hstep]
    · simp [hstep]
  · intro event later outcome t b hevent hok hb hne
    obtain ⟨engine, answer, -, -, hviews⟩ := polled_of_ok hs hevent hok
    obtain ⟨b', hb', hview⟩ := lookup_of_views hviews ha
    obtain rfl := Option.some.inj (hb.symm.trans hb')
    exact address_of_eventView hview hne

end Poll

end Engine

/-! ## A late commit -/

attribute [local instance] siteParser

/-- The navigation of a reload in the first tab. -/
def secondNavigation : NavigationId := ⟨firstNavigation.context, ⟨⟨2, Nat.succ_ne_zero 1⟩⟩⟩

/-- The first navigation of a page is redirected to another one, the second is not reported. -/
def superseding : ScriptedEngine :=
  { redirected (home ++ ['x']) (by decide) with
    navigations := [firstNavigation, secondNavigation] }

/-- A page is visited and reloaded; then its first navigation is committed to another address, which
changes nothing. -/
theorem tracks_history_late_commit :
    ∃ s a, played superseding [.dispatch (.navigate firstTab home), .dispatch (.reload firstTab),
        .pollEngineOnce, .pollEngineOnce] = some s ∧ s.lifecycle = .running ∧
      s.tabs.lookup firstTab = some a ∧
      a.visits = some ⟨[], ⟨home, secondNavigation, .requested, none⟩, []⟩ := by
  have hstart : Tracks firstTab _ _ :=
    .start _ _ ⟨superseding, smallLimits, .generalWeb, [], _, rfl, .refl⟩ rfl
  have hvisited := Tracks.accepted _ _ _ _ _ hstart (.navigate home) rfl
  have hreloaded := Tracks.accepted _ _ _ _ _ hvisited .reload rfl
  have hstarted := Tracks.polled _ _ _ _ _ none _ hreloaded ⟨_, rfl, rfl⟩ trivial rfl
  have hcommitted := Tracks.polled _ _ _ _ _ _ _ hstarted ⟨_, rfl, rfl⟩ ⟨_, rfl⟩ rfl
  obtain ⟨a, ha, hvisits, -⟩ := tracks_history hcommitted rfl
  exact ⟨_, a, rfl, rfl, ha, hvisits⟩

end BrowserSession

end WildBuzzard.Ui
