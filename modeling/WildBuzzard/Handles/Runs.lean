import Mathlib.Data.List.Perm.Lattice
import WildBuzzard.Handles.Arena
import WildBuzzard.Lib.Ledger

/-!
# Runs of an arena

An arena is created empty and then used by any sequence of `try_insert`, `remove` and `clear`, with
any values and any handles, stale and forged ones included. What such a run did is a history of
`Event`s, and the history says which handles were issued and which values are live.

* `Tracks`: the arena and its history agree on the handles issued and on what is live.
* `tracks_call`: every operation keeps them in agreement, and none panics.
* `handles_never_alias`: along every run, a handle resolves to exactly the value its insertion put
  in, as long as it was not removed, **and never afterwards**; no handle is issued twice; the
  counter counts the live values, and the free list is the list of the reusable slots.
-/

namespace WildBuzzard.Handles

open Lib List Arena Ledger Entry
open Lib.Ledger (Entry)

variable {T : Type}

/-- An operation that changes an arena. -/
inductive ArenaOp (T : Type) where
  | tryInsert (value : T)
  | remove (handle : RawHandle)
  | clear
  deriving DecidableEq, Repr

/-- An operation with what it returned. -/
inductive Event (T : Type) where
  | inserted (value : T) (handle : RawHandle)
  | rejected (value : T) (error : InsertError)
  | removed (handle : RawHandle) (result : Option T)
  | cleared (count : Nat)
  deriving DecidableEq, Repr

/-- What an event did to the handles. -/
def Event.entry : Event T → Option (Entry RawHandle T)
  | .inserted value handle => some (.issue handle value)
  | .rejected _ _ => none
  | .removed handle _ => some (.drop handle)
  | .cleared _ => some .dropAll

/-- Carry out an operation and note what it returned. -/
def ArenaOp.call : ArenaOp T → Call (Arena T) Empty (Event T)
  | .tryInsert value => (Arena.tryInsert value).settle (.inserted value) (.rejected value)
  | .remove handle => do
    let result ← Arena.remove handle
    pure (.removed handle result)
  | .clear => do
    let count ← Arena.clear
    pure (.cleared count)

/-- Carry out a sequence of operations. -/
def runArena : List (ArenaOp T) → Call (Arena T) Empty (List (Event T)) :=
  Call.runAll ArenaOp.call

/-- The handles issued in a history, oldest first. -/
def issued (history : List (Event T)) : List RawHandle :=
  Ledger.issued (history.filterMap Event.entry)

/-- The handles issued and neither removed nor cleared since, with the values inserted. -/
def live (history : List (Event T)) : List (RawHandle × T) :=
  Ledger.live (history.filterMap Event.entry)

/-! ## One operation -/

/-- The arena is what the history says. -/
structure Tracks (history : List (Event T)) (a : Arena T) : Prop where
  wf : a.Wf
  issued_iff : ∀ h, h ∈ issued history ↔ a.Issued h
  mem_live : ∀ h v, (h, v) ∈ live history ↔ a.get h = some v
  issued_nodup : (issued history).Nodup

lemma tracks_new : Tracks [] (new : Arena T) where
  wf := wf_new
  issued_iff h := by simp [issued, not_issued_new]
  mem_live h v := by simp [live, get_new]
  issued_nodup := nodup_nil

section Step

variable {history : List (Event T)} {a b : Arena T}

lemma issued_concat (event : Event T) :
    issued (history ++ [event]) = issued history ++ (event.entry.bind issued?).toList := by
  simp only [issued, filterMap_append, issued_append]
  cases h : event.entry <;> simp [h]

lemma live_concat_of_entry {event : Event T} {e : Entry RawHandle T} (h : event.entry = some e) :
    live (history ++ [event]) = record (live history) e := by
  simp only [live, filterMap_append, filterMap_cons, h, filterMap_nil]
  exact live_concat _ _

variable (ht : Tracks history a)
include ht

lemma tracks_inserted {v : T} {h : RawHandle} (hi : a.Inserted v h b) :
    Tracks (history ++ [.inserted v h]) b where
  wf := hi.1
  issued_iff k := by
    rw [issued_concat, hi.2.issued_iff k, ← ht.issued_iff k]
    simp [Event.entry, issued?]
  mem_live k w := by
    rw [live_concat_of_entry (e := .issue h v) rfl, hi.2.get_eq k]
    have hfresh : a.get h ≠ some w := fun hget => hi.2.fresh (issued_of_get hget)
    simp only [record, mem_append, mem_singleton, Prod.mk.injEq, ht.mem_live]
    split_ifs with hk
    · subst hk
      simp [hfresh, eq_comm]
    · simp [hk]
  issued_nodup := by
    rw [issued_concat]
    have hnew : h ∉ issued history := fun hmem => hi.2.fresh ((ht.issued_iff h).mp hmem)
    simp only [Event.entry, Option.bind_some, issued?, Option.toList_some]
    rw [← concat_eq_append, nodup_concat]
    exact ⟨hnew, ht.issued_nodup⟩

lemma tracks_removed {h : RawHandle} {r : Option T} (hr : a.Removed h r b) :
    Tracks (history ++ [.removed h r]) b where
  wf := hr.1
  issued_iff k := by
    rw [issued_concat, hr.issued_iff k, ← ht.issued_iff k]
    simp [Event.entry, issued?]
  mem_live k w := by
    rw [live_concat_of_entry (e := .drop h) rfl, hr.get_eq k]
    simp only [record, mem_filter, ht.mem_live]
    split_ifs with hk <;> simp [hk]
  issued_nodup := by
    rw [issued_concat]
    simpa [Event.entry, issued?] using ht.issued_nodup

lemma tracks_cleared (hwf : b.Wf) (hissued : ∀ k, b.Issued k ↔ a.Issued k)
    (hget : ∀ k, b.get k = none) (n : Nat) :
    Tracks (history ++ [.cleared n]) b where
  wf := hwf
  issued_iff k := by
    rw [issued_concat, hissued k, ← ht.issued_iff k]
    simp [Event.entry, issued?]
  mem_live k w := by
    rw [live_concat_of_entry (e := .dropAll) rfl, hget k]
    simp [record]
  issued_nodup := by
    rw [issued_concat]
    simpa [Event.entry, issued?] using ht.issued_nodup

lemma tracks_rejected (v : T) (e : InsertError) : Tracks (history ++ [.rejected v e]) a := by
  have hissued : issued (history ++ [.rejected v e]) = issued history := by
    simp [issued_concat, Event.entry]
  have hlive : live (history ++ [.rejected v e]) = live history := by
    rw [live, filterMap_append, filterMap_cons_none rfl, filterMap_nil, append_nil, live]
  exact ⟨ht.wf, by simpa [hissued] using ht.issued_iff, by simpa [hlive] using ht.mem_live,
    by simpa [hissued] using ht.issued_nodup⟩

/-- **Every operation keeps the arena and its history in agreement**, and none panics. -/
theorem tracks_call (op : ArenaOp T) :
    (op.call a).Ends (fun event b => Tracks (history ++ [event]) b) (fun _ _ => False) := by
  cases op with
  | tryInsert value =>
    refine Call.sat_settle.mpr ((tryInsert_sat ht.wf value).imp₂ ?_ ?_)
    · exact fun handle b hi => tracks_inserted ht hi
    · rintro error b rfl
      exact tracks_rejected ht value error
  | remove handle =>
    apply Call.sat_bind.mpr
    exact (remove_sat ht.wf handle).imp fun r b hr => tracks_removed ht hr
  | clear =>
    apply Call.sat_bind.mpr
    refine (clear_sat ht.wf).imp fun n b hb => ?_
    exact tracks_cleared ht hb.2.1 hb.2.2.1 hb.2.2.2 n

end Step

/-! ## Whole runs -/

variable {a : Arena T} {history : List (Event T)}

/-- A run from an arena that agrees with a history leads to one that agrees with the longer
history. -/
lemma tracks_run (ht : Tracks history a) (ops : List (ArenaOp T)) :
    (runArena ops a).Ends (fun events b => Tracks (history ++ events) b) (fun _ _ => False) :=
  Call.sat_runAll (I := Tracks) (fun _ _ op h => tracks_call h op) ht ops

/-- The handles `clear` would go through are pairwise different. -/
lemma liveHandles_nodup (a : Arena T) : a.liveHandles.Nodup := by
  have hindex : a.slots.zipIdx.Pairwise (fun p q => p.2 ≠ q.2) := by
    apply pairwise_map.mp
    rw [zipIdx_map_snd]
    exact nodup_range' 1
  refine hindex.filterMap _ fun p q hpq h hp k hk heq => hpq ?_
  simp only [liveHandle] at hp hk
  split_ifs at hp hk with hp' hk'
  have hslot : UInt32.ofNat p.2 = UInt32.ofNat q.2 := by
    have := (Option.some.inj hp).trans (heq.trans (Option.some.inj hk).symm)
    exact congrArg RawHandle.slot this
  have htoNat := congrArg UInt32.toNat hslot
  have hplt := hp'.2
  have hqlt := hk'.2
  simp only [UInt32.toNat_ofNat', maxSlotCount] at htoNat hplt hqlt
  omega

/-- The counter counts the handles that resolve. -/
lemma length_liveHandles (hwf : a.Wf) : a.liveHandles.length = a.len := by
  have hcount : a.slots.countP (fun slot => slot.value.isSome) =
      a.slots.zipIdx.countP ((fun slot => slot.value.isSome) ∘ Prod.fst) := by
    rw [← countP_map, zipIdx_map_fst]
  rw [liveHandles, length_filterMap_eq_countP, hwf.len_eq, hcount]
  apply countP_congr
  intro p hp
  have hlt : p.2 < maxSlotCount := by
    have := (List.getElem?_eq_some_iff.mp (mem_zipIdx_iff_getElem?.mp hp)).1
    exact Nat.lt_of_lt_of_le this hwf.slots_le
  simp [liveHandle, hlt]

/-- The counter counts the live values of the history. -/
lemma Tracks.len_eq (ht : Tracks history a) : a.len = (live history).length := by
  have hnames : ((live history).map Prod.fst).Nodup := live_names_nodup ht.issued_nodup
  have hperm : a.liveHandles.Perm ((live history).map Prod.fst) := by
    rw [perm_ext_iff_of_nodup (liveHandles_nodup a) hnames]
    intro h
    rw [mem_liveHandles, Option.isSome_iff_exists, mem_map]
    constructor
    · rintro ⟨v, hv⟩
      exact ⟨(h, v), (ht.mem_live h v).mpr hv, rfl⟩
    · rintro ⟨⟨k, v⟩, hmem, rfl⟩
      exact ⟨v, (ht.mem_live k v).mp hmem⟩
  rw [← length_liveHandles ht.wf, hperm.length_eq, length_map]

/-- A handle that was issued and is not live any more does not resolve. -/
lemma Tracks.get_dead {past future : List (Event T)} (ht : Tracks (past ++ future) a)
    {h : RawHandle} (hissued : h ∈ issued past) (hdead : h ∉ (live past).map Prod.fst) :
    a.get h = none := by
  apply Option.eq_none_iff_forall_ne_some.mpr
  intro v hv
  have hnodup := ht.issued_nodup
  have hmem := (ht.mem_live h v).mpr hv
  unfold issued at hnodup
  unfold live at hmem
  rw [filterMap_append] at hnodup hmem
  exact dead_stays_dead hnodup hissued hdead (mem_map_of_mem hmem)

/-- **Generational handles never alias.** Every sequence of insertions, removals and clears runs
without a panic, and in the state it ends in:

* a handle resolves to a value exactly when its insertion put that value in and neither a removal
  nor a clear ended it since;
* no two insertions issued the same slot and generation;
* a handle that had been ended at any earlier point does not resolve, whatever came after;
* the counter is the number of live values;
* the free list holds each empty slot that is not retired exactly once, and nothing else. -/
theorem handles_never_alias (ops : List (ArenaOp T)) :
    ∃ history a, runArena ops Arena.new = .ok history a ∧
      (∀ h v, a.get h = some v ↔ (h, v) ∈ live history) ∧ (issued history).Nodup ∧
      (∀ past future, history = past ++ future →
        ∀ h ∈ issued past, h ∉ (live past).map Prod.fst → a.get h = none) ∧
      a.len = (live history).length ∧ a.free.Nodup ∧ ∀ i : UInt32, i ∈ a.free ↔
        ∃ slot, a.slots[i.toNat]? = some slot ∧ slot.value = none ∧ slot.retired = false := by
  obtain ⟨history, a, hrun, ht⟩ := (tracks_run tracks_new ops).exists_ok
  rw [List.nil_append] at ht
  refine ⟨history, a, hrun, fun h v => (ht.mem_live h v).symm, ht.issued_nodup, ?_, ht.len_eq,
    ht.wf.free_nodup, ht.wf.mem_free⟩
  rintro past future rfl h hissued hdead
  exact ht.get_dead hissued hdead

end WildBuzzard.Handles
