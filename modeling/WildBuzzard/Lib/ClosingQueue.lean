import WildBuzzard.Lib.Call

/-!
# Queues that close

A bounded first-in first-out queue accepts items, delivers them and is shut down once. A `journal`
lists what it did, in the order it was done, and `Contract` is what such a queue promises about
every journal:

* `fifo`: what was delivered, then what is queued, **is what was accepted, in order**;
* `bounded`: no more is queued than the capacity;
* `shut`: nothing is accepted after the shutdown began;
* `honest`: a call reports that the queue is closed only when it is.

The lemmas `Contract.accept`, `deliver`, `refuse`, `miss` and `shutDown` say when one more entry
keeps the contract.
-/

namespace WildBuzzard.Lib.ClosingQueue

variable {α : Type}

/-- One call on the queue, with the part of its answer that the contract is about. -/
inductive Entry (α : Type) where
  /-- An item was taken in. -/
  | accepted (item : α)
  /-- An item was turned away, because the queue is closed to new items or for another reason. -/
  | refused (closed : Bool)
  /-- An item was handed over. -/
  | delivered (item : α)
  /-- There was no item to hand over, and the answer was or was not that none will come. -/
  | missed (closed : Bool)
  /-- Shutdown was asked for, and the answer was or was not that the queue is closed now. -/
  | shutDown (closed : Bool)
  deriving DecidableEq, Repr

/-- The item an entry takes in. -/
def Entry.accepted? : Entry α → Option α
  | .accepted item => some item
  | _ => none

/-- The item an entry hands over. -/
def Entry.delivered? : Entry α → Option α
  | .delivered item => some item
  | _ => none

/-- The items taken in, oldest first. -/
def accepted (journal : List (Entry α)) : List α := journal.filterMap Entry.accepted?

/-- The items handed over, oldest first. -/
def delivered (journal : List (Entry α)) : List α := journal.filterMap Entry.delivered?

/-- Shutdown has begun. -/
def Began (journal : List (Entry α)) : Prop := ∃ closed, Entry.shutDown closed ∈ journal

/-- A producer is told "closed" only after shutdown began, a consumer only if nothing is queued
either. -/
def Honest (past : List (Entry α)) : Entry α → Prop
  | .refused true => Began past
  | .missed true => Began past ∧ delivered past = accepted past
  | .shutDown true => delivered past = accepted past
  | _ => True

/-- What the queue promises, for a journal and the items queued after it. -/
structure Contract (capacity : Nat) (journal : List (Entry α)) (queued : List α) : Prop where
  fifo : delivered journal ++ queued = accepted journal
  bounded : queued.length ≤ capacity
  shut : ∀ past later, journal = past ++ later → Began past → accepted later = []
  honest : ∀ past e later, journal = past ++ e :: later → Honest past e

variable (journal : List (Entry α))

@[simp] lemma accepted_concat (e : Entry α) :
    accepted (journal ++ [e]) = accepted journal ++ e.accepted?.toList := by
  cases e <;> simp [accepted, Entry.accepted?]

@[simp] lemma delivered_concat (e : Entry α) :
    delivered (journal ++ [e]) = delivered journal ++ e.delivered?.toList := by
  cases e <;> simp [delivered, Entry.delivered?]

lemma not_began_nil : ¬Began ([] : List (Entry α)) := by
  rintro ⟨closed, h⟩
  simp at h

lemma began_shutDown (closed : Bool) : Began (journal ++ [.shutDown closed]) :=
  ⟨closed, by simp⟩

/-- Only a call that asks for shutdown begins it. -/
lemma began_concat {journal : List (Entry α)} {e : Entry α} (he : ∀ b, e ≠ .shutDown b) :
    Began (journal ++ [e]) ↔ Began journal := by
  constructor
  · rintro ⟨b, hb⟩
    rcases List.mem_append.mp hb with hb | hb
    · exact ⟨b, hb⟩
    · exact absurd (List.mem_singleton.mp hb).symm (he b)
  · rintro ⟨b, hb⟩
    exact ⟨b, List.mem_append_left _ hb⟩

namespace Contract

variable {capacity : Nat} {journal : List (Entry α)} {queued : List α} {closed : Bool}

lemma start : Contract capacity ([] : List (Entry α)) [] where
  fifo := rfl
  bounded := Nat.zero_le _
  shut past later h _ := by
    rw [(List.append_eq_nil_iff.mp h.symm).2]
    rfl
  honest past e later h := absurd h (by simp)

section

variable (hc : Contract capacity journal queued)
include hc

/-- Nothing is queued exactly when all that was accepted has been delivered. -/
lemma queued_eq_nil_iff : queued = [] ↔ delivered journal = accepted journal := by
  rw [← hc.fifo]
  simp

/-- One more entry keeps the contract. -/
lemma concat {e : Entry α} {queued' : List α}
    (hfifo : delivered (journal ++ [e]) ++ queued' = accepted (journal ++ [e]))
    (hbound : queued'.length ≤ capacity) (hshut : Began journal → e.accepted? = none)
    (hhonest : Honest journal e) : Contract capacity (journal ++ [e]) queued' where
  fifo := hfifo
  bounded := hbound
  shut past later h hbegan := by
    rcases concat_eq_append_cases h with ⟨_, rfl⟩ | ⟨rest, hjournal, rfl⟩
    · rfl
    · have hbegan' : Began journal := by
        obtain ⟨b, hb⟩ := hbegan
        exact ⟨b, by rw [hjournal]; exact List.mem_append_left _ hb⟩
      rw [accepted_concat, hc.shut past rest hjournal hbegan, hshut hbegan']
      rfl
  honest past e' later h := by
    rcases concat_eq_append_cases h with ⟨_, hnil⟩ | ⟨rest, hjournal, hrest⟩
    · simp at hnil
    · rcases rest with _ | ⟨x, rest⟩
      · obtain ⟨rfl, rfl⟩ : e' = e ∧ later = [] := by simpa using hrest
        rw [List.append_nil] at hjournal
        rw [← hjournal]
        exact hhonest
      · obtain ⟨rfl, rfl⟩ : e' = x ∧ later = rest ++ [e] := by simpa using hrest
        exact hc.honest past e' rest hjournal

lemma accept (hbegan : ¬Began journal) (hroom : queued.length < capacity) (item : α) :
    Contract capacity (journal ++ [.accepted item]) (queued ++ [item]) := by
  apply hc.concat
  · simp [Entry.accepted?, Entry.delivered?, ← hc.fifo]
  · simpa using Nat.succ_le_of_lt hroom
  · exact fun h => absurd h hbegan
  · trivial

omit hc in
lemma deliver {item : α} (hc : Contract capacity journal (item :: queued)) :
    Contract capacity (journal ++ [.delivered item]) queued := by
  apply hc.concat
  · simp [Entry.accepted?, Entry.delivered?, ← hc.fifo]
  · exact Nat.le_of_succ_le hc.bounded
  · exact fun _ => rfl
  · trivial

/-- An entry that moves no item. -/
lemma still {e : Entry α} (haccepted : e.accepted? = none) (hdelivered : e.delivered? = none)
    (hhonest : Honest journal e) : Contract capacity (journal ++ [e]) queued := by
  refine hc.concat ?_ hc.bounded (fun _ => haccepted) hhonest
  simpa [haccepted, hdelivered] using hc.fifo

lemma refuse (h : closed = true → Began journal) :
    Contract capacity (journal ++ [.refused closed]) queued := by
  refine hc.still rfl rfl ?_
  cases closed with
  | false => trivial
  | true => exact h rfl

end

lemma miss (hc : Contract capacity journal [])
    (h : closed = true → Began journal) : Contract capacity (journal ++ [.missed closed]) [] := by
  refine hc.still rfl rfl ?_
  cases closed with
  | false => trivial
  | true => exact ⟨h rfl, hc.queued_eq_nil_iff.mp rfl⟩

lemma shutDown (hc : Contract capacity journal queued) (h : closed = true → queued = []) :
    Contract capacity (journal ++ [.shutDown closed]) queued := by
  refine hc.still rfl rfl ?_
  cases closed with
  | false => trivial
  | true => exact hc.queued_eq_nil_iff.mp (h rfl)

end Contract

end WildBuzzard.Lib.ClosingQueue
