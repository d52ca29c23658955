import Mathlib.Data.List.Induction
import Mathlib.Data.List.Nodup

/-!
# Names that are issued and dropped

A registry hands out names for the values it stores and drops them again. What it has done is a
list of `Entry`s, and two functions read that history: `issued`, the names handed out in order, and
`live`, the names and values that have not been dropped since.

* `dead_stays_dead`: **if no name is ever issued twice, a name that was issued and is no longer live
  is never live again**, whatever the history goes on with.
-/

namespace WildBuzzard.Lib.Ledger

open List

variable {κ α : Type}

/-- One thing a registry does with names of type `κ` for values of type `α`. -/
inductive Entry (κ α : Type) where
  /-- A new name is handed out for a value. -/
  | issue (name : κ) (value : α)
  /-- A name is given up, if it is live. -/
  | drop (name : κ)
  /-- Every live name is given up. -/
  | dropAll
  deriving DecidableEq, Repr

/-- The name an entry issues. -/
def Entry.issued? : Entry κ α → Option κ
  | .issue name _ => some name
  | .drop _ => none
  | .dropAll => none

/-- The names issued, oldest first. -/
def issued (history : List (Entry κ α)) : List κ := history.filterMap Entry.issued?

@[simp] lemma issued_nil : issued ([] : List (Entry κ α)) = [] := rfl

@[simp] lemma issued_singleton (e : Entry κ α) : issued [e] = e.issued?.toList := by
  cases e <;> rfl

lemma issued_append (past future : List (Entry κ α)) :
    issued (past ++ future) = issued past ++ issued future := by
  simp [issued]

variable [DecidableEq κ]

/-- How one entry changes what is live. -/
def record (live : List (κ × α)) : Entry κ α → List (κ × α)
  | .issue name value => live ++ [(name, value)]
  | .drop name => live.filter (fun p => p.1 ≠ name)
  | .dropAll => []

/-- The names issued and not dropped since, with their values. -/
def live (history : List (Entry κ α)) : List (κ × α) := history.foldl record []

@[simp] lemma live_nil : live ([] : List (Entry κ α)) = [] := rfl

lemma live_concat (past : List (Entry κ α)) (e : Entry κ α) :
    live (past ++ [e]) = record (live past) e := by
  simp [live]

/-- A name that becomes live with an entry is the one the entry issues. -/
lemma mem_record {entries : List (κ × α)} {e : Entry κ α} {p : κ × α}
    (h : p ∈ record entries e) : p ∈ entries ∨ e.issued? = some p.1 := by
  cases e with
  | issue name value =>
    rcases mem_append.mp h with h | h
    · exact .inl h
    · rw [mem_singleton.mp h]
      exact .inr rfl
  | drop name => exact .inl (mem_filter.mp h).1
  | dropAll => simp [record] at h

/-- Live names are issued names, in the order they were issued. -/
lemma live_sublist_issued (history : List (Entry κ α)) :
    ((live history).map Prod.fst).Sublist (issued history) := by
  induction history using reverseRecOn with
  | nil => simp
  | append_singleton past e ih =>
    rw [live_concat, issued_append]
    cases e with
    | issue name value => simpa [record, Entry.issued?] using ih
    | drop name =>
      have hsub := filter_sublist (l := live past) (p := fun p => p.1 ≠ name)
      simpa [record, Entry.issued?] using (hsub.map Prod.fst).trans ih
    | dropAll => simp [record]

/-- Live names are pairwise different when no name is issued twice. -/
lemma live_names_nodup {history : List (Entry κ α)} (h : (issued history).Nodup) :
    ((live history).map Prod.fst).Nodup :=
  h.sublist (live_sublist_issued history)

/-- **A name that was issued and is not live any more stays so**, if no name is issued twice. -/
theorem dead_stays_dead {past future : List (Entry κ α)}
    (hnodup : (issued (past ++ future)).Nodup) {k : κ} (hissued : k ∈ issued past)
    (hdead : k ∉ (live past).map Prod.fst) : k ∉ (live (past ++ future)).map Prod.fst := by
  induction future using reverseRecOn with
  | nil => simpa using hdead
  | append_singleton future e ih =>
    rw [← append_assoc, issued_append] at hnodup
    have hold := ih hnodup.of_append_left
    rw [← append_assoc, live_concat]
    intro hmem
    obtain ⟨p, hp, rfl⟩ := mem_map.mp hmem
    rcases mem_record hp with hlive | hnew
    · exact hold (mem_map_of_mem hlive)
    · -- the name would be issued a second time by `e`
      have hfirst : p.1 ∈ issued (past ++ future) := by
        rw [issued_append]
        exact mem_append_left _ hissued
      have hsecond : p.1 ∈ issued [e] := by simp [hnew]
      exact (disjoint_of_nodup_append hnodup) hfirst hsecond

end WildBuzzard.Lib.Ledger
