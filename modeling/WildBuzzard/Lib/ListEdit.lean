import Mathlib.Data.List.Nodup

/-!
# Edits of one position of a list

What `modify` and `eraseIdx` do to the members of a list and to its freedom from duplicates, for
lists that hold the records of a program; and where an element stands or is inserted in a list that
is split in two.
-/

namespace WildBuzzard.Lib

open List

variable {α : Type} {l : List α} {x : α}

/-- A member of an edited list is an old one or the edited one. -/
lemma mem_modify {i : ℕ} {f : α → α} (h : x ∈ l.modify i f) :
    x ∈ l ∨ ∃ y, l[i]? = some y ∧ x = f y := by
  obtain ⟨j, hj⟩ := mem_iff_getElem?.mp h
  rw [getElem?_modify] at hj
  split_ifs at hj with hi
  · subst hi
    obtain ⟨y, hy, rfl⟩ := Option.map_eq_some_iff.mp hj
    exact .inr ⟨y, hy, rfl⟩
  · rw [id_map'] at hj
    exact .inl (mem_of_getElem? hj)

/-- Replacing one element by a new one keeps a list free of duplicates. -/
lemma nodup_map_modify {α β : Type} {l : List α} {i : ℕ} {f : α → α} {g : α → β}
    (h : (l.map g).Nodup) (hnew : ∀ y, l[i]? = some y → g (f y) = g y ∨ g (f y) ∉ l.map g) :
    ((l.modify i f).map g).Nodup := by
  induction l generalizing i with
  | nil => simp
  | cons x rest ih =>
    rw [map_cons, nodup_cons] at h
    cases i with
    | zero =>
      rw [modify_zero_cons, map_cons, nodup_cons]
      refine ⟨?_, h.2⟩
      rcases hnew x rfl with heq | hnot
      · rw [heq]
        exact h.1
      · exact fun hmem => hnot (mem_cons_of_mem _ hmem)
    | succ i =>
      rw [modify_succ_cons, map_cons, nodup_cons]
      refine ⟨?_, ih h.2 fun y hy => ?_⟩
      · intro hmem
        obtain ⟨z, hz, hgz⟩ := mem_map.mp hmem
        rcases mem_modify hz with hz | ⟨y, hy, rfl⟩
        · exact h.1 (hgz ▸ mem_map_of_mem hz)
        · rcases hnew y (by simpa using hy) with heq | hnot
          · rw [heq] at hgz
            exact h.1 (hgz ▸ mem_map_of_mem (mem_of_getElem? hy))
          · exact hnot (by rw [hgz]; exact mem_cons_self)
      · rcases hnew y (by simpa using hy) with heq | hnot
        · exact .inl heq
        · exact .inr fun hmem => hnot (mem_cons_of_mem _ hmem)

/-- The position that a search for an element finds is the one that `erase` erases. -/
lemma eraseIdx_of_findIdx? [DecidableEq α] {i : ℕ}
    (h : l.findIdx? (fun candidate => candidate = x) = some i) : l.eraseIdx i = l.erase x := by
  induction l generalizing i with
  | nil => simp at h
  | cons y rest ih =>
    rw [findIdx?_cons] at h
    by_cases hy : y = x
    · rw [if_pos (by simpa using hy)] at h
      rw [← Option.some.inj h, hy, erase_cons_head]
      rfl
    · rw [if_neg (by simpa using hy)] at h
      obtain ⟨j, hj, rfl⟩ := Option.map_eq_some_iff.mp h
      rw [eraseIdx_cons_succ, erase_cons_tail (by simpa using hy), ih hj]

/-- Taking an element out of a list without duplicates, as a filter. -/
lemma filter_ne_eq_erase [DecidableEq α] (h : l.Nodup) (x : α) :
    l.filter (· ≠ x) = l.erase x := by
  rw [h.erase_eq_filter]
  refine filter_congr ?_
  intro y _
  by_cases hy : y = x <;> simp [hy]

/-- A list without duplicates around one of its members. -/
lemma exists_eq_append_cons (h : l.Nodup) (hx : x ∈ l) :
    ∃ front back, l = front ++ x :: back ∧ x ∉ front ∧ x ∉ back := by
  obtain ⟨front, back, rfl⟩ := append_of_mem hx
  rw [nodup_append] at h
  refine ⟨front, back, rfl, ?_, (nodup_cons.mp h.2.1).1⟩
  intro hmem
  exact h.2.2 x hmem x mem_cons_self rfl

/-- Inserting behind a first part. -/
lemma insertIdx_append_length (front back : List α) (x : α) :
    (front ++ back).insertIdx front.length x = front ++ x :: back := by
  induction front with
  | nil => rfl
  | cons y front ih => simpa using ih

/-- An element stands behind a first part that does not have it. -/
lemma idxOf?_append_cons [DecidableEq α] {front : List α} (h : x ∉ front) (back : List α) :
    (front ++ x :: back).idxOf? x = some front.length := by
  rw [idxOf?_eq_some_iff]
  refine ⟨by simp, by simp, ?_⟩
  intro j hj heq
  rw [getElem_append_left hj] at heq
  exact h (heq ▸ getElem_mem hj)

/-- Whether an element is found within a first part. -/
lemma any_idxOf?_append [DecidableEq α] (front back : List α) (x : α) :
    ((front ++ back).idxOf? x).any (· < front.length) = decide (x ∈ front) := by
  by_cases hx : x ∈ front
  · obtain ⟨i, hi⟩ := Option.isSome_iff_exists.mp (isSome_idxOf?.mpr hx)
    obtain ⟨hlt, hget, hmin⟩ := idxOf?_eq_some_iff.mp hi
    have : (front ++ back).idxOf? x = some i := by
      rw [idxOf?_eq_some_iff]
      refine ⟨by simp; omega, by rw [getElem_append_left hlt]; exact hget, ?_⟩
      intro j hj
      rw [getElem_append_left (by omega)]
      exact hmin j hj
    simp [this, hlt, hx]
  · rcases hi : (front ++ back).idxOf? x with _ | i
    · simp [hx]
    · obtain ⟨hlt, hget, -⟩ := idxOf?_eq_some_iff.mp hi
      have hle : ¬i < front.length := by
        intro hlt
        rw [getElem_append_left hlt] at hget
        exact hx (hget ▸ getElem_mem hlt)
      simp [hle, hx]

end WildBuzzard.Lib
