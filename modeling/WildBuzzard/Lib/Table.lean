import Mathlib.Data.Finmap
import Mathlib.Data.List.Nodup
import Mathlib.Algebra.BigOperators.Group.Multiset.Basic
import Mathlib.Algebra.Order.BigOperators.Group.Multiset

/-!
# Finite tables with totals

A map from keys to values whose order of iteration nobody looks at is Mathlib's `Finmap`. What an
account over such a map needs is here: the `total` of a quantity over the values, and how it changes
when a key is added, removed or changed; `update` for a change through a mutable reference,
`mapValues` for a change of all values and `retain` for a filter.

* **A table has one value for each key, and the total counts each key once**: `total_insert`,
  `total_erase` and `total_update` say how a change of one key shows in the total.
* `mapValues` is how a table is seen through a projection of its values; **an `update` that keeps
  the projection is invisible** (`mapValues_update_of_eq`).
-/

namespace WildBuzzard.Lib

open Finmap Option

/-- A finite map from keys to values. -/
abbrev Table (κ ν : Type) : Type := Finmap fun _ : κ => ν

namespace Table

variable {κ ν μ : Type} (t : Table κ ν)

/-- The sum of a quantity over the values. -/
def total (f : ν → ℕ) (t : Table κ ν) : ℕ := (t.entries.map fun e => f e.2).sum

/-- The number of keys. -/
def size (t : Table κ ν) : ℕ := Multiset.card t.entries

/-- Change every value. -/
def mapValues (f : ν → μ) (t : Table κ ν) : Table κ μ where
  entries := t.entries.map fun e => ⟨e.1, f e.2⟩
  nodupKeys := by
    have hkeys : Multiset.keys (t.entries.map fun e => (⟨e.1, f e.2⟩ : Sigma fun _ : κ => μ)) =
        t.entries.keys := by
      simp [Multiset.keys, Multiset.map_map]
    apply Multiset.nodup_keys.mp
    rw [hkeys]
    exact Multiset.nodup_keys.mpr t.nodupKeys

/-- Keep the keys whose values pass a test. -/
def retain (p : κ → ν → Bool) (t : Table κ ν) : Table κ ν where
  entries := t.entries.filter fun e => p e.1 e.2
  nodupKeys := by
    apply Multiset.nodup_keys.mp
    apply Multiset.nodup_of_le (Multiset.map_le_map (Multiset.filter_le _ t.entries))
    exact Multiset.nodup_keys.mpr t.nodupKeys

lemma total_mapValues (g : ν → μ) (f : μ → ℕ) :
    total f (t.mapValues g) = total (fun v => f (g v)) t := by
  simp [total, mapValues, Multiset.map_map]

lemma size_mapValues (g : ν → μ) : size (t.mapValues g) = size t := by
  simp [size, mapValues]

lemma size_eq_total : size t = total (fun _ => 1) t := by
  simp [size, total]

lemma total_add (f g : ν → ℕ) : total (fun v => f v + g v) t = total f t + total g t := by
  simp [total]

/-- The number of keys that pass a test and the number of those that do not. -/
lemma size_retain_add (p : κ → ν → Bool) :
    size (t.retain p) + size (t.retain fun k v => !p k v) = size t := by
  simp only [size, retain]
  have hsplit := Multiset.filter_add_not (fun e : Sigma fun _ : κ => ν => p e.1 e.2 = true)
    t.entries
  have hcard := congrArg Multiset.card hsplit
  simpa using hcard

variable [DecidableEq κ] {t : Table κ ν} {k : κ} {f : ν → ν} {v : ν}

/-- Change the value of a key, if it has one. -/
def update (k : κ) (f : ν → ν) (t : Table κ ν) : Table κ ν :=
  match t.lookup k with
  | none => t
  | some v => t.insert k (f v)

/-! ## Looking up -/

lemma lookup_eq_some : t.lookup k = some v ↔ (⟨k, v⟩ : Sigma fun _ : κ => ν) ∈ t.entries :=
  lookup_eq_some_iff

section

variable (t : Table κ ν)

lemma lookup_insert_eq (k : κ) (v : ν) (j : κ) :
    (t.insert k v).lookup j = if j = k then some v else t.lookup j := by
  split_ifs with h
  · subst h
    exact lookup_insert t
  · exact lookup_insert_of_ne t h

lemma lookup_erase_eq (k j : κ) : (t.erase k).lookup j = if j = k then none else t.lookup j := by
  split_ifs with h
  · subst h
    exact lookup_erase _ t
  · exact lookup_erase_ne h

lemma lookup_update (k : κ) (f : ν → ν) (j : κ) :
    (t.update k f).lookup j = if j = k then (t.lookup j).map f else t.lookup j := by
  unfold update
  cases h : t.lookup k with
  | none =>
    split_ifs with hj
    · subst hj
      simp [h]
    · rfl
  | some v =>
    rw [lookup_insert_eq]
    split_ifs with hj
    · subst hj
      simp [h]
    · rfl

@[simp] lemma lookup_mapValues (f : ν → μ) (k : κ) :
    (t.mapValues f).lookup k = (t.lookup k).map f := by
  ext v
  simp only [map_eq_some_iff]
  rw [lookup_eq_some]
  simp only [mapValues, Multiset.mem_map]
  constructor
  · rintro ⟨⟨k', w⟩, hmem, heq⟩
    obtain ⟨rfl, h⟩ := Sigma.mk.inj_iff.mp heq
    exact ⟨w, lookup_eq_some.mpr hmem, eq_of_heq h⟩
  · rintro ⟨w, hw, rfl⟩
    exact ⟨⟨k, w⟩, lookup_eq_some.mp hw, rfl⟩

@[simp] lemma lookup_retain (p : κ → ν → Bool) (k : κ) :
    (t.retain p).lookup k = (t.lookup k).filter (p k) := by
  ext v
  simp only [filter_eq_some_iff]
  rw [lookup_eq_some]
  simp only [retain, Multiset.mem_filter]
  rw [← lookup_eq_some]

end

lemma lookup_some_of_mem (h : k ∈ t) : ∃ v, t.lookup k = some v :=
  mem_iff.mp h

/-- A lookup in an updated table. -/
lemma lookup_update_self (h : t.lookup k = some v)
    (f : ν → ν) : (t.update k f).lookup k = some (f v) := by
  rw [lookup_update, if_pos rfl, h, map_some]

lemma lookup_update_of_ne {k j : κ} (h : j ≠ k) (f : ν → ν) :
    (t.update k f).lookup j = t.lookup j := by
  rw [lookup_update, if_neg h]

lemma update_eq_insert (h : t.lookup k = some v) (f : ν → ν) : t.update k f = t.insert k (f v) := by
  unfold update
  rw [h]

lemma update_id (t : Table κ ν) (k : κ) : t.update k id = t := by
  apply ext_lookup
  intro j
  rw [lookup_update]
  split_ifs
  · exact congrFun map_id _
  · rfl

lemma mem_of_lookup (h : t.lookup k = some v) : k ∈ t :=
  mem_iff.mpr ⟨v, h⟩

lemma mem_of_mem_update {k j : κ} (h : j ∈ t.update k f) : j ∈ t := by
  obtain ⟨v, hv⟩ := lookup_some_of_mem h
  rw [lookup_update] at hv
  split_ifs at hv
  · obtain ⟨w, hw, -⟩ := map_eq_some_iff.mp hv
    exact mem_of_lookup hw
  · exact mem_of_lookup hv

/-- A value of an updated table is an old one, or the changed value of the key. -/
lemma lookup_update_cases {k j : κ} (h : (t.update k f).lookup j = some v) :
    j = k ∧ (∃ w, t.lookup k = some w ∧ v = f w) ∨ j ≠ k ∧ t.lookup j = some v := by
  rw [lookup_update] at h
  split_ifs at h with hj
  · obtain ⟨w, hw, rfl⟩ := map_eq_some_iff.mp h
    exact .inl ⟨hj, w, hj ▸ hw, rfl⟩
  · exact .inr ⟨hj, h⟩

/-- A value of a table with a new key is the new one or an old one. -/
lemma lookup_insert_cases {k j : κ} {v w : ν}
    (h : (t.insert k w).lookup j = some v) : j = k ∧ v = w ∨ j ≠ k ∧ t.lookup j = some v := by
  rw [lookup_insert_eq] at h
  split_ifs at h with hj
  · exact .inl ⟨hj, (some.inj h).symm⟩
  · exact .inr ⟨hj, h⟩

variable {P : κ → ν → Prop}

/-- **What holds of every value holds after an update** that keeps it. -/
theorem forall_update (h : t.lookup k = some v) (hself : P k (f v))
    (hothers : ∀ {j w}, j ≠ k → t.lookup j = some w → P j w) {j : κ} {w : ν}
    (hj : (t.update k f).lookup j = some w) : P j w := by
  rcases lookup_update_cases hj with ⟨rfl, v', hv', rfl⟩ | ⟨hne, hw⟩
  · obtain rfl := some.inj (h.symm.trans hv')
    exact hself
  · exact hothers hne hw

/-- What is found is found after an update that keeps what was asked for. -/
lemma exists_update {Q : ν → Prop} (h : t.lookup k = some v) (hself : Q v → Q (f v)) {j : κ}
    (hj : ∃ w, t.lookup j = some w ∧ Q w) : ∃ w, (t.update k f).lookup j = some w ∧ Q w := by
  obtain ⟨w, hw, hQ⟩ := hj
  by_cases hjk : j = k
  · subst hjk
    obtain rfl := some.inj (h.symm.trans hw)
    exact ⟨f v, lookup_update_self h f, hself hQ⟩
  · exact ⟨w, (lookup_update_of_ne hjk f).trans hw, hQ⟩

/-- What holds of every value holds with one more. -/
lemma forall_insert (hself : P k v) (hothers : ∀ {j w}, j ≠ k → t.lookup j = some w → P j w)
    {j : κ} {w : ν} (hj : (t.insert k v).lookup j = some w) : P j w := by
  rcases lookup_insert_cases hj with ⟨rfl, rfl⟩ | ⟨hne, hw⟩
  · exact hself
  · exact hothers hne hw

/-- A value that is left was there. -/
lemma lookup_of_lookup_erase {k j : κ}
    (h : (t.erase k).lookup j = some v) : j ≠ k ∧ t.lookup j = some v := by
  rw [lookup_erase_eq] at h
  split_ifs at h with hj
  exact ⟨hj, h⟩

/-- **An update that keeps a projection of the values is invisible in the projection.** -/
theorem mapValues_update_of_eq {g : ν → μ} (h : ∀ v, t.lookup k = some v → g (f v) = g v) :
    (t.update k f).mapValues g = t.mapValues g := by
  apply ext_lookup
  intro j
  rw [lookup_mapValues, lookup_mapValues, lookup_update]
  split_ifs with hj
  · subst hj
    cases hv : t.lookup j with
    | none => rfl
    | some v => simp [h v hv]
  · rfl

/-! ## Totals -/

section

variable (h : t.lookup k = some v)
include h

lemma entries_of_lookup : t.entries = ⟨k, v⟩ ::ₘ (t.erase k).entries := by
  have hnone : k ∉ t.erase k := notMem_erase_self
  have hback : (t.erase k).insert k v = t := by
    apply ext_lookup
    intro j
    rw [lookup_insert_eq, lookup_erase_eq]
    split_ifs with hj
    · rw [hj, h]
    · rfl
  calc t.entries = ((t.erase k).insert k v).entries := by rw [hback]
    _ = ⟨k, v⟩ ::ₘ (t.erase k).entries := entries_insert_of_notMem hnone

omit h in
/-- A new key adds its share. -/
lemma total_insert (h : t.lookup k = none) (f : ν → ℕ) (v : ν) :
    total f (t.insert k v) = f v + total f t := by
  have hmem : k ∉ t := lookup_eq_none.mp h
  simp [total, entries_insert_of_notMem hmem]

/-- A key holds its share of the total, the rest is held by the others. -/
lemma total_erase (f : ν → ℕ) : total f t = f v + total f (t.erase k) := by
  unfold total
  rw [entries_of_lookup h]
  simp

lemma le_total (f : ν → ℕ) : f v ≤ total f t := by
  rw [total_erase h f]
  omega

/-- A changed value changes the total by the difference. -/
lemma total_update (g : ν → ν) (f : ν → ℕ) :
    total f (t.update k g) + f v = total f t + f (g v) := by
  have hsame : (t.update k g).erase k = t.erase k := by
    apply ext_lookup
    intro j
    rw [lookup_erase_eq, lookup_erase_eq]
    split_ifs with hj
    · rfl
    · exact lookup_update_of_ne hj g
  rw [total_erase h f, total_erase (lookup_update_self h g) f, hsame]
  omega

end

lemma size_insert (h : t.lookup k = none) (v : ν) : size (t.insert k v) = size t + 1 := by
  rw [size_eq_total, size_eq_total, total_insert h]
  omega

lemma size_erase (h : t.lookup k = some v) : size t = size (t.erase k) + 1 := by
  rw [size_eq_total, size_eq_total, total_erase h]
  omega

@[simp] lemma size_update (t : Table κ ν) (k : κ) (g : ν → ν) : size (t.update k g) = size t := by
  cases h : t.lookup k with
  | none => simp [update, h]
  | some v =>
    have := total_update h g fun _ => 1
    rw [← size_eq_total, ← size_eq_total] at this
    omega

/-- Quantities that agree on the values have the same total. -/
lemma total_congr {f g : ν → ℕ}
    (h : ∀ k v, t.lookup k = some v → f v = g v) : total f t = total g t := by
  unfold total
  congr 1
  apply Multiset.map_congr rfl
  rintro ⟨k, v⟩ hmem
  exact h k v (lookup_eq_some.mpr hmem)

lemma size_pos_of_lookup (h : t.lookup k = some v) : 0 < size t := by
  rw [size_erase h]
  omega

end Table

end WildBuzzard.Lib
