import Mathlib.Data.List.Nodup
import WildBuzzard.Lib.Call
import WildBuzzard.Lib.NonZero

/-!
# The generational arena

`Arena` owns values in numbered slots and hands out a `RawHandle` for each: the slot and the
generation the slot had when the value went in. A removal starts the next generation of its slot, so
that the handle stops resolving before the slot is reused, and **retires** a slot whose generation
cannot grow any more.

* `Wf`: what holds between the slots, the free list and the counter after every operation.
* `Issued`: the handles an arena has handed out so far, read off its slots alone.
* `tryInsert_sat`, `remove_sat`, `clear_sat`: none of the operations panics on a well-formed arena;
  each says what it does to `get` and to the handles issued.

The typed `Handle<T>` is a `RawHandle` with a marker, and the `debug_assert!`s are modelled: they
panic.
-/

namespace WildBuzzard.Handles

open Lib List NonZero Outcome

/-! ## Handles -/

/-- A `u32` that is not zero. -/
abbrev NonZeroU32 := NonZero UInt32

namespace NonZeroU32

/-- Source: `NonZeroU32::MIN`. -/
def min : NonZeroU32 := ⟨1, by decide⟩

/-- Source: `u32::MAX`. -/
def max : UInt32 := 4294967295

/-- Below the maximum, the next number is not zero. -/
lemma exists_succ {g : NonZeroU32} (h : g.get ≠ max) :
    ∃ k, NonZero.new (g.get + 1) = some k ∧ k.get.toNat = g.get.toNat + 1 := by
  have hne : g.get.toNat ≠ 4294967295 :=
    fun heq => h (UInt32.toNat_inj.mp (by simpa [max] using heq))
  have hlt := g.get.toNat_lt
  have hsucc : (g.get + 1).toNat = g.get.toNat + 1 := by
    rw [UInt32.toNat_add]
    simp only [UInt32.reduceToNat]
    omega
  have hpos : g.get + 1 ≠ 0 := by
    intro hzero
    rw [hzero] at hsucc
    simp at hsucc
  exact ⟨⟨g.get + 1, hpos⟩, new_of_ne_zero hpos, hsucc⟩

end NonZeroU32

/-- A slot and the generation it had when the handle was issued. Source: `RawHandle`. -/
structure RawHandle where
  slot : UInt32
  generation : NonZeroU32
  deriving DecidableEq, Repr

/-- Source: `MAX_SLOT_COUNT`. -/
def maxSlotCount : Nat := 4294967296

/-- Source: `InsertError`. -/
inductive InsertError where
  | capacityExhausted
  deriving DecidableEq, Repr

/-- Source: `next_slot_index`. -/
def nextSlotIndex (slotCount : Nat) : Except InsertError UInt32 :=
  if slotCount < maxSlotCount then .ok (UInt32.ofNat slotCount) else .error .capacityExhausted

/-! ## The arena -/

/-- Source: `Slot`. -/
structure Slot (T : Type) where
  generation : NonZeroU32
  value : Option T
  retired : Bool
  deriving DecidableEq, Repr

/-- The free list is a stack whose top is its last element. Source: `Arena`. -/
structure Arena (T : Type) where
  slots : List (Slot T)
  free : List UInt32
  len : Nat
  deriving DecidableEq, Repr

namespace Arena

variable {T : Type}

/-- Source: `Arena::new`. -/
def new : Arena T := { slots := [], free := [], len := 0 }

/-- `self.len += 1` on a 64-bit `usize`, then a value returned. -/
def grown {ε α : Type} (a : Arena T) (result : α) : Outcome (Arena T) ε α :=
  if a.len + 1 < 2 ^ 64 then .ok result { a with len := a.len + 1 }
  else .halt (.panic "attempt to add with overflow")

/-- Put a value in a new slot. Source: `Arena::try_insert`, after the free list was found empty. -/
def insertNew (value : T) : Call (Arena T) InsertError RawHandle := fun a =>
  match nextSlotIndex a.slots.length with
  | .error e => .err e a
  | .ok slotIndex =>
    let slot := { generation := .min, value := some value, retired := false }
    grown { a with slots := a.slots ++ [slot] } { slot := slotIndex, generation := .min }

/-- Source: `Arena::try_insert`. -/
def tryInsert (value : T) : Call (Arena T) InsertError RawHandle := fun a =>
  match a.free.getLast? with
  | none => insertNew value a
  | some slotIndex =>
    match a.slots[slotIndex.toNat]? with
    | none => .halt (.panic "index out of bounds")
    | some slot =>
      if slot.value.isSome then .halt (.panic "assertion failed: slot.value.is_none()")
      else if slot.retired then .halt (.panic "assertion failed: !slot.retired")
      else
        grown
          { a with
            slots := a.slots.set slotIndex.toNat { slot with value := some value }
            free := a.free.dropLast }
          { slot := slotIndex, generation := slot.generation }

/-- Source: `Arena::get`. -/
def get (a : Arena T) (handle : RawHandle) : Option T :=
  match a.slots[handle.slot.toNat]? with
  | none => none
  | some slot => if slot.generation.get = handle.generation.get then slot.value else none

/-- End the generation of a slot whose value was just taken. Source: `Arena::remove`. -/
def release (handle : RawHandle) (slot : Slot T) (value : T) :
    Call (Arena T) Empty (Option T) := fun a =>
  if a.len = 0 then .halt (.panic "attempt to subtract with overflow")
  else if slot.generation.get = NonZeroU32.max then
    .ok (some value)
      { a with
        slots := a.slots.set handle.slot.toNat { slot with value := none, retired := true }
        len := a.len - 1 }
  else
    match NonZero.new (slot.generation.get + 1) with
    | none =>
      .halt (.panic "a non-maximum generation increments to a non-zero value")
    | some generation =>
      .ok (some value)
        { slots := a.slots.set handle.slot.toNat
            { slot with value := none, generation := generation }
          free := a.free ++ [handle.slot]
          len := a.len - 1 }

/-- Source: `Arena::remove`. -/
def remove (handle : RawHandle) : Call (Arena T) Empty (Option T) := fun a =>
  match a.slots[handle.slot.toNat]? with
  | none => .ok none a
  | some slot =>
    if slot.generation.get ≠ handle.generation.get then .ok none a
    else
      match slot.value with
      | none => .ok none a
      | some value => release handle slot value a

/-- The handle of a live slot. Source: the closure of `Arena::clear`. -/
def liveHandle (slot : Slot T) (slotIndex : Nat) : Option RawHandle :=
  if slot.value.isSome ∧ slotIndex < maxSlotCount then
    some { slot := UInt32.ofNat slotIndex, generation := slot.generation }
  else none

/-- Source: `live_handles` in `Arena::clear`. -/
def liveHandles (a : Arena T) : List RawHandle :=
  a.slots.zipIdx.filterMap fun p => liveHandle p.1 p.2

/-- Source: the loop of `Arena::clear`. -/
def removeAll : List RawHandle → Call (Arena T) Empty Unit
  | [] => pure ()
  | handle :: rest => do
    let _ ← remove handle
    removeAll rest

/-- Source: `Arena::clear`. -/
def clear : Call (Arena T) Empty Nat := do
  let a ← Call.read
  removeAll a.liveHandles
  pure a.liveHandles.length

/-! ## What holds of every arena -/

/-- The slots, the free list and the counter agree. -/
structure Wf (a : Arena T) : Prop where
  slots_le : a.slots.length ≤ maxSlotCount
  free_nodup : a.free.Nodup
  mem_free : ∀ i : UInt32, i ∈ a.free ↔
    ∃ slot, a.slots[i.toNat]? = some slot ∧ slot.value = none ∧ slot.retired = false
  retired_empty : ∀ (i : UInt32) (slot : Slot T), a.slots[i.toNat]? = some slot →
    slot.retired = true → slot.value = none
  len_eq : a.len = a.slots.countP (fun slot => slot.value.isSome)

/-- The handle was handed out: its slot is at a later generation, or at its own and in use or
retired. -/
def Issued (a : Arena T) (h : RawHandle) : Prop :=
  ∃ slot, a.slots[h.slot.toNat]? = some slot ∧
    (h.generation.get.toNat < slot.generation.get.toNat ∨
      h.generation = slot.generation ∧ (slot.value.isSome ∨ slot.retired = true))

lemma wf_new : Wf (new : Arena T) where
  slots_le := Nat.zero_le _
  free_nodup := nodup_nil
  mem_free := by simp [new]
  retired_empty := by simp [new]
  len_eq := rfl

lemma not_issued_new (h : RawHandle) : ¬(new : Arena T).Issued h := by
  simp [Issued, new]

lemma get_new (h : RawHandle) : (new : Arena T).get h = none := by
  simp [get, new]

variable {a : Arena T} {h : RawHandle} {v : T}

/-- A handle that resolves was handed out. -/
lemma issued_of_get (hget : a.get h = some v) : a.Issued h := by
  unfold get at hget
  split at hget
  · simp at hget
  · rename_i slot hslot
    split at hget
    · rename_i hgen
      exact ⟨slot, hslot, .inr ⟨ext_get hgen.symm, .inl (by simp [hget])⟩⟩
    · simp at hget

/-! ## Changing one slot -/

/-- The arenas have the same slots but for slot `i`, which holds `slot` in the second. -/
def Changed (a b : Arena T) (i : UInt32) (slot : Slot T) : Prop :=
  ∀ j : UInt32, b.slots[j.toNat]? = if j = i then some slot else a.slots[j.toNat]?

section Changed

variable {a b : Arena T} {i : UInt32} {slot : Slot T}

lemma changed_set {old : Slot T} (hold : a.slots[i.toNat]? = some old)
    (hb : b.slots = a.slots.set i.toNat slot) : a.Changed b i slot := by
  intro j
  have hlt : i.toNat < a.slots.length := (List.getElem?_eq_some_iff.mp hold).1
  rw [hb, getElem?_set]
  by_cases hj : j = i
  · simp [hj, hlt]
  · have hne : i.toNat ≠ j.toNat := fun heq => hj (UInt32.toNat_inj.mp heq.symm)
    simp [hj, hne]

lemma changed_push (hi : i.toNat = a.slots.length) (hb : b.slots = a.slots ++ [slot]) :
    a.Changed b i slot := by
  intro j
  rw [hb, getElem?_append]
  by_cases hj : j = i
  · simp [hj, hi]
  · have hne : j.toNat ≠ a.slots.length := by
      rw [← hi]
      exact fun heq => hj (UInt32.toNat_inj.mp heq)
    split_ifs with hlt
    · rfl
    · rw [getElem?_eq_none (by simp; omega), getElem?_eq_none (by omega)]

lemma Changed.self (hc : a.Changed b i slot) : b.slots[i.toNat]? = some slot := by
  rw [hc i, if_pos rfl]

lemma Changed.other (hc : a.Changed b i slot) {j : UInt32} (hj : j ≠ i) :
    b.slots[j.toNat]? = a.slots[j.toNat]? := by
  rw [hc j, if_neg hj]

variable {h : RawHandle}

lemma Changed.get_other (hc : a.Changed b i slot) (hne : h.slot ≠ i) : b.get h = a.get h := by
  unfold get
  rw [hc.other hne]

lemma Changed.issued_other (hc : a.Changed b i slot) (hne : h.slot ≠ i) :
    b.Issued h ↔ a.Issued h := by
  unfold Issued
  rw [hc.other hne]

/-- What a handle of a given slot resolves to. -/
lemma get_of_slot (hslot : a.slots[h.slot.toNat]? = some slot) :
    a.get h = if slot.generation.get = h.generation.get then slot.value else none := by
  unfold get
  rw [hslot]

lemma get_of_empty (hempty : ∀ s, a.slots[h.slot.toNat]? = some s → s.value = none) :
    a.get h = none := by
  unfold get
  split
  · rfl
  · rename_i s hs
    rw [hempty s hs]
    exact ite_self _

lemma issued_of_slot (hslot : a.slots[h.slot.toNat]? = some slot) :
    a.Issued h ↔ h.generation.get.toNat < slot.generation.get.toNat ∨
      h.generation = slot.generation ∧ (slot.value.isSome ∨ slot.retired = true) := by
  constructor
  · rintro ⟨s, hs, hissued⟩
    rw [Option.some.inj (hslot.symm.trans hs)]
    exact hissued
  · exact fun hissued => ⟨slot, hslot, hissued⟩

end Changed

/-- The value went into a slot that held none, under the slot's own generation. -/
structure Filled (a b : Arena T) (h : RawHandle) (v : T) : Prop where
  changed : a.Changed b h.slot ⟨h.generation, some v, false⟩
  vacant : a.slots[h.slot.toNat]? = none ∧ h.generation = .min ∨
    a.slots[h.slot.toNat]? = some ⟨h.generation, none, false⟩

namespace Filled

variable {a b : Arena T} {h : RawHandle} {v : T}

/-- The new handle had not been handed out. -/
lemma fresh (hf : a.Filled b h v) : ¬a.Issued h := by
  rcases hf.vacant with ⟨hnone, _⟩ | hold
  · rintro ⟨s, hs, _⟩
    rw [hnone] at hs
    simp at hs
  · rw [issued_of_slot hold]
    simp

/-- The new handle resolves to the new value, and the others to what they did. -/
lemma get_eq (hf : a.Filled b h v) (k : RawHandle) :
    b.get k = if k = h then some v else a.get k := by
  by_cases hslot : k.slot = h.slot
  · have hold : a.get k = none := by
      apply get_of_empty
      intro s hs
      rw [hslot] at hs
      rcases hf.vacant with ⟨hnone, _⟩ | hvac
      · exact absurd (hnone.symm.trans hs) (by simp)
      · rw [← Option.some.inj (hvac.symm.trans hs)]
    rw [get_of_slot (by rw [hslot]; exact hf.changed.self), hold]
    by_cases hgen : h.generation = k.generation
    · have heq : k = h := by
        cases k
        cases h
        simp_all
      simp [heq]
    · have hne : k ≠ h := fun heq => hgen (by rw [heq])
      rw [if_neg hne, if_neg (fun hget => hgen (ext_get hget))]
  · have hne : k ≠ h := fun heq => hslot (by rw [heq])
    rw [hf.changed.get_other hslot, if_neg hne]

lemma issued_iff (hf : a.Filled b h v) (k : RawHandle) : b.Issued k ↔ a.Issued k ∨ k = h := by
  by_cases hslot : k.slot = h.slot
  · rw [issued_of_slot (by rw [hslot]; exact hf.changed.self)]
    have hkh : k = h ↔ k.generation = h.generation := by
      cases k
      cases h
      simp_all
    rcases hf.vacant with ⟨hnone, hmin⟩ | hold
    · -- a new slot starts at the least generation, below which there is none
      have hpos : 0 < k.generation.get.toNat := by
        apply Nat.pos_of_ne_zero
        intro hzero
        exact k.generation.ne_zero (UInt32.toNat_inj.mp hzero)
      have hold : ¬a.Issued k := by
        rintro ⟨s, hs, _⟩
        rw [hslot, hnone] at hs
        simp at hs
      have hleast : ¬k.generation.get.toNat < h.generation.get.toNat := by
        have hone : h.generation.get.toNat = 1 := by
          rw [hmin]
          rfl
        omega
      simp [hleast, hold, hkh]
    · rw [issued_of_slot (by rw [hslot]; exact hold), hkh]
      simp
  · have hne : k ≠ h := fun heq => hslot (by rw [heq])
    rw [hf.changed.issued_other hslot]
    simp [hne]

end Filled

/-- The value was taken out of its slot, whose generation has ended: the slot is at the next one, or
it is retired. -/
structure Emptied (a b : Arena T) (h : RawHandle) (v : T) (slot : Slot T) : Prop where
  held : a.slots[h.slot.toNat]? = some ⟨h.generation, some v, false⟩
  changed : a.Changed b h.slot slot
  empty : slot.value = none
  ended : slot.generation = h.generation ∧ slot.retired = true ∨
    slot.generation.get.toNat = h.generation.get.toNat + 1 ∧ slot.retired = false

namespace Emptied

variable {a b : Arena T} {h : RawHandle} {v : T} {slot : Slot T}

variable (he : a.Emptied b h v slot)
include he

lemma get_self : a.get h = some v := by
  rw [get_of_slot he.held]
  simp

/-- The handle stops resolving, and the others resolve to what they did. -/
lemma get_eq (k : RawHandle) : b.get k = if k = h then none else a.get k := by
  by_cases hslot : k.slot = h.slot
  · have hnone : b.get k = none := by
      rw [get_of_slot (by rw [hslot]; exact he.changed.self), he.empty]
      exact ite_self _
    rw [hnone]
    split_ifs with heq
    · rfl
    · rw [get_of_slot (by rw [hslot]; exact he.held)]
      have hgen : h.generation.get ≠ k.generation.get := by
        intro hget
        have := ext_get hget
        cases k
        cases h
        simp_all
      rw [if_neg hgen]
  · have hne : k ≠ h := fun heq => hslot (by rw [heq])
    rw [he.changed.get_other hslot, if_neg hne]

/-- A removal hands out nothing. -/
lemma issued_iff (k : RawHandle) : b.Issued k ↔ a.Issued k := by
  by_cases hslot : k.slot = h.slot
  · rw [issued_of_slot (by rw [hslot]; exact he.changed.self),
      issued_of_slot (by rw [hslot]; exact he.held)]
    rcases he.ended with ⟨hgen, hret⟩ | ⟨hgen, hret⟩
    · simp [hgen, hret]
    · have hkh : k.generation = h.generation ↔
          k.generation.get.toNat = h.generation.get.toNat :=
        ⟨fun heq => by rw [heq], fun heq => ext_get (UInt32.toNat_inj.mp heq)⟩
      simp only [hgen, hret, he.empty, hkh, Option.isSome_none, Option.isSome_some]
      simp only [Bool.false_eq_true, or_self, and_false, or_false, and_true]
      omega
  · rw [he.changed.issued_other hslot]

end Emptied

/-! ## The operations -/

lemma Wf.len_lt (hwf : a.Wf) : a.len + 1 < 2 ^ 64 := by
  have hcount := countP_le_length (p := fun slot : Slot T => slot.value.isSome) (l := a.slots)
  have hle := hwf.slots_le
  have hlen := hwf.len_eq
  unfold maxSlotCount at hle
  omega

/-- An arena in which one slot took a value is well-formed, if the slot left the free list and the
counter counts the value. -/
lemma Filled.wf {a b : Arena T} (hf : a.Filled b h v) (hwf : a.Wf)
    (hle : b.slots.length ≤ maxSlotCount) (hnodup : b.free.Nodup)
    (hfree : ∀ i, i ∈ b.free ↔ i ∈ a.free ∧ i ≠ h.slot)
    (hlen : b.len = b.slots.countP (fun slot => slot.value.isSome)) : b.Wf where
  slots_le := hle
  free_nodup := hnodup
  mem_free := by
    intro i
    rw [hfree i, hf.changed i, hwf.mem_free i]
    by_cases hi : i = h.slot <;> simp [hi]
  retired_empty := by
    intro i slot hslot hret
    rw [hf.changed i] at hslot
    split_ifs at hslot with hi
    · rw [← Option.some.inj hslot] at hret
      simp at hret
    · exact hwf.retired_empty i slot hslot hret
  len_eq := hlen

/-- An arena in which one slot lost its value is well-formed, if the slot went to the free list
unless it is retired, and the counter no longer counts the value. -/
lemma Emptied.wf {a b : Arena T} {slot : Slot T} (he : a.Emptied b h v slot) (hwf : a.Wf)
    (hle : b.slots.length ≤ maxSlotCount) (hnodup : b.free.Nodup)
    (hfree : ∀ i, i ∈ b.free ↔ i ∈ a.free ∨ i = h.slot ∧ slot.retired = false)
    (hlen : b.len = b.slots.countP (fun slot => slot.value.isSome)) : b.Wf where
  slots_le := hle
  free_nodup := hnodup
  mem_free := by
    intro i
    rw [hfree i, he.changed i, hwf.mem_free i]
    by_cases hi : i = h.slot
    · subst hi
      simp [he.held, he.empty]
    · simp [hi]
  retired_empty := by
    intro i s hs hret
    rw [he.changed i] at hs
    split_ifs at hs with hi
    · rw [← Option.some.inj hs]
      exact he.empty
    · exact hwf.retired_empty i s hs hret
  len_eq := hlen

/-- What an insertion does: it returns a handle that had not been handed out and that now resolves
to the value, or it changes nothing. -/
def Inserted (a : Arena T) (v : T) (h : RawHandle) (b : Arena T) : Prop :=
  b.Wf ∧ a.Filled b h v

lemma nextSlotIndex_ok {n : Nat} {i : UInt32} (h : nextSlotIndex n = .ok i) :
    n < maxSlotCount ∧ i.toNat = n := by
  unfold nextSlotIndex at h
  split_ifs at h with hlt
  have hi : UInt32.ofNat n = i := Except.ok.inj h
  refine ⟨hlt, ?_⟩
  rw [← hi]
  simp only [UInt32.toNat_ofNat', maxSlotCount] at hlt ⊢
  omega

lemma insertNew_sat (hwf : a.Wf) (hfree : a.free = []) (v : T) :
    (insertNew v a).Ends (a.Inserted v) (fun _ b => b = a) := by
  unfold insertNew
  split
  · rfl
  · rename_i i hi
    obtain ⟨hlt, htoNat⟩ := nextSlotIndex_ok hi
    have hlen := hwf.len_lt
    simp only [grown, hlen, if_true, sat_ok]
    have hfilled : a.Filled
        { a with slots := a.slots ++ [⟨.min, some v, false⟩], len := a.len + 1 } ⟨i, .min⟩ v :=
      { changed := changed_push htoNat rfl
        vacant := .inl ⟨getElem?_eq_none (by simp [htoNat]), rfl⟩ }
    refine ⟨hfilled.wf hwf ?_ ?_ ?_ ?_, hfilled⟩
    · simp only [length_append, length_singleton]
      omega
    · exact hwf.free_nodup
    · simp [hfree]
    · simp [hwf.len_eq]

lemma tryInsert_sat (hwf : a.Wf) (v : T) :
    (tryInsert v a).Ends (a.Inserted v) (fun _ b => b = a) := by
  unfold tryInsert
  split
  · rename_i hfree
    exact insertNew_sat hwf (getLast?_eq_none_iff.mp hfree) v
  · rename_i i hlast
    obtain ⟨rest, hfree⟩ := getLast?_eq_some_iff.mp hlast
    have hmem : i ∈ a.free := by simp [hfree]
    obtain ⟨slot, hslot, hvalue, hretired⟩ := (hwf.mem_free i).mp hmem
    have hlen := hwf.len_lt
    simp only [hslot, hvalue, hretired, grown, hlen, if_true, Option.isSome_none,
      Bool.false_eq_true, if_false, sat_ok]
    have hvacant : slot = ⟨slot.generation, none, false⟩ := by
      rw [← hvalue, ← hretired]
    have hfilled : a.Filled
        { slots := a.slots.set i.toNat ⟨slot.generation, some v, false⟩, free := a.free.dropLast,
          len := a.len + 1 } ⟨i, slot.generation⟩ v :=
      { changed := changed_set hslot rfl
        vacant := .inr (by rw [← hvacant]; exact hslot) }
    obtain ⟨hlt, hget⟩ := List.getElem?_eq_some_iff.mp hslot
    have hnodup := hwf.free_nodup
    rw [hfree, nodup_append] at hnodup
    refine ⟨hfilled.wf hwf ?_ ?_ ?_ ?_, hfilled⟩
    · simpa using hwf.slots_le
    · simpa [hfree] using hnodup.1
    · intro j
      grind
    · simp [countP_set hlt, hget, hvalue, hwf.len_eq]

/-- What a removal does: it returns what the handle resolved to and ends the handle, or the handle
did not resolve and nothing changes. -/
def Removed (a : Arena T) (h : RawHandle) (r : Option T) (b : Arena T) : Prop :=
  b.Wf ∧ r = a.get h ∧ (a.get h = none ∧ b = a ∨ ∃ v slot, a.Emptied b h v slot)

/-- The counter after a value left its slot. -/
lemma countP_set_none {slots : List (Slot T)} {i : Nat} {old slot : Slot T}
    (hold : slots[i]? = some old) (hv : old.value = some v) (hnone : slot.value = none) :
    (slots.set i slot).countP (fun s => s.value.isSome) + 1 =
      slots.countP (fun s => s.value.isSome) := by
  obtain ⟨hlt, hget⟩ := List.getElem?_eq_some_iff.mp hold
  have hpos : 0 < slots.countP (fun s => s.value.isSome) := by
    apply countP_pos_iff.mpr
    exact ⟨old, mem_of_getElem? hold, by simp [hv]⟩
  rw [countP_set hlt, hget]
  simp only [hv, hnone, Option.isSome_some, Option.isSome_none, if_true, Bool.false_eq_true,
    if_false]
  omega

lemma release_sat (hwf : a.Wf) {slot : Slot T} (hslot : a.slots[h.slot.toNat]? = some slot)
    (hgen : slot.generation = h.generation) (hv : slot.value = some v) :
    (release h slot v a).Ends (a.Removed h) (fun _ _ => False) := by
  have hretired : slot.retired = false := by
    apply Bool.eq_false_iff.mpr
    intro hret
    rw [hwf.retired_empty _ _ hslot hret] at hv
    simp at hv
  have hheld : a.slots[h.slot.toNat]? = some ⟨h.generation, some v, false⟩ := by
    rw [hslot, ← hgen, ← hv, ← hretired]
  have hcount : ∀ {s : Slot T}, s.value = none →
      (a.slots.set h.slot.toNat s).countP (fun s => s.value.isSome) + 1 = a.len := by
    intro s hs
    rw [hwf.len_eq]
    exact countP_set_none hslot hv hs
  have hlen : a.len ≠ 0 := by
    have := hcount (s := ⟨slot.generation, none, true⟩) rfl
    omega
  unfold release
  rw [if_neg hlen]
  split_ifs with hmax
  · have he : a.Emptied
        { a with
          slots := a.slots.set h.slot.toNat { slot with value := none, retired := true }
          len := a.len - 1 } h v { slot with value := none, retired := true } :=
      { held := hheld, changed := changed_set hslot rfl, empty := rfl, ended := .inl ⟨hgen, rfl⟩ }
    refine ⟨he.wf hwf ?_ hwf.free_nodup ?_ ?_, he.get_self.symm, .inr ⟨v, _, he⟩⟩
    · simpa using hwf.slots_le
    · simp
    · have := hcount (s := { slot with value := none, retired := true }) rfl
      exact Nat.sub_eq_of_eq_add this.symm
  · obtain ⟨g, hnew, hsucc⟩ := NonZeroU32.exists_succ hmax
    simp only [hnew, sat_ok]
    have he : a.Emptied
        { slots := a.slots.set h.slot.toNat { slot with value := none, generation := g }
          free := a.free ++ [h.slot]
          len := a.len - 1 } h v { slot with value := none, generation := g } :=
      { held := hheld, changed := changed_set hslot rfl, empty := rfl
        ended := .inr ⟨by rw [hsucc, hgen], hretired⟩ }
    have hnotfree : h.slot ∉ a.free := by
      rw [hwf.mem_free, hheld]
      simp
    refine ⟨he.wf hwf ?_ ?_ ?_ ?_, he.get_self.symm, .inr ⟨v, _, he⟩⟩
    · simpa using hwf.slots_le
    · rw [nodup_append]
      refine ⟨hwf.free_nodup, nodup_singleton _, ?_⟩
      intro i hi j hj heq
      rw [heq, mem_singleton.mp hj] at hi
      exact hnotfree hi
    · simp [hretired]
    · have := hcount (s := { slot with value := none, generation := g }) rfl
      exact Nat.sub_eq_of_eq_add this.symm

lemma remove_sat (hwf : a.Wf) (h : RawHandle) :
    (remove h a).Ends (a.Removed h) (fun _ _ => False) := by
  unfold remove
  split
  · rename_i hnone
    have hget : a.get h = none := get_of_empty (fun s hs => absurd (hnone.symm.trans hs) (by simp))
    exact ⟨hwf, hget.symm, .inl ⟨hget, rfl⟩⟩
  · rename_i slot hslot
    split_ifs with hgen
    · have hget : a.get h = none := by rw [get_of_slot hslot, if_neg hgen]
      exact ⟨hwf, hget.symm, .inl ⟨hget, rfl⟩⟩
    · have hgen' : slot.generation = h.generation := ext_get (not_not.mp hgen)
      split
      · rename_i hv
        have hget : a.get h = none := by rw [get_of_slot hslot, hv, ite_self]
        exact ⟨hwf, hget.symm, .inl ⟨hget, rfl⟩⟩
      · rename_i v hv
        exact release_sat hwf hslot hgen' hv

/-- What is left of a handle after a removal. -/
lemma Removed.get_eq {a b : Arena T} {r : Option T} (hr : a.Removed h r b) (k : RawHandle) :
    b.get k = if k = h then none else a.get k := by
  rcases hr.2.2 with ⟨hnone, rfl⟩ | ⟨v, slot, he⟩
  · split_ifs with hk
    · rw [hk, hnone]
    · rfl
  · exact he.get_eq k

lemma Removed.issued_iff {a b : Arena T} {r : Option T} (hr : a.Removed h r b) (k : RawHandle) :
    b.Issued k ↔ a.Issued k := by
  rcases hr.2.2 with ⟨_, rfl⟩ | ⟨v, slot, he⟩
  · rfl
  · exact he.issued_iff k

/-! ## Clearing -/

/-- The handles `clear` goes through are those that resolve. -/
lemma mem_liveHandles (h : RawHandle) : h ∈ a.liveHandles ↔ (a.get h).isSome := by
  unfold liveHandles
  rw [mem_filterMap]
  constructor
  · rintro ⟨⟨slot, i⟩, hmem, hlive⟩
    rw [mk_mem_zipIdx_iff_getElem?] at hmem
    simp only [liveHandle] at hlive
    split_ifs at hlive with hcond
    have hh : { slot := UInt32.ofNat i, generation := slot.generation : RawHandle } = h :=
      Option.some.inj hlive
    have htoNat : (UInt32.ofNat i).toNat = i := by
      have := hcond.2
      simp only [UInt32.toNat_ofNat', maxSlotCount] at this ⊢
      omega
    subst hh
    have hslot : a.slots[(UInt32.ofNat i).toNat]? = some slot := by rw [htoNat]; exact hmem
    rw [get_of_slot hslot, if_pos rfl]
    exact hcond.1
  · intro hsome
    unfold get at hsome
    split at hsome
    · simp at hsome
    · rename_i slot hslot
      split_ifs at hsome with hgen
      · refine ⟨(slot, h.slot.toNat), mk_mem_zipIdx_iff_getElem?.mpr hslot, ?_⟩
        have hlt : h.slot.toNat < maxSlotCount := h.slot.toNat_lt
        have hgen' : slot.generation = h.generation := ext_get hgen
        simp [liveHandle, hsome, hlt, hgen']
      · simp at hsome

/-- What a series of removals does. -/
def Cleared (a : Arena T) (handles : List RawHandle) (b : Arena T) : Prop :=
  b.Wf ∧ (∀ k, b.Issued k ↔ a.Issued k) ∧
    ∀ k, b.get k = if k ∈ handles then none else a.get k

lemma removeAll_sat (hwf : a.Wf) (handles : List RawHandle) :
    (removeAll handles a).Ends (fun _ => a.Cleared handles) (fun _ _ => False) := by
  induction handles generalizing a with
  | nil => exact ⟨hwf, fun _ => Iff.rfl, fun _ => by simp⟩
  | cons h rest ih =>
    refine Call.sat_bind.mpr ((remove_sat hwf h).imp fun r b hr => ?_)
    refine (ih hr.1).imp fun _ c hc => ⟨hc.1, fun k => ?_, fun k => ?_⟩
    · rw [hc.2.1 k, hr.issued_iff k]
    · rw [hc.2.2 k, hr.get_eq k]
      by_cases hk : k = h <;> simp [hk]

/-- After a `clear` nothing resolves, and it hands out nothing. -/
lemma clear_sat (hwf : a.Wf) :
    (clear a).Ends (fun n b => n = a.liveHandles.length ∧ b.Wf ∧ (∀ k, b.Issued k ↔ a.Issued k) ∧
        ∀ k, b.get k = none) (fun _ _ => False) := by
  refine Call.sat_bind.mpr (Call.sat_bind.mpr ((removeAll_sat hwf a.liveHandles).imp ?_))
  intro _ b hb
  refine ⟨rfl, hb.1, hb.2.1, fun k => ?_⟩
  rw [hb.2.2 k]
  split_ifs with hk
  · rfl
  · rw [mem_liveHandles, Option.not_isSome_iff_eq_none] at hk
    exact hk

end Arena

end WildBuzzard.Handles
