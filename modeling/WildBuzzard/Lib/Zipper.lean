import Mathlib.Data.List.Basic

/-!
# Lists with a position

A zipper is a list seen from one of its elements: what is before it, nearest first, and what is
after it. **A list and an index are a zipper** (`Zipper.ofList`): changing the element at the index
changes the element in view (`ofList_modify`), a step of the zipper is a step of the index
(`step_ofList`), and an element at the end of a list has the rest of it before itself
(`ofList_concat`).
-/

namespace WildBuzzard.Lib

open List Option

/-- An element of a list with what is before and after it. -/
@[ext]
structure Zipper (α : Type) where
  past : List α
  current : α
  future : List α

namespace Zipper

variable {α β : Type} {l : List α} {a : α} {i : ℕ} {z : Zipper α}

/-- One step back or forward, if there is one. -/
def step (forward : Bool) (z : Zipper α) : Option (Zipper α) :=
  match forward, z.past, z.future with
  | false, a :: past, future => some ⟨past, a, z.current :: future⟩
  | true, past, a :: future => some ⟨z.current :: past, a, future⟩
  | _, _, _ => none

/-- A change of the element in view. -/
def revise (f : α → α) (z : Zipper α) : Zipper α := { z with current := f z.current }

/-- A change of every element. -/
def map (f : α → β) (z : Zipper α) : Zipper β := ⟨z.past.map f, f z.current, z.future.map f⟩

/-- What was seen up to now, nearest first. -/
def trail (z : Option (Zipper α)) : List α := z.elim [] fun z => z.current :: z.past

/-- A new element after the one in view: what was after it is dropped, and of what is before only
so much is kept that the list has at most `limit` elements. -/
def visit (limit : ℕ) (a : α) (z : Option (Zipper α)) : Zipper α :=
  ⟨(trail z).take (limit - 1), a, []⟩

/-- A list seen from one of its elements. -/
def ofList (l : List α) (i : ℕ) : Option (Zipper α) :=
  l[i]?.map fun a => ⟨(l.take i).reverse, a, l.drop (i + 1)⟩

lemma ofList_eq_none : ofList l i = none ↔ l.length ≤ i := by
  rw [ofList, map_eq_none_iff, List.getElem?_eq_none_iff]

lemma map_map_of_comm {f : α → α} {g : β → β} {k : α → β} (h : ∀ a, k (f a) = g (k a))
    (z : Zipper α) : (z.map f).map k = (z.map k).map g := by
  simp [map, Function.comp_def, h]

lemma map_revise {f : α → α} {g : β → β} {k : α → β} (h : ∀ a, k (f a) = g (k a)) (z : Zipper α) :
    (z.revise f).map k = (z.map k).revise g := by
  simp [map, revise, h]

lemma step_map (f : α → β) (forward : Bool) (z : Zipper α) :
    (z.map f).step forward = (z.step forward).map (map f) := by
  obtain ⟨past, current, future⟩ := z
  cases forward <;> cases past <;> cases future <;> rfl

lemma map_visit (f : α → β) (limit : ℕ) (a : α) (z : Option (Zipper α)) :
    (visit limit a z).map f = visit limit (f a) (z.map (map f)) := by
  cases z <;> simp [visit, map, trail, map_take]

lemma ofList_map (f : α → β) (l : List α) (i : ℕ) :
    ofList (l.map f) i = (ofList l i).map (map f) := by
  unfold ofList
  rw [getElem?_map, Option.map_map, Option.map_map]
  refine congrArg (Option.map · l[i]?) (funext fun a => ?_)
  simp [map, map_take, map_drop]

lemma ofList_modify (f : α → α) (l : List α) (i : ℕ) :
    ofList (l.modify i f) i = (ofList l i).map (revise f) := by
  unfold ofList
  rw [getElem?_modify_eq, Option.map_eq_map, Option.map_map, Option.map_map]
  refine congrArg (Option.map · l[i]?) (funext fun a => ?_)
  have htake : (l.modify i f).take i = l.take i := by
    rw [take_modify, modify_eq_self (length_take_le i l)]
  simp [revise, htake, drop_modify_of_lt]

lemma reverse_take_succ (h : i < l.length) :
    (l.take (i + 1)).reverse = l[i] :: (l.take i).reverse := by
  rw [take_succ_eq_append_getElem h, reverse_append]
  rfl

/-- **A step of the zipper is a step of the index.** -/
theorem step_ofList (hz : ofList l i = some z) (forward : Bool) :
    z.step forward =
      if forward then ofList l (i + 1) else if i = 0 then none else ofList l (i - 1) := by
  obtain ⟨a, ha, rfl⟩ := map_eq_some_iff.mp hz
  obtain ⟨hi, rfl⟩ := List.getElem?_eq_some_iff.mp ha
  cases forward with
  | true =>
    rw [if_pos rfl]
    by_cases hnext : i + 1 < l.length
    · have hdrop := drop_eq_getElem_cons hnext
      simp only [step, ofList, getElem?_eq_getElem hnext, hdrop, reverse_take_succ hi, map_some]
    · have hend : l.length ≤ i + 1 := by omega
      simp only [step, ofList_eq_none.mpr hend, drop_eq_nil_of_le hend]
  | false =>
    cases i with
    | zero => rfl
    | succ i =>
      have hbefore : i < l.length := Nat.lt_of_succ_lt hi
      have hdrop := drop_eq_getElem_cons hi
      simp only [step, ofList, reverse_take_succ hbefore, Nat.add_sub_cancel,
        getElem?_eq_getElem hbefore, hdrop, map_some]
      rfl

lemma ofList_concat (l : List α) (a : α) :
    ofList (l ++ [a]) l.length = some ⟨l.reverse, a, []⟩ := by
  simp [ofList]

lemma trail_ofList (h : i < l.length) : trail (ofList l i) = (l.take (i + 1)).reverse := by
  simp only [trail, ofList, getElem?_eq_getElem h, reverse_take_succ h, map_some, elim_some]

end Zipper

end WildBuzzard.Lib
