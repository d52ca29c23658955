import Mathlib.Algebra.Order.BigOperators.Group.List
import WildBuzzard.Layout.Flex
import WildBuzzard.Lib.Apportion
import WildBuzzard.Lib.Computes

/-!
# Flexing one line of items

The sums, weights and clamps of `resolve_flexible_lengths` without their overflow checks, and what
one round of its loop does to a line. A line that grows and one that shrinks are mirror images:
`toward` turns sizes so that both move upwards, and every lemma is about both.

* `offer_gains`, `sum_gain_offer`: cumulative division gives every item something, and all of the
  space together.
* `Balanced.settle`, `Balanced.settled`: **a round keeps the balance of the line**, and the round in
  which nothing is violated on the whole fills it.
-/

namespace WildBuzzard.Layout

open Lib List FlexItemInput Apportion Function

/-! ## Bounds of one item -/

lemma raw_bounds (value : Au) : -2 ^ 31 ≤ raw value ∧ raw value < 2 ^ 31 :=
  ⟨value.raw.le_toInt, value.raw.toInt_lt⟩

namespace FlexItemInput

/-- The sizes of the item are not negative. -/
def Nonneg (input : FlexItemInput) : Prop :=
  0 ≤ raw input.baseMain ∧ 0 ≤ raw input.minMain ∧ ∀ most ∈ input.maxMain, 0 ≤ raw most

/-- A size between the bounds of the item; the minimum wins over the maximum. -/
def InClamp (input : FlexItemInput) (size : Int) : Prop :=
  raw input.minMain ≤ size ∧ ∀ most ∈ input.maxMain, size ≤ max (raw most) (raw input.minMain)

/-- A size strictly between the bounds of the item. -/
def Between (input : FlexItemInput) (size : Int) : Prop :=
  raw input.minMain < size ∧ ∀ most ∈ input.maxMain, size < raw most

instance (input : FlexItemInput) (size : Int) : Decidable (input.Between size) :=
  inferInstanceAs (Decidable (_ ∧ _))

instance (input : FlexItemInput) : Decidable input.Nonneg := inferInstanceAs (Decidable (_ ∧ _))

/-- A size put between the bounds. -/
def clamp (input : FlexItemInput) (size : Int) : Int :=
  clampMain size (raw input.minMain) (input.maxMain.map raw)

variable {input : FlexItemInput} {size size' : Int}

lemma hypothetical_eq : input.hypothetical = input.clamp (raw input.baseMain) := rfl

/-- What a clamp does, by cases on the maximum. -/
lemma clamp_cases (h : input.Nonneg) (size : Int) :
    (input.maxMain = none ∧ input.clamp size = max (max size 0) (raw input.minMain)) ∨
      ∃ most, input.maxMain = some most ∧ 0 ≤ raw most ∧
        input.clamp size = max (min (max size 0) (raw most)) (raw input.minMain) := by
  unfold clamp clampMain
  cases hmost : input.maxMain with
  | none => exact .inl ⟨rfl, rfl⟩
  | some most => exact .inr ⟨most, rfl, h.2.2 most hmost, rfl⟩

lemma inClamp_clamp (h : input.Nonneg) : input.InClamp (input.clamp size) := by
  unfold InClamp
  rcases clamp_cases h size with ⟨hnone, heq⟩ | ⟨most, hsome, hmost, heq⟩
  · rw [heq, hnone]
    exact ⟨by omega, by simp⟩
  · rw [heq, hsome]
    refine ⟨by omega, fun m hm => ?_⟩
    obtain rfl := Option.some.inj hm
    omega

lemma clamp_mono (hle : size ≤ size') : input.clamp size ≤ input.clamp size' := by
  unfold clamp clampMain
  cases input.maxMain with
  | none => simp only [Option.map_none]; omega
  | some most => simp only [Option.map_some]; omega

/-- **A size that is moved to a bound is not strictly between them.** -/
theorem not_between_of_moved (h : input.Nonneg) (hmoved : input.clamp size ≠ size) :
    ¬input.Between (input.clamp size) := by
  have hleast := h.2.1
  rintro ⟨hlow, hhigh⟩
  rcases clamp_cases h size with ⟨hnone, heq⟩ | ⟨most, hsome, hmost, heq⟩
  · omega
  · have := hhigh most hsome
    omega

end FlexItemInput

/-! ## Directions -/

/-- A size in the direction in which the line flexes. -/
def toward (usingGrow : Bool) (size : Int) : Int := if usingGrow then size else -size

@[simp] lemma toward_true (size : Int) : toward true size = size := rfl

@[simp] lemma toward_false (size : Int) : toward false size = -size := rfl

namespace FlexItemInput

variable {input : FlexItemInput} {size : Int} {usingGrow : Bool}

/-- An item that is given space gets at least its hypothetical size. -/
lemma toward_hypothetical_le (hgain : 0 ≤ toward usingGrow (size - raw input.baseMain)) :
    toward usingGrow input.hypothetical ≤ toward usingGrow (input.clamp size) := by
  rw [hypothetical_eq]
  cases usingGrow with
  | true =>
    rw [toward_true] at hgain ⊢
    exact clamp_mono (by omega)
  | false =>
    rw [toward_false] at hgain ⊢
    have hmono : input.clamp size ≤ input.clamp (raw input.baseMain) := clamp_mono (by omega)
    rw [toward_false]
    omega

/-- **An item that is given space and is pushed further by its clamp was held at its hypothetical
size.** -/
theorem clamp_eq_hypothetical (h : input.Nonneg)
    (hgain : 0 ≤ toward usingGrow (size - raw input.baseMain))
    (hmoved : 0 < toward usingGrow (input.clamp size - size)) :
    input.clamp size = input.hypothetical := by
  rw [hypothetical_eq]
  rcases clamp_cases h size with ⟨hnone, heq⟩ | ⟨most, hsome, hmost, heq⟩ <;>
    rcases clamp_cases h (raw input.baseMain) with ⟨hnone', heq'⟩ | ⟨most', hsome', _, heq'⟩
  · cases usingGrow <;> simp only [toward_true, toward_false] at hgain hmoved <;> omega
  · exact absurd (hnone.symm.trans hsome') (by simp)
  · exact absurd (hnone'.symm.trans hsome) (by simp)
  · obtain rfl := Option.some.inj (hsome.symm.trans hsome')
    cases usingGrow <;> simp only [toward_true, toward_false] at hgain hmoved <;> omega

lemma factor_bounds (usingGrow : Bool) (input : FlexItemInput) :
    0 ≤ input.factor usingGrow ∧ input.factor usingGrow < 2 ^ 32 := by
  have hgrow := input.grow.millionths.toNat_lt
  have hshrink := input.shrink.millionths.toNat_lt
  unfold factor
  split <;> omega

end FlexItemInput

lemma toward_sub (usingGrow : Bool) (a b : Int) :
    toward usingGrow (a - b) = toward usingGrow a - toward usingGrow b := by
  cases usingGrow
  · rw [toward_false, toward_false, toward_false]
    omega
  · rfl

/-! ## Sums over a line -/

namespace WorkingItem

variable (usingGrow : Bool) (item : WorkingItem)

/-- The size of an item in the balance: what is not frozen counts with its hypothetical size. -/
def settledSize : Int := if item.frozen then item.target else item.hypothetical

/-- The size of an item when it has no share yet. -/
def baseSize : Int :=
  if item.frozen then item.target else raw item.input.baseMain

/-- The size of an item after this round's clamp. -/
def clampedSize : Int :=
  if item.frozen then item.target else item.input.clamp item.target

/-- The share an item was offered in this round. -/
def gain : Int :=
  if item.frozen then 0 else item.target - raw item.input.baseMain

/-- How far the clamp moves an item. -/
def moved : Int :=
  if item.frozen then 0 else item.input.clamp item.target - item.target

/-- The weight of an item: 0 if it is frozen. -/
def weight : Int :=
  if item.frozen then 0
  else if usingGrow then item.input.factor usingGrow
  else item.input.factor usingGrow * raw item.input.baseMain

/-- The factor of an item: 0 if it is frozen. -/
def activeFactor : Int :=
  if item.frozen then 0 else item.input.factor usingGrow

end WorkingItem

open WorkingItem

variable (gapTotal : Int)

/-- The length of a line, with the outer sizes and the gaps. -/
def lineLength (gapTotal : Int) (size : WorkingItem → Int) (items : List WorkingItem) : Int :=
  gapTotal + (items.map fun item => size item + raw item.input.outerMain).sum

lemma lineLength_add (size more : WorkingItem → Int) (items : List WorkingItem) :
    lineLength gapTotal (fun item => size item + more item) items =
      lineLength gapTotal size items + (items.map more).sum := by
  unfold lineLength
  induction items with
  | nil => simp
  | cons item rest ih =>
    simp only [map_cons, sum_cons] at ih ⊢
    omega

variable {size size' : WorkingItem → Int} {items : List WorkingItem}

/-- Sizes that are further in a direction make the line longer in that direction. -/
lemma toward_lineLength_le (usingGrow : Bool) (gapTotal : Int)
    (h : ∀ item ∈ items, toward usingGrow (size item) ≤ toward usingGrow (size' item)) :
    toward usingGrow (lineLength gapTotal size items) ≤
      toward usingGrow (lineLength gapTotal size' items) := by
  unfold lineLength
  induction items with
  | nil => simp
  | cons item rest ih =>
    have hfirst := h item mem_cons_self
    have hrest := ih fun other hother => h other (mem_cons_of_mem _ hother)
    simp only [map_cons, sum_cons]
    cases usingGrow <;> simp only [toward_true, toward_false] at hfirst hrest ⊢ <;> omega

lemma lineLength_congr (h : ∀ item ∈ items, size item = size' item) :
    lineLength gapTotal size items = lineLength gapTotal size' items := by
  unfold lineLength
  rw [map_congr_left fun item hitem => by rw [h item hitem]]

/-- Clamped sizes are the base sizes with the shares and the moves. -/
lemma lineLength_clampedSize (items : List WorkingItem) :
    lineLength gapTotal clampedSize items =
      lineLength gapTotal baseSize items + (items.map gain).sum + (items.map moved).sum := by
  rw [← lineLength_add, ← lineLength_add]
  apply lineLength_congr
  intro item _
  unfold clampedSize baseSize gain moved
  split_ifs <;> omega

/-! ## Shares -/

/-- The items after their shares were added to their base sizes. -/
def offer (usingGrow : Bool) (free weightSum : Int) : Int → List WorkingItem → List WorkingItem
  | _, [] => []
  | before, item :: rest =>
    (if item.frozen then item
      else { item with
        target := raw item.input.baseMain +
          Apportion.share free weightSum before (item.weight usingGrow) }) ::
      offer usingGrow free weightSum (before + item.weight usingGrow) rest

section offer

variable {usingGrow : Bool} {free weightSum before : Int}

/-- An offer changes the targets of items that are not frozen, and nothing else. -/
lemma map_offer {β : Type} (f : WorkingItem → β)
    (hf : ∀ item target, item.frozen = false → f { item with target } = f item)
    (items : List WorkingItem) :
    (offer usingGrow free weightSum before items).map f = items.map f := by
  induction items generalizing before with
  | nil => rfl
  | cons item rest ih =>
    rw [offer, map_cons, map_cons, ih]
    split_ifs with hfrozen
    · rfl
    · rw [hf item _ (by simpa using hfrozen)]

variable {items : List WorkingItem}

lemma forall_offer {P : WorkingItem → Prop}
    (hP : ∀ item target, item.frozen = false → P item → P { item with target })
    (h : ∀ item ∈ items, P item) :
    ∀ item ∈ offer usingGrow free weightSum before items, P item := by
  induction items generalizing before with
  | nil => exact h
  | cons item rest ih =>
    have hfirst := h item mem_cons_self
    have hrest := @ih (before + item.weight usingGrow)
      fun other hother => h other (mem_cons_of_mem _ hother)
    rw [offer, forall_mem_cons]
    refine ⟨?_, hrest⟩
    split_ifs with hfrozen
    · exact hfirst
    · exact hP item _ (by simpa using hfrozen) hfirst

lemma length_offer (items : List WorkingItem) :
    (offer usingGrow free weightSum before items).length = items.length := by
  simpa using congrArg length (map_offer (fun item => item.frozen) (fun _ _ _ => rfl) items)

lemma lineLength_offer (gapTotal : Int) {size : WorkingItem → Int}
    (hsize : ∀ item target, item.frozen = false → size { item with target } = size item)
    (items : List WorkingItem) :
    lineLength gapTotal size (offer usingGrow free weightSum before items) =
      lineLength gapTotal size items := by
  unfold lineLength
  rw [map_offer]
  intro item target hfrozen
  rw [hsize item target hfrozen]

/-- **All of the space is given away.** -/
theorem sum_gain_offer (items : List WorkingItem) :
    ((offer usingGrow free weightSum before items).map gain).sum =
      given free weightSum (before + (items.map (weight usingGrow)).sum) -
        given free weightSum before := by
  induction items generalizing before with
  | nil => simp [offer]
  | cons item rest ih =>
    rw [offer, map_cons, sum_cons, ih, map_cons, sum_cons, Int.add_assoc]
    have hgain : gain (if item.frozen then item
        else { item with
          target := raw item.input.baseMain +
            share free weightSum before (item.weight usingGrow) }) =
        share free weightSum before (item.weight usingGrow) := by
      by_cases hfrozen : item.frozen
      · simp [hfrozen, gain, weight, share]
      · simp [hfrozen, gain]
    rw [hgain, share]
    omega

/-- Every item is offered space in the direction of the line. -/
lemma offer_gains (hfree : 0 ≤ toward usingGrow free) (hsum : 0 < weightSum)
    (hbefore : 0 ≤ before) (hweight : ∀ item ∈ items, 0 ≤ item.weight usingGrow) :
    ∀ item ∈ offer usingGrow free weightSum before items, 0 ≤ toward usingGrow item.gain := by
  induction items generalizing before with
  | nil => exact fun item hitem => absurd hitem not_mem_nil
  | cons item rest ih =>
    have hfirst := hweight item mem_cons_self
    have hrest := @ih (before + item.weight usingGrow) (by omega)
      fun other hother => hweight other (mem_cons_of_mem _ hother)
    rw [offer, forall_mem_cons]
    refine ⟨?_, hrest⟩
    by_cases hfrozen : item.frozen
    · rw [if_pos hfrozen, gain, if_pos hfrozen]
      cases usingGrow <;> simp
    · rw [if_neg hfrozen, gain, if_neg hfrozen]
      dsimp only
      cases usingGrow with
      | true =>
        have hshare : 0 ≤ share free weightSum before (item.weight true) :=
          share_nonneg hfree hsum hbefore hfirst
        rw [toward_true]
        omega
      | false =>
        have hshare : share free weightSum before (item.weight false) ≤ 0 :=
          share_nonpos (by simpa using hfree) hsum hbefore hfirst
        rw [toward_false]
        omega

end offer

/-! ## A round -/

/-- What an item is after its clamp, when all items together were moved by `totalViolation`. -/
def settle (totalViolation : Int) (item : WorkingItem) : WorkingItem :=
  if item.frozen then item
  else
    { item with
      target := item.input.clamp item.target
      frozen := decide (totalViolation = 0 ∨ (totalViolation > 0 ∧ item.moved > 0) ∨
        (totalViolation < 0 ∧ item.moved < 0)) }

/-- What holds of every item before a round. Items that are not frozen can flex; those that are kept
a size in the direction of the line, and if it is one strictly between the bounds, it is the
hypothetical size of an item without a factor. -/
structure Flexes (usingGrow : Bool) (item : WorkingItem) : Prop where
  nonneg : item.input.Nonneg
  hypothetical : item.hypothetical = item.input.hypothetical
  active : item.frozen = false → item.input.factor usingGrow ≠ 0 ∧
    toward usingGrow (raw item.input.baseMain) ≤ toward usingGrow item.hypothetical
  inClamp : item.frozen = true → item.input.InClamp item.target
  flexed : item.frozen = true →
    toward usingGrow item.hypothetical ≤ toward usingGrow item.target
  held : item.frozen = true →
    (item.input.factor usingGrow = 0 ∧ item.target = item.hypothetical) ∨
      ¬item.input.Between item.target

/-- What holds of a line before a round: with hypothetical sizes for what is not frozen, it would
not reach beyond the main size. -/
structure Balanced (sizes : LineSizes) (items : List WorkingItem) : Prop where
  each : ∀ item ∈ items, Flexes sizes.usingGrow item
  room : 0 ≤ toward sizes.usingGrow
    (sizes.available - lineLength sizes.gapTotal settledSize items)

/-- The factors of the items whose sizes are strictly between their bounds. -/
def betweenFactors (usingGrow : Bool) (items : List WorkingItem) : Int :=
  (items.map fun item =>
    if item.input.Between item.target then item.input.factor usingGrow else 0).sum

/-- A line that is done. -/
structure Settled (sizes : LineSizes) (items : List WorkingItem) : Prop where
  frozen : ∀ item ∈ items, item.frozen = true
  hypothetical : ∀ item ∈ items, item.hypothetical = item.input.hypothetical
  inClamp : ∀ item ∈ items, item.input.InClamp item.target
  flexed : ∀ item ∈ items,
    toward sizes.usingGrow item.hypothetical ≤ toward sizes.usingGrow item.target
  room : 0 ≤ toward sizes.usingGrow (sizes.available - lineLength sizes.gapTotal target items)
  filled : lineLength sizes.gapTotal target items = sizes.available ∨
    betweenFactors sizes.usingGrow items < FlexFactor.one.millionths.toNat

section round

variable {sizes : LineSizes} {items : List WorkingItem} {item : WorkingItem} {totalViolation : Int}

variable {usingGrow : Bool}

/-- Only items with a size strictly between the bounds that are new can count. -/
lemma betweenFactors_le {f : WorkingItem → WorkingItem}
    (h : ∀ item ∈ items, (if (f item).input.Between (f item).target
      then (f item).input.factor usingGrow else 0) ≤ item.activeFactor usingGrow) :
    betweenFactors usingGrow (items.map f) ≤ (items.map (activeFactor usingGrow)).sum := by
  unfold betweenFactors
  rw [map_map]
  exact sum_le_sum h

lemma Flexes.between_eq_zero (h : Flexes usingGrow item) (hfrozen : item.frozen = true) :
    (if item.input.Between item.target then item.input.factor usingGrow else 0) = 0 := by
  rcases h.held hfrozen with ⟨hzero, -⟩ | hnot
  · rw [hzero, ite_self]
  · rw [if_neg hnot]

/-- A balanced line that has nothing left to flex is done. -/
lemma Balanced.of_frozen (h : Balanced sizes items) (hfrozen : ∀ item ∈ items, item.frozen = true) :
    Settled sizes items := by
  have hlength : lineLength sizes.gapTotal settledSize items =
      lineLength sizes.gapTotal target items :=
    lineLength_congr _ fun item hitem => if_pos (hfrozen item hitem)
  refine ⟨hfrozen, fun item hitem => (h.each item hitem).hypothetical, fun item hitem =>
    (h.each item hitem).inClamp (hfrozen item hitem), fun item hitem =>
      (h.each item hitem).flexed (hfrozen item hitem), hlength ▸ h.room, .inr ?_⟩
  have hzero : betweenFactors sizes.usingGrow items = 0 := by
    apply sum_eq_zero
    intro x hx
    obtain ⟨item, hitem, rfl⟩ := mem_map.mp hx
    exact (h.each item hitem).between_eq_zero (hfrozen item hitem)
  rw [hzero]
  decide

/-- A target is of no account for an item that is not frozen. -/
lemma Flexes.retarget (h : Flexes usingGrow item) (hfrozen : item.frozen = false) (target : Int) :
    Flexes usingGrow { item with target } := by
  refine ⟨h.nonneg, h.hypothetical, h.active, ?_, ?_, ?_⟩ <;>
    exact fun htrue => absurd (hfrozen.symm.trans htrue) (by simp)

lemma Balanced.offer (h : Balanced sizes items) (free weightSum before : Int) :
    Balanced sizes (offer sizes.usingGrow free weightSum before items) := by
  refine ⟨forall_offer (fun item target hfrozen hitem => hitem.retarget hfrozen target) h.each, ?_⟩
  rw [lineLength_offer]
  · exact h.room
  · intro item target hfrozen
    simp [settledSize, hfrozen]

/-- The item is frozen by a round only if its clamp moved it, or if all are frozen. -/
lemma settle_frozen (hfrozen : item.frozen = false) :
    (settle totalViolation item).frozen = true ↔ totalViolation = 0 ∨
      (totalViolation > 0 ∧ item.moved > 0) ∨ (totalViolation < 0 ∧ item.moved < 0) := by
  simp [settle, hfrozen]

lemma settle_of_frozen (hfrozen : item.frozen = true) :
    settle totalViolation item = item := if_pos hfrozen

section

variable (totalViolation : Int) (item : WorkingItem)

lemma settle_input : (settle totalViolation item).input = item.input := by
  unfold settle
  split_ifs <;> rfl

lemma settle_hypothetical : (settle totalViolation item).hypothetical = item.hypothetical := by
  unfold settle
  split_ifs <;> rfl

lemma settle_target : (settle totalViolation item).target = item.clampedSize := by
  unfold settle clampedSize
  split_ifs <;> rfl

end

lemma moved_of_active (hfrozen : item.frozen = false) :
    item.moved = item.input.clamp item.target - item.target := by
  simp [moved, hfrozen]

/-- The clamped size of an item that was given space, in the direction of the line. -/
lemma Flexes.le_clampedSize (h : Flexes usingGrow item) (hgain : 0 ≤ toward usingGrow item.gain) :
    toward usingGrow item.hypothetical ≤ toward usingGrow item.clampedSize := by
  unfold clampedSize
  by_cases hfrozen : item.frozen
  · rw [if_pos hfrozen]
    exact h.flexed hfrozen
  · rw [if_neg hfrozen, h.hypothetical]
    rw [gain, if_neg hfrozen] at hgain
    exact toward_hypothetical_le hgain

lemma Flexes.inClamp_clampedSize (h : Flexes usingGrow item) :
    item.input.InClamp item.clampedSize := by
  unfold clampedSize
  by_cases hfrozen : item.frozen
  · rw [if_pos hfrozen]
    exact h.inClamp hfrozen
  · rw [if_neg hfrozen]
    exact inClamp_clamp h.nonneg

lemma Flexes.settle (h : Flexes usingGrow item) (hgain : 0 ≤ toward usingGrow item.gain)
    (hsome : totalViolation ≠ 0) : Flexes usingGrow (settle totalViolation item) := by
  by_cases hfrozen : item.frozen
  · rw [settle_of_frozen hfrozen]
    exact h
  · rw [Bool.not_eq_true] at hfrozen
    refine ⟨?_, ?_, ?_, fun _ => ?_, fun _ => ?_, fun hnow => .inr ?_⟩
    · rw [settle_input]
      exact h.nonneg
    · rw [settle_hypothetical, settle_input]
      exact h.hypothetical
    · rw [settle_hypothetical, settle_input]
      exact fun _ => h.active hfrozen
    · rw [settle_input, settle_target]
      exact h.inClamp_clampedSize
    · rw [settle_hypothetical, settle_target]
      exact h.le_clampedSize hgain
    · have hmoved := (settle_frozen hfrozen).mp hnow
      rw [moved_of_active hfrozen] at hmoved
      rw [settle_input, settle_target, clampedSize, hfrozen]
      exact not_between_of_moved h.nonneg (by omega)

section

variable (h : Balanced sizes items) (hgain : ∀ item ∈ items, 0 ≤ toward sizes.usingGrow item.gain)
variable (hgiven : toward sizes.usingGrow (items.map gain).sum ≤ toward sizes.usingGrow
      (sizes.available - lineLength sizes.gapTotal baseSize items))
include h hgain hgiven

/-- **A round in which the clamps move the items on the whole keeps the balance of the line.** If
they push it on, only items at their hypothetical sizes are frozen; if they hold it back, what is
frozen took no more than there was. -/
theorem Balanced.settle (hsome : (items.map moved).sum ≠ 0) :
    Balanced sizes (items.map (settle (items.map moved).sum)) := by
  set totalViolation := (items.map moved).sum with htotal
  refine ⟨?_, ?_⟩
  · intro item hitem
    obtain ⟨before, hbefore, rfl⟩ := mem_map.mp hitem
    exact (h.each before hbefore).settle (hgain before hbefore) hsome
  have hmap : lineLength sizes.gapTotal settledSize (items.map (Layout.settle totalViolation)) =
      lineLength sizes.gapTotal (fun item => (Layout.settle totalViolation item).settledSize)
        items := by
    simp [lineLength, comp_def, settle_input]
  rw [hmap]
  rcases lt_or_gt_of_ne (show toward sizes.usingGrow totalViolation ≠ 0 by
    cases sizes.usingGrow <;> simpa using hsome) with hback | hon
  · -- every item counts with no more than its clamped size
    have hle : toward sizes.usingGrow (lineLength sizes.gapTotal
        (fun item => (Layout.settle totalViolation item).settledSize) items) ≤
          toward sizes.usingGrow (lineLength sizes.gapTotal clampedSize items) := by
      apply toward_lineLength_le
      intro item hitem
      unfold settledSize
      rw [settle_target, settle_hypothetical]
      split_ifs
      · exact le_rfl
      · exact (h.each item hitem).le_clampedSize (hgain item hitem)
    rw [lineLength_clampedSize, ← htotal] at hle
    cases hgrow : sizes.usingGrow <;>
      simp only [hgrow, toward_true, toward_false] at hle hgiven hback ⊢ <;> omega
  · -- what is frozen now has its hypothetical size
    have heq : lineLength sizes.gapTotal
        (fun item => (Layout.settle totalViolation item).settledSize) items =
          lineLength sizes.gapTotal settledSize items := by
      apply lineLength_congr
      intro item hitem
      by_cases hfrozen : item.frozen
      · rw [settle_of_frozen hfrozen]
      · rw [Bool.not_eq_true] at hfrozen
        unfold settledSize
        rw [settle_target, settle_hypothetical, hfrozen, if_neg Bool.false_ne_true]
        split_ifs with hnow
        · have hcause := (settle_frozen hfrozen).mp hnow
          have hpushed : 0 < toward sizes.usingGrow item.moved := by
            cases hgrow : sizes.usingGrow <;>
              simp only [hgrow, toward_true, toward_false] at hon ⊢ <;> omega
          have hshare := hgain item hitem
          rw [gain, hfrozen, if_neg Bool.false_ne_true] at hshare
          rw [moved_of_active hfrozen] at hpushed
          rw [clampedSize, hfrozen, if_neg Bool.false_ne_true, (h.each item hitem).hypothetical]
          exact clamp_eq_hypothetical (h.each item hitem).nonneg hshare hpushed
        · rfl
    rw [heq]
    exact h.room

/-- **The round in which nothing is moved on the whole ends the line.** -/
theorem Balanced.settled (hfill : (items.map gain).sum =
        sizes.available - lineLength sizes.gapTotal baseSize items ∨
      (items.map (activeFactor sizes.usingGrow)).sum < FlexFactor.one.millionths.toNat)
    (hnone : (items.map moved).sum = 0) : Settled sizes (items.map (Layout.settle 0)) := by
  have hlength : lineLength sizes.gapTotal target (items.map (Layout.settle 0)) =
      lineLength sizes.gapTotal baseSize items + (items.map gain).sum := by
    have hmap : lineLength sizes.gapTotal target (items.map (Layout.settle 0)) =
        lineLength sizes.gapTotal clampedSize items := by
      simp [lineLength, comp_def, settle_input, settle_target]
    rw [hmap, lineLength_clampedSize, hnone, Int.add_zero]
  refine ⟨?_, ?_, ?_, ?_, ?_, ?_⟩
  · rw [forall_mem_map]
    intro item hitem
    by_cases hfrozen : item.frozen
    · rw [settle_of_frozen hfrozen]
      exact hfrozen
    · exact (settle_frozen (by simpa using hfrozen)).mpr (.inl rfl)
  · rw [forall_mem_map]
    intro item hitem
    rw [settle_hypothetical, settle_input]
    exact (h.each item hitem).hypothetical
  · rw [forall_mem_map]
    intro item hitem
    rw [settle_input, settle_target]
    exact (h.each item hitem).inClamp_clampedSize
  · rw [forall_mem_map]
    intro item hitem
    rw [settle_hypothetical, settle_target]
    exact (h.each item hitem).le_clampedSize (hgain item hitem)
  · rw [hlength]
    cases hgrow : sizes.usingGrow <;>
      simp only [hgrow, toward_true, toward_false] at hgiven ⊢ <;> omega
  · rcases hfill with hall | hless
    · left
      omega
    · right
      refine lt_of_le_of_lt (betweenFactors_le fun item hitem => ?_) hless
      by_cases hfrozen : item.frozen
      · rw [settle_of_frozen hfrozen, (h.each item hitem).between_eq_zero hfrozen, activeFactor,
          if_pos hfrozen]
      · rw [settle_input, activeFactor, if_neg hfrozen]
        have hfactor := factor_bounds sizes.usingGrow item.input
        split_ifs <;> omega

end

/-! ## Ends of the loop -/

section

variable (item : WorkingItem)

lemma freezeAtHypothetical_input : item.freezeAtHypothetical.input = item.input := by
  unfold freezeAtHypothetical
  split_ifs <;> rfl

lemma freezeAtHypothetical_hypothetical :
    item.freezeAtHypothetical.hypothetical = item.hypothetical := by
  unfold freezeAtHypothetical
  split_ifs <;> rfl

lemma freezeAtHypothetical_target : item.freezeAtHypothetical.target = item.settledSize := by
  unfold freezeAtHypothetical settledSize
  split_ifs <;> rfl

lemma freezeAtHypothetical_frozen : item.freezeAtHypothetical.frozen = true := by
  unfold freezeAtHypothetical
  split_ifs with hfrozen
  · exact hfrozen
  · rfl

end

lemma Flexes.inClamp_settledSize (h : Flexes usingGrow item) :
    item.input.InClamp item.settledSize := by
  unfold settledSize
  split_ifs with hfrozen
  · exact h.inClamp hfrozen
  · rw [h.hypothetical]
    exact inClamp_clamp h.nonneg

/-- The loop is left with what is not frozen at its hypothetical size. -/
lemma Balanced.stop (h : Balanced sizes items)
    (hless : betweenFactors sizes.usingGrow (items.map freezeAtHypothetical) <
      FlexFactor.one.millionths.toNat) : Settled sizes (items.map freezeAtHypothetical) := by
  have hlength : lineLength sizes.gapTotal target (items.map freezeAtHypothetical) =
      lineLength sizes.gapTotal settledSize items := by
    simp [lineLength, comp_def, freezeAtHypothetical_input, freezeAtHypothetical_target]
  refine ⟨?_, ?_, ?_, ?_, hlength ▸ h.room, .inr hless⟩
  · rw [forall_mem_map]
    exact fun item _ => freezeAtHypothetical_frozen item
  · rw [forall_mem_map]
    intro item hitem
    rw [freezeAtHypothetical_hypothetical, freezeAtHypothetical_input]
    exact (h.each item hitem).hypothetical
  · rw [forall_mem_map]
    intro item hitem
    rw [freezeAtHypothetical_input, freezeAtHypothetical_target]
    exact (h.each item hitem).inClamp_settledSize
  · rw [forall_mem_map]
    intro item hitem
    rw [freezeAtHypothetical_hypothetical, freezeAtHypothetical_target, settledSize]
    split_ifs with hfrozen
    · exact (h.each item hitem).flexed hfrozen
    · exact le_rfl

/-- Without factors nothing strictly between the bounds is left. -/
lemma Balanced.stop_of_factors (h : Balanced sizes items)
    (hzero : (items.map (activeFactor sizes.usingGrow)).sum = 0) :
    Settled sizes (items.map freezeAtHypothetical) := by
  apply h.stop
  refine lt_of_le_of_lt (betweenFactors_le fun item hitem => ?_) (hzero ▸ by decide)
  rw [freezeAtHypothetical_input, freezeAtHypothetical_target, settledSize, activeFactor]
  have hfactor := factor_bounds sizes.usingGrow item.input
  by_cases hfrozen : item.frozen
  · rw [if_pos hfrozen, if_pos hfrozen, (h.each item hitem).between_eq_zero hfrozen]
  · rw [if_neg hfrozen, if_neg hfrozen]
    split_ifs <;> omega

lemma Flexes.weight_nonneg (h : Flexes usingGrow item) : 0 ≤ item.weight usingGrow := by
  have hfactor := (factor_bounds usingGrow item.input).1
  unfold weight
  split_ifs
  · exact le_refl 0
  · exact hfactor
  · exact Int.mul_nonneg hfactor h.nonneg.1

/-- An item without a weight that could flex has size 0. -/
lemma Flexes.not_between_of_weight (h : Flexes usingGrow item) (hfrozen : item.frozen = false)
    (hweight : item.weight usingGrow = 0) : ¬item.input.Between item.hypothetical := by
  obtain ⟨hfactor, hbase⟩ := h.active hfrozen
  have hleast := h.nonneg.2.1
  rintro ⟨hlow, -⟩
  rw [weight, hfrozen, if_neg Bool.false_ne_true] at hweight
  cases usingGrow with
  | true => exact hfactor hweight
  | false =>
    have hzero : raw item.input.baseMain = 0 := (Int.mul_eq_zero.mp hweight).resolve_left hfactor
    rw [toward_false, toward_false, hzero] at hbase
    omega

/-- Without weights nothing strictly between the bounds is left. -/
lemma Balanced.stop_of_weights (h : Balanced sizes items)
    (hzero : (items.map (weight sizes.usingGrow)).sum = 0) :
    Settled sizes (items.map freezeAtHypothetical) := by
  apply h.stop
  have hnone : betweenFactors sizes.usingGrow (items.map freezeAtHypothetical) = 0 := by
    unfold betweenFactors
    rw [map_map]
    apply sum_eq_zero
    intro x hx
    obtain ⟨item, hitem, rfl⟩ := mem_map.mp hx
    dsimp only [comp]
    rw [freezeAtHypothetical_input, freezeAtHypothetical_target, settledSize]
    by_cases hfrozen : item.frozen
    · rw [if_pos hfrozen]
      exact (h.each item hitem).between_eq_zero hfrozen
    · rw [if_neg hfrozen, if_neg]
      apply (h.each item hitem).not_between_of_weight (by simpa using hfrozen)
      have hnonneg : ∀ y ∈ items.map (weight sizes.usingGrow), 0 ≤ y := by
        rw [forall_mem_map]
        exact fun other hother => (h.each other hother).weight_nonneg
      have hle := single_le_sum hnonneg _ (mem_map_of_mem hitem)
      have hge := (h.each item hitem).weight_nonneg
      omega
  rw [hnone]
  decide

/-! ## Progress -/

/-- How many items are not frozen. -/
def unfrozen (items : List WorkingItem) : Nat := items.countP (!·.frozen)

lemma unfrozen_offer (usingGrow : Bool) (free weightSum before : Int) (items : List WorkingItem) :
    unfrozen (Layout.offer usingGrow free weightSum before items) = unfrozen items := by
  have hsame : (Layout.offer usingGrow free weightSum before items).map (!·.frozen) =
      items.map (!·.frozen) := map_offer _ (fun _ _ _ => rfl) items
  have hcount := congrArg (countP id) hsame
  rw [countP_map, countP_map] at hcount
  exact hcount

lemma settle_keeps_frozen
    (h : (Layout.settle totalViolation item).frozen = false) : item.frozen = false := by
  by_contra hfrozen
  rw [Bool.not_eq_false] at hfrozen
  rw [settle_of_frozen hfrozen, hfrozen] at h
  simp at h

lemma moved_ne_zero (h : item.moved ≠ 0) : item.frozen = false := by
  by_contra hfrozen
  rw [Bool.not_eq_false] at hfrozen
  exact h (if_pos hfrozen)

variable (items : List WorkingItem) (h : (items.map moved).sum ≠ 0)
include h

/-- Some item is moved the way all of them together are. -/
lemma exists_moved :
    ∃ item ∈ items, ((items.map moved).sum > 0 ∧ item.moved > 0) ∨
      ((items.map moved).sum < 0 ∧ item.moved < 0) := by
  by_contra hnone
  push Not at hnone
  rcases lt_or_gt_of_ne h with hneg | hpos
  · apply absurd hneg
    rw [not_lt]
    apply sum_nonneg
    rw [forall_mem_map]
    exact fun item hitem => (hnone item hitem).2 hneg
  · apply absurd hpos
    have hle : (items.map moved).sum ≤ (items.map fun _ => (0 : Int)).sum :=
      sum_le_sum fun item hitem => (hnone item hitem).1 hpos
    simpa using hle

/-- **Every round freezes an item.** -/
theorem unfrozen_settle :
    unfrozen (items.map (Layout.settle (items.map moved).sum)) < unfrozen items := by
  obtain ⟨item, hitem, hmoved⟩ := exists_moved items h
  have hactive : item.frozen = false := moved_ne_zero (by omega)
  have hnow := (settle_frozen hactive).mpr (.inr hmoved)
  unfold unfrozen
  rw [countP_map]
  obtain ⟨before, after, hsplit⟩ := append_of_mem hitem
  have hle : ∀ l : List WorkingItem, l.countP
      ((!·.frozen) ∘ Layout.settle (items.map moved).sum) ≤ l.countP (!·.frozen) := by
    intro l
    apply countP_mono_left
    intro other _ hother
    simpa using settle_keeps_frozen (by simpa using hother)
  have hbefore := hle before
  have hafter := hle after
  generalize Layout.settle (items.map moved).sum = f at hnow hbefore hafter ⊢
  rw [hsplit, countP_append, countP_append, countP_cons, countP_cons]
  simp only [comp_apply, hnow, hactive, Bool.not_true, Bool.not_false,
    Bool.false_eq_true, if_false, if_true]
  omega

end round

end WildBuzzard.Layout
