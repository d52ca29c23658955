import Mathlib.Tactic.Ring
import WildBuzzard.Layout.FlexItems

/-!
# Resolving flexible lengths

`resolve_flexible_lengths` as a whole: its checked sums are the sums of `FlexItems`, each of its
rounds freezes an item and keeps the balance of the line, and so the loop ends after at most as many
rounds as the line has items.

* `freezeLoop_sat`: induction over the rounds; **the error of the iteration limit is unreachable**,
  and with a budget for the passes and at most 2 ^ 14 items nothing fails at all.
* `Resolved`: what the sizes of a line are, in terms of its items only.
-/

namespace WildBuzzard.Layout

open Lib WorkingItem List FlexItemInput Apportion Call Computes FlexFactor

/-! ## Exact values of the checked computations -/

variable {factors : Int} {most : Nat} (usingGrow : Bool)

lemma checked_computes (value : Int) : Computes (checked value) value (value.natAbs < 2 ^ 127) := by
  unfold checked
  exact (guarded value _).mono fun hfits => by omega

variable {items : List WorkingItem} {size : WorkingItem → Int} {f : WorkingItem → Int}
variable {sizes : LineSizes} {item : WorkingItem} (constraints : FlexConstraints)

lemma sumItemSizes_computes {gapTotal : Int} (h : ∀ item ∈ items, (size item).natAbs ≤ most) :
    Computes (sumItemSizes gapTotal size items) (lineLength gapTotal size items)
      (gapTotal.natAbs + items.length * (most + 2 ^ 31) < 2 ^ 127) := by
  apply foldlM_sum
  · intro b item hitem
    have hsize := h item hitem
    have houter := raw_bounds item.input.outerMain
    refine ((checked_computes _).mono fun hfits => ?_).bind ?_
    · omega
    · rw [← Int.add_assoc]
      exact (checked_computes _).mono fun hfits => by omega
  · intro item hitem
    have hsize := h item hitem
    have houter := raw_bounds item.input.outerMain
    omega

lemma remainingFreeSpace_computes {available gapTotal : Int}
    (h : ∀ item ∈ items, item.baseSize.natAbs ≤ most) :
    Computes (remainingFreeSpace available gapTotal items)
      (available - lineLength gapTotal baseSize items)
      ((available - lineLength gapTotal baseSize items).natAbs < 2 ^ 127 ∧
        gapTotal.natAbs + items.length * (most + 2 ^ 31) < 2 ^ 127) :=
  ((sumItemSizes_computes h).mono And.right).bind ((checked_computes _).mono And.left)

lemma sum_natAbs_le (h : ∀ item ∈ items, (f item).natAbs ≤ most) :
    (items.map f).sum.natAbs ≤ items.length * most := by
  induction items with
  | nil => simp
  | cons item rest ih =>
    have hrest := ih fun other hother => h other (mem_cons_of_mem _ hother)
    have hfirst := h item mem_cons_self
    rw [map_cons, sum_cons, length_cons, Nat.succ_mul]
    omega

/-- The length of a line whose sizes are not large is not large. -/
lemma lineLength_natAbs_le {gapTotal : Int} (h : ∀ item ∈ items, (size item).natAbs ≤ most) :
    (lineLength gapTotal size items).natAbs ≤ gapTotal.natAbs + items.length * (most + 2 ^ 31) := by
  have hsum : (items.map fun item => size item + raw item.input.outerMain).sum.natAbs ≤
      items.length * (most + 2 ^ 31) := by
    apply sum_natAbs_le
    intro item hitem
    have hsize := h item hitem
    have houter := raw_bounds item.input.outerMain
    omega
  unfold lineLength
  omega

lemma sum_map_filter_active (f : WorkingItem → Int) (items : List WorkingItem) :
    ((items.filter (!·.frozen)).map f).sum =
      (items.map fun item => if item.frozen then 0 else f item).sum := by
  induction items with
  | nil => rfl
  | cons item rest ih =>
    by_cases hfrozen : item.frozen
    · simp [hfrozen, ih]
    · simp [hfrozen, ih]

/-- A fold over the items that are not frozen. -/
lemma foldlM_active_computes {f : Int → WorkingItem → Except FlexError Int}
    {g : WorkingItem → Int}
    (hf : ∀ b item, item ∈ items → Computes (f b item) (b + g item) (b.natAbs + most < 2 ^ 127))
    (hmost : ∀ item ∈ items, (g item).natAbs ≤ most) :
    Computes ((items.filter (!·.frozen)).foldlM f 0)
      (items.map fun item => if item.frozen then 0 else g item).sum
      (items.length * most < 2 ^ 127) := by
  have hsum := foldlM_sum (l := items.filter (!·.frozen))
    (fun b item hitem => hf b item (mem_filter.mp hitem).1)
    (fun item hitem => hmost item (mem_filter.mp hitem).1) 0
  rw [sum_map_filter_active, Int.zero_add] at hsum
  refine hsum.mono fun hfits => ?_
  have hlength := Nat.mul_le_mul_right most (length_filter_le (!·.frozen) items)
  omega

lemma factorSum_computes (items : List WorkingItem) :
    Computes (factorSum usingGrow items) (items.map (activeFactor usingGrow)).sum
      (items.length * 2 ^ 32 < 2 ^ 127) := by
  apply foldlM_active_computes
  · intro b item _
    have hfactor := factor_bounds usingGrow item.input
    exact (checked_computes _).mono fun hfits => by omega
  · intro item _
    have hfactor := factor_bounds usingGrow item.input
    omega

/-- The weight of an item before the loop asks whether it is frozen. -/
def fullWeight (usingGrow : Bool) (input : FlexItemInput) : Int :=
  if usingGrow then input.factor usingGrow else input.factor usingGrow * raw input.baseMain

lemma weight_eq (item : WorkingItem) :
    item.weight usingGrow = if item.frozen then 0 else fullWeight usingGrow item.input := rfl

lemma fullWeight_natAbs_le (input : FlexItemInput) :
    (fullWeight usingGrow input).natAbs ≤ 2 ^ 63 := by
  obtain ⟨hfactor, hfactor'⟩ := factor_bounds usingGrow input
  have hbase := raw_bounds input.baseMain
  unfold fullWeight
  split_ifs
  · omega
  · rw [Int.natAbs_mul]
    calc (input.factor usingGrow).natAbs * (raw input.baseMain).natAbs
        ≤ 2 ^ 32 * 2 ^ 31 := Nat.mul_le_mul (by omega) (by omega)
      _ = 2 ^ 63 := by norm_num

lemma flexWeight_computes (item : WorkingItem) {fits : Prop} :
    Computes (flexWeight usingGrow item) (fullWeight usingGrow item.input) fits := by
  have hmost := fullWeight_natAbs_le usingGrow item.input
  cases usingGrow with
  | true => exact .ok _
  | false => exact (checked_computes _).mono fun _ => lt_of_le_of_lt hmost (by norm_num)

lemma flexWeightSum_computes (items : List WorkingItem) :
    Computes (flexWeightSum usingGrow items) (items.map (weight usingGrow)).sum
      (items.length * 2 ^ 63 < 2 ^ 127) := by
  apply foldlM_active_computes
  · intro b item _
    have hmost := fullWeight_natAbs_le usingGrow item.input
    exact (flexWeight_computes usingGrow item).bind
      ((checked_computes _).mono fun hfits => by omega)
  · exact fun item _ => fullWeight_natAbs_le usingGrow item.input

/-- The space that a round distributes, without the checks. -/
def portion (sizes : LineSizes) (factors : Int) (items : List WorkingItem) : Int :=
  let free := sizes.available - lineLength sizes.gapTotal baseSize items
  let scaled := (sizes.initialFree * factors).tdiv FlexFactor.one.millionths.toNat
  if factors < FlexFactor.one.millionths.toNat ∧ scaled.natAbs < free.natAbs then scaled else free

lemma distributedSpace_computes (h : ∀ item ∈ items, item.baseSize.natAbs ≤ most) :
    Computes (distributedSpace sizes factors items) (portion sizes factors items)
      (((sizes.available - lineLength sizes.gapTotal baseSize items).natAbs < 2 ^ 127 ∧
        sizes.gapTotal.natAbs + items.length * (most + 2 ^ 31) < 2 ^ 127) ∧
          (sizes.initialFree * factors).natAbs < 2 ^ 127) := by
  refine ((remainingFreeSpace_computes h).mono And.left).bind ?_
  unfold portion
  by_cases hless : factors < one.millionths.toNat
  · rw [if_pos hless]
    refine ((checked_computes _).mono And.right).bind ?_
    simp only [hless, true_and]
    split_ifs
    · exact .ok _
    · exact .ok _
  · rw [if_neg hless, if_neg fun hboth => hless hboth.1]
    exact .ok _

/-- What is distributed goes in the direction of the line, no further than there is space. -/
lemma portion_toward (hinitial : 0 ≤ toward sizes.usingGrow sizes.initialFree)
    (hfree : 0 ≤ toward sizes.usingGrow
      (sizes.available - lineLength sizes.gapTotal baseSize items)) (hfactors : 0 ≤ factors) :
    0 ≤ toward sizes.usingGrow (portion sizes factors items) ∧
      toward sizes.usingGrow (portion sizes factors items) ≤ toward sizes.usingGrow
        (sizes.available - lineLength sizes.gapTotal baseSize items) := by
  unfold portion
  generalize sizes.available - lineLength sizes.gapTotal baseSize items = free at hfree ⊢
  dsimp only
  split_ifs with hscaled
  · have hsmall := hscaled.2
    have hone : (0 : Int) ≤ one.millionths.toNat := by decide
    cases hgrow : sizes.usingGrow with
    | true =>
      rw [hgrow, toward_true] at hinitial hfree
      have hpart : 0 ≤ (sizes.initialFree * factors).tdiv one.millionths.toNat :=
        Int.tdiv_nonneg (Int.mul_nonneg hinitial hfactors) hone
      rw [toward_true, toward_true]
      omega
    | false =>
      rw [hgrow, toward_false] at hinitial hfree
      have hpart : 0 ≤ (-sizes.initialFree * factors).tdiv one.millionths.toNat :=
        Int.tdiv_nonneg (Int.mul_nonneg hinitial hfactors) hone
      rw [Int.neg_mul, Int.neg_tdiv] at hpart
      rw [toward_false, toward_false]
      omega
  · exact ⟨hfree, le_rfl⟩

/-- Less than all of the space is distributed only if the factors are less than one. -/
lemma portion_eq_free :
    portion sizes factors items =
        sizes.available - lineLength sizes.gapTotal baseSize items ∨
      factors < one.millionths.toNat := by
  unfold portion
  dsimp only
  split_ifs with hscaled
  · exact .inr hscaled.1
  · exact .inl rfl

lemma sum_map_nonneg (h : ∀ item ∈ items, 0 ≤ f item) : 0 ≤ (items.map f).sum := by
  apply sum_nonneg
  rw [forall_mem_map]
  exact h

/-- The share of an item is on the scale of what is distributed. -/
lemma share_natAbs_le_of_weights {free weightSum before weight rest : Int}
    (hbefore : 0 ≤ before) (hweight : 0 ≤ weight) (hrest : 0 ≤ rest)
    (hle : before + (weight + rest) ≤ weightSum) (hfree : free.natAbs ≤ 2 ^ 49) :
    (share free weightSum before weight).natAbs ≤ 2 ^ 50 := by
  have hshare : (share free weightSum before weight).natAbs ≤ 2 * free.natAbs :=
    share_natAbs_le hbefore hweight (by omega)
  omega

lemma distribute_computes {usingGrow : Bool} {free weightSum before : Int}
    (hbefore : 0 ≤ before) (hweight : ∀ item ∈ items, 0 ≤ item.weight usingGrow) :
    Computes (distribute usingGrow free weightSum before (given free weightSum before) items)
      (offer usingGrow free weightSum before items)
      (free.natAbs ≤ 2 ^ 49 ∧ weightSum ≤ 2 ^ 77 ∧
        before + (items.map (weight usingGrow)).sum ≤ weightSum) := by
  induction items generalizing before with
  | nil => exact .ok []
  | cons item rest ih =>
    have hfirst := hweight item mem_cons_self
    have hrest := fun other hother => hweight other (mem_cons_of_mem item hother)
    have hsum := sum_map_nonneg hrest
    rw [map_cons, sum_cons]
    unfold distribute offer
    by_cases hfrozen : item.frozen
    · have hzero : item.weight usingGrow = 0 := if_pos hfrozen
      rw [if_pos hfrozen, if_pos hfrozen, hzero, Int.add_zero, Int.zero_add]
      exact (ih hbefore hrest).bind (.ok _)
    · have hfull : item.weight usingGrow = fullWeight usingGrow item.input := if_neg hfrozen
      rw [if_neg hfrozen, if_neg hfrozen]
      rw [hfull] at hfirst ⊢
      have hbase := raw_bounds item.input.baseMain
      -- the cumulative weight, the product, the share and the target, in the order of the code
      refine (flexWeight_computes usingGrow item).bind
        (((checked_computes _).mono ?_).bind (((checked_computes _).mono ?_).bind
          (((checked_computes _).mono ?_).bind (((checked_computes _).mono ?_).bind
            (bind ((ih (by omega) hrest).mono ?_) (.ok _))))))
      · rintro ⟨-, hweights, htotal⟩
        omega
      · rintro ⟨hfree, hweights, htotal⟩
        rw [Int.natAbs_mul]
        calc free.natAbs * (before + fullWeight usingGrow item.input).natAbs
            ≤ 2 ^ 49 * 2 ^ 77 := Nat.mul_le_mul hfree (by omega)
          _ < 2 ^ 127 := by norm_num
      · rintro ⟨hfree, hweights, htotal⟩
        have hshare := share_natAbs_le_of_weights hbefore hfirst hsum htotal hfree
        unfold share given at hshare
        unfold given
        omega
      · rintro ⟨hfree, hweights, htotal⟩
        have hshare := share_natAbs_le_of_weights hbefore hfirst hsum htotal hfree
        unfold share given at hshare
        unfold given
        omega
      · rintro ⟨hfree, hweights, htotal⟩
        exact ⟨hfree, hweights, by omega⟩

/-- An item after its clamp. -/
def clampedItem (item : WorkingItem) : WorkingItem :=
  if item.frozen then item else { item with target := item.input.clamp item.target }

lemma moved_natAbs_le (h : item.input.Nonneg)
    (hmost : item.frozen = false → item.target.natAbs ≤ most) :
    item.moved.natAbs ≤ 2 * most + 2 ^ 31 := by
  unfold moved
  by_cases hfrozen : item.frozen
  · rw [if_pos hfrozen]
    exact Nat.zero_le _
  · have htarget := hmost (by simpa using hfrozen)
    have hleast := raw_bounds item.input.minMain
    rcases clamp_cases h item.target with ⟨-, heq⟩ | ⟨bound, -, hbound, heq⟩
    · rw [heq]
      omega
    · rw [heq]
      omega

lemma clampTargets_computes (hnonneg : ∀ item ∈ items, item.input.Nonneg) (totalViolation : Int) :
    Computes (clampTargets totalViolation items)
      (items.map clampedItem, items.map moved, totalViolation + (items.map moved).sum)
      ((∀ item ∈ items, item.frozen = false → item.target.natAbs ≤ 2 ^ 51) ∧
        totalViolation.natAbs + items.length * 2 ^ 53 < 2 ^ 127) := by
  induction items generalizing totalViolation with
  | nil =>
    rw [map_nil, map_nil, sum_nil, Int.add_zero]
    exact .ok _
  | cons item rest ih =>
    have hrest := ih fun other hother => hnonneg other (mem_cons_of_mem item hother)
    simp only [map_cons, sum_cons, length_cons]
    rw [← Int.add_assoc]
    unfold clampTargets
    by_cases hfrozen : item.frozen
    · have hitem : clampedItem item = item := if_pos hfrozen
      have hmoved : item.moved = 0 := if_pos hfrozen
      rw [if_pos hfrozen, hitem, hmoved, Int.add_zero]
      refine bind ((hrest totalViolation).mono ?_) (.ok _)
      rintro ⟨htargets, htotal⟩
      refine ⟨fun other hother => htargets other (mem_cons_of_mem item hother), ?_⟩
      exact lt_of_le_of_lt (by omega) htotal
    · have hitem : clampedItem item =
          { item with target := item.input.clamp item.target } := if_neg hfrozen
      have hmoved : item.moved = item.input.clamp item.target - item.target := if_neg hfrozen
      rw [if_neg hfrozen, hitem]
      have hbound : (∀ other ∈ item :: rest, other.frozen = false →
          other.target.natAbs ≤ 2 ^ 51) → item.moved.natAbs < 2 ^ 53 := by
        intro htargets
        have hle := moved_natAbs_le (hnonneg item mem_cons_self)
          (htargets item mem_cons_self)
        omega
      rw [hmoved] at hbound ⊢
      unfold clamp at hbound
      refine ((checked_computes _).mono ?_).bind (((checked_computes _).mono ?_).bind
        (bind ((hrest _).mono ?_) (.ok _)))
      · rintro ⟨htargets, htotal⟩
        exact (hbound htargets).trans (by norm_num)
      · rintro ⟨htargets, htotal⟩
        have := hbound htargets
        omega
      · rintro ⟨htargets, htotal⟩
        have := hbound htargets
        exact ⟨fun other hother => htargets other (mem_cons_of_mem item hother), by omega⟩

/-- The last pass of a round settles every item. -/
lemma freezeViolations_eq (totalViolation : Int) (items : List WorkingItem) :
    freezeViolations totalViolation (items.map clampedItem) (items.map moved) =
      items.map (settle totalViolation) := by
  unfold freezeViolations
  rw [zipWith_map, zipWith_self]
  apply map_congr_left
  intro item _
  by_cases hfrozen : item.frozen
  · simp [clampedItem, settle, hfrozen]
  · simp only [clampedItem, settle, hfrozen, Bool.false_eq_true, if_false]
    split_ifs with hcause
    · simp [hcause]
    · simp [hcause]

/-! ## The budget -/

namespace Work

/-- The budget after a pass. -/
def spend (work : Work) (amount : Nat) : Work :=
  { work with budget := { work.budget with used := work.budget.used + amount } }

/-- The budget allows so much more, and allocations succeed. -/
structure Affords (work : Work) (amount : Nat) : Prop where
  budget : work.budget.used + amount ≤ work.budget.limit
  limit : work.budget.limit < 2 ^ 64
  reservations : work.reservations = []

/-- What the passes of a round leave behind. -/
structure Spent (work : Work) (amount : Nat) (t : Work) : Prop where
  iterations : t.iterations = work.iterations
  affords : ∀ more, work.Affords (amount + more) → t.Affords more

variable {work t u : Work} {amount : Nat}

lemma Spent.refl (work : Work) : work.Spent 0 work :=
  ⟨rfl, fun more h => by simpa using h⟩

lemma Spent.trans {amount' : Nat} (h : work.Spent amount t) (h' : t.Spent amount' u) :
    work.Spent (amount + amount') u :=
  ⟨h'.iterations.trans h.iterations, fun more hmore =>
    h'.affords more (h.affords (amount' + more) (by rwa [← Nat.add_assoc]))⟩

lemma Spent.mono {amount' : Nat} (h : work.Spent amount t) (hle : amount ≤ amount') :
    work.Spent amount' t := by
  refine ⟨h.iterations, fun more hmore => ?_⟩
  have hbudget := (h.affords (amount' - amount + more) (by
    rwa [show amount + (amount' - amount + more) = amount' + more by omega])).budget
  obtain ⟨-, hlimit, hreservations⟩ := h.affords (amount' - amount + more) (by
    rwa [show amount + (amount' - amount + more) = amount' + more by omega])
  exact ⟨by omega, hlimit, hreservations⟩

/-- A pass that is not allowed was not allowed from the start. -/
lemma Spent.not_affords {more total : Nat} (h : work.Spent amount t) (hfail : ¬t.Affords more)
    (hle : amount + more ≤ total) : ¬work.Affords total := by
  intro htotal
  refine hfail (h.affords more ⟨?_, htotal.limit, htotal.reservations⟩)
  have := htotal.budget
  omega

lemma spent_spend (work : Work) (amount : Nat) : work.Spent amount (work.spend amount) := by
  refine ⟨rfl, fun more h => ⟨?_, h.limit, h.reservations⟩⟩
  have := h.budget
  simp only [spend]
  omega

lemma Spent.none (work : Work) (count : Nat) : work.Spent (0 * count) work := by
  rw [Nat.zero_mul]
  exact .refl work

/-- One more pass over the items. -/
lemma Spent.pass {passes count : Nat} (h : work.Spent (passes * count) t) :
    work.Spent ((passes + 1) * count) (t.spend count) := by
  rw [Nat.succ_mul]
  exact h.trans (spent_spend t count)

section fails

variable {fits : Prop} {passes count : Nat} (h : work.Spent (passes * count) t) (total : Nat)

include h

/-- A pass that fails was not affordable. -/
lemma Spent.pass_fails (hle : passes + 1 ≤ total) (hfail : ¬t.Affords count) (_ : FlexError) :
    t.iterations = work.iterations ∧ ¬(fits ∧ work.Affords (total * count)) := by
  refine ⟨h.iterations, fun hboth => h.not_affords hfail ?_ hboth.2⟩
  rw [← Nat.succ_mul]
  exact Nat.mul_le_mul_right _ hle

/-- A computation that fails did not fit. -/
lemma Spent.computation_fails {fits' : Prop} (hfits : fits → fits') (hnot : ¬fits')
    (_ : FlexError) : t.iterations = work.iterations ∧ ¬(fits ∧ work.Affords (total * count)) :=
  ⟨h.iterations, fun hboth => hnot (hfits hboth.1)⟩

end fails

end Work

section calls

variable {α : Type} {work : Work} {amount : Nat} {n : Unit → Call Work FlexError α}
  {Q : α → Work → Prop} {E : FlexError → Work → Prop} {H : Halt → Prop}

/-- A pass is charged, or the budget does not allow it. -/
lemma sat_charge_bind (hok : (n () (work.spend amount)).Sat Q E H)
    (herr : ¬work.Affords amount → ∀ e, E e work) : ((charge amount >>= n) work).Sat Q E H := by
  have hfail : ¬(work.budget.used + amount < 2 ^ 64 ∧
      work.budget.used + amount ≤ work.budget.limit) → ∀ e, E e work :=
    fun hnot => herr fun h => hnot ⟨lt_of_le_of_lt h.budget h.limit, h.budget⟩
  refine sat_bind.mpr (sat_read_bind.mpr (sat_check_bind.mpr ⟨fun hsize => ?_,
    fun hsize => hfail (fun h => hsize h.1) _⟩))
  refine sat_check_bind.mpr ⟨fun hlimit => hok, fun hlimit => hfail (fun h => hlimit h.2) _⟩

/-- Memory is reserved, or the allocation fails. -/
lemma sat_reserve_bind {resource : String} {requested : Nat}
    (hok : ∀ t, work.Spent 0 t → (n () t).Sat Q E H)
    (herr : work.reservations ≠ [] → ∀ e t, t.iterations = work.iterations → E e t) :
    ((reserve resource requested >>= n) work).Sat Q E H := by
  refine sat_bind.mpr (sat_read_bind.mpr (sat_modify_bind.mpr
    (sat_check.mpr ⟨fun _ => hok _ ⟨rfl, fun more h => ?_⟩, fun hfail => herr ?_ _ _ rfl⟩)))
  · rw [Nat.zero_add] at h
    exact ⟨h.budget, h.limit, by simp [h.reservations]⟩
  · rintro hnil
    exact hfail (by simp [hnil])

end calls

/-! ## Sizes that fit -/

lemma FlexItemInput.hypothetical_natAbs_le {input : FlexItemInput} (h : input.Nonneg) :
    input.hypothetical.natAbs ≤ 2 ^ 31 := by
  have hbase := raw_bounds input.baseMain
  have hleast := raw_bounds input.minMain
  rw [hypothetical_eq]
  rcases clamp_cases h (raw input.baseMain) with ⟨-, heq⟩ | ⟨most, -, hmost, heq⟩
  · rw [heq]
    omega
  · rw [heq]
    omega

lemma Flexes.target_natAbs_le {usingGrow : Bool} (h : Flexes usingGrow item)
    (hfrozen : item.frozen = true) : item.target.natAbs ≤ 2 ^ 31 := by
  have hleast := raw_bounds item.input.minMain
  obtain ⟨hlow, hhigh⟩ := h.inClamp hfrozen
  rcases h.held hfrozen with ⟨-, heq⟩ | hnot
  · rw [heq, h.hypothetical]
    exact hypothetical_natAbs_le h.nonneg
  · by_cases hmin : raw item.input.minMain < item.target
    · -- the size is the maximum
      have hmost : ∃ most ∈ item.input.maxMain, raw most ≤ item.target := by
        by_contra hnone
        push Not at hnone
        exact hnot ⟨hmin, hnone⟩
      obtain ⟨most, hmem, -⟩ := hmost
      have hbound := hhigh most hmem
      have hraw := raw_bounds most
      omega
    · omega

lemma Flexes.baseSize_natAbs_le {usingGrow : Bool} (h : Flexes usingGrow item) :
    item.baseSize.natAbs ≤ 2 ^ 31 := by
  have hbase := raw_bounds item.input.baseMain
  unfold baseSize
  split_ifs with hfrozen
  · exact h.target_natAbs_le hfrozen
  · omega

/-- A line whose sums and products fit into 128 bits. -/
structure Modest (sizes : LineSizes) (items : List WorkingItem) : Prop where
  count : items.length ≤ 2 ^ 14
  gap : sizes.gapTotal.natAbs ≤ 2 ^ 46
  available : sizes.available.natAbs ≤ 2 ^ 48
  initial : sizes.initialFree.natAbs ≤ 2 ^ 49

section modest

variable {sizes : LineSizes} {items : List WorkingItem}

section

variable (h : Modest sizes items)
include h

lemma Modest.lineLength_le (hbalanced : Balanced sizes items) :
    sizes.gapTotal.natAbs + items.length * (2 ^ 31 + 2 ^ 31) ≤ 2 ^ 47 ∧
      (lineLength sizes.gapTotal baseSize items).natAbs ≤ 2 ^ 47 := by
  have hgap := h.gap
  have hcount := Nat.mul_le_mul_right (2 ^ 31 + 2 ^ 31) h.count
  have hlength : (lineLength sizes.gapTotal baseSize items).natAbs ≤
      sizes.gapTotal.natAbs + items.length * (2 ^ 31 + 2 ^ 31) :=
    lineLength_natAbs_le fun item hitem => (hbalanced.each item hitem).baseSize_natAbs_le
  omega

lemma Modest.free_le (hbalanced : Balanced sizes items) :
    (sizes.available - lineLength sizes.gapTotal baseSize items).natAbs ≤ 2 ^ 49 := by
  have hlength := (h.lineLength_le hbalanced).2
  have havailable := h.available
  omega

omit h in
lemma portion_natAbs_le (factors : Int) :
    (portion sizes factors items).natAbs ≤
      (sizes.available - lineLength sizes.gapTotal baseSize items).natAbs := by
  unfold portion
  dsimp only
  split_ifs with hscaled
  · exact hscaled.2.le
  · exact le_rfl

lemma Modest.factors_le : (items.map (activeFactor sizes.usingGrow)).sum.natAbs ≤ 2 ^ 46 := by
  have hsum : (items.map (activeFactor sizes.usingGrow)).sum.natAbs ≤ items.length * 2 ^ 32 := by
    apply sum_natAbs_le
    intro item _
    have hfactor := factor_bounds sizes.usingGrow item.input
    unfold activeFactor
    split_ifs <;> omega
  have hcount := Nat.mul_le_mul_right (2 ^ 32) h.count
  omega

lemma Modest.weights_le : (items.map (weight sizes.usingGrow)).sum.natAbs ≤ 2 ^ 77 := by
  have hsum : (items.map (weight sizes.usingGrow)).sum.natAbs ≤ items.length * 2 ^ 63 := by
    apply sum_natAbs_le
    intro item _
    have hweight := fullWeight_natAbs_le sizes.usingGrow item.input
    rw [weight_eq]
    split_ifs
    · exact Nat.zero_le _
    · exact hweight
  have hcount := Nat.mul_le_mul_right (2 ^ 63) h.count
  omega

end

lemma offer_target_natAbs_le {usingGrow : Bool} {free weightSum before : Int}
    (hfree : free.natAbs ≤ 2 ^ 49) (hbefore : 0 ≤ before)
    (hweight : ∀ item ∈ items, 0 ≤ item.weight usingGrow)
    (hle : before + (items.map (weight usingGrow)).sum ≤ weightSum) :
    ∀ item ∈ offer usingGrow free weightSum before items,
      item.frozen = false → item.target.natAbs ≤ 2 ^ 51 := by
  induction items generalizing before with
  | nil => exact fun item hitem => absurd hitem not_mem_nil
  | cons item rest ih =>
    have hfirst := hweight item mem_cons_self
    have hothers := fun other hother => hweight other (mem_cons_of_mem item hother)
    have hsum := sum_map_nonneg hothers
    rw [map_cons, sum_cons] at hle
    rw [offer, forall_mem_cons]
    refine ⟨?_, ih (by omega) hothers (by omega)⟩
    by_cases hfrozen : item.frozen
    · rw [if_pos hfrozen]
      exact fun hfalse => absurd (hfrozen.symm.trans hfalse) (by simp)
    · rw [if_neg hfrozen]
      intro _
      have hbase := raw_bounds item.input.baseMain
      have hshare := share_natAbs_le_of_weights hbefore hfirst hsum hle hfree
      dsimp only
      omega

end modest

/-! ## A round of the loop -/

/-- How a round leaves a line that is balanced. -/
def Round.After (sizes : LineSizes) (items : List WorkingItem) : Round → Prop
  | .stop items' => items'.map input = items.map input ∧ Settled sizes items'
  | .next items' => items'.map input = items.map input ∧
      (Settled sizes items' ∨ (Balanced sizes items' ∧ unfrozen items' < unfrozen items))

section round

variable {sizes : LineSizes} {items : List WorkingItem}

/-- The space is on the side to which the line flexes. -/
lemma Balanced.free_toward (h : Balanced sizes items) :
    0 ≤ toward sizes.usingGrow (sizes.available - lineLength sizes.gapTotal baseSize items) := by
  have hle : toward sizes.usingGrow (lineLength sizes.gapTotal baseSize items) ≤
      toward sizes.usingGrow (lineLength sizes.gapTotal settledSize items) := by
    apply toward_lineLength_le
    intro item hitem
    unfold baseSize settledSize
    split_ifs with hfrozen
    · exact le_rfl
    · exact ((h.each item hitem).active (by simpa using hfrozen)).2
  have hroom := h.room
  rw [toward_sub] at hroom ⊢
  omega

/-- **What the distribution, the clamps and the freezing make of a line.** -/
theorem Balanced.next (h : Balanced sizes items)
    (hinitial : 0 ≤ toward sizes.usingGrow sizes.initialFree)
    (hweights : (items.map (weight sizes.usingGrow)).sum ≠ 0)
    {offered : List WorkingItem} (hoffered : offered = Layout.offer sizes.usingGrow
      (portion sizes (items.map (activeFactor sizes.usingGrow)).sum items)
      (items.map (weight sizes.usingGrow)).sum 0 items) :
    (Round.next (offered.map (Layout.settle (offered.map moved).sum))).After sizes items := by
  set free := portion sizes (items.map (activeFactor sizes.usingGrow)).sum items with hfree
  have hnonneg : ∀ item ∈ items, 0 ≤ item.weight sizes.usingGrow :=
    fun item hitem => (h.each item hitem).weight_nonneg
  have hpos : 0 < (items.map (weight sizes.usingGrow)).sum := by
    have := sum_map_nonneg hnonneg
    omega
  have hfactors : 0 ≤ (items.map (activeFactor sizes.usingGrow)).sum := by
    apply sum_map_nonneg
    intro item _
    have hfactor := factor_bounds sizes.usingGrow item.input
    unfold activeFactor
    split_ifs <;> omega
  obtain ⟨htoward, hle⟩ := portion_toward hinitial h.free_toward hfactors
  have hbalanced : Balanced sizes offered := hoffered ▸ h.offer free _ 0
  have hgain : ∀ item ∈ offered, 0 ≤ toward sizes.usingGrow item.gain :=
    hoffered ▸ offer_gains htoward hpos (le_refl 0) hnonneg
  have hsum : (offered.map gain).sum = free := by
    rw [hoffered, sum_gain_offer, Int.zero_add, given_total hpos.ne', given_zero, Int.sub_zero]
  have hlength : lineLength sizes.gapTotal baseSize offered =
      lineLength sizes.gapTotal baseSize items := by
    rw [hoffered, lineLength_offer]
    intro item target hfrozen
    simp [baseSize, hfrozen]
  have hsame : (offered.map (Layout.settle (offered.map moved).sum)).map input = items.map input := by
    rw [map_map]
    have hinputs : offered.map input = items.map input := by
      rw [hoffered]
      exact map_offer input (fun _ _ _ => rfl) items
    rw [← hinputs]
    exact map_congr_left fun item _ => settle_input _ item
  refine ⟨hsame, ?_⟩
  by_cases hnone : (offered.map moved).sum = 0
  · left
    rw [hnone]
    apply hbalanced.settled hgain
    · rw [hsum, hlength]
      exact hle
    · rw [hsum, hlength]
      have hactive : offered.map (activeFactor sizes.usingGrow) =
          items.map (activeFactor sizes.usingGrow) := by
        rw [hoffered]
        exact map_offer _ (fun item target _ => rfl) items
      rw [hactive]
      exact portion_eq_free
    · exact hnone
  · right
    refine ⟨hbalanced.settle hgain (by rw [hsum, hlength]; exact hle) hnone, ?_⟩
    have hless := unfrozen_settle offered hnone
    have hcount : unfrozen offered = unfrozen items := by
      rw [hoffered]
      exact unfrozen_offer sizes.usingGrow free _ 0 items
    omega

lemma map_input_freezeAtHypothetical (items : List WorkingItem) :
    (items.map freezeAtHypothetical).map input = items.map input := by
  rw [map_map]
  exact map_congr_left fun item _ => freezeAtHypothetical_input item

/-- **One round**: it freezes an item or ends the loop, and with enough of a budget a line that is
not too long gets through it. -/
theorem freezeRound_sat (h : Balanced sizes items)
    (hinitial : 0 ≤ toward sizes.usingGrow sizes.initialFree) (work : Work) :
    (freezeRound sizes items work).Ends
      (fun round t => work.Spent (6 * items.length) t ∧ round.After sizes items)
      (fun _ t => t.iterations = work.iterations ∧
        ¬(Modest sizes items ∧ work.Affords (6 * items.length))) := by
  have hbase : ∀ item ∈ items, item.baseSize.natAbs ≤ 2 ^ 31 :=
    fun item hitem => (h.each item hitem).baseSize_natAbs_le
  have hnonneg : ∀ item ∈ items, 0 ≤ item.weight sizes.usingGrow :=
    fun item hitem => (h.each item hitem).weight_nonneg
  have h0 := Work.Spent.none work items.length
  have h1 := h0.pass
  have h2 := h1.pass
  have h3 := h2.pass
  have h4 := h3.pass
  have h5 := h4.pass
  refine sat_charge_bind ?_ (h0.pass_fails 6 (by omega))
  refine (factorSum_computes sizes.usingGrow items).sat_bind ?_ (h1.computation_fails 6 fun hmodest => ?_)
  swap
  · have hcount := hmodest.count
    omega
  split_ifs with hfactors
  · refine sat_charge_bind ?_ (h1.pass_fails 6 (by omega))
    exact ⟨h2.mono (Nat.mul_le_mul_right _ (by omega)), map_input_freezeAtHypothetical items,
      h.stop_of_factors hfactors⟩
  refine sat_charge_bind ?_ (h1.pass_fails 6 (by omega))
  refine (distributedSpace_computes hbase).sat_bind ?_ (h2.computation_fails 6 fun hmodest => ?_)
  swap
  · have hlength := hmodest.lineLength_le h
    have hfree := hmodest.free_le h
    refine ⟨⟨by omega, by omega⟩, ?_⟩
    rw [Int.natAbs_mul]
    calc sizes.initialFree.natAbs * (items.map (activeFactor sizes.usingGrow)).sum.natAbs
        ≤ 2 ^ 49 * 2 ^ 46 := Nat.mul_le_mul hmodest.initial hmodest.factors_le
      _ < 2 ^ 127 := by norm_num
  refine sat_charge_bind ?_ (h2.pass_fails 6 (by omega))
  refine (flexWeightSum_computes sizes.usingGrow items).sat_bind ?_
    (h3.computation_fails 6 fun hmodest => ?_)
  swap
  · have hcount := hmodest.count
    omega
  split_ifs with hweights
  · refine sat_charge_bind ?_ (h3.pass_fails 6 (by omega))
    exact ⟨h4.mono (Nat.mul_le_mul_right _ (by omega)), map_input_freezeAtHypothetical items,
      h.stop_of_weights hweights⟩
  refine sat_charge_bind ?_ (h3.pass_fails 6 (by omega))
  set free := portion sizes (items.map (activeFactor sizes.usingGrow)).sum items with hfree
  set weightSum := (items.map (weight sizes.usingGrow)).sum with hweightSum
  have hdistribute : Computes (distribute sizes.usingGrow free weightSum 0
      (given free weightSum 0) items) (offer sizes.usingGrow free weightSum 0 items) _ :=
    distribute_computes (le_refl 0) hnonneg
  rw [given_zero] at hdistribute
  have hportion : Modest sizes items → free.natAbs ≤ 2 ^ 49 :=
    fun hmodest => (portion_natAbs_le _).trans (hmodest.free_le h)
  refine hdistribute.sat_bind ?_ (h4.computation_fails 6 fun hmodest => ?_)
  swap
  · have hsum := hmodest.weights_le
    exact ⟨hportion hmodest, by omega, by omega⟩
  rw [length_offer]
  refine sat_charge_bind ?_ (h4.pass_fails 6 (by omega))
  refine sat_reserve_bind (fun t ht => ?_) fun hnil e t ht =>
    ⟨ht.trans h5.iterations, fun hboth => hnil hboth.2.reservations⟩
  have h5' : work.Spent (5 * items.length) t := h5.trans ht
  set offered := offer sizes.usingGrow free weightSum 0 items with hoffered
  have hinputs : ∀ item ∈ offered, item.input.Nonneg :=
    forall_offer (fun _ _ _ hitem => hitem) fun item hitem => (h.each item hitem).nonneg
  refine (clampTargets_computes hinputs 0).sat_bind ?_ (h5'.computation_fails 6 fun hmodest => ?_)
  swap
  · refine ⟨offer_target_natAbs_le (hportion hmodest) (le_refl 0) hnonneg (by omega), ?_⟩
    rw [hoffered, length_offer]
    have hcount := hmodest.count
    omega
  dsimp only
  rw [length_map, hoffered, length_offer, ← hoffered, Int.zero_add, freezeViolations_eq]
  refine sat_charge_bind ?_ (h5'.pass_fails 6 (by omega))
  exact ⟨h5'.pass, h.next hinitial hweights hoffered⟩

/-! ## The loop -/

/-- What a run of the loop leaves behind. -/
structure Ran (sizes : LineSizes) (items : List WorkingItem) (work : Work)
    (items' : List WorkingItem) (t : Work) : Prop where
  inputs : items'.map input = items.map input
  settled : Settled sizes items'
  iterations : t.iterations ≤ work.iterations + unfrozen items
  affords : ∀ more, work.Affords ((7 * unfrozen items + 1) * items.length + more) → t.Affords more

lemma all_frozen_of_unfrozen (h : unfrozen items = 0) : ∀ item ∈ items, item.frozen = true := by
  intro item hitem
  have := countP_eq_zero.mp h item hitem
  simpa using this

/-- The loop is over when everything is frozen. -/
lemma Ran.of_frozen (hready : Settled sizes items ∨ Balanced sizes items)
    (hfrozen : ∀ item ∈ items, item.frozen = true) (work : Work) :
    Ran sizes items work items (work.spend items.length) := by
  refine ⟨rfl, hready.elim id fun hbalanced => hbalanced.of_frozen hfrozen, Nat.le_add_right _ _,
    fun more hmore => (Work.spent_spend work items.length).affords more ?_⟩
  refine ⟨?_, hmore.limit, hmore.reservations⟩
  have hbudget := hmore.budget
  rw [Nat.succ_mul] at hbudget
  omega

lemma Work.Affords.of_le {work : Work} {amount amount' : Nat} (h : work.Affords amount)
    (hle : amount' ≤ amount) : work.Affords amount' :=
  ⟨(Nat.add_le_add_left hle _).trans h.budget, h.limit, h.reservations⟩

/-- A loop that cannot begin with its first pass could not be afforded. -/
lemma loop_not_affords {work : Work} (hfail : ¬work.Affords items.length) (_ : FlexError) :
    work.iterations ≤ work.iterations + unfrozen items ∧
      ¬(Modest sizes items ∧ work.Affords ((7 * unfrozen items + 1) * items.length)) := by
  refine ⟨Nat.le_add_right _ _, fun hboth => hfail (hboth.2.of_le ?_)⟩
  rw [Nat.succ_mul]
  exact Nat.le_add_left _ _

/-- **The loop ends within as many rounds as there are items left to freeze.** -/
theorem freezeLoop_sat (hinitial : 0 ≤ toward sizes.usingGrow sizes.initialFree) (left : Nat)
    (hready : Settled sizes items ∨ Balanced sizes items) (hleft : unfrozen items ≤ left)
    (work : Work) :
    (freezeLoop sizes left items work).Ends (Ran sizes items work)
      (fun _ t => t.iterations ≤ work.iterations + unfrozen items ∧
        ¬(Modest sizes items ∧ work.Affords ((7 * unfrozen items + 1) * items.length))) := by
  induction left generalizing items work with
  | zero =>
    have hfrozen := all_frozen_of_unfrozen (Nat.le_zero.mp hleft)
    refine sat_charge_bind ?_ loop_not_affords
    rw [if_pos (all_eq_true.mpr hfrozen)]
    exact .of_frozen hready hfrozen work
  | succ left ih =>
    refine sat_charge_bind ?_ loop_not_affords
    by_cases hall : items.all (·.frozen) = true
    · rw [if_pos hall]
      exact .of_frozen hready (all_eq_true.mp hall) work
    rw [if_neg hall]
    have hbalanced : Balanced sizes items :=
      hready.resolve_left fun hsettled => hall (all_eq_true.mpr hsettled.frozen)
    have hsome : 0 < unfrozen items := by
      rw [Nat.pos_iff_ne_zero]
      exact fun hzero => hall (all_eq_true.mpr (all_frozen_of_unfrozen hzero))
    -- the charges of this round leave enough for one item less
    have hcost : (7 * unfrozen items + 1) * items.length =
        items.length + (6 * items.length + (7 * (unfrozen items - 1) + 1) * items.length) := by
      obtain ⟨k, hk⟩ := Nat.exists_eq_add_of_lt hsome
      rw [hk, Nat.zero_add, Nat.add_sub_cancel]
      ring
    set start : Work := { work.spend items.length with
      iterations := (work.spend items.length).iterations + 1 } with hstart
    have hiterations : start.iterations = work.iterations + 1 := rfl
    have hstarted : ∀ more, work.Affords (items.length + more) → start.Affords more := by
      intro more hmore
      obtain ⟨hbudget, hlimit, hreservations⟩ :=
        (Work.spent_spend work items.length).affords more hmore
      exact ⟨hbudget, hlimit, hreservations⟩
    refine sat_modify_bind.mpr (sat_bind.mpr
      ((freezeRound_sat hbalanced hinitial start).imp₂ ?_ ?_))
    · rintro round t ⟨hspent, hafter⟩
      have hleftover : ∀ more, work.Affords ((7 * unfrozen items + 1) * items.length + more) →
          t.Affords ((7 * (unfrozen items - 1) + 1) * items.length + more) := by
        intro more hmore
        rw [hcost, Nat.add_assoc, Nat.add_assoc] at hmore
        exact hspent.affords _ (hstarted _ hmore)
      cases round with
      | stop items' =>
        obtain ⟨hinputs, hsettled⟩ := hafter
        refine ⟨hinputs, hsettled, ?_, fun more hmore => (hleftover more hmore).of_le ?_⟩
        · rw [hspent.iterations, hiterations]
          omega
        · exact Nat.le_add_left _ _
      | next items' =>
        obtain ⟨hinputs, hnext⟩ := hafter
        have hlength : items'.length = items.length := by
          simpa using congrArg length hinputs
        have hless : unfrozen items' ≤ unfrozen items - 1 := by
          rcases hnext with hsettled | ⟨-, hless⟩
          · have hzero : unfrozen items' = 0 := by
              apply countP_eq_zero.mpr
              intro item hitem
              simp [hsettled.frozen item hitem]
            omega
          · omega
        have hshare : (7 * unfrozen items' + 1) * items'.length ≤
            (7 * (unfrozen items - 1) + 1) * items.length := by
          rw [hlength]
          exact Nat.mul_le_mul_right _ (by omega)
        refine (ih (hnext.imp id And.left) (by omega) t).imp₂ ?_ ?_
        · intro items'' u hran
          refine ⟨hran.inputs.trans hinputs, hran.settled, ?_, fun more hmore => ?_⟩
          · have := hran.iterations
            rw [hspent.iterations, hiterations] at this
            omega
          · exact hran.affords more ((hleftover more hmore).of_le (by omega))
        · rintro e u ⟨hrounds, hnot⟩
          refine ⟨?_, fun hboth => hnot ⟨?_, ?_⟩⟩
          · rw [hspent.iterations, hiterations] at hrounds
            omega
          · obtain ⟨hcount, hgap, havailable, hfree⟩ := hboth.1
            exact ⟨hlength ▸ hcount, hgap, havailable, hfree⟩
          · exact (hleftover 0 (by simpa using hboth.2)).of_le (by omega)
    · rintro e t ⟨hsame, hnot⟩
      refine ⟨by rw [hsame, hiterations]; omega, fun hboth => hnot ⟨hboth.1, ?_⟩⟩
      have hall := hboth.2
      rw [hcost] at hall
      exact (hstarted _ hall).of_le (Nat.le_add_right _ _)

/-- The targets of a line that is done are not large. -/
lemma Settled.target_natAbs_le (h : Settled sizes items) (hmodest : Modest sizes items)
    (hnonneg : ∀ item ∈ items, item.input.Nonneg) :
    ∀ item ∈ items, item.target.natAbs ≤ 2 ^ 50 := by
  intro item hitem
  have hlow : ∀ other ∈ items, 0 ≤ other.target := fun other hother =>
    (hnonneg other hother).2.1.trans (h.inClamp other hother).1
  have hfirst := hlow item hitem
  have hflexed := h.flexed item hitem
  cases hgrow : sizes.usingGrow with
  | true =>
    -- no item is longer than all of them, and they fit into the line
    have hle : item.target ≤ (items.map target).sum := by
      apply single_le_sum
      · rw [forall_mem_map]
        exact hlow
      · exact mem_map_of_mem hitem
    have hlength : lineLength sizes.gapTotal target items =
        lineLength sizes.gapTotal (fun _ => 0) items + (items.map target).sum := by
      rw [← lineLength_add]
      exact lineLength_congr _ fun _ _ => (Int.zero_add _).symm
    have houter : (lineLength sizes.gapTotal (fun _ => 0) items).natAbs ≤
        sizes.gapTotal.natAbs + items.length * (0 + 2 ^ 31) :=
      lineLength_natAbs_le fun _ _ => le_refl 0
    have hcount := Nat.mul_le_mul_right (0 + 2 ^ 31) hmodest.count
    have hgap := hmodest.gap
    have havailable := hmodest.available
    have hroom := h.room
    rw [hgrow, toward_true, hlength] at hroom
    omega
  | false =>
    rw [hgrow, toward_false, toward_false, h.hypothetical item hitem] at hflexed
    have := hypothetical_natAbs_le (hnonneg item hitem)
    omega

end round

/-! ## What the sizes of a line are -/

variable (gap : Int)

/-- The length of a line of items with these sizes. -/
def outerLength (gap : Int) (line : List (FlexItemInput × Int)) : Int :=
  (line.length - 1 : Nat) * gap + (line.map fun p => p.2 + raw p.1.outerMain).sum

/-- The hypothetical length of a line. -/
def hypotheticalLength (gap : Int) (line : List (FlexItemInput × Int)) : Int :=
  outerLength gap (line.map fun p => (p.1, p.1.hypothetical))

/-- **The flexible lengths of a line.** Every size is inside the clamp of its item; a line that is
too short grows and any other shrinks; if it is not filled, the active factors of the items that
could still flex add up to less than one; and without a main size nothing flexes. -/
structure Resolved (constraints : FlexConstraints) (line : List (FlexItemInput × Int)) : Prop where
  clamped : ∀ p ∈ line, p.1.InClamp p.2
  grown : ∀ main ∈ constraints.mainSize,
    hypotheticalLength (raw constraints.mainGap) line < raw main →
      ∀ p ∈ line, p.1.hypothetical ≤ p.2
  shrunk : ∀ main ∈ constraints.mainSize,
    raw main ≤ hypotheticalLength (raw constraints.mainGap) line →
      ∀ p ∈ line, p.2 ≤ p.1.hypothetical
  filled : ∀ main ∈ constraints.mainSize,
    outerLength (raw constraints.mainGap) line ≠ raw main →
      (line.map fun p => if p.1.Between p.2 then p.1.factor
        (hypotheticalLength (raw constraints.mainGap) line < raw main) else 0).sum <
          FlexFactor.one.millionths.toNat
  indefinite : constraints.mainSize = none → ∀ p ∈ line, p.2 = p.1.hypothetical

/-- The sizes that a line of working items has. -/
def sizesOf (items : List WorkingItem) : List (FlexItemInput × Int) :=
  items.map fun item => (item.input, item.target)

lemma outerLength_sizesOf (items : List WorkingItem) :
    outerLength gap (sizesOf items) = lineLength ((items.length - 1 : Nat) * gap) target items := by
  simp [outerLength, sizesOf, lineLength, Function.comp_def]

lemma hypotheticalLength_sizesOf (h : ∀ item ∈ items, item.hypothetical = item.input.hypothetical) :
    hypotheticalLength gap (sizesOf items) =
      lineLength ((items.length - 1 : Nat) * gap) hypothetical items := by
  rw [lineLength_congr _ h]
  simp [hypotheticalLength, outerLength, sizesOf, lineLength, Function.comp_def]

/-- Lines of the same items have the same hypothetical length. -/
lemma hypotheticalLength_congr {items items' : List WorkingItem}
    (h : items'.map input = items.map input) :
    hypotheticalLength gap (sizesOf items') = hypotheticalLength gap (sizesOf items) := by
  have heq : ∀ l : List WorkingItem, (sizesOf l).map (fun p => (p.1, p.1.hypothetical)) =
      (l.map input).map fun i => (i, i.hypothetical) := by
    intro l
    simp [sizesOf, Function.comp_def]
  unfold hypotheticalLength
  rw [heq, heq, h]

/-- Sizes that go no further than the hypothetical ones and still fill the line are those. -/
lemma eq_hypothetical_of_length {gapTotal : Int}
    (hle : ∀ item ∈ items, item.target ≤ item.hypothetical)
    (hlength : lineLength gapTotal hypothetical items ≤ lineLength gapTotal target items) :
    ∀ item ∈ items, item.target = item.hypothetical := by
  have hsum : (items.map fun item => item.hypothetical - item.target).sum ≤ 0 := by
    have hsplit := lineLength_add gapTotal target (fun item => item.hypothetical - item.target) items
    have hsame : lineLength gapTotal
        (fun item => item.target + (item.hypothetical - item.target)) items =
          lineLength gapTotal hypothetical items := by
      apply lineLength_congr
      intro item _
      omega
    omega
  intro item hitem
  have hnonneg : ∀ x ∈ items.map (fun item => item.hypothetical - item.target), 0 ≤ x := by
    rw [forall_mem_map]
    intro other hother
    have := hle other hother
    omega
  have hone := single_le_sum hnonneg _ (mem_map_of_mem hitem)
  have := hle item hitem
  omega

/-- **A line that is done is resolved.** -/
theorem Settled.resolved {constraints : FlexConstraints} {items' : List WorkingItem}
    (h : Settled sizes items')
    (hgap : sizes.gapTotal = (items'.length - 1 : Nat) * raw constraints.mainGap)
    (havailable : sizes.available = constraints.mainSize.elim
      (hypotheticalLength (raw constraints.mainGap) (sizesOf items')) raw)
    (hgrow : sizes.usingGrow = decide
      (hypotheticalLength (raw constraints.mainGap) (sizesOf items') < sizes.available)) :
    Resolved constraints (sizesOf items') := by
  refine ⟨?_, ?_, ?_, ?_, ?_⟩
  · unfold sizesOf
    rw [forall_mem_map]
    exact h.inClamp
  · intro main hmain hshort
    rw [hmain, Option.elim_some] at havailable
    rw [havailable, decide_eq_true hshort] at hgrow
    unfold sizesOf
    rw [forall_mem_map]
    intro item hitem
    have := h.flexed item hitem
    rw [hgrow, toward_true, toward_true, h.hypothetical item hitem] at this
    exact this
  · intro main hmain hlong
    rw [hmain, Option.elim_some] at havailable
    rw [havailable, decide_eq_false (not_lt.mpr hlong)] at hgrow
    unfold sizesOf
    rw [forall_mem_map]
    intro item hitem
    have := h.flexed item hitem
    rw [hgrow, toward_false, toward_false, h.hypothetical item hitem] at this
    exact Int.neg_le_neg_iff.mp this
  · intro main hmain hnot
    rw [hmain, Option.elim_some] at havailable
    rw [outerLength_sizesOf, ← hgap, ← havailable] at hnot
    have hless := h.filled.resolve_left hnot
    rw [hgrow, havailable] at hless
    have hmap : (sizesOf items').map (fun p => if p.1.Between p.2 then p.1.factor
        (hypotheticalLength (raw constraints.mainGap) (sizesOf items') < raw main) else 0) =
      items'.map fun item => if item.input.Between item.target then item.input.factor
        (hypotheticalLength (raw constraints.mainGap) (sizesOf items') < raw main) else 0 :=
      map_map
    rw [hmap]
    exact hless
  · intro hnone
    rw [hnone, Option.elim_none] at havailable
    rw [havailable, decide_eq_false (lt_irrefl _)] at hgrow
    have hroom := h.room
    rw [hgrow, toward_false, havailable,
      hypotheticalLength_sizesOf _ h.hypothetical, ← hgap] at hroom
    have hle : ∀ item ∈ items', item.target ≤ item.hypothetical := by
      intro item hitem
      have := h.flexed item hitem
      rw [hgrow, toward_false, toward_false] at this
      omega
    have hlength : lineLength sizes.gapTotal WorkingItem.hypothetical items' ≤
        lineLength sizes.gapTotal target items' := by omega
    have heq := eq_hypothetical_of_length hle hlength
    unfold sizesOf
    rw [forall_mem_map]
    intro item hitem
    rw [heq item hitem, h.hypothetical item hitem]

/-! ## The whole of a line -/

/-- What the planner makes of its inputs. -/
structure WorkingItem.Wf (item : WorkingItem) : Prop where
  nonneg : item.input.Nonneg
  hypothetical : item.hypothetical = item.input.hypothetical

lemma freezeInflexible_input (usingGrow : Bool) (item : WorkingItem) :
    (item.reset.freezeInflexible usingGrow).input = item.input := by
  unfold freezeInflexible
  dsimp only
  split_ifs <;> rfl

lemma freezeInflexible_settledSize (usingGrow : Bool) (item : WorkingItem) :
    (item.reset.freezeInflexible usingGrow).settledSize = item.hypothetical := by
  unfold freezeInflexible settledSize reset
  dsimp only
  split_ifs <;> simp_all

/-- Items that cannot flex are at one of their bounds, or have no factor. -/
lemma WorkingItem.Wf.flexes (h : item.Wf) (usingGrow : Bool) :
    Flexes usingGrow (item.reset.freezeInflexible usingGrow) := by
  have hclamp : item.hypothetical = item.input.clamp (raw item.input.baseMain) :=
    h.hypothetical.trans hypothetical_eq
  unfold freezeInflexible reset
  dsimp only
  split_ifs with hcause
  · refine ⟨h.nonneg, h.hypothetical, fun hfalse => absurd hfalse (by simp), fun _ => ?_,
      fun _ => le_rfl, fun _ => ?_⟩
    · dsimp only
      rw [hclamp]
      exact inClamp_clamp h.nonneg
    · rcases hcause with hzero | hmoved
      · exact .inl ⟨hzero, rfl⟩
      · right
        dsimp only
        rw [hclamp] at hmoved ⊢
        exact not_between_of_moved h.nonneg (by omega)
  · refine ⟨h.nonneg, h.hypothetical, fun _ => ⟨fun hzero => hcause (.inl hzero), ?_⟩,
      fun htrue => absurd htrue (by simp), fun htrue => absurd htrue (by simp),
      fun htrue => absurd htrue (by simp)⟩
    cases usingGrow <;> simp only [toward_true, toward_false] <;> simp at hcause <;> omega

lemma gapTotal_computes (itemCount : Nat) (gap : Au) :
    Computes (gapTotal itemCount (raw gap)) ((itemCount - 1 : Nat) * raw gap)
      (itemCount ≤ 2 ^ 14) := by
  have hgap := raw_bounds gap
  refine ((checked_computes _).mono fun hcount => ?_).bind
    ((checked_computes _).mono fun hcount => ?_)
  · omega
  · rw [Int.natAbs_mul]
    calc ((itemCount - 1 : Nat) : Int).natAbs * (raw gap).natAbs
        ≤ 2 ^ 14 * 2 ^ 31 := Nat.mul_le_mul (by omega) (by omega)
      _ < 2 ^ 127 := by norm_num

lemma checkedUsize_computes (value : Nat) :
    Computes (checkedUsize value) value (value < 2 ^ 64) := by
  unfold checkedUsize
  exact .guarded value _

/-- The line at the start of the loop. -/
lemma balanced_start (hitems : ∀ item ∈ items, item.Wf) {gapTotal available initialFree : Int} :
    Balanced
      { usingGrow := decide (lineLength gapTotal hypothetical items < available), available,
        gapTotal, initialFree }
      ((items.map (·.reset)).map
        (·.freezeInflexible (decide (lineLength gapTotal hypothetical items < available)))) := by
  generalize hgrow : decide (lineLength gapTotal hypothetical items < available) = usingGrow
  rw [map_map]
  refine ⟨?_, ?_⟩
  · rw [forall_mem_map]
    exact fun item hitem => (hitems item hitem).flexes usingGrow
  · have hlength : lineLength gapTotal settledSize (items.map (freezeInflexible usingGrow ∘ reset)) =
        lineLength gapTotal hypothetical items := by
      simp [lineLength, Function.comp_def, freezeInflexible_input, freezeInflexible_settledSize]
    dsimp only
    rw [show items.map ((fun item => item.freezeInflexible usingGrow) ∘ fun item => item.reset) =
      items.map (freezeInflexible usingGrow ∘ reset) from rfl, hlength]
    cases usingGrow with
    | true =>
      have := of_decide_eq_true hgrow
      rw [toward_true]
      omega
    | false =>
      have := of_decide_eq_false hgrow
      rw [toward_false]
      omega

/-- What is known of a line when its loop begins. -/
structure Started (constraints : FlexConstraints) (items : List WorkingItem) (sizes : LineSizes)
    (items' : List WorkingItem) : Prop where
  inputs : items'.map input = items.map input
  balanced : Balanced sizes items'
  initial : 0 ≤ toward sizes.usingGrow sizes.initialFree
  gap : sizes.gapTotal = (items.length - 1 : Nat) * raw constraints.mainGap
  available : sizes.available = constraints.mainSize.elim
    (lineLength sizes.gapTotal hypothetical items) raw
  grows : sizes.usingGrow = decide
    (lineLength sizes.gapTotal hypothetical items < sizes.available)
  modest : items.length ≤ 2 ^ 14 → Modest sizes items'

lemma startLine_sat (hitems : ∀ item ∈ items, item.Wf) (work : Work) :
    (startLine constraints items work).Ends
      (fun p t => work.Spent (4 * items.length) t ∧ Started constraints items p.1 p.2)
      (fun _ t => t.iterations = work.iterations ∧
        ¬(items.length ≤ 2 ^ 14 ∧ work.Affords (4 * items.length))) := by
  have h0 := Work.Spent.none work items.length
  have h1 := h0.pass
  have h2 := h1.pass
  have h3 := h2.pass
  have hgap := raw_bounds constraints.mainGap
  refine (gapTotal_computes items.length constraints.mainGap).sat_bind ?_
    (h0.computation_fails 4 fun hcount => hcount)
  generalize hgapTotal : ((items.length - 1 : Nat) : Int) * raw constraints.mainGap = gapTotal
  have hgapLe : items.length ≤ 2 ^ 14 → gapTotal.natAbs ≤ 2 ^ 45 := by
    intro hcount
    rw [← hgapTotal, Int.natAbs_mul]
    calc ((items.length - 1 : Nat) : Int).natAbs * (raw constraints.mainGap).natAbs
        ≤ 2 ^ 14 * 2 ^ 31 := Nat.mul_le_mul (by omega) (by omega)
      _ = 2 ^ 45 := by norm_num
  have hhypothetical : ∀ item ∈ items, item.hypothetical.natAbs ≤ 2 ^ 31 := by
    intro item hitem
    rw [(hitems item hitem).hypothetical]
    exact hypothetical_natAbs_le (hitems item hitem).nonneg
  refine sat_charge_bind ?_ (h0.pass_fails 4 (by omega))
  refine (sumItemSizes_computes hhypothetical).sat_bind ?_ (h1.computation_fails 4 fun hcount => ?_)
  swap
  · have := hgapLe hcount
    omega
  generalize havailable : constraints.mainSize.elim
    (lineLength gapTotal WorkingItem.hypothetical items) raw = available
  have havailableLe : items.length ≤ 2 ^ 14 → available.natAbs ≤ 2 ^ 47 := by
    intro hcount
    rw [← havailable]
    cases constraints.mainSize with
    | some main =>
      have := raw_bounds main
      rw [Option.elim_some]
      omega
    | none =>
      have hlength : (lineLength gapTotal WorkingItem.hypothetical items).natAbs ≤
        gapTotal.natAbs + items.length * (2 ^ 31 + 2 ^ 31) := lineLength_natAbs_le hhypothetical
      rw [Option.elim_none]
      omega
  have hbalanced : ∀ initialFree, Balanced
      { usingGrow := decide (lineLength gapTotal WorkingItem.hypothetical items < available),
        available, gapTotal, initialFree } _ :=
    fun _ => balanced_start hitems
  dsimp only
  refine sat_charge_bind ?_ (h1.pass_fails 4 (by omega))
  rw [length_map]
  refine sat_charge_bind ?_ (h2.pass_fails 4 (by omega))
  generalize husingGrow : decide (lineLength gapTotal WorkingItem.hypothetical items < available) =
    usingGrow at hbalanced ⊢
  generalize hflexed : (items.map (·.reset)).map (·.freezeInflexible usingGrow) = flexed
    at hbalanced ⊢
  have hlength : flexed.length = items.length := by simp [← hflexed]
  have hinputs : flexed.map input = items.map input := by
    rw [← hflexed, map_map, map_map]
    exact map_congr_left fun item _ => freezeInflexible_input usingGrow item
  rw [hlength]
  refine sat_charge_bind ?_ (h3.pass_fails 4 (by omega))
  have hbase : ∀ item ∈ flexed, item.baseSize.natAbs ≤ 2 ^ 31 :=
    fun item hitem => ((hbalanced 0).each item hitem).baseSize_natAbs_le
  have hused : (lineLength gapTotal baseSize flexed).natAbs ≤
      gapTotal.natAbs + flexed.length * (2 ^ 31 + 2 ^ 31) := lineLength_natAbs_le hbase
  refine (remainingFreeSpace_computes hbase).sat_bind ?_ (h3.pass.computation_fails 4 fun hcount => ?_)
  swap
  · have := hgapLe hcount
    constructor <;> omega
  refine ⟨h3.pass, hinputs, hbalanced _, (hbalanced 0).free_toward, hgapTotal.symm,
    havailable.symm, husingGrow.symm, fun hcount => ⟨hlength ▸ hcount, ?_, ?_, ?_⟩⟩
  · exact (hgapLe hcount).trans (by norm_num)
  · exact (havailableLe hcount).trans (by norm_num)
  · have := hgapLe hcount
    dsimp only
    omega

lemma nonneg_of_inputs {items items' : List WorkingItem} (hitems : ∀ item ∈ items, item.Wf)
    (hinputs : items'.map input = items.map input) : ∀ item ∈ items', item.input.Nonneg := by
  intro item hitem
  have hmem : item.input ∈ items.map input := hinputs ▸ mem_map_of_mem hitem
  obtain ⟨before, hbefore, heq⟩ := mem_map.mp hmem
  rw [← heq]
  exact (hitems before hbefore).nonneg

/-- **Resolving a line**: every size is as it should be, the loop goes round no more often than the
line has items, and with enough of a budget a line of at most 2 ^ 14 items is resolved. -/
theorem resolveFlexibleLengths_sat (hitems : ∀ item ∈ items, item.Wf) (line : FlexLine)
    (work : Work) :
    (resolveFlexibleLengths constraints items line work).Ends
      (fun p t => p.1.map input = items.map input ∧ Resolved constraints (sizesOf p.1) ∧
        p.2.start = line.start ∧ p.2.stop = line.stop ∧ t.iterations ≤ items.length)
      (fun _ t => t.iterations ≤ items.length ∧
        ¬(items.length ≤ 2 ^ 14 ∧ work.Affords ((7 * items.length + 6) * items.length))) := by
  generalize hstart : ({ work with iterations := 0 } : Work) = start
  have hstarted : ∀ {amount}, work.Affords amount → start.Affords amount := by
    intro amount h
    rw [← hstart]
    exact ⟨h.budget, h.limit, h.reservations⟩
  have hzero : start.iterations = 0 := by rw [← hstart]
  have hcost : (7 * items.length + 6) * items.length =
      4 * items.length + ((7 * items.length + 1) * items.length + items.length) := by ring
  refine sat_modify_bind.mpr ?_
  rw [hstart]
  refine sat_seq (startLine_sat constraints hitems start) ?_ ?_
  swap
  · rintro e t ⟨hsame, hnot⟩
    refine ⟨by omega, fun hboth => hnot ⟨hboth.1, (hstarted hboth.2).of_le ?_⟩⟩
    rw [hcost]
    exact Nat.le_add_right _ _
  rintro ⟨sizes, items'⟩ t ⟨hspent, hline⟩
  replace hline : Started constraints items sizes items' := hline
  have hinputs : items'.map input = items.map input := hline.inputs
  have hlength : items'.length = items.length := by simpa using congrArg length hinputs
  have hcount : unfrozen items' ≤ items'.length := countP_le_length
  have hleftover : work.Affords ((7 * items.length + 6) * items.length) →
      t.Affords ((7 * unfrozen items' + 1) * items'.length + items.length) := by
    intro hall
    rw [hcost] at hall
    refine (hspent.affords _ (hstarted hall)).of_le (Nat.add_le_add_right ?_ _)
    rw [hlength] at hcount ⊢
    exact Nat.mul_le_mul_right _ (by omega)
  have hrounds : t.iterations = 0 := hspent.iterations.trans hzero
  refine (checkedUsize_computes (items'.length + 1)).sat_bind ?_ fun hnot _ =>
    ⟨by omega, fun hboth => hnot (by omega)⟩
  refine sat_seq (freezeLoop_sat hline.initial (items'.length + 1)
    (.inr hline.balanced) (by omega) t) ?_ ?_
  swap
  · rintro e u ⟨hiterations, hnot⟩
    refine ⟨by omega, fun hboth => hnot ⟨hline.modest hboth.1, (hleftover hboth.2).of_le ?_⟩⟩
    exact Nat.le_add_right _ _
  intro items'' u hran
  have hall : items''.map input = items.map input := hran.inputs.trans hinputs
  have hlength' : items''.length = items.length := by simpa using congrArg length hall
  have hiterations : u.iterations ≤ items.length := by
    have := hran.iterations
    omega
  refine sat_charge_bind ?_ fun hnot _ => ⟨hiterations, fun hboth => hnot ?_⟩
  swap
  · rw [hlength']
    exact hran.affords _ (hleftover hboth.2)
  have hsum : Computes (sumItemSizes sizes.gapTotal target items'')
      (lineLength sizes.gapTotal target items'') (items.length ≤ 2 ^ 14) := by
    refine ⟨?_, fun hsmall => ?_⟩
    · have hexact : ∀ item ∈ items'', item.target.natAbs ≤
          (items''.map fun item => item.target.natAbs).sum := fun item hitem =>
        single_le_sum (fun _ _ => Nat.zero_le _) _ (mem_map_of_mem hitem)
      exact (sumItemSizes_computes hexact).exact
    · obtain ⟨hlen, hgap, havailable, hfree⟩ := hline.modest hsmall
      have hmodest : Modest sizes items'' := ⟨by omega, hgap, havailable, hfree⟩
      have htargets := hran.settled.target_natAbs_le hmodest (nonneg_of_inputs hitems hall)
      refine (sumItemSizes_computes htargets).total ?_
      omega
  refine hsum.sat_bind ?_ fun hnot _ => ⟨hiterations, fun hboth => hnot hboth.1⟩
  have hlengths : hypotheticalLength (raw constraints.mainGap) (sizesOf items'') =
      lineLength sizes.gapTotal hypothetical items := by
    rw [hypotheticalLength_congr _ hall,
      hypotheticalLength_sizesOf _ fun item hitem => (hitems item hitem).hypothetical, hline.gap]
  refine ⟨hall, hran.settled.resolved ?_ ?_ ?_, rfl, rfl, hiterations⟩
  · rw [hlength']
    exact hline.gap
  · rw [hlengths]
    exact hline.available
  · rw [hlengths]
    exact hline.grows

end WildBuzzard.Layout
