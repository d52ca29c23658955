import WildBuzzard.Layout.FlexLengths
import WildBuzzard.Lib.Require

/-!
# The plan of a flex container

The lines of a container are consecutive slices of its items (`Tiles`), so that resolving them in
place resolves every item once, and the placements of the plan carry the sizes of the lines.

`flexible_lengths_resolved` puts this together with `resolveFlexibleLengths_sat`: **the sizes in
every plan are those of resolved lines**, and the loop behind them never reaches its limit.
-/

namespace WildBuzzard.Layout

open Lib WorkingItem List Call Except

/-! ## Lines -/

/-- The lines are consecutive slices from one index to another. -/
inductive Tiles : List FlexLine → Nat → Nat → Prop where
  | nil (stop : Nat) : Tiles [] stop stop
  | cons {line : FlexLine} {rest : List FlexLine} {stop : Nat} :
      line.start ≤ line.stop → Tiles rest line.stop stop → Tiles (line :: rest) line.start stop

namespace Tiles

variable {lines : List FlexLine} {start stop : Nat}

lemma le (h : Tiles lines start stop) : start ≤ stop := by
  induction h with
  | nil stop => exact le_refl stop
  | cons hline _ ih => exact hline.trans ih

lemma concat (h : Tiles lines start stop) {line : FlexLine} (hstart : line.start = stop)
    (hline : line.start ≤ line.stop) : Tiles (lines ++ [line]) start line.stop := by
  induction h with
  | nil stop =>
    subst hstart
    exact .cons hline (.nil _)
  | cons hfirst _ ih => exact .cons hfirst (ih hstart)

lemma bounds (h : Tiles lines start stop) :
    ∀ line ∈ lines, start ≤ line.start ∧ line.start ≤ line.stop ∧ line.stop ≤ stop := by
  induction h with
  | nil stop => exact fun line hline => absurd hline not_mem_nil
  | cons hfirst hrest ih =>
    rw [forall_mem_cons]
    refine ⟨⟨le_rfl, hfirst, hrest.le⟩, fun line hline => ?_⟩
    obtain ⟨hstart, hmiddle, hstop⟩ := ih line hline
    exact ⟨hfirst.trans hstart, hmiddle, hstop⟩

/-- Only the ends of the lines matter. -/
lemma of_bounds {lines' : List FlexLine} (h : Tiles lines start stop)
    (hsame : Forall₂ (fun line line' => line'.start = line.start ∧ line'.stop = line.stop)
      lines lines') : Tiles lines' start stop := by
  induction h generalizing lines' with
  | nil stop =>
    cases hsame
    exact .nil stop
  | cons hfirst _ ih =>
    cases hsame with
    | cons hline hrest =>
      obtain ⟨hstart, hstop⟩ := hline
      rw [← hstart] at hfirst ⊢
      exact .cons (hstop ▸ hfirst) (hstop ▸ ih hrest)

end Tiles

variable {items : List WorkingItem}

/-- The items of a line. -/
def slice (items : List WorkingItem) (line : FlexLine) : List WorkingItem :=
  (items.take line.stop).drop line.start

/-- The slices of consecutive lines make up the items. -/
lemma Tiles.flatten_slices {lines : List FlexLine} {start stop : Nat} (h : Tiles lines start stop)
    (items : List WorkingItem) :
    (lines.map (slice items)).flatten = (items.take stop).drop start := by
  induction h with
  | nil stop => simp
  | @cons line rest stop hline hrest ih =>
    rw [map_cons, flatten_cons, ih, slice, drop_take, drop_take, drop_take]
    have hle := hrest.le
    have hsum : stop - line.start = (line.stop - line.start) + (stop - line.stop) := by omega
    rw [hsum, take_add, drop_drop, Nat.add_sub_cancel' hline]

variable {lines lines' : List FlexLine} {constraints : FlexConstraints} {line : FlexLine}
variable {placements : List FlexPlacement}

lemma pushLine_ok {start stop limit : Nat} (h : pushLine lines start stop limit = .ok lines') :
    lines' = lines ++ [{ start, stop, mainSize := 0, crossSize := 0, crossOffset := 0 }] := by
  unfold pushLine at h
  split_ifs at h
  exact (ok.inj h).symm

lemma buildLinesLoop_tiles {index start : Nat} {occupied : Int} (hlines : Tiles lines 0 start)
    (hindex : start ≤ index)
    (h : buildLinesLoop constraints items index start occupied lines = .ok lines') :
    Tiles lines' 0 (index + items.length) := by
  induction items generalizing index start occupied lines with
  | nil =>
    rw [pushLine_ok h]
    exact hlines.concat rfl hindex
  | cons item rest ih =>
    obtain ⟨outer, -, h⟩ := bind_eq_ok.mp h
    obtain ⟨withGap, -, h⟩ := bind_eq_ok.mp h
    obtain ⟨wrapped, -, h⟩ := bind_eq_ok.mp h
    have hlength : index + (item :: rest).length = index + 1 + rest.length := by
      rw [length_cons]
      omega
    rw [hlength]
    cases wrapped with
    | true =>
      obtain ⟨pushed, hpushed, h⟩ := bind_eq_ok.mp h
      apply ih _ (Nat.le_succ index) h
      rw [pushLine_ok hpushed]
      exact hlines.concat rfl hindex
    | false =>
      obtain ⟨sum, -, h⟩ := bind_eq_ok.mp h
      exact ih hlines (by omega) h

lemma lineItems_sat (h : line.start ≤ line.stop ∧ line.stop ≤ items.length) (work : Work) :
    lineItems items line work = .ok (slice items line) work := by
  unfold lineItems
  rw [assert_eq_pure h]
  rfl

/-! ## Resolving in place -/

lemma resolveLines_sat (constraints : FlexConstraints) {lines : List FlexLine}
    {start : Nat} (hlines : Tiles lines start items.length)
    (hitems : ∀ item ∈ items.drop start, item.Wf) (work : Work) :
    (resolveLines constraints lines items work).Ends
      (fun p _ => Tiles p.1 start items.length ∧ p.2.map input = items.map input ∧
        p.2.take start = items.take start ∧
        ∀ line ∈ p.1, Resolved constraints (sizesOf (slice p.2 line)))
      (fun _ _ => True) := by
  generalize hstop : items.length = stop at hlines
  induction hlines generalizing items work with
  | nil stop => exact ⟨.nil stop, rfl, rfl, fun line hline => absurd hline not_mem_nil⟩
  | @cons line rest stop hline hrest ih =>
    have hle := hrest.le
    unfold resolveLines
    rw [bind_of_ok (lineItems_sat ⟨hline, by omega⟩ work)]
    have hslice : ∀ item ∈ slice items line, item.Wf := by
      intro item hitem
      apply hitems
      unfold slice at hitem
      rw [drop_take] at hitem
      exact mem_of_mem_take hitem
    refine sat_seq (resolveFlexibleLengths_sat constraints hslice line work) ?_ fun _ _ _ =>
      trivial
    rintro ⟨resolved, line'⟩ t ⟨hinputs, hresolved, hstart', hstop', -⟩
    dsimp only at hinputs hresolved hstart' hstop' ⊢
    rw [hstart', hstop']
    -- the slice is put back where it came from
    generalize hplaced : items.take line.start ++ resolved ++ items.drop line.stop = placed
    have hlength : resolved.length = line.stop - line.start := by
      have := congrArg length hinputs
      simp only [slice, length_map, length_drop, length_take] at this
      omega
    have hbefore : (items.take line.start).length = line.start := by
      rw [length_take]
      omega
    have hplacedLength : placed.length = stop := by
      rw [← hplaced]
      simp only [length_append, length_take, length_drop, hlength]
      omega
    have hend : (items.take line.start ++ resolved).length = line.stop := by
      rw [length_append, hbefore, hlength]
      omega
    have htake : placed.take line.stop = items.take line.start ++ resolved := by
      rw [← hplaced, take_left' hend]
    have hdrop : placed.drop line.stop = items.drop line.stop := by
      rw [← hplaced, drop_left' hend]
    have hplacedInputs : placed.map input = items.map input := by
      rw [← hplaced, map_append, map_append, hinputs, slice, ← map_append, ← map_append]
      congr 1
      conv_rhs => rw [← take_append_drop line.stop items]
      congr 1
      conv_rhs => rw [← take_append_drop line.start (items.take line.stop)]
      rw [take_take, Nat.min_eq_left hline]
    have hrestItems : ∀ item ∈ placed.drop line.stop, item.Wf := by
      intro item hitem
      rw [hdrop] at hitem
      exact hitems item (drop_subset_drop_left items hline hitem)
    refine sat_seq (ih hrestItems t hplacedLength) ?_ (fun _ _ h => h)
    rintro ⟨rest', items'⟩ u ⟨htiles, hsame, htake', hothers⟩
    have hstartTake : items'.take line.start = items.take line.start := by
      have := congrArg (take line.start) htake'
      rw [take_take, Nat.min_eq_left hline, htake, take_left' hbefore] at this
      exact this
    refine ⟨?_, hsame.trans hplacedInputs, hstartTake, ?_⟩
    · rw [← hstart'] at hline ⊢
      exact .cons (hstop' ▸ hline) (hstop' ▸ htiles)
    · rw [forall_mem_cons]
      refine ⟨?_, hothers⟩
      have hown : slice items' line' = resolved := by
        rw [slice, hstart', hstop', htake', htake, drop_left' hbefore]
      rw [hown]
      exact hresolved

/-! ## The cross axis keeps the lines -/

/-- The lines are made of the same items. -/
def SameItems (lines lines' : List FlexLine) : Prop :=
  List.Forall₂ (fun line line' => line'.start = line.start ∧ line'.stop = line.stop) lines lines'

lemma SameItems.refl (lines : List FlexLine) : SameItems lines lines :=
  forall₂_same.mpr fun _ _ => ⟨rfl, rfl⟩

lemma SameItems.trans {lines lines' lines'' : List FlexLine} (h : SameItems lines lines')
    (h' : SameItems lines' lines'') : SameItems lines lines'' := by
  induction h generalizing lines'' with
  | nil => exact h'
  | cons hline _ ih =>
    cases h' with
    | cons hline' hrest' =>
      exact .cons ⟨hline'.1.trans hline.1, hline'.2.trans hline.2⟩ (ih hrest')

lemma distributeCross_same {extra count distributed : Int} {index : Nat}
    (h : distributeCross extra count index distributed lines = .ok lines') :
    SameItems lines lines' := by
  induction lines generalizing index distributed lines' with
  | nil =>
    obtain rfl := ok.inj h
    exact .nil
  | cons line rest ih =>
    obtain ⟨next, -, h⟩ := bind_eq_ok.mp h
    obtain ⟨weight, -, h⟩ := bind_eq_ok.mp h
    obtain ⟨product, -, h⟩ := bind_eq_ok.mp h
    obtain ⟨share, -, h⟩ := bind_eq_ok.mp h
    obtain ⟨size, -, h⟩ := bind_eq_ok.mp h
    obtain ⟨others, hothers, h⟩ := bind_eq_ok.mp h
    obtain rfl := ok.inj h
    exact .cons ⟨rfl, rfl⟩ (ih hothers)

lemma offsetLines_same {gap crossOffset : Int}
    (h : offsetLines gap crossOffset lines = .ok lines') : SameItems lines lines' := by
  induction lines generalizing crossOffset lines' with
  | nil =>
    obtain rfl := ok.inj h
    exact .nil
  | cons line rest ih =>
    obtain ⟨sum, -, h⟩ := bind_eq_ok.mp h
    obtain ⟨next, -, h⟩ := bind_eq_ok.mp h
    obtain ⟨others, hothers, h⟩ := bind_eq_ok.mp h
    obtain rfl := ok.inj h
    exact .cons ⟨rfl, rfl⟩ (ih hothers)

section calls

variable {α : Type} {work : Work} {H : Halt → Prop} {Q : α → Work → Prop}

variable {n : Unit → Call Work FlexError α}

/-- A charge may fail. -/
lemma sat_charge {amount : Nat} (hok : (n () (work.spend amount)).Sat Q (fun _ _ => True) H) :
    ((charge amount >>= n) work).Sat Q (fun _ _ => True) H :=
  sat_charge_bind hok fun _ _ => trivial

/-- A checked computation may fail. -/
lemma sat_checked {β : Type} {x : Except FlexError β} {n : β → Call Work FlexError α}
    (hok : ∀ b, x = .ok b → (n b work).Sat Q (fun _ _ => True) H) :
    ((ofExcept x >>= n) work).Sat Q (fun _ _ => True) H :=
  sat_ofExcept_bind.mpr ⟨hok, fun _ _ => trivial⟩

/-- An allocation may fail. -/
lemma sat_reserve {resource : String} {requested : Nat}
    (hok : ∀ t, (n () t).Sat Q (fun _ _ => True) H) :
    ((reserve resource requested >>= n) work).Sat Q (fun _ _ => True) H :=
  sat_reserve_bind (fun t _ => hok t) fun _ _ _ _ => trivial

end calls

variable {items : List WorkingItem}

lemma stretchEvenly_sat (available gap : Int) (lines : List FlexLine) (work : Work) :
    (stretchEvenly available gap lines work).Ends (fun lines' _ => SameItems lines lines')
      (fun _ _ => True) := by
  refine sat_charge (sat_checked fun natural _ => ?_)
  split_ifs
  · refine sat_checked fun extra _ => sat_charge (sat_checked fun count _ => ?_)
    exact sat_ofExcept.mpr ⟨fun lines' h => distributeCross_same h, fun _ _ => trivial⟩
  · exact .refl _

lemma stretchLines_sat (constraints : FlexConstraints) (lines : List FlexLine) (work : Work) :
    (stretchLines constraints lines work).Ends (fun lines' _ => SameItems lines lines')
      (fun _ _ => True) := by
  unfold stretchLines
  cases constraints.crossSize with
  | none => exact .refl _
  | some crossSize =>
    split_ifs
    · refine sat_charge (forall₂_map_right_iff.mpr (forall₂_same.mpr ?_))
      exact fun _ _ => ⟨rfl, rfl⟩
    · exact stretchEvenly_sat _ _ lines work

lemma resolveCrossSizes_sat (constraints : FlexConstraints)
    {lines : List FlexLine} (hlines : Tiles lines 0 items.length) (work : Work) :
    (resolveCrossSizes constraints items lines work).Ends (fun lines' _ => SameItems lines lines')
      (fun _ _ => True) := by
  refine sat_charge (sat_bind.mpr ((sat_runAll_forall₂
    (R := fun line line' => line'.start = line.start ∧ line'.stop = line.stop)
    fun line hline s => ?_).imp fun lines' t hsame => ?_))
  · rw [bind_of_ok (lineItems_sat (hlines.bounds line hline).2 s)]
    exact sat_checked fun size _ => ⟨rfl, rfl⟩
  · refine sat_bind.mpr ((stretchLines_sat constraints lines' t).imp fun stretched u hu => ?_)
    refine sat_charge (sat_ofExcept.mpr ⟨fun placed hplaced => ?_, fun _ _ => trivial⟩)
    exact (SameItems.trans hsame hu).trans (offsetLines_same hplaced)

/-! ## Placements -/

lemma checkedAu_ok {value : Int} {au : Au} (h : checkedAu value = .ok au) : raw au = value := by
  unfold checkedAu checkedSignedAu at h
  split_ifs at h with hnegative hrange
  obtain rfl := ok.inj h
  exact Int32.toInt_ofInt_of_le (by omega) (by omega)

lemma placeItems_ok {distributedGap mainOffset : Int}
    (h : placeItems constraints line distributedGap mainOffset items = .ok placements) :
    placements.map (fun p => (p.sourceIndex, raw p.targetMain)) =
      (sizesOf items).map fun p => (p.1.sourceIndex, p.2) := by
  induction items generalizing mainOffset placements with
  | nil =>
    obtain rfl := ok.inj h
    rfl
  | cons item rest ih =>
    obtain ⟨cross, -, h⟩ := bind_eq_ok.mp h
    obtain ⟨_, -, h⟩ := bind_eq_ok.mp h
    obtain ⟨_, -, h⟩ := bind_eq_ok.mp h
    obtain ⟨targetMain, htarget, h⟩ := bind_eq_ok.mp h
    obtain ⟨targetCross, -, h⟩ := bind_eq_ok.mp h
    obtain ⟨outerMain, -, h⟩ := bind_eq_ok.mp h
    obtain ⟨_, -, h⟩ := bind_eq_ok.mp h
    obtain ⟨outerCross, -, h⟩ := bind_eq_ok.mp h
    obtain ⟨_, -, h⟩ := bind_eq_ok.mp h
    obtain ⟨_, -, h⟩ := bind_eq_ok.mp h
    obtain ⟨next, -, h⟩ := bind_eq_ok.mp h
    obtain ⟨others, hothers, h⟩ := bind_eq_ok.mp h
    obtain rfl := ok.inj h
    rw [map_cons, ih hothers, checkedAu_ok htarget]
    rfl

lemma appendLinePlacements_ok (h : appendLinePlacements constraints items line = .ok placements) :
    placements.map (fun p => (p.sourceIndex, raw p.targetMain)) =
      (sizesOf items).map fun p => (p.1.sourceIndex, p.2) := by
  obtain ⟨gap, -, h⟩ := bind_eq_ok.mp h
  obtain ⟨used, -, h⟩ := bind_eq_ok.mp h
  obtain ⟨free, -, h⟩ := bind_eq_ok.mp h
  obtain ⟨⟨initial, distributedGap⟩, -, h⟩ := bind_eq_ok.mp h
  exact placeItems_ok h

lemma SameItems.map_slice (h : SameItems lines lines') (items : List WorkingItem) :
    lines'.map (slice items) = lines.map (slice items) := by
  induction h with
  | nil => rfl
  | cons hline _ ih => rw [map_cons, map_cons, ih, slice, slice, hline.1, hline.2]

/-- The placements of the lines, one after the other. -/
lemma flatten_placements {lines : List FlexLine} {placements : List (List FlexPlacement)}
    (h : Forall₂ (fun line placed =>
      placed.map (fun p => (p.sourceIndex, raw p.targetMain)) =
        (sizesOf (slice items line)).map fun p => (p.1.sourceIndex, p.2)) lines placements) :
    placements.flatten.map (fun p => (p.sourceIndex, raw p.targetMain)) =
      ((lines.map (slice items)).map sizesOf).flatten.map fun p => (p.1.sourceIndex, p.2) := by
  induction h with
  | nil => rfl
  | cons hline _ ih =>
    rw [flatten_cons, map_append, hline, ih, map_cons, map_cons, flatten_cons, map_append]

/-! ## The plan -/

/-- The sizes in a plan: the items are put into lines, each of them resolved, and placed line by
line. -/
def PlansLines (constraints : FlexConstraints) (inputs : List FlexItemInput) (plan : FlexPlan) :
    Prop :=
  ∃ lines : List (List (FlexItemInput × Int)),
    plan.placements.map (fun p => (p.sourceIndex, raw p.targetMain)) =
      lines.flatten.map (fun p => (p.1.sourceIndex, p.2)) ∧
    (lines.flatten.map Prod.fst).Perm inputs ∧
    ∀ line ∈ lines, Resolved constraints line

lemma planFlexLayout_sat {inputs : List FlexItemInput} (hinputs : ∀ input ∈ inputs, input.Nonneg)
    (constraints : FlexConstraints) (work : Work) :
    (planFlexLayout inputs constraints work).Ends (fun plan _ => PlansLines constraints inputs plan)
      (fun _ _ => True) := by
  have hperm : ((inputs.map WorkingItem.ofInput).insertionSort keyLe).Perm
      (inputs.map WorkingItem.ofInput) := perm_insertionSort _ _
  generalize hitems : (inputs.map WorkingItem.ofInput).insertionSort keyLe = items at hperm
  have hwf : ∀ item ∈ items.drop 0, item.Wf := by
    intro item hitem
    obtain ⟨input, hinput, rfl⟩ := mem_map.mp (hperm.mem_iff.mp hitem)
    exact ⟨hinputs input hinput, rfl⟩
  refine sat_charge (sat_reserve fun _ => sat_checked fun sorting _ => sat_charge
    (sat_charge (sat_reserve fun _ => ?_)))
  rw [hitems]
  refine sat_checked fun lines hlines => sat_charge ?_
  have htiles : Tiles lines 0 items.length := by
    have := buildLinesLoop_tiles (.nil 0) (le_refl 0) hlines
    rwa [Nat.zero_add] at this
  refine sat_bind.mpr ((resolveLines_sat constraints htiles hwf _).imp ?_)
  rintro ⟨lines', items'⟩ t ⟨htiles', hsame, -, hresolved⟩
  have hlength : items'.length = items.length := by simpa using congrArg length hsame
  rw [← hlength] at htiles'
  refine sat_bind.mpr ((resolveCrossSizes_sat constraints htiles' t).imp
    fun lines'' u hsameLines => ?_)
  have htiles'' := htiles'.of_bounds hsameLines
  refine sat_charge (sat_charge (sat_reserve fun v => ?_))
  refine sat_bind.mpr ((sat_runAll_forall₂ (R := fun line placements =>
      placements.map (fun p => (p.sourceIndex, raw p.targetMain)) =
        (sizesOf (slice items' line)).map fun p => (p.1.sourceIndex, p.2))
    fun line hline s => ?_).imp fun placements w hplacements => ?_)
  · rw [bind_of_ok (lineItems_sat (htiles''.bounds line hline).2 s)]
    exact sat_ofExcept.mpr ⟨fun _ h => appendLinePlacements_ok h, fun _ _ => trivial⟩
  refine sat_charge (sat_bind.mpr (Outcome.Sat.imp (Q := fun _ _ => True) ?_
    fun extent x _ => sat_checked fun _ _ => sat_checked fun _ _ => ?_))
  · unfold crossExtent
    cases constraints.crossSize with
    | some crossSize => trivial
    | none => exact sat_charge (sat_ofExcept.mpr ⟨fun _ _ => trivial, fun _ _ => trivial⟩)
  · -- the lines of the plan are the slices of the resolved items
    refine ⟨(lines''.map (slice items')).map sizesOf, flatten_placements hplacements, ?_, ?_⟩
    · have hflatten : ((lines''.map (slice items')).map sizesOf).flatten = sizesOf items' := by
        unfold sizesOf
        rw [← map_flatten, htiles''.flatten_slices, take_length, drop_zero]
      have hfirst : (sizesOf items').map Prod.fst = items'.map input := map_map
      rw [hflatten, hfirst, hsame]
      have hback : (inputs.map WorkingItem.ofInput).map input = inputs := by
        rw [map_map]
        exact map_id inputs
      rw [← hback]
      exact hperm.map input
    · rw [hsameLines.map_slice, map_map, forall_mem_map]
      exact hresolved

/-- **Flexible lengths are resolved.** For every line, whatever its sizes, gaps and factors, the
loop goes round at most as often as the line has items, so that it never meets its limit; the sizes
are `Resolved`; and a budget of `7 * n + 6` passes over a line of `n ≤ 2 ^ 14` items is enough for
it. The sizes that a plan places are those of resolved lines. -/
theorem flexible_lengths_resolved :
    (∀ (constraints : FlexConstraints) (items : List WorkingItem) (line : FlexLine) (work : Work),
      (∀ item ∈ items, item.Wf) → (resolveFlexibleLengths constraints items line work).Sat
        (fun p t => p.1.map input = items.map input ∧ Resolved constraints (sizesOf p.1) ∧
          p.2.start = line.start ∧ p.2.stop = line.stop ∧ t.iterations ≤ items.length)
        (fun _ t => t.iterations ≤ items.length ∧
          ¬(items.length ≤ 2 ^ 14 ∧ work.Affords ((7 * items.length + 6) * items.length)))
        (fun _ => False)) ∧
    ∀ (inputs : List FlexItemInput) (constraints : FlexConstraints) (work : Work),
      (∀ input ∈ inputs, input.Nonneg) → (planFlexLayout inputs constraints work).Sat
        (fun plan _ => PlansLines constraints inputs plan) (fun _ _ => True) (fun _ => False) :=
  ⟨fun constraints _ line work hitems => resolveFlexibleLengths_sat constraints hitems line work,
    fun _ constraints work hinputs => planFlexLayout_sat hinputs constraints work⟩

/-- An item that grows, with a size in app units. -/
def growing (sourceIndex : Nat) (base : Int32) (maxMain : Option Au) : FlexItemInput :=
  { sourceIndex, order := 0, baseMain := ⟨base⟩, minMain := ⟨0⟩, maxMain, grow := .one,
    shrink := .one, outerMain := ⟨0⟩, baseCross := ⟨600⟩, minCross := ⟨0⟩, maxCross := none,
    outerCross := ⟨0⟩, crossAuto := false, align := .start }

/-- A container of a definite width. -/
def ofWidth (width : Int32) : FlexConstraints :=
  { mainSize := some ⟨width⟩, crossSize := none, wrap := .noWrap, mainGap := ⟨0⟩,
    crossGap := ⟨0⟩, justifyContent := .start, maxLines := 16 }

/-- Two items of which one reaches its maximum: the other takes what is left. -/
def clampedItems : List FlexItemInput := [growing 0 600 (some ⟨720⟩), growing 1 600 none]

theorem flexible_lengths_resolved_clamped :
    (planFlexLayout clampedItems (ofWidth 1800) ⟨⟨1000, 0⟩, [], 0⟩).value?.map
        (fun plan => plan.placements.map fun p => (p.sourceIndex, p.targetMain)) =
      some [(0, ⟨720⟩), (1, ⟨1080⟩)] ∧
    ((planFlexLayout clampedItems (ofWidth 1800) ⟨⟨1000, 0⟩, [], 0⟩).Sat
      (fun plan _ => PlansLines (ofWidth 1800) clampedItems plan) (fun _ _ => True)
      (fun _ => False)) ∧
    (resolveFlexibleLengths (ofWidth 1800) (clampedItems.map .ofInput) ⟨0, 2, 0, 0, 0⟩
      ⟨⟨1000, 0⟩, [], 0⟩).Sat (fun p t => Resolved (ofWidth 1800) (sizesOf p.1) ∧ t.iterations ≤ 2)
        (fun _ t => t.iterations ≤ 2) (fun _ => False) := by
  have hnonneg : ∀ input ∈ clampedItems, input.Nonneg := by decide
  obtain ⟨hline, hplan⟩ := flexible_lengths_resolved
  refine ⟨by decide +kernel, hplan _ _ _ hnonneg, ?_⟩
  have hitems : ∀ item ∈ clampedItems.map WorkingItem.ofInput, item.Wf := by
    rw [List.forall_mem_map]
    exact fun input hinput => ⟨hnonneg input hinput, rfl⟩
  refine (hline (ofWidth 1800) _ ⟨0, 2, 0, 0, 0⟩ ⟨⟨1000, 0⟩, [], 0⟩ hitems).imp₂ ?_ ?_
  · exact fun p t h => ⟨h.2.1, h.2.2.2.2⟩
  · exact fun e t h => h.1

end WildBuzzard.Layout
